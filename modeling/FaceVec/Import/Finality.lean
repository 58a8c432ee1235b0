import FaceVec.Import.Consumer

/-!
Finished import jobs. All writes to a job row are unconditional, so a finished
job stays finished as long as its terminal write comes last: no other handler
is past the status check, and no call fails once the job is finished.
-/

namespace FaceVec.Import

open Interleaving Courses

variable {K : Type}

/-- The job a handler may still write to, until its terminal write. -/
def writing : Handler → Option Uuid
  | .resetting payload | .failing payload _ => some payload.jobId
  | .importing work | .persisting work | .announcing work | .completing work =>
      some work.payload.jobId
  | _ => none

def payloadOf : Handler → Option Payload
  | .reading payload | .resetting payload | .acking payload | .failing payload _
  | .announcingFailed payload _ => some payload
  | .importing work | .persisting work | .announcing work | .completing work
  | .announcingCompleted work => some work.payload
  | _ => none

/-- The report accounts for the rows done so far, in order. -/
structure Accounted (work : Work) : Prop where
  split : work.payload.rows = work.handled ++ work.remaining
  numbers : work.report.map (·.studentNumber) = work.handled.map (·.studentNumber)
  positions : work.report.map (·.row) = List.range' 1 work.handled.length

/-- The last row is done when the terminal update is due. -/
def Progress : Handler → Prop
  | .importing work | .persisting work | .announcing work => Accounted work
  | .completing work => Accounted work ∧ work.remaining = []
  | _ => True

theorem start_accounted (payload : Payload) : Accounted (Work.start payload) :=
  ⟨rfl, rfl, rfl⟩

theorem loop_progress (work : Work) (accounted : Accounted work) : Progress (loop work) := by
  unfold loop
  split
  · next done => exact ⟨accounted, done⟩
  · exact accounted

theorem boundary_progress (work : Work) (accounted : Accounted work) : Progress (boundary work) := by
  unfold boundary
  split
  · exact accounted
  · exact loop_progress work accounted

theorem loop_writing (work : Work) : writing (loop work) = some work.payload.jobId := by
  unfold loop
  split <;> rfl

theorem loop_payload (work : Work) : payloadOf (loop work) = some work.payload := by
  unfold loop
  split <;> rfl

theorem boundary_writing (work : Work) : writing (boundary work) = some work.payload.jobId := by
  unfold boundary
  split
  · rfl
  · exact loop_writing work

theorem boundary_payload (work : Work) : payloadOf (boundary work) = some work.payload := by
  unfold boundary
  split
  · rfl
  · exact loop_payload work

section Rows

variable (uuids : UuidSource) (now : Instant) (work : Work) (row : BulkImportRow)
  (rest : List BulkImportRow) (fate : Fate) (db : Database K)

theorem importRow_accounted (accounted : Accounted work) (next : work.remaining = row :: rest) :
    Accounted (importRow uuids now work row rest fate db).1 := by
  have entry : ∀ outcome, (rowResult work.processed row outcome).studentNumber = row.studentNumber ∧
      (rowResult work.processed row outcome).row = work.handled.length + 1 := by
    intro outcome
    cases outcome <;> exact ⟨rfl, rfl⟩
  constructor
  · simp [importRow, accounted.split, next]
  · simp [importRow, accounted.numbers, entry]
  · simp only [importRow, List.map_append, List.map_cons, List.map_nil, accounted.positions, entry,
      List.length_append, List.length_cons, List.length_nil]
    rw [List.range'_1_concat, Nat.add_comm 1]

/-- A row transaction leaves the jobs and their requests alone. -/
theorem importRow_jobs :
    (importRow uuids now work row rest fate db).2.importJobs = db.importJobs ∧
      importEvents (importRow uuids now work row rest fate db).2 = importEvents db := by
  simp only [importRow]
  cases committed : commits (resolveAndLinkStudent uuids now work.payload.courseId (importInput row))
      fate.chances fate.ending db with
  | false =>
      rw [transaction_aborted _ _ _ _ committed]
      exact ⟨rfl, rfl⟩
  | true =>
      obtain ⟨result, middle, student, isNew, resolved, linked⟩ := transaction_committed _ _ _ _ _
        (resolveAndLinkStudent_spec uuids now work.payload.courseId (importInput row) db) committed
      generalize (transaction (resolveAndLinkStudent uuids now work.payload.courseId
        (importInput row)) fate.chances fate.ending db).2 = after at *
      have frame := resolved.frame
      cases linked with
      | already => exact ⟨by rw [frame], by rw [frame]; rfl⟩
      | new enrollment message linked after absent ofCourse ofStudent course kept rows announced =>
          constructor
          · rw [announced.frame, kept, frame]
          · have silent : importEvent message = none := by simp [importEvent, announced.payload]
            have outbox : linked.outboxMessages = db.outboxMessages := by rw [kept, frame]
            simp [importEvents, announced.appended, outbox, silent]

end Rows

theorem updateImportJob_spec (id : Uuid) (data : JobData) (db : Database K) :
    Triple (· = db) (updateImportJob id data) fun _ after =>
      after = { db with importJobs := after.importJobs } ∧
        after.importJobs.rows = db.importJobs.rows.map (writeJob id data) := by
  apply triple_statement
  rintro draw _ job after rfl ran
  split at ran
  · cases ran
  · obtain ⟨_, rfl⟩ := Prod.mk.inj (Except.ok.inj ran)
    exact ⟨rfl, rfl⟩

/-- Everything one step of a handler can do to the jobs. -/
inductive Effect (store : Store K) (handler : Handler) (input : Input) :
    Store K → Handler → Prop where
  | quiet (after : Store K) (next : Handler) : after.db.importJobs = store.db.importJobs →
      importEvents after.db = importEvents store.db →
      writing next = none ∨ writing next = writing handler →
      (Progress handler → Progress next) →
      payloadOf next = none ∨ payloadOf next = payloadOf handler →
      Effect store handler input after next
  | delivered (payload : Payload) :
      (payload.jobId, payload.courseId, payload.rows) ∈ importEvents store.db →
      Effect store handler input store (.reading payload)
  | admitted (payload : Payload) (job : ImportJob) : handler = .reading payload →
      findImportJob store.db payload.jobId = some job → finished job = false →
      Effect store handler input store (.resetting payload)
  | misread (payload : Payload) (fate : Fate) (failure : Failure) :
      handler = .reading payload ∨ handler = .acking payload → input = .proceed fate →
      faultOf fate.chances = some failure →
      Effect store handler input store (fail payload failure)
  | unannounced (work : Work) (fate : Fate) (failure : Failure) :
      handler = .announcingCompleted work → input = .proceed fate →
      faultOf fate.chances = some failure →
      Effect store handler input store (fail work.payload failure)
  | wrote (id : Uuid) (data : JobData) (after : Store K) (next : Handler) :
      writing handler = some id → writing next = some id →
      data.status = some .PROCESSING ∨ data.status = none →
      after.db.importJobs.rows = store.db.importJobs.rows.map (writeJob id data) →
      importEvents after.db = importEvents store.db → (Progress handler → Progress next) →
      payloadOf next = payloadOf handler → Effect store handler input after next
  | completed (work : Work) (fate : Fate) (after : Store K) (next : Handler) :
      handler = .completing work → input = .proceed fate →
      commits (updateImportJob work.payload.jobId (completedData work)) fate.chances fate.ending
        store.db = true →
      after.db.importJobs.rows =
        store.db.importJobs.rows.map (writeJob work.payload.jobId (completedData work)) →
      importEvents after.db = importEvents store.db → payloadOf next = some work.payload →
      next = .announcingCompleted work ∨
        (∃ failure, next = fail work.payload failure ∧ fate.ending = .unheard failure) →
      Effect store handler input after next
  | marked (payload : Payload) (error : String) (fate : Fate) (after : Store K) (next : Handler) :
      handler = .failing payload error → input = .proceed fate →
      commits (updateImportJob payload.jobId (failedData error)) fate.chances fate.ending
        store.db = true →
      after.db.importJobs.rows =
        store.db.importJobs.rows.map (writeJob payload.jobId (failedData error)) →
      importEvents after.db = importEvents store.db → writing next = none → Progress next →
      payloadOf next = none ∨ payloadOf next = some payload → Effect store handler input after next

/-- One update of the job row commits, or leaves everything as it was. -/
theorem update_cases (id : Uuid) (data : JobData) (fate : Fate) (store : Store K)
    (continues : ImportJob → Handler) (fails : Failure → Handler) :
    ((update id data fate store continues fails).1 = store ∧
        ∃ failure, (update id data fate store continues fails).2 = fails failure) ∨
      (commits (updateImportJob id data) fate.chances fate.ending store.db = true ∧
        (update id data fate store continues fails).1.db.importJobs.rows =
          store.db.importJobs.rows.map (writeJob id data) ∧
        importEvents (update id data fate store continues fails).1.db = importEvents store.db ∧
        ((∃ job, (update id data fate store continues fails).2 = continues job) ∨
          ∃ failure, (update id data fate store continues fails).2 = fails failure ∧
            fate.ending = .unheard failure)) := by
  simp only [update]
  cases committed : commits (updateImportJob id data) fate.chances fate.ending store.db with
  | false =>
      left
      obtain ⟨failure, failed⟩ := transaction_refused _ _ _ _ committed
      exact ⟨by rw [transaction_aborted _ _ _ _ committed], failure, by rw [failed]⟩
  | true =>
      right
      obtain ⟨job, frame, rows⟩ := transaction_committed _ _ _ _ _
        (updateImportJob_spec id data store.db) committed
      refine ⟨rfl, rows, by rw [frame]; rfl, ?_⟩
      cases result : (transaction (updateImportJob id data) fate.chances fate.ending store.db).1 with
      | error failure =>
          exact Or.inr ⟨failure, rfl,
            transaction_unheard _ _ _ _ failure committed result⟩
      | ok job => exact Or.inl ⟨job, rfl⟩

theorem broadcast_cases (event : ImportProgressEvent) (fate : Fate) (store : Store K)
    (next : Handler) (fails : Failure → Handler) :
    (broadcast event fate store next fails).1.db = store.db ∧
      ((broadcast event fate store next fails).2 = next ∨
        ∃ failure, faultOf fate.chances = some failure ∧
          (broadcast event fate store next fails).1 = store ∧
          (broadcast event fate store next fails).2 = fails failure) := by
  unfold broadcast
  cases faultOf fate.chances with
  | none => exact ⟨rfl, Or.inl rfl⟩
  | some failure => exact ⟨rfl, Or.inr ⟨failure, rfl, rfl, rfl⟩⟩

section Effects

variable (uuids : UuidSource) (store : Store K)

/-- A step that leaves the jobs alone and the handler where it may write as before. -/
theorem quiet_same (handler next : Handler) (input : Input)
    (writes : writing next = none ∨ writing next = writing handler)
    (progress : Progress handler → Progress next)
    (payload : payloadOf next = none ∨ payloadOf next = payloadOf handler) :
    Effect store handler input store next :=
  .quiet store next rfl rfl writes progress payload

theorem read_effect (payload : Payload) (fate : Fate) :
    Effect store (.reading payload) (.proceed fate) (handle uuids (.reading payload) fate store).1
      (handle uuids (.reading payload) fate store).2 := by
  simp only [handle]
  split
  · next failure fault => exact .misread payload fate failure (Or.inl rfl) rfl fault
  · split
    · exact quiet_same store _ _ _ (Or.inl rfl) (fun _ => trivial) (Or.inr rfl)
    · next job found =>
        split
        · exact quiet_same store _ _ _ (Or.inl rfl) (fun _ => trivial) (Or.inr rfl)
        · next unfinished => exact .admitted payload job rfl found (by simpa using unfinished)

/-- An update that does not end the job: the reset, or a chunk. -/
theorem progress_effect (handler next : Handler) (fate : Fate) (payload : Payload)
    (data : JobData) (status : data.status = some .PROCESSING ∨ data.status = none)
    (waits : writing handler = some payload.jobId) (owner : payloadOf handler = some payload)
    (writes : writing next = some payload.jobId) (payloadNext : payloadOf next = some payload)
    (progress : Progress handler → Progress next) :
    Effect store handler (.proceed fate)
      (update payload.jobId data fate store (fun _ => next) (fail payload)).1
      (update payload.jobId data fate store (fun _ => next) (fail payload)).2 := by
  rcases update_cases payload.jobId data fate store (fun _ => next) (fail payload) with
    ⟨same, failure, failed⟩ | ⟨_, rows, events, ⟨_, continued⟩ | ⟨failure, failed, _⟩⟩
  · rw [same, failed]
    exact quiet_same store _ _ _ (Or.inr waits.symm) (fun _ => trivial) (Or.inr owner.symm)
  · rw [continued]
    exact .wrote payload.jobId data _ _ waits writes status rows events progress
      (payloadNext.trans owner.symm)
  · rw [failed]
    exact .wrote payload.jobId data _ _ waits rfl status rows events (fun _ => trivial) owner.symm

theorem complete_effect (work : Work) (fate : Fate) :
    Effect store (.completing work) (.proceed fate) (handle uuids (.completing work) fate store).1
      (handle uuids (.completing work) fate store).2 := by
  simp only [handle]
  rcases update_cases work.payload.jobId (completedData work) fate store
      (fun _ => .announcingCompleted work) (fail work.payload) with
    ⟨same, failure, failed⟩ | ⟨committed, rows, events, ⟨_, continued⟩ | ⟨failure, failed, ending⟩⟩
  · rw [same, failed]
    exact quiet_same store _ _ _ (Or.inr rfl) (fun _ => trivial) (Or.inr rfl)
  · rw [continued]
    exact .completed work fate _ _ rfl rfl committed rows events rfl (Or.inl rfl)
  · rw [failed]
    exact .completed work fate _ _ rfl rfl committed rows events rfl (Or.inr ⟨failure, rfl, ending⟩)

theorem markFailed_effect (payload : Payload) (error : String) (fate : Fate) :
    Effect store (.failing payload error) (.proceed fate)
      (handle uuids (.failing payload error) fate store).1
      (handle uuids (.failing payload error) fate store).2 := by
  simp only [handle]
  rcases update_cases payload.jobId (failedData error) fate store
      (fun job => .announcingFailed payload job.processedRows) (fun _ => .acked) with
    ⟨same, failure, failed⟩ | ⟨committed, rows, events, ⟨_, continued⟩ | ⟨failure, failed, _⟩⟩
  · rw [same, failed]
    exact quiet_same store _ _ _ (Or.inl rfl) (fun _ => trivial) (Or.inl rfl)
  · rw [continued]
    exact .marked payload error fate _ _ rfl rfl committed rows events rfl trivial (Or.inr rfl)
  · rw [failed]
    exact .marked payload error fate _ _ rfl rfl committed rows events rfl trivial (Or.inl rfl)

theorem broadcast_effect (handler next : Handler) (input : Input) (event : ImportProgressEvent)
    (fate : Fate) (fails : Failure → Handler)
    (continues : (writing next = none ∨ writing next = writing handler) ∧
      (Progress handler → Progress next) ∧
      (payloadOf next = none ∨ payloadOf next = payloadOf handler))
    (broken : ∀ failure, faultOf fate.chances = some failure →
      Effect store handler input store (fails failure)) :
    Effect store handler input (broadcast event fate store next fails).1
      (broadcast event fate store next fails).2 := by
  obtain ⟨same, sent | ⟨failure, fault, kept, failed⟩⟩ :=
    broadcast_cases event fate store next fails
  · rw [sent]
    exact .quiet _ _ (by rw [same]) (by rw [same]) continues.1 continues.2.1 continues.2.2
  · rw [kept, failed]
    exact broken failure fault

theorem importing_effect (work : Work) (row : BulkImportRow) (rest : List BulkImportRow)
    (fate : Fate) (next : work.remaining = row :: rest) :
    Effect store (.importing work) (.proceed fate)
      { store with db := (importRow uuids store.clock work row rest fate store.db).2 }
      (boundary (importRow uuids store.clock work row rest fate store.db).1) := by
  obtain ⟨jobs, events⟩ := importRow_jobs uuids store.clock work row rest fate store.db
  have accounted := fun before =>
    importRow_accounted uuids store.clock work row rest fate store.db before next
  have owner : (importRow uuids store.clock work row rest fate store.db).1.payload =
      work.payload := rfl
  generalize importRow uuids store.clock work row rest fate store.db = done at *
  apply Effect.quiet
  · exact jobs
  · exact events
  · right
    rw [boundary_writing, owner]
    rfl
  · exact fun before => boundary_progress done.1 (accounted before)
  · right
    rw [boundary_payload, owner]
    rfl

theorem handle_effect (handler : Handler) (fate : Fate) :
    Effect store handler (.proceed fate) (handle uuids handler fate store).1
      (handle uuids handler fate store).2 := by
  unfold handle
  split
  · next payload => exact read_effect uuids store payload fate
  · next payload =>
      exact progress_effect store _ _ fate payload resetData (Or.inl rfl) rfl rfl
        (loop_writing (Work.start payload)) (loop_payload (Work.start payload))
        fun _ => loop_progress _ (start_accounted payload)
  · next payload handled row rest counts report =>
      exact importing_effect uuids store ⟨payload, handled, row :: rest, counts, report⟩ row rest fate
        rfl
  · next work =>
      exact progress_effect store _ _ fate work.payload (chunkData work) (Or.inr rfl) rfl rfl rfl rfl
        id
  · next work =>
      refine broadcast_effect store _ _ _ _ fate _
        ⟨Or.inr (loop_writing work), loop_progress work, Or.inr (loop_payload work)⟩ ?_
      exact fun failure _ =>
        quiet_same store _ _ _ (Or.inr rfl) (fun _ => trivial) (Or.inr rfl)
  · next work => exact complete_effect uuids store work fate
  · next work =>
      refine broadcast_effect store _ _ _ _ fate _
        ⟨Or.inl rfl, fun _ => trivial, Or.inr rfl⟩ ?_
      exact fun failure fault => .unannounced work fate failure rfl rfl fault
  · next payload =>
      split
      · next failure fault => exact .misread payload fate failure (Or.inr rfl) rfl fault
      · exact quiet_same store _ _ _ (Or.inl rfl) (fun _ => trivial) (Or.inl rfl)
  · next payload error => exact markFailed_effect uuids store payload error fate
  · next payload processedRows =>
      refine broadcast_effect store _ _ _ _ fate _
        ⟨Or.inl rfl, fun _ => trivial, Or.inl rfl⟩ ?_
      exact fun failure _ =>
        quiet_same store _ _ _ (Or.inl rfl) (fun _ => trivial) (Or.inl rfl)
  · exact quiet_same store _ _ _ (Or.inr rfl) id (Or.inr rfl)

theorem exec_effect (input : Input) (handler : Handler) :
    Effect store handler input (exec uuids input store handler).1
      (exec uuids input store handler).2 := by
  unfold exec
  split
  · split
    · exact quiet_same store _ _ _ (Or.inr rfl) id (Or.inr rfl)
    · next request found =>
        exact .delivered ⟨request.1, request.2.1, request.2.2⟩ (List.mem_of_getElem? found)
  · exact quiet_same store _ _ _ (Or.inr rfl) id (Or.inr rfl)
  · exact quiet_same store _ _ _ (Or.inl rfl) (fun _ => trivial) (Or.inl rfl)
  · exact handle_effect uuids store _ _
  · exact quiet_same store _ _ _ (Or.inr rfl) id (Or.inr rfl)

end Effects

theorem writeJob_other (id : Uuid) (data : JobData) (job : ImportJob) (other : job.id ≠ id) :
    writeJob id data job = job := if_neg other

theorem writeJob_target (id : Uuid) (data : JobData) (job : ImportJob) (same : job.id = id) :
    writeJob id data job = data.write job := if_pos same

/-- An update that sets no terminal status leaves an unfinished job unfinished. -/
theorem write_unfinished (data : JobData) (job : ImportJob)
    (status : data.status = some .PROCESSING ∨ data.status = none)
    (unfinished : finished job = false) : finished (data.write job) = false := by
  rcases status with set | unset
  · simp [finished, JobData.write, set]
  · simpa [finished, JobData.write, unset] using unfinished

/-- A step changes the jobs at most by one update of the job it may write to. -/
theorem effect_jobs (store after : Store K) (handler next : Handler) (input : Input)
    (effect : Effect store handler input after next) :
    importEvents after.db = importEvents store.db ∧
      (after.db.importJobs.rows = store.db.importJobs.rows ∨
        ∃ id data, writing handler = some id ∧
          after.db.importJobs.rows = store.db.importJobs.rows.map (writeJob id data)) := by
  cases effect with
  | quiet after next jobs events => exact ⟨events, Or.inl (by rw [jobs])⟩
  | delivered => exact ⟨rfl, Or.inl rfl⟩
  | admitted => exact ⟨rfl, Or.inl rfl⟩
  | misread => exact ⟨rfl, Or.inl rfl⟩
  | unannounced => exact ⟨rfl, Or.inl rfl⟩
  | wrote id data after next waits writes status rows events =>
      exact ⟨events, Or.inr ⟨id, data, waits, rows⟩⟩
  | completed work fate after next waits asked committed rows events =>
      exact ⟨events, Or.inr ⟨_, _, by rw [waits]; rfl, rows⟩⟩
  | marked payload error fate after next waits asked committed rows events =>
      exact ⟨events, Or.inr ⟨_, _, by rw [waits]; rfl, rows⟩⟩

/-- No other handler may still write to the job. -/
def Alone (system : State K) (index : Nat) (id : Uuid) : Prop :=
  ∀ other, other ≠ index → writing (system.procs other) ≠ some id

/-- The terminal write of a job comes last: it commits while no other handler
of the job is past its status check, and from then on no call fails. -/
def TerminalWriteLast (system : State K) : Event Input Change → Prop
  | .act index (.proceed fate) =>
      match system.procs index with
      | .reading payload | .acking payload =>
          (∃ job ∈ system.store.db.importJobs, job.id = payload.jobId ∧ finished job = true) →
            faultOf fate.chances = none
      | .announcingCompleted _ => faultOf fate.chances = none
      | .completing work =>
          commits (updateImportJob work.payload.jobId (completedData work)) fate.chances
              fate.ending system.store.db = true →
            Alone system index work.payload.jobId ∧ ∀ failure, fate.ending ≠ .unheard failure
      | .failing payload error =>
          commits (updateImportJob payload.jobId (failedData error)) fate.chances fate.ending
              system.store.db = true →
            Alone system index payload.jobId
      | _ => True
  | _ => True

/-- A completed job counts and reports every row that was submitted for it. -/
def Complete (db : Database K) (job : ImportJob) : Prop :=
  job.processedRows = job.totalRows ∧ ∃ courseId rows results,
    (job.id, courseId, rows) ∈ importEvents db ∧ rows.length = job.totalRows ∧
      job.report = some (.rows results) ∧
      results.map (·.studentNumber) = rows.map (·.studentNumber) ∧
      results.map (·.row) = List.range' 1 rows.length

def Sized (db : Database K) : Prop :=
  ∀ request ∈ importEvents db, ∀ job ∈ db.importJobs, job.id = request.1 →
    job.totalRows = request.2.2.length

def Known (db : Database K) : Prop :=
  ∀ request ∈ importEvents db, ∃ job ∈ db.importJobs, job.id = request.1

structure Orderly (system : State K) : Prop where
  sized : Sized system.store.db
  known : Known system.store.db
  requested : ∀ index payload, payloadOf (system.procs index) = some payload →
    (payload.jobId, payload.courseId, payload.rows) ∈ importEvents system.store.db
  progress : ∀ index, Progress (system.procs index)
  unfinished : ∀ index id, writing (system.procs index) = some id →
    ∀ job ∈ system.store.db.importJobs, job.id = id → finished job = false
  complete : ∀ job ∈ system.store.db.importJobs, job.status = .COMPLETED →
    Complete system.store.db job

section Acting

variable (system : State K) (after : Store K) (next : Handler) (index : Nat) (input : Input)
  (valid : Orderly system)
  (careful : TerminalWriteLast system (.act index input))
  (effect : Effect system.store (system.procs index) input after next)

include effect in
theorem acting_sized (sized : Sized system.store.db) : Sized after.db := by
  obtain ⟨events, rows⟩ := effect_jobs _ _ _ _ _ effect
  intro request member job inJobs same
  rw [events] at member
  rcases rows with kept | ⟨id, data, _, written⟩
  · exact sized request member job (by rw [Table.mem_rows, ← kept]; exact inJobs) same
  · rw [Table.mem_rows, written] at inJobs
    obtain ⟨old, stored, rfl⟩ := List.mem_map.mp inJobs
    rw [writeJob_id] at same
    have total : (writeJob id data old).totalRows = old.totalRows := by
      unfold writeJob
      split <;> rfl
    rw [total]
    exact sized request member old stored same

include effect in
theorem acting_known (known : Known system.store.db) : Known after.db := by
  obtain ⟨events, rows⟩ := effect_jobs _ _ _ _ _ effect
  intro request member
  rw [events] at member
  obtain ⟨job, stored, same⟩ := known request member
  rcases rows with kept | ⟨id, data, _, written⟩
  · exact ⟨job, by rw [Table.mem_rows, kept]; exact stored, same⟩
  · refine ⟨writeJob id data job, ?_, (writeJob_id id data job).trans same⟩
    rw [Table.mem_rows, written]
    exact List.mem_map_of_mem stored

include effect valid in
theorem acting_requested (payload : Payload) (owner : payloadOf next = some payload) :
    (payload.jobId, payload.courseId, payload.rows) ∈ importEvents after.db := by
  have before : ∀ payload, payloadOf (system.procs index) = some payload →
      (payload.jobId, payload.courseId, payload.rows) ∈ importEvents system.store.db :=
    fun payload => valid.requested index payload
  rw [(effect_jobs _ _ _ _ _ effect).1]
  cases effect with
  | quiet after next jobs events writes progress kept =>
      rcases kept with none_ | same
      · rw [none_] at owner
        contradiction
      · exact before payload (same ▸ owner)
  | delivered request member =>
      obtain rfl := Option.some.inj owner
      exact member
  | admitted request job waits =>
      obtain rfl := Option.some.inj owner
      exact before _ (by rw [waits]; rfl)
  | misread request fate failure waits =>
      obtain rfl := Option.some.inj owner
      rcases waits with waits | waits
      all_goals exact before _ (by rw [waits]; rfl)
  | unannounced work fate failure waits =>
      obtain rfl := Option.some.inj owner
      exact before _ (by rw [waits]; rfl)
  | wrote id data after next waits writes status rows events progress same =>
      exact before payload (same ▸ owner)
  | completed work fate after next waits asked committed rows events same =>
      rw [same] at owner
      obtain rfl := Option.some.inj owner
      exact before _ (by rw [waits]; rfl)
  | marked request error fate after next waits asked committed rows events writes progress same =>
      rcases same with none_ | kept
      · rw [none_] at owner
        contradiction
      · rw [kept] at owner
        obtain rfl := Option.some.inj owner
        exact before _ (by rw [waits]; rfl)

include effect valid in
theorem acting_progress : Progress next := by
  have before := valid.progress index
  cases effect with
  | quiet after next jobs events writes progress => exact progress before
  | wrote id data after next waits writes status rows events progress => exact progress before
  | completed work fate after next waits asked committed rows events same leads =>
      rcases leads with rfl | ⟨failure, rfl, _⟩ <;> trivial
  | marked request error fate after next waits asked committed rows events writes progress =>
      exact progress
  | _ => trivial

theorem effect_final (system : State K) (after : Store K) (next : Handler) (index : Nat)
    (input : Input) (valid : Orderly system)
    (effect : Effect system.store (system.procs index) input after next) (job : ImportJob)
    (member : job ∈ system.store.db.importJobs) (done : finished job = true) :
    job ∈ after.db.importJobs := by
  obtain ⟨_, kept | ⟨id, data, writes, written⟩⟩ := effect_jobs _ _ _ _ _ effect
  · rw [Table.mem_rows, kept]
    exact member
  · rw [Table.mem_rows, written]
    refine List.mem_map.mpr ⟨job, member, writeJob_other id data job ?_⟩
    intro same
    have unfinished := valid.unfinished index id writes job member same
    rw [done] at unfinished
    contradiction

/-- An update that sets no terminal status finishes no job. -/
theorem written_unfinished (before after : Table ImportJob.clash) (id : Uuid) (data : JobData)
    (status : data.status = some .PROCESSING ∨ data.status = none)
    (written : after.rows = before.rows.map (writeJob id data)) (owner : Uuid)
    (unfinished : ∀ job ∈ before, job.id = owner → finished job = false) :
    ∀ job ∈ after, job.id = owner → finished job = false := by
  intro job member same
  rw [Table.mem_rows, written] at member
  obtain ⟨old, stored, rfl⟩ := List.mem_map.mp member
  rw [writeJob_id] at same
  by_cases target : old.id = id
  · rw [writeJob_target id data old target]
    exact write_unfinished data old status (unfinished old stored same)
  · rw [writeJob_other id data old target]
    exact unfinished old stored same

theorem written_elsewhere (before after : Table ImportJob.clash) (id : Uuid) (data : JobData)
    (written : after.rows = before.rows.map (writeJob id data)) (owner : Uuid) (other : owner ≠ id)
    (unfinished : ∀ job ∈ before, job.id = owner → finished job = false) :
    ∀ job ∈ after, job.id = owner → finished job = false := by
  intro job member same
  rw [Table.mem_rows, written] at member
  obtain ⟨old, stored, rfl⟩ := List.mem_map.mp member
  rw [writeJob_id] at same
  rw [writeJob_other id data old (same ▸ other)]
  exact unfinished old stored same

theorem kept_unfinished (before after : Table ImportJob.clash) (kept : after.rows = before.rows)
    (owner : Uuid) (unfinished : ∀ job ∈ before, job.id = owner → finished job = false) :
    ∀ job ∈ after, job.id = owner → finished job = false := by
  intro job member same
  rw [Table.mem_rows, kept] at member
  exact unfinished job member same

include effect valid careful in
theorem acting_unfinished (owner : Uuid) (writes : writing next = some owner) :
    ∀ job ∈ after.db.importJobs, job.id = owner → finished job = false := by
  cases effect with
  | quiet after next jobs events same =>
      rcases same with none_ | same
      · rw [none_] at writes
        contradiction
      · exact kept_unfinished _ _ (by rw [jobs]) owner (valid.unfinished index owner (same ▸ writes))
  | delivered => contradiction
  | admitted payload found waits stored unfinished =>
      obtain rfl := Option.some.inj writes
      -- The handler has just read the job as unfinished.
      have foundIn : found ∈ system.store.db.importJobs := List.mem_of_find?_eq_some stored
      have foundId : found.id = payload.jobId := by simpa using List.find?_some stored
      intro job member same
      rw [job_eq_of_id _ job found member foundIn (same.trans foundId.symm)]
      exact unfinished
  | misread payload fate failure waits asked fault =>
      obtain rfl := Option.some.inj writes
      subst asked
      intro job member same
      by_contra done
      have finishedJob : ∃ job ∈ system.store.db.importJobs, job.id = payload.jobId ∧
          finished job = true := ⟨job, member, same, by simpa using done⟩
      rcases waits with waits | waits
      all_goals
        simp only [TerminalWriteLast, waits] at careful
        have answered := careful finishedJob
        rw [fault] at answered
        contradiction
  | unannounced work fate failure waits asked fault =>
      subst asked
      simp only [TerminalWriteLast, waits, fault] at careful
      contradiction
  | wrote id data after next waits leads status rows =>
      obtain rfl := Option.some.inj (leads.symm.trans writes)
      -- The reset and the chunk updates set no terminal status.
      exact written_unfinished _ _ id data status rows id (valid.unfinished index id waits)
  | completed work fate after next waits asked committed rows events same leads =>
      subst asked
      simp only [TerminalWriteLast, waits] at careful
      -- An unanswered commit would send the handler to `markFailed`.
      rcases leads with rfl | ⟨failure, rfl, unheard⟩
      · contradiction
      · have heard := (careful committed).2 failure
        contradiction
  | marked payload error fate after next waits asked committed rows events silent =>
      rw [silent] at writes
      contradiction

include effect valid careful in
theorem others_unfinished (other : Nat) (elsewhere : other ≠ index) (owner : Uuid)
    (writes : writing (system.procs other) = some owner) :
    ∀ job ∈ after.db.importJobs, job.id = owner → finished job = false := by
  have before := valid.unfinished other owner writes
  cases effect with
  | quiet after next jobs => exact kept_unfinished _ _ (by rw [jobs]) owner before
  | wrote id data after next waits leads status rows =>
      exact written_unfinished _ _ id data status rows owner before
  | completed work fate after next waits asked committed rows =>
      subst asked
      simp only [TerminalWriteLast, waits] at careful
      refine written_elsewhere _ _ _ _ rows owner ?_ before
      rintro rfl
      exact (careful committed).1 other elsewhere writes
  | marked payload error fate after next waits asked committed rows =>
      subst asked
      simp only [TerminalWriteLast, waits] at careful
      refine written_elsewhere _ _ _ _ rows owner ?_ before
      rintro rfl
      exact careful committed other elsewhere writes
  | _ => exact before

theorem complete_mono (db after : Database K) (job : ImportJob)
    (events : ∀ request ∈ importEvents db, request ∈ importEvents after)
    (complete : Complete db job) : Complete after job := by
  obtain ⟨processed, courseId, rows, results, member, reported⟩ := complete
  exact ⟨processed, courseId, rows, results, events _ member, reported⟩

include effect valid in
theorem acting_complete (job : ImportJob) (member : job ∈ after.db.importJobs)
    (completed : job.status = .COMPLETED) : Complete after.db job := by
  obtain ⟨events, _⟩ := effect_jobs _ _ _ _ _ effect
  have final : ∀ old ∈ system.store.db.importJobs, old.status = .COMPLETED →
      Complete after.db old :=
    fun old stored ended =>
      complete_mono _ _ _ (fun _ member => events ▸ member) (valid.complete old stored ended)
  have elsewhere : ∀ id data old, old ∈ system.store.db.importJobs → old.id ≠ id →
      writeJob id data old = job → Complete after.db job := by
    rintro id data old stored other rfl
    rw [writeJob_other id data old other] at completed ⊢
    exact final old stored completed
  cases effect with
  | quiet after next jobs =>
      rw [jobs] at member
      exact final job member completed
  | wrote id data after next waits leads status rows =>
      rw [Table.mem_rows, rows] at member
      obtain ⟨old, stored, written⟩ := List.mem_map.mp member
      by_cases target : old.id = id
      · rw [writeJob_target id data old target] at written
        -- The job was unfinished and still is: not completed.
        have unfinished := write_unfinished data old status
          (valid.unfinished index id waits old stored target)
        rw [written] at unfinished
        simp [finished, completed] at unfinished
      · exact elsewhere id data old stored target written
  | completed work fate after next waits asked committed rows =>
      rw [Table.mem_rows, rows] at member
      obtain ⟨old, stored, written⟩ := List.mem_map.mp member
      by_cases target : old.id = work.payload.jobId
      · rw [writeJob_target _ _ old target] at written
        -- All rows are done, and the report has an entry for each of them.
        have request := valid.requested index work.payload (by rw [waits]; rfl)
        have progress := valid.progress index
        rw [waits] at progress
        obtain ⟨accounted, exhausted⟩ := progress
        have handled : work.handled = work.payload.rows := by
          rw [accounted.split, exhausted, List.append_nil]
        have total := valid.sized _ request old stored target
        subst written
        refine ⟨total.symm, work.payload.courseId, work.payload.rows, work.report, ?_, total.symm, rfl,
          ?_, ?_⟩
        · rw [events]
          exact target ▸ request
        · rw [accounted.numbers, handled]
        · rw [accounted.positions, handled]
      · exact elsewhere _ _ old stored target written
  | marked payload error fate after next waits asked committed rows =>
      rw [Table.mem_rows, rows] at member
      obtain ⟨old, stored, written⟩ := List.mem_map.mp member
      by_cases target : old.id = payload.jobId
      · rw [writeJob_target _ _ old target] at written
        subst written
        contradiction
      · exact elsewhere _ _ old stored target written
  | _ => exact final job member completed

end Acting

section Runs

variable (uuids : UuidSource)

theorem request_orderly (system : State K) (courseId : Uuid) (rows : List BulkImportRow)
    (job : ImportJob) (after : Database K) (valid : Orderly system)
    (created : JobCreated system.store.db after courseId rows job) :
    Orderly ⟨{ system.store with db := after }, system.procs⟩ := by
  obtain ⟨middle, message, frame, appended, announced⟩ := created.announced
  have jobs : ∀ other, other ∈ after.importJobs ↔ other ∈ system.store.db.importJobs ∨ other = job := by
    intro other
    rw [announced.frame, Table.mem_rows, appended]
    simp [Table.mem_rows]
  have events : importEvents after =
      importEvents system.store.db ++ [(job.id, courseId, rows)] := by
    have asked : importEvent message = some (job.id, courseId, rows) := by
      simp [importEvent, announced.payload, announced.eventType]
    have outbox : middle.outboxMessages = system.store.db.outboxMessages := by rw [frame]
    simp [importEvents, announced.appended, outbox, asked]
  have kept : ∀ request ∈ importEvents system.store.db, request ∈ importEvents after :=
    fun request member => events ▸ List.mem_append_left _ member
  constructor
  · intro request member other stored same
    rw [events, List.mem_append, List.mem_singleton] at member
    rcases member with old | rfl <;> rcases (jobs other).mp stored with before | rfl
    · exact valid.sized request old other before same
    -- An older request belongs to an older job.
    · obtain ⟨known, stored, ofRequest⟩ := valid.known request old
      exact absurd (ofRequest.trans same.symm) (created.fresh known stored)
    · exact absurd same (created.fresh other before)
    · exact created.totalRows
  · intro request member
    rw [events, List.mem_append, List.mem_singleton] at member
    rcases member with old | rfl
    · obtain ⟨known, stored, same⟩ := valid.known request old
      exact ⟨known, (jobs known).mpr (Or.inl stored), same⟩
    · exact ⟨job, (jobs job).mpr (Or.inr rfl), rfl⟩
  · intro index payload owner
    exact kept _ (valid.requested index payload owner)
  · exact valid.progress
  · intro index id writes other stored same
    rcases (jobs other).mp stored with before | rfl
    · exact valid.unfinished index id writes other before same
    · simp [finished, created.pending]
  · intro other stored completed
    rcases (jobs other).mp stored with before | rfl
    · exact complete_mono _ _ _ kept (valid.complete other before completed)
    · rw [created.pending] at completed
      contradiction

theorem request_cases (store : Store K) (courseId actorId : Uuid) (rows : List BulkImportRow)
    (fate : Fate) :
    ambient uuids (.request courseId actorId rows fate) store = store ∨
      ∃ job, JobCreated store.db (ambient uuids (.request courseId actorId rows fate) store).db
        courseId rows job := by
  cases committed : commits (createBulkImportJobTx uuids store.clock courseId actorId rows)
      fate.chances fate.ending store.db with
  | false =>
      left
      simp only [ambient, transaction_aborted _ _ _ _ committed]
  | true =>
      right
      exact transaction_committed _ _ _ _ _
        (createBulkImportJobTx_spec uuids store.clock courseId actorId rows store.db) committed

theorem ambient_orderly (system : State K) (change : Change) (valid : Orderly system) :
    Orderly ⟨ambient uuids change system.store, system.procs⟩ := by
  cases change with
  | tick =>
      exact ⟨valid.sized, valid.known, valid.requested, valid.progress, valid.unfinished,
        valid.complete⟩
  | request courseId actorId rows fate =>
      rcases request_cases uuids system.store courseId actorId rows fate with same | ⟨job, created⟩
      · rw [same]
        exact valid
      · exact request_orderly system courseId rows job _ valid created

theorem step_orderly (system : State K) (event : Event Input Change) (valid : Orderly system)
    (careful : TerminalWriteLast system event) : Orderly ((machine uuids).step system event) := by
  cases event with
  | env change => exact ambient_orderly uuids system change valid
  | act index input =>
      have effect := exec_effect uuids system.store input (system.procs index)
      have events := (effect_jobs _ _ _ _ _ effect).1
      constructor
      · exact acting_sized system _ _ index input effect valid.sized
      · exact acting_known system _ _ index input effect valid.known
      · intro other payload owner
        by_cases same : other = index
        · subst other
          exact acting_requested system _ _ index input valid effect payload
            (by simpa [machine] using owner)
        · rw [show importEvents ((machine uuids).step system (.act index input)).store.db =
            importEvents system.store.db from events]
          exact valid.requested other payload (by simpa [same] using owner)
      · intro other
        by_cases same : other = index
        · subst other
          simpa [machine] using acting_progress system _ _ index input valid effect
        · simpa [same] using valid.progress other
      · intro other id writes
        by_cases same : other = index
        · subst other
          exact acting_unfinished system _ _ index input valid careful effect id
            (by simpa [machine] using writes)
        · exact others_unfinished system _ _ index input valid careful effect other same id
            (by simpa [same] using writes)
      · exact acting_complete system _ _ index input valid effect

/-- Before the first bulk import: no job and no request is stored. -/
structure Unrequested (K : Type) where
  db : Database K
  jobs : db.importJobs.rows = []
  requests : importEvents db = []

theorem begin_orderly (unrequested : Unrequested K) (clock : Instant) :
    Orderly (begin unrequested.db clock) := by
  have noJobs : ∀ job, job ∉ unrequested.db.importJobs := by
    intro job member
    rw [Table.mem_rows, unrequested.jobs] at member
    contradiction
  have noRequests : ∀ request, request ∉ importEvents unrequested.db := by
    intro request member
    rw [unrequested.requests] at member
    contradiction
  constructor
  · exact fun request member => absurd member (noRequests request)
  · exact fun request member => absurd member (noRequests request)
  · exact fun index payload owner => by contradiction
  · exact fun index => trivial
  · exact fun index id writes => by contradiction
  · exact fun job member => absurd member (noJobs job)

/-- The step keeps every finished job, with all its columns. -/
def Final (system : State K) (event : Event Input Change) : Prop :=
  ∀ job ∈ system.store.db.importJobs, finished job = true →
    job ∈ ((machine uuids).step system event).store.db.importJobs

theorem ambient_keeps (store : Store K) (change : Change) (job : ImportJob)
    (member : job ∈ store.db.importJobs) : job ∈ (ambient uuids change store).db.importJobs := by
  cases change with
  | tick milliseconds => exact member
  | request courseId actorId rows fate =>
      rcases request_cases uuids store courseId actorId rows fate with same | ⟨added, created⟩
      · rw [same]
        exact member
      · obtain ⟨middle, message, frame, appended, announced⟩ := created.announced
        rw [announced.frame, Table.mem_rows, appended]
        exact List.mem_append_left _ member

theorem step_final (system : State K) (event : Event Input Change) (valid : Orderly system) :
    Final uuids system event := by
  intro job member done
  cases event with
  | env change => exact ambient_keeps uuids system.store change job member
  | act index input =>
      exact effect_final system _ _ index input valid
        (exec_effect uuids system.store input (system.procs index)) job member done

end Runs

/-- Import jobs are final in every run whose terminal writes come last, and
completed jobs count and report every submitted row. -/
theorem finished_jobs_final (uuids : UuidSource) (unrequested : Unrequested K) (clock : Instant)
    (events : List (Event Input Change))
    (along : (machine uuids).Along TerminalWriteLast (begin unrequested.db clock) events) :
    (machine uuids).Along (Final uuids) (begin unrequested.db clock) events ∧
      ∀ job ∈ ((machine uuids).run (begin unrequested.db clock) events).store.db.importJobs,
        job.status = .COMPLETED →
          Complete ((machine uuids).run (begin unrequested.db clock) events).store.db job := by
  have initially := begin_orderly unrequested clock
  constructor
  · exact along_of_invariant (machine uuids) TerminalWriteLast Orderly (step_orderly uuids) _
      (fun system event valid _ => step_final uuids system event valid) _ events initially along
  · exact (along_invariant (machine uuids) TerminalWriteLast Orderly (step_orderly uuids) _ events
      initially along).complete

/-- One course, and nothing else. -/
def freshTerm : Unrequested ℤ where
  db :=
    { students := Table.empty
      faceEmbeddings := Table.empty
      courses := .single ⟨2, "C", "Course", 7⟩
      courseEnrollments := Table.empty
      importJobs := Table.empty
      attendanceSessions := Table.empty
      attendanceRecords := Table.empty
      outboxMessages := Table.empty }
  jobs := rfl
  requests := rfl

def requestRoster : List (Event Input Change) :=
  [.env (.request 2 7 [⟨"s1", some "Ada", none⟩] {}), .act 0 (.deliver 0)]

def advance (index count : Nat) : List (Event Input Change) :=
  List.replicate count (.act index (.proceed {}))

/-- Import the roster, and deliver its message again. -/
def importTwice : List (Event Input Change) :=
  requestRoster ++ advance 0 8 ++ .act 1 (.deliver 0) :: advance 1 2

theorem importTwice_careful :
    (machine UuidSource.counting).Along TerminalWriteLast (begin freshTerm.db 0) importTwice := by
  refine ⟨trivial, trivial, fun _ => rfl, trivial, trivial, trivial, trivial, fun _ => ⟨?_, ?_⟩, rfl,
    fun _ => rfl, trivial, fun _ => rfl, fun _ => rfl, trivial⟩
  · intro other elsewhere
    match other with
    | 0 => contradiction
    | _ + 1 => simp [writing, Machine.step, begin]
  · intro failure
    simp

theorem finished_jobs_final_importTwice :
    (machine UuidSource.counting).Along (Final UuidSource.counting) (begin freshTerm.db 0)
        importTwice ∧
      ∀ job ∈ ((machine UuidSource.counting).run (begin freshTerm.db 0)
          importTwice).store.db.importJobs,
        job.status = .COMPLETED →
          Complete ((machine UuidSource.counting).run (begin freshTerm.db 0) importTwice).store.db
            job :=
  finished_jobs_final UuidSource.counting freshTerm 0 importTwice importTwice_careful

def outage : Fate := { chances := [⟨some (.other "Connection is closed."), 0⟩] }

/-- The job completes, its last broadcast fails, and the handler marks it failed. -/
def lostBroadcast : List (Event Input Change) :=
  requestRoster ++ advance 0 6 ++ [.act 0 (.proceed outage), .act 0 (.proceed {})]

/-- Two deliveries pass the status check; one completes, the other resets. -/
def overlap : List (Event Input Change) :=
  requestRoster ++ [.act 1 (.deliver 0), .act 1 (.proceed {})] ++ advance 0 6 ++
    [.act 1 (.proceed {})]

def completedJob : ImportJob :=
  ⟨1, 2, some 7, .COMPLETED, 1, 1, some (.rows [⟨1, "s1", .created, none⟩])⟩

theorem completed_jobs_rewritten :
    ¬ (machine UuidSource.counting).Along (Final UuidSource.counting) (begin freshTerm.db 0)
        lostBroadcast ∧
      ¬ (machine UuidSource.counting).Along (Final UuidSource.counting) (begin freshTerm.db 0)
        overlap := by
  constructor
  · rintro ⟨_, _, _, _, _, _, _, _, _, final, _⟩
    have kept := final completedJob (by decide) rfl
    revert kept
    decide
  · rintro ⟨_, _, _, _, _, _, _, _, _, _, final, _⟩
    have kept := final completedJob (by decide) rfl
    revert kept
    decide

end FaceVec.Import
