import FaceVec.Import.Finality
import FaceVec.Import.Rows

/-!
Bulk import after crashes. While the rows of a message meet no fault, handlers
may crash and start again from the first row: the roster is always the one of
a single handler that was never interrupted and has done the same rows. The
uninterrupted run is the shadow of the real one; it moves when a row is done
for the first time.
-/

namespace FaceVec.Import

open Interleaving Courses

variable {K : Type}

def Undisturbed (fate : Fate) : Prop := Calm fate.chances ∧ fate.ending = .commits

/-- Crashes and redeliveries of one message; nobody else writes. -/
def Redelivered (position : Nat) : Event Input Change → Prop
  | .act _ (.deliver other) => other = position
  | .act _ (.proceed fate) => Undisturbed fate
  | .act _ .crash => True
  | .env (.tick _) => True
  | .env (.request _ _ _ _) => False

/-- One handler, from the delivery on, without a crash. -/
def Uninterrupted (position : Nat) : Event Input Change → Prop
  | .act 0 (.deliver other) => other = position
  | .act 0 (.proceed fate) => Undisturbed fate
  | .env (.tick _) => True
  | _ => False

/-- `work` is a run over the same rows that is not ahead of `lead`. -/
structure Following (payload : Payload) (lead work : Work) : Prop where
  owner : work.payload = payload
  split : payload.rows = work.handled ++ work.remaining
  length : work.handled.length ≤ lead.handled.length

def Behind (payload : Payload) (lead : Work) : Handler → Prop
  | .idle | .announcingCompleted _ | .acking _ | .acked | .stopped => True
  | .reading other | .resetting other => other = payload
  | .importing work | .persisting work | .announcing work => Following payload lead work
  | .completing work => Following payload lead work ∧ work.remaining = []
  | .failing _ _ | .announcingFailed _ _ => False

theorem loop_behind (payload : Payload) (lead work : Work) (follows : Following payload lead work) :
    Behind payload lead (loop work) := by
  unfold loop
  split
  · next done => exact ⟨follows, done⟩
  · exact follows

theorem boundary_behind (payload : Payload) (lead work : Work)
    (follows : Following payload lead work) : Behind payload lead (boundary work) := by
  unfold boundary
  split
  · exact follows
  · exact loop_behind payload lead work follows

theorem behind_mono (payload : Payload) (lead further : Work)
    (longer : lead.handled.length ≤ further.handled.length) (handler : Handler)
    (behind : Behind payload lead handler) : Behind payload further handler := by
  have follows : ∀ work, Following payload lead work → Following payload further work :=
    fun work following => ⟨following.owner, following.split, following.length.trans longer⟩
  cases handler with
  | importing work => exact follows work behind
  | persisting work => exact follows work behind
  | announcing work => exact follows work behind
  | completing work => exact ⟨follows work behind.1, behind.2⟩
  | _ => exact behind

theorem lead_done (payload : Payload) (lead work : Work)
    (split : payload.rows = lead.handled ++ lead.remaining) (follows : Following payload lead work)
    (ended : work.remaining = []) : lead.remaining = [] := by
  have total : lead.handled.length + lead.remaining.length = work.handled.length := by
    have lengths := congrArg List.length (split.symm.trans follows.split)
    simpa [ended] using lengths
  have longer := follows.length
  apply List.eq_nil_of_length_eq_zero
  omega

/-- A row before the end of `done` is one of its rows. -/
theorem mem_of_split {α : Type} (before after done rest : List α) (row : α)
    (same : before ++ row :: after = done ++ rest) (shorter : before.length < done.length) :
    row ∈ done := by
  have here : (done ++ rest)[before.length]? = some row := by
    rw [← same]
    simp
  rw [List.getElem?_append_left shorter] at here
  exact List.mem_of_getElem? here

def CompletedIn (db : Database K) (jobId : Uuid) : Prop :=
  ∃ job ∈ db.importJobs, job.id = jobId ∧ job.status = .COMPLETED

/-- The uninterrupted run `alone` has done the rows of `lead`, and its roster
is that of `system`. -/
structure Shadowed (position : Nat) (payload : Payload) (system alone : State K) (lead : Work) :
    Prop where
  clock : alone.store.clock = system.store.clock
  roster : system.store.db = withJobs system.store.db.importJobs alone.store.db
  asked : (importEvents system.store.db)[position]? =
    some (payload.jobId, payload.courseId, payload.rows)
  stored : (findImportJob system.store.db payload.jobId).isSome
  storedAlone : (findImportJob alone.store.db payload.jobId).isSome
  ready : alone.procs 0 = loop lead
  owner : lead.payload = payload
  split : payload.rows = lead.handled ++ lead.remaining
  settled : ∀ row ∈ lead.handled, Settled system.store.db payload.courseId row
  behind : ∀ index, Behind payload lead (system.procs index)
  done : CompletedIn system.store.db payload.jobId → lead.remaining = []

section Updates

variable (id : Uuid) (data : JobData) (fate : Fate) (store : Store K)
  (continues : ImportJob → Handler) (fails : Failure → Handler)

theorem update_undisturbed (undisturbed : Undisturbed fate)
    (stored : (findImportJob store.db id).isSome) :
    ∃ job jobs, update id data fate store continues fails =
        ({ store with db := withJobs jobs store.db }, continues job) ∧
      jobs.rows = store.db.importJobs.rows.map (writeJob id data) := by
  obtain ⟨job, found⟩ := Option.isSome_iff_exists.mp stored
  refine ⟨data.write job, store.db.importJobs.modify (writeJob id data) ?_, ?_, rfl⟩
  · intro a b
    simp [ImportJob.clash, writeJob_id]
  · simp [update, transaction, updateImportJob, statement, calm_faultOf _ undisturbed.1, found,
      undisturbed.2, withJobs]

theorem broadcast_undisturbed (event : ImportProgressEvent) (next : Handler)
    (undisturbed : Undisturbed fate) :
    broadcast event fate store next fails =
      ({ store with frames := store.frames ++ [event] }, next) := by
  simp [broadcast, calm_faultOf _ undisturbed.1]

end Updates

theorem stored_written (id jobId : Uuid) (data : JobData) (db after : Database K)
    (written : after.importJobs.rows = db.importJobs.rows.map (writeJob id data))
    (stored : (findImportJob db jobId).isSome) : (findImportJob after jobId).isSome := by
  rw [findImportJob, List.find?_isSome] at stored ⊢
  obtain ⟨job, member, same⟩ := stored
  refine ⟨writeJob id data job, ?_, by rwa [writeJob_id]⟩
  rw [written]
  exact List.mem_map_of_mem member

/-- An update completes a job only by setting the status. -/
theorem completed_written (id jobId : Uuid) (data : JobData) (db after : Database K)
    (written : after.importJobs.rows = db.importJobs.rows.map (writeJob id data))
    (status : data.status ≠ some .COMPLETED) (completed : CompletedIn after jobId) :
    CompletedIn db jobId := by
  obtain ⟨job, member, same, ended⟩ := completed
  rw [Table.mem_rows, written] at member
  obtain ⟨old, stored, rfl⟩ := List.mem_map.mp member
  rw [writeJob_id] at same
  refine ⟨old, stored, same, ?_⟩
  unfold writeJob at ended
  split at ended
  · cases given : data.status with
    | none => simpa [JobData.write, given] using ended
    | some other =>
        rw [given] at status
        simp only [JobData.write, given, Option.getD_some] at ended
        exact absurd (congrArg some ended) status
  · exact ended

theorem settled_withJobs (jobs : Table ImportJob.clash) (db : Database K) (courseId : Uuid)
    (row : BulkImportRow) (settled : Settled db courseId row) :
    Settled (withJobs jobs db) courseId row := by
  cases settled with
  | linked student member number enrolled => exact .linked student member number enrolled
  | unnumbered numberless => exact .unnumbered numberless
  | unnamed absent nameless => exact .unnamed absent nameless
  | taken other absent member given same => exact .taken other absent member given same
  | courseless missing => exact .courseless missing

section Steps

variable (uuids : UuidSource) (position : Nat) (payload : Payload) (system alone : State K)
  (lead : Work) (shadowed : Shadowed position payload system alone lead)

include shadowed in
theorem shadowed_act (index : Nat) (after : Store K) (next : Handler)
    (clock : after.clock = system.store.clock)
    (frame : after.db = withJobs after.db.importJobs system.store.db)
    (stored : (findImportJob after.db payload.jobId).isSome)
    (done : CompletedIn after.db payload.jobId → lead.remaining = [])
    (behind : Behind payload lead next) :
    Shadowed position payload ⟨after, Function.update system.procs index next⟩ alone lead := by
  constructor
  · exact shadowed.clock.trans clock.symm
  · rw [frame, shadowed.roster]
    rfl
  · rw [frame]
    exact shadowed.asked
  · exact stored
  · exact shadowed.storedAlone
  · exact shadowed.ready
  · exact shadowed.owner
  · exact shadowed.split
  · intro row member
    rw [frame]
    exact settled_withJobs _ _ _ row (shadowed.settled row member)
  · intro other
    by_cases same : other = index
    · subst other
      simpa using behind
    · simpa [same] using shadowed.behind other
  · exact done

include shadowed in
theorem shadowed_quiet (index : Nat) (next : Handler) (frames : List ImportProgressEvent)
    (behind : Behind payload lead next) :
    Shadowed position payload
      ⟨{ system.store with frames }, Function.update system.procs index next⟩ alone lead :=
  shadowed_act position payload system alone lead shadowed index _ next rfl rfl shadowed.stored
    shadowed.done behind

include shadowed in
theorem shadowed_update (index : Nat) (data : JobData) (fate : Fate)
    (continues : ImportJob → Handler) (fails : Failure → Handler) (undisturbed : Undisturbed fate)
    (status : data.status = some .COMPLETED → lead.remaining = [])
    (behind : ∀ job, Behind payload lead (continues job)) :
    Shadowed position payload
      ⟨(update payload.jobId data fate system.store continues fails).1,
        Function.update system.procs index
          (update payload.jobId data fate system.store continues fails).2⟩ alone lead := by
  obtain ⟨job, jobs, updated, written⟩ := update_undisturbed payload.jobId data fate system.store
    continues fails undisturbed shadowed.stored
  rw [updated]
  refine shadowed_act position payload system alone lead shadowed index _ _ rfl rfl ?_ ?_ (behind job)
  · exact stored_written payload.jobId payload.jobId data _ _ written shadowed.stored
  · intro completed
    by_cases ends : data.status = some .COMPLETED
    · exact status ends
    · exact shadowed.done (completed_written payload.jobId _ data _ _ written ends completed)

theorem step_proceed (index : Nat) (fate : Fate) (handler : Handler)
    (waits : system.procs index = handler) (busy : handler ≠ .idle) :
    (machine uuids).step system (.act index (.proceed fate)) =
      ⟨(handle uuids handler fate system.store).1,
        Function.update system.procs index (handle uuids handler fate system.store).2⟩ := by
  subst waits
  have proceeds : exec uuids (.proceed fate) system.store (system.procs index) =
      handle uuids (system.procs index) fate system.store := by
    cases waits : system.procs index with
    | idle => exact absurd waits busy
    | _ => rfl
  simp only [Machine.step, machine, proceeds]

/-- `events` bring the uninterrupted handler to `next`, with the roster of `db`. -/
structure Prepared (position : Nat) (jobId : Uuid) (db : Database K) (next : Handler)
    (events : List (Event Input Change)) : Prop where
  uninterrupted : ∀ event ∈ events, Uninterrupted position event
  ready : ((machine uuids).run alone events).procs 0 = next
  clock : ((machine uuids).run alone events).store.clock = alone.store.clock
  roster : ((machine uuids).run alone events).store.db =
    withJobs ((machine uuids).run alone events).store.db.importJobs db
  stored : (findImportJob ((machine uuids).run alone events).store.db jobId).isSome

theorem calm_undisturbed : Undisturbed {} := ⟨fun _ member => by contradiction, rfl⟩

theorem prepared_boundary (work : Work) (waits : alone.procs 0 = boundary work)
    (stored : (findImportJob alone.store.db work.payload.jobId).isSome) :
    ∃ events,
      Prepared uuids alone position work.payload.jobId alone.store.db (loop work) events := by
  unfold boundary at waits
  split at waits
  · obtain ⟨job, jobs, updated, written⟩ := update_undisturbed work.payload.jobId (chunkData work) {}
      alone.store (fun _ => .announcing work) (fail work.payload) calm_undisturbed stored
    have persisted := step_proceed uuids alone 0 {} _ waits (by simp)
    simp only [handle, updated] at persisted
    have announced := step_proceed uuids _ 0 {} (.announcing work)
      (congrFun (congrArg System.procs persisted) 0) (by simp)
    simp only [handle, broadcast_undisturbed {} _ _ _ _ calm_undisturbed, persisted] at announced
    refine ⟨[.act 0 (.proceed {}), .act 0 (.proceed {})], ?_, ?_, ?_, ?_, ?_⟩
    · simp [Uninterrupted, calm_undisturbed]
    all_goals simp only [Machine.run, persisted, announced]
    · exact Function.update_self _ _ _
    · rfl
    · exact stored_written _ _ _ alone.store.db _ written stored
  · exact ⟨[], by simp, waits, rfl, rfl, stored⟩

theorem handle_importing (work : Work) (row : BulkImportRow) (rest : List BulkImportRow)
    (fate : Fate) (store : Store K) (next : work.remaining = row :: rest) :
    handle uuids (.importing work) fate store =
      ({ store with db := (importRow uuids store.clock work row rest fate store.db).2 },
        boundary (importRow uuids store.clock work row rest fate store.db).1) := by
  obtain ⟨payload, handled, remaining, counts, report⟩ := work
  subst next
  rfl

/-- Of the handler, a row transaction only needs the course. -/
theorem importRow_same (now : Instant) (work other : Work) (row : BulkImportRow)
    (rest : List BulkImportRow) (fate : Fate) (db : Database K) (same : work.payload = other.payload) :
    (importRow uuids now work row rest fate db).2 = (importRow uuids now other row rest fate db).2 := by
  simp only [importRow, same]

theorem importRow_following (now : Instant) (work further : Work) (row : BulkImportRow)
    (rest : List BulkImportRow) (fate : Fate) (db : Database K) (owner : work.payload = payload)
    (split : payload.rows = work.handled ++ work.remaining) (next : work.remaining = row :: rest)
    (longer : work.handled.length + 1 ≤ further.handled.length) :
    Following payload further (importRow uuids now work row rest fate db).1 := by
  constructor
  · exact owner
  · simp [importRow, split, next]
  · simpa [importRow] using longer

include shadowed in
/-- A row that the uninterrupted handler has done is done again. -/
theorem shadowed_again (index : Nat) (fate : Fate) (work : Work) (row : BulkImportRow)
    (rest : List BulkImportRow) (follows : Following payload lead work)
    (next : work.remaining = row :: rest) (shorter : work.handled.length < lead.handled.length) :
    Shadowed position payload
      ⟨(handle uuids (.importing work) fate system.store).1,
        Function.update system.procs index (handle uuids (.importing work) fate system.store).2⟩
      alone lead := by
  -- The row lies before the place the shadow has reached.
  have handled : row ∈ lead.handled := by
    apply mem_of_split work.handled rest lead.handled lead.remaining row ?_ shorter
    rw [← next, ← follows.split, shadowed.split]
  have again := importRow_again uuids system.store.clock work row rest fate system.store.db
    (follows.owner ▸ shadowed.settled row handled)
  rw [handle_importing uuids work row rest fate system.store next, again]
  refine shadowed_quiet position payload system alone lead shadowed index _ system.store.frames ?_
  exact boundary_behind payload lead _ (importRow_following uuids payload _ work lead row rest fate _
    follows.owner follows.split next shorter)

theorem prepared_row (fate : Fate) (work : Work) (row : BulkImportRow) (rest : List BulkImportRow)
    (undisturbed : Undisturbed fate) (waits : alone.procs 0 = .importing work)
    (next : work.remaining = row :: rest)
    (stored : (findImportJob alone.store.db work.payload.jobId).isSome) :
    ∃ events, Prepared uuids alone position work.payload.jobId
      (importRow uuids alone.store.clock work row rest fate alone.store.db).2
      (loop (importRow uuids alone.store.clock work row rest fate alone.store.db).1) events := by
  have stepped := step_proceed uuids alone 0 fate _ waits (by simp)
  rw [handle_importing uuids work row rest fate alone.store next] at stepped
  have jobs := (importRow_jobs uuids alone.store.clock work row rest fate alone.store.db).1
  have db : ((machine uuids).step alone (.act 0 (.proceed fate))).store.db =
      (importRow uuids alone.store.clock work row rest fate alone.store.db).2 := by rw [stepped]
  obtain ⟨events, prepared⟩ := prepared_boundary uuids position
    ((machine uuids).step alone (.act 0 (.proceed fate)))
    (importRow uuids alone.store.clock work row rest fate alone.store.db).1 (by simp [stepped])
    (by rw [db, findImportJob, jobs]; exact stored)
  refine ⟨.act 0 (.proceed fate) :: events, ?_, prepared.ready, ?_, ?_, prepared.stored⟩
  · intro event member
    rcases List.mem_cons.mp member with rfl | later
    · exact undisturbed
    · exact prepared.uninterrupted event later
  · exact prepared.clock.trans (by rw [stepped])
  · exact prepared.roster.trans (by rw [db]; rfl)

include shadowed in
/-- A row that is done for the first time moves the shadow along. -/
theorem shadowed_further (index : Nat) (work further : Work) (row : BulkImportRow)
    (db : Database K) (after : State K) (clock : after.store.clock = alone.store.clock)
    (roster : db = withJobs system.store.db.importJobs after.store.db)
    (jobs : db.importJobs = system.store.db.importJobs)
    (requests : importEvents db = importEvents system.store.db)
    (stored : (findImportJob after.store.db payload.jobId).isSome)
    (ready : after.procs 0 = loop further) (owner : further.payload = payload)
    (handled : further.handled = lead.handled ++ [row])
    (remaining : lead.remaining = row :: further.remaining)
    (keeps : ∀ other, Settled system.store.db payload.courseId other →
      Settled db payload.courseId other)
    (settles : Settled db payload.courseId row) (follows : Following payload further work) :
    Shadowed position payload
      ⟨{ system.store with db }, Function.update system.procs index (boundary work)⟩ after further := by
  constructor
  · exact clock.trans shadowed.clock
  · rw [jobs]
    exact roster
  · rw [requests]
    exact shadowed.asked
  · rw [findImportJob, jobs]
    exact shadowed.stored
  · exact stored
  · exact ready
  · exact owner
  · rw [shadowed.split, handled, remaining, List.append_assoc]
    rfl
  · intro other member
    rw [handled] at member
    rcases List.mem_append.mp member with old | new
    · exact keeps other (shadowed.settled other old)
    · rw [List.mem_singleton.mp new]
      exact settles
  · intro other
    have longer : lead.handled.length ≤ further.handled.length := by simp [handled]
    dsimp only
    by_cases same : other = index
    · subst other
      rw [Function.update_self]
      exact boundary_behind payload _ _ follows
    · rw [Function.update_of_ne same]
      exact behind_mono payload lead _ longer _ (shadowed.behind other)
  · rintro ⟨job, member, completed⟩
    rw [jobs] at member
    -- The job is not completed before its last row is done.
    have ended := shadowed.done ⟨job, member, completed⟩
    rw [remaining] at ended
    exact absurd ended (List.cons_ne_nil row _)

include shadowed in
/-- A row that is done for the first time is done by both. -/
theorem shadowed_first (index : Nat) (fate : Fate) (work : Work) (row : BulkImportRow)
    (rest : List BulkImportRow) (undisturbed : Undisturbed fate)
    (follows : Following payload lead work) (next : work.remaining = row :: rest)
    (level : work.handled.length = lead.handled.length) :
    ∃ events further, (∀ event ∈ events, Uninterrupted position event) ∧
      Shadowed position payload
        ⟨(handle uuids (.importing work) fate system.store).1,
          Function.update system.procs index (handle uuids (.importing work) fate system.store).2⟩
        ((machine uuids).run alone events) further := by
  have both : lead.handled ++ lead.remaining = work.handled ++ row :: rest := by
    rw [← shadowed.split, follows.split, next]
  obtain ⟨_, leadNext⟩ := List.append_inj both level.symm
  have waits : alone.procs 0 = .importing lead := by
    rw [shadowed.ready, loop, leadNext]
  obtain ⟨events, prepared⟩ := prepared_row uuids position alone fate lead row rest undisturbed waits
    leadNext (shadowed.owner ▸ shadowed.storedAlone)
  rw [shadowed.owner] at prepared
  obtain ⟨jobs, requests⟩ := importRow_jobs uuids system.store.clock work row rest fate system.store.db
  -- The same transaction on the same roster, drawing the same random values.
  have rows : (importRow uuids system.store.clock work row rest fate system.store.db).2 =
      withJobs system.store.db.importJobs
        (importRow uuids alone.store.clock lead row rest fate alone.store.db).2 := by
    rw [← shadowed.clock, importRow_same uuids _ work lead row rest fate _
      (follows.owner.trans shadowed.owner.symm)]
    conv_lhs => rw [shadowed.roster]
    exact importRow_blind _ uuids _ lead row rest fate _
  refine ⟨events, (importRow uuids alone.store.clock lead row rest fate alone.store.db).1,
    prepared.uninterrupted, ?_⟩
  rw [handle_importing uuids work row rest fate system.store next]
  apply shadowed_further position payload system alone lead shadowed index _ _ row
  · exact prepared.clock
  · rw [prepared.roster, withJobs_withJobs]
    exact rows
  · exact jobs
  · exact requests
  · exact prepared.stored
  · exact prepared.ready
  · exact shadowed.owner
  · rfl
  · exact leadNext
  · rw [← follows.owner]
    exact importRow_keeps_settled uuids system.store.clock work row rest fate system.store.db
  · rw [← follows.owner]
    exact importRow_settles uuids system.store.clock work row rest fate system.store.db
      undisturbed.1 undisturbed.2
  · apply importRow_following uuids payload _ work _ row rest fate _ follows.owner follows.split next
    simp [importRow, level]

include shadowed in
theorem shadowed_stays (index : Nat) (input : Input) (next : Handler)
    (steps : exec uuids input system.store (system.procs index) = (system.store, next))
    (behind : Behind payload lead next) :
    Shadowed position payload ((machine uuids).step system (.act index input)) alone lead := by
  have stepped : (machine uuids).step system (.act index input) =
      ⟨system.store, Function.update system.procs index next⟩ := by
    simp only [Machine.step, machine, steps]
  rw [stepped]
  exact shadowed_quiet position payload system alone lead shadowed index next system.store.frames behind

include shadowed in
theorem shadowed_deliver (index : Nat) :
    Shadowed position payload ((machine uuids).step system (.act index (.deliver position))) alone
      lead := by
  have before := shadowed.behind index
  cases waits : system.procs index with
  | idle =>
      apply shadowed_stays uuids position payload system alone lead shadowed index _ (.reading payload)
      · rw [waits]
        simp [exec, shadowed.asked]
      · rfl
  | _ =>
      refine shadowed_stays uuids position payload system alone lead shadowed index _
        (system.procs index) ?_ before
      rw [waits]
      rfl

include shadowed in
theorem shadowed_crash (index : Nat) :
    Shadowed position payload ((machine uuids).step system (.act index .crash)) alone lead := by
  cases waits : system.procs index with
  | idle =>
      apply shadowed_stays uuids position payload system alone lead shadowed index _ .idle
      · rw [waits]
        rfl
      · trivial
  | _ =>
      apply shadowed_stays uuids position payload system alone lead shadowed index _ .stopped
      · rw [waits]
        rfl
      · trivial

include shadowed in
theorem shadowed_reading (index : Nat) (fate : Fate) (undisturbed : Undisturbed fate) :
    Shadowed position payload
      ⟨(handle uuids (.reading payload) fate system.store).1,
        Function.update system.procs index (handle uuids (.reading payload) fate system.store).2⟩
      alone lead := by
  have quiet := fun next => shadowed_quiet position payload system alone lead shadowed index next
    system.store.frames
  obtain ⟨job, found⟩ := Option.isSome_iff_exists.mp shadowed.stored
  simp only [handle, calm_faultOf _ undisturbed.1, found]
  split
  · exact quiet (.acking payload) trivial
  · exact quiet (.resetting payload) rfl

include shadowed in
theorem shadowed_still (index : Nat) (fate : Fate) (handler : Handler) (undisturbed : Undisturbed fate)
    (behind : Behind payload lead handler) (quiet : ∀ work, handler ≠ .importing work) :
    Shadowed position payload
      ⟨(handle uuids handler fate system.store).1,
        Function.update system.procs index (handle uuids handler fate system.store).2⟩ alone lead := by
  have stays := shadowed_quiet position payload system alone lead shadowed index
  cases handler with
  | idle => exact stays .idle system.store.frames trivial
  | importing work => exact absurd rfl (quiet work)
  | reading other =>
      obtain rfl := behind
      exact shadowed_reading uuids position other system alone lead shadowed index fate undisturbed
  | resetting other =>
      obtain rfl := behind
      refine shadowed_update position other system alone lead shadowed index resetData fate _ _
        undisturbed (fun ends => by contradiction) fun _ => ?_
      exact loop_behind other lead _ ⟨rfl, rfl, Nat.zero_le _⟩
  | persisting work =>
      obtain rfl := behind.owner
      exact shadowed_update position work.payload system alone lead shadowed index (chunkData work)
        fate _ _ undisturbed (fun ends => by contradiction) fun _ => behind
  | announcing work =>
      simp only [handle, broadcast_undisturbed fate _ _ _ _ undisturbed]
      exact stays _ _ (loop_behind payload lead work behind)
  | completing work =>
      obtain ⟨follows, ended⟩ := behind
      obtain rfl := follows.owner
      exact shadowed_update position work.payload system alone lead shadowed index
        (completedData work) fate _ _ undisturbed
        (fun _ => lead_done work.payload lead work shadowed.split follows ended) fun _ => trivial
  | announcingCompleted work =>
      simp only [handle, broadcast_undisturbed fate _ _ _ _ undisturbed]
      exact stays _ _ trivial
  | acking other =>
      simp only [handle, calm_faultOf _ undisturbed.1]
      exact stays .acked system.store.frames trivial
  | failing other error => exact behind.elim
  | announcingFailed other processedRows => exact behind.elim
  | acked => exact stays .acked system.store.frames trivial
  | stopped => exact stays .stopped system.store.frames trivial

include shadowed in
/-- A row is done again behind the shadow, and for the first time level with it. -/
theorem shadowed_importing (index : Nat) (fate : Fate) (work : Work) (undisturbed : Undisturbed fate)
    (follows : Following payload lead work) :
    ∃ events further, (∀ event ∈ events, Uninterrupted position event) ∧
      Shadowed position payload
        ⟨(handle uuids (.importing work) fate system.store).1,
          Function.update system.procs index (handle uuids (.importing work) fate system.store).2⟩
        ((machine uuids).run alone events) further := by
  cases next : work.remaining with
  | nil =>
      obtain ⟨payload, handled, remaining, counts, report⟩ := work
      obtain rfl := next
      exact ⟨[], lead, by simp, shadowed_quiet position _ system alone lead shadowed index _
        system.store.frames follows⟩
  | cons row rest =>
      rcases Nat.lt_or_eq_of_le follows.length with shorter | level
      · exact ⟨[], lead, by simp, shadowed_again uuids position payload system alone lead shadowed
          index fate work row rest follows next shorter⟩
      · exact shadowed_first uuids position payload system alone lead shadowed index fate work row
          rest undisturbed follows next level

include shadowed in
theorem shadowed_proceed (index : Nat) (fate : Fate) (undisturbed : Undisturbed fate) :
    ∃ events further, (∀ event ∈ events, Uninterrupted position event) ∧
      Shadowed position payload ((machine uuids).step system (.act index (.proceed fate)))
        ((machine uuids).run alone events) further := by
  have behind := shadowed.behind index
  cases waits : system.procs index with
  | idle =>
      refine ⟨[], lead, by simp, ?_⟩
      apply shadowed_stays uuids position payload system alone lead shadowed index _ .idle
      · rw [waits]
        rfl
      · trivial
  | importing work =>
      rw [waits] at behind
      rw [step_proceed uuids system index fate _ waits (by simp)]
      exact shadowed_importing uuids position payload system alone lead shadowed index fate work
        undisturbed behind
  | _ =>
      rw [waits] at behind
      rw [step_proceed uuids system index fate _ waits (by simp)]
      exact ⟨[], lead, by simp, shadowed_still uuids position payload system alone lead shadowed
        index fate _ undisturbed behind (by simp)⟩

include shadowed in
theorem shadowed_step (event : Event Input Change) (redelivered : Redelivered position event) :
    ∃ events further, (∀ event ∈ events, Uninterrupted position event) ∧
      Shadowed position payload ((machine uuids).step system event)
        ((machine uuids).run alone events) further := by
  cases event with
  | env change =>
      cases change with
      | request => exact redelivered.elim
      | tick milliseconds =>
          refine ⟨[.env (.tick milliseconds)], lead, by simp [Uninterrupted], ?_⟩
          exact ⟨congrArg (· + milliseconds) shadowed.clock, shadowed.roster, shadowed.asked,
            shadowed.stored, shadowed.storedAlone, shadowed.ready, shadowed.owner, shadowed.split,
            shadowed.settled, shadowed.behind, shadowed.done⟩
  | act index input =>
      cases input with
      | deliver other =>
          obtain rfl := redelivered
          exact ⟨[], lead, by simp,
            shadowed_deliver uuids other payload system alone lead shadowed index⟩
      | proceed fate =>
          exact shadowed_proceed uuids position payload system alone lead shadowed index fate
            redelivered
      | crash =>
          exact ⟨[], lead, by simp,
            shadowed_crash uuids position payload system alone lead shadowed index⟩

end Steps

section Runs

variable (uuids : UuidSource) (position : Nat) (payload : Payload)

theorem shadowed_run (system alone : State K) (lead : Work) (events : List (Event Input Change))
    (shadowed : Shadowed position payload system alone lead)
    (redelivered : ∀ event ∈ events, Redelivered position event) :
    ∃ shadow further, (∀ event ∈ shadow, Uninterrupted position event) ∧
      Shadowed position payload ((machine uuids).run system events)
        ((machine uuids).run alone shadow) further := by
  induction events generalizing system alone lead with
  | nil => exact ⟨[], lead, by simp, shadowed⟩
  | cons event rest ih =>
      obtain ⟨first, middle, begun, stepped⟩ := shadowed_step uuids position payload system alone lead
        shadowed event (redelivered event List.mem_cons_self)
      obtain ⟨second, further, continued, ran⟩ := ih _ _ middle stepped
        fun later member => redelivered later (List.mem_cons_of_mem _ member)
      refine ⟨first ++ second, further, ?_, ?_⟩
      · intro event member
        exact (List.mem_append.mp member).elim (begun event) (continued event)
      · rw [run_append]
        exact ran

/-- The uninterrupted handler is admitted to an unfinished job. -/
theorem prepared_begin (db : Database K) (clock : Instant) (job : ImportJob)
    (asked : (importEvents db)[position]? = some (payload.jobId, payload.courseId, payload.rows))
    (stored : findImportJob db payload.jobId = some job) (unfinished : finished job = false) :
    Prepared uuids (begin db clock) position payload.jobId db (loop (Work.start payload))
      [.act 0 (.deliver position), .act 0 (.proceed {}), .act 0 (.proceed {})] := by
  have found : (findImportJob db payload.jobId).isSome := by rw [stored]; rfl
  obtain ⟨_, jobs, updated, written⟩ := update_undisturbed payload.jobId resetData {}
    (begin db clock).store (fun _ => loop (Work.start payload)) (fail payload) calm_undisturbed found
  have delivered : (machine uuids).step (begin db clock) (.act 0 (.deliver position)) =
      ⟨(begin db clock).store, Function.update (begin db clock).procs 0 (.reading payload)⟩ := by
    simp [Machine.step, machine, exec, begin, asked]
  have admitted := step_proceed uuids _ 0 {} (.reading payload)
    (congrFun (congrArg System.procs delivered) 0) (by simp)
  simp only [delivered, handle, calm_faultOf _ calm_undisturbed.1,
    show findImportJob (begin db clock).store.db payload.jobId = some job from stored,
    unfinished] at admitted
  have started := step_proceed uuids _ 0 {} (.resetting payload)
    (congrFun (congrArg System.procs admitted) 0) (by simp)
  simp only [admitted, handle, Bool.false_eq_true, if_false, updated] at started
  constructor
  · simp [Uninterrupted, calm_undisturbed]
  all_goals simp only [Machine.run, delivered, admitted, Bool.false_eq_true, if_false, started]
  · exact Function.update_self _ _ _
  · rfl
  · exact stored_written _ _ _ db _ written found

theorem begin_shadowed (db : Database K) (clock : Instant) (job : ImportJob)
    (asked : (importEvents db)[position]? = some (payload.jobId, payload.courseId, payload.rows))
    (stored : findImportJob db payload.jobId = some job) (unfinished : finished job = false) :
    ∃ events, (∀ event ∈ events, Uninterrupted position event) ∧
      Shadowed position payload (begin db clock) ((machine uuids).run (begin db clock) events)
        (Work.start payload) := by
  have prepared := prepared_begin uuids position payload db clock job asked stored unfinished
  refine ⟨_, prepared.uninterrupted, ?_⟩
  constructor
  · exact prepared.clock
  · rw [prepared.roster, withJobs_withJobs]
    rfl
  · exact asked
  · rw [begin, stored]
    rfl
  · exact prepared.stored
  · exact prepared.ready
  · rfl
  · rfl
  · exact fun row member => by contradiction
  · exact fun index => trivial
  · rintro ⟨other, member, same, completed⟩
    have foundIn : job ∈ db.importJobs := List.mem_of_find?_eq_some stored
    have foundId : job.id = payload.jobId := by simpa using List.find?_some stored
    rw [job_eq_of_id _ other job member foundIn (same.trans foundId.symm)] at completed
    simp [finished, completed] at unfinished

/-- Once all rows are done, the uninterrupted handler completes the job. -/
theorem prepared_end (alone : State K) (work : Work) (waits : alone.procs 0 = .completing work)
    (stored : (findImportJob alone.store.db work.payload.jobId).isSome) :
    Prepared uuids alone position work.payload.jobId alone.store.db .acked (advance 0 3) ∧
      CompletedIn ((machine uuids).run alone (advance 0 3)).store.db work.payload.jobId := by
  obtain ⟨_, jobs, updated, written⟩ := update_undisturbed work.payload.jobId (completedData work) {}
    alone.store (fun _ => .announcingCompleted work) (fail work.payload) calm_undisturbed stored
  have completed := step_proceed uuids alone 0 {} _ waits (by simp)
  simp only [handle, updated] at completed
  have announced := step_proceed uuids _ 0 {} (.announcingCompleted work)
    (congrFun (congrArg System.procs completed) 0) (by simp)
  simp only [handle, broadcast_undisturbed {} _ _ _ _ calm_undisturbed, completed] at announced
  have acked := step_proceed uuids _ 0 {} (.acking work.payload)
    (congrFun (congrArg System.procs announced) 0) (by simp)
  simp only [handle, calm_faultOf _ calm_undisturbed.1, announced] at acked
  constructor
  · constructor
    · simp [advance, Uninterrupted, calm_undisturbed]
    all_goals simp only [advance, List.replicate, Machine.run, completed, announced, acked]
    · exact Function.update_self _ _ _
    · rfl
    · exact stored_written _ _ _ alone.store.db _ written stored
  · simp only [advance, List.replicate, Machine.run, completed, announced, acked]
    obtain ⟨job, found⟩ := Option.isSome_iff_exists.mp stored
    have same : job.id = work.payload.jobId := by simpa using List.find?_some found
    refine ⟨writeJob work.payload.jobId (completedData work) job, ?_, ?_, ?_⟩
    · rw [Table.mem_rows]
      exact written ▸ List.mem_map_of_mem (List.mem_of_find?_eq_some found)
    · rw [writeJob_id, same]
    · rw [writeJob_target _ _ job same]
      rfl

end Runs

/-- The students, the enrollments and the events of two databases agree. -/
def SameRoster (db other : Database K) : Prop :=
  db.students = other.students ∧ db.courseEnrollments = other.courseEnrollments ∧
    db.outboxMessages = other.outboxMessages

/-- However often the handlers of a message crash and start over, once the job
is completed the roster is the one that a single uninterrupted run leaves. -/
theorem redelivery_safe (uuids : UuidSource) (db : Database K) (clock : Instant) (position : Nat)
    (payload : Payload) (job : ImportJob)
    (asked : (importEvents db)[position]? = some (payload.jobId, payload.courseId, payload.rows))
    (stored : findImportJob db payload.jobId = some job) (unfinished : finished job = false)
    (events : List (Event Input Change))
    (redelivered : ∀ event ∈ events, Redelivered position event)
    (completed : CompletedIn ((machine uuids).run (begin db clock) events).store.db payload.jobId) :
    ∃ uninterrupted, (∀ event ∈ uninterrupted, Uninterrupted position event) ∧
      ((machine uuids).run (begin db clock) uninterrupted).procs 0 = .acked ∧
      CompletedIn ((machine uuids).run (begin db clock) uninterrupted).store.db payload.jobId ∧
      SameRoster ((machine uuids).run (begin db clock) events).store.db
        ((machine uuids).run (begin db clock) uninterrupted).store.db := by
  obtain ⟨first, begun, start⟩ :=
    begin_shadowed uuids position payload db clock job asked stored unfinished
  obtain ⟨second, lead, continued, shadowed⟩ :=
    shadowed_run uuids position payload _ _ _ events start redelivered
  rw [← run_append] at shadowed
  have waits := shadowed.ready
  rw [loop, shadowed.done completed] at waits
  obtain ⟨prepared, ended⟩ := prepared_end uuids position _ lead waits
    (shadowed.owner ▸ shadowed.storedAlone)
  refine ⟨(first ++ second) ++ advance 0 3, ?_, ?_, ?_, ?_⟩
  · intro event member
    rcases List.mem_append.mp member with earlier | later
    · exact (List.mem_append.mp earlier).elim (begun event) (continued event)
    · exact prepared.uninterrupted event later
  all_goals rw [run_append]
  · exact prepared.ready
  · rw [← shadowed.owner]
    exact ended
  · rw [prepared.roster, shadowed.roster]
    exact ⟨rfl, rfl, rfl⟩

/-- A student number without a name, and again with one. -/
def repeatedNumber : Payload := ⟨3, 2, [⟨"s1", none, none⟩, ⟨"s1", some "Ada", none⟩]⟩

def requestedJob : ImportJob := ⟨3, 2, some 7, .PENDING, 2, 0, none⟩

def requestedTerm : Database ℤ :=
  { freshTerm.db with
    importJobs := .single requestedJob
    outboxMessages := .single
      { id := 4
        aggregateType := "ImportJob"
        aggregateId := 3
        eventType := EventType.CourseBulkImportRequested
        payload := .courseBulkImportRequested 3 2 repeatedNumber.rows
        availableAt := 0
        createdAt := 0 } }

/-- The first row fails, the second creates the student, the handler crashes;
the next one finds the student for both rows. -/
def crashedOnce : List (Event Input Change) :=
  .act 0 (.deliver 0) :: advance 0 4 ++ [.act 0 .crash, .act 1 (.deliver 0)] ++ advance 1 9

theorem redelivery_safe_crashedOnce :
    ∃ uninterrupted, (∀ event ∈ uninterrupted, Uninterrupted 0 event) ∧
      ((machine UuidSource.counting).run (begin requestedTerm 0) uninterrupted).procs 0 = .acked ∧
      CompletedIn ((machine UuidSource.counting).run (begin requestedTerm 0) uninterrupted).store.db 3 ∧
      SameRoster ((machine UuidSource.counting).run (begin requestedTerm 0) crashedOnce).store.db
        ((machine UuidSource.counting).run (begin requestedTerm 0) uninterrupted).store.db := by
  apply redelivery_safe UuidSource.counting requestedTerm 0 0 repeatedNumber requestedJob rfl rfl rfl
    crashedOnce
  · simp [crashedOnce, advance, Redelivered, calm_undisturbed]
  · refine ⟨⟨3, 2, some 7, .COMPLETED, 2, 2, some (.rows [⟨1, "s1", .already, none⟩,
      ⟨2, "s1", .already, none⟩])⟩, by decide, rfl, rfl⟩

end FaceVec.Import
