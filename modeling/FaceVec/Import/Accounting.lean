import FaceVec.Import.Broadcasting

/-!
What an import that completes has reported: an entry for each row, counters
that tally with the entries, and a progress frame at each chunk boundary. Any
number of handlers run over the store, with any faults; only the job itself is
left to one of them.
-/

namespace FaceVec.Import

open Interleaving Courses

variable {K : Type}

def Counts.of (counts : Counts) : ImportRowStatus → Nat
  | .created => counts.created
  | .enrolled => counts.enrolled
  | .already => counts.already
  | .error => counts.failed

def Counts.sum (counts : Counts) : Nat :=
  counts.created + counts.enrolled + counts.already + counts.failed

/-- Each counter is the number of entries with its status. -/
def Tallies (counts : Counts) (report : List ImportRowResult) : Prop :=
  ∀ status, counts.of status = report.countP (·.status = status)

theorem counts_eq (counts other : Counts) (same : ∀ status, counts.of status = other.of status) :
    counts = other := by
  obtain ⟨created, enrolled, already, failed⟩ := counts
  obtain ⟨created', enrolled', already', failed'⟩ := other
  obtain rfl : created = created' := same .created
  obtain rfl : enrolled = enrolled' := same .enrolled
  obtain rfl : already = already' := same .already
  obtain rfl : failed = failed' := same .error
  rfl

theorem add_of (counts : Counts) (status other : ImportRowStatus) :
    (counts.add status).of other = counts.of other + if status = other then 1 else 0 := by
  cases status <;> cases other <;> rfl

theorem tallies_add (counts : Counts) (report : List ImportRowResult) (entry : ImportRowResult)
    (tallies : Tallies counts report) : Tallies (counts.add entry.status) (report ++ [entry]) := by
  intro status
  rw [add_of, tallies status, List.countP_append, List.countP_singleton]
  simp

theorem length_by_status (report : List ImportRowResult) :
    report.countP (·.status = .created) + report.countP (·.status = .enrolled) +
      report.countP (·.status = .already) + report.countP (·.status = .error) = report.length := by
  induction report with
  | nil => rfl
  | cons entry rest ih =>
      simp only [List.countP_cons, List.length_cons, ← ih]
      cases entry.status <;> simp <;> omega

theorem tallies_sum (counts : Counts) (report : List ImportRowResult)
    (tallies : Tallies counts report) : counts.sum = report.length := by
  rw [← length_by_status, ← tallies, ← tallies, ← tallies, ← tallies]
  rfl

/-- The chunk boundaries among the first `passed` rows. -/
def boundaries (total passed : Nat) : List Nat :=
  (List.range' 1 passed).filter fun position => position % CHUNK_SIZE = 0 ∨ position = total

theorem boundaries_succ (total passed : Nat) :
    boundaries total (passed + 1) = boundaries total passed ++
      if (passed + 1) % CHUNK_SIZE = 0 ∨ passed + 1 = total then [passed + 1] else [] := by
  rw [boundaries, List.range'_1_concat, List.filter_append, Nat.add_comm 1, ← boundaries]
  split <;> simp_all

theorem mem_boundaries (total passed position : Nat) :
    position ∈ boundaries total passed ↔ 0 < position ∧ position ≤ passed ∧
      (position % CHUNK_SIZE = 0 ∨ position = total) := by
  simp only [boundaries, List.mem_filter, List.mem_range'_1, decide_eq_true_eq]
  omega

theorem boundaries_increasing (total passed : Nat) :
    (boundaries total passed).Pairwise (· < ·) :=
  List.Pairwise.filter _ (List.pairwise_lt_range' 1 Nat.one_pos)

theorem boundaries_last (total : Nat) (nonempty : 0 < total) :
    (boundaries total total).getLast? = some total := by
  obtain ⟨before, rfl⟩ := Nat.exists_eq_add_one_of_ne_zero nonempty.ne'
  rw [boundaries_succ, if_pos (Or.inr rfl), List.getLast?_concat]

def progressFrames (id : Uuid) (frames : List ImportProgressEvent) : List ImportProgressEvent :=
  frames.filter fun frame => frame.type = "import.progress" ∧ frame.jobId = id

/-- The report and the counters of a completed import of `payload`. -/
structure Accounts (payload : Payload) (counts : Counts) (report : List ImportRowResult) : Prop where
  entries : report.length = payload.rows.length
  rows : ∀ index (within : index < payload.rows.length), ∃ entry, report[index]? = some entry ∧
    entry.row = index + 1 ∧ entry.studentNumber = payload.rows[index].studentNumber
  total : counts.created + counts.enrolled + counts.already + counts.failed = payload.rows.length
  tallies : ∀ status, counts.of status = report.countP (·.status = status)

/-- The progress frames of a completed import of `total` rows. -/
structure Broadcasts (total : Nat) (counts : Counts) (frames : List ImportProgressEvent) :
    Prop where
  increasing : frames.Pairwise (·.processedRows < ·.processedRows)
  due : ∀ frame ∈ frames, frame.processedRows % CHUNK_SIZE = 0 ∨ frame.processedRows = total
  sums : ∀ frame ∈ frames, frame.counts.created + frame.counts.enrolled + frame.counts.already +
    frame.counts.failed = frame.processedRows
  last : 0 < total → ∃ frame, frames.getLast? = some frame ∧ frame.processedRows = total ∧
    frame.counts = counts

/-- One row's transaction: the state it ran in, and how it fared. -/
structure Attempt (K : Type) where
  row : BulkImportRow
  db : Database K
  now : Instant
  fate : Fate

def attemptOf (input : Input) (store : Store K) : Handler → Option (Attempt K)
  | .importing work =>
      match work.remaining, input with
      | row :: _, .proceed fate => some ⟨row, store.db, store.clock, fate⟩
      | _, _ => none
  | _ => none

/-- The rows that the handler `index` imports along a run. -/
def attempted (index : Nat) (system : State K) : Event Input Change → Option (Attempt K)
  | .act acting input =>
      if acting = index then attemptOf input system.store (system.procs index) else none
  | .env _ => none

section Attempts

variable (uuids : UuidSource)

def Attempt.outcome (courseId : Uuid) (attempt : Attempt K) : Except Failure ResolveResult :=
  (transaction (resolveAndLinkStudent uuids attempt.now courseId (importInput attempt.row))
    attempt.fate.chances attempt.fate.ending attempt.db).1

/-- The report of the attempts so far. -/
def entries (courseId : Uuid) (attempts : List (Attempt K)) : List ImportRowResult :=
  attempts.mapIdx fun index attempt => rowResult index attempt.row (attempt.outcome uuids courseId)

theorem entries_concat (courseId : Uuid) (attempts : List (Attempt K)) (attempt : Attempt K) :
    entries uuids courseId (attempts ++ [attempt]) = entries uuids courseId attempts ++
      [rowResult attempts.length attempt.row (attempt.outcome uuids courseId)] :=
  List.mapIdx_concat

/-- A run of `process` for `payload` that has counted and reported its rows so far. -/
structure Counted (payload : Payload) (attempts : List (Attempt K)) (work : Work) : Prop where
  under : Under payload work
  tallies : Tallies work.counts work.report
  rows : work.handled = attempts.map (·.row)
  report : work.report = entries uuids payload.courseId attempts

end Attempts

/-- The frames sent at the boundaries among the first `passed` rows. -/
structure ChunksSent (work : Work) (passed : Nat) (frames : List ImportProgressEvent) : Prop where
  positions : frames.map (·.processedRows) = boundaries work.total passed
  tallies : ∀ frame ∈ frames, Tallies frame.counts (work.report.take frame.processedRows)

section Reports

variable (uuids : UuidSource) (payload : Payload) (attempts : List (Attempt K)) (work : Work)
  (frames : List ImportProgressEvent)

theorem report_length (accounted : Accounted work) : work.report.length = work.processed := by
  have positions := congrArg List.length accounted.positions
  rwa [List.length_map, List.length_range'] at positions

theorem counted_accounts (counted : Counted uuids payload attempts work) (done : work.remaining = []) :
    Accounts payload work.counts work.report := by
  obtain ⟨⟨rfl, accounted⟩, tallies, _⟩ := counted
  have handled : work.payload.rows = work.handled := by
    rw [accounted.split, done, List.append_nil]
  have length := report_length work accounted
  constructor
  · rw [length, handled, Work.processed]
  · intro index within
    have inReport : index < work.report.length := by rwa [length, Work.processed, ← handled]
    refine ⟨work.report[index], List.getElem?_eq_getElem inReport, ?_, ?_⟩
    · have row := congrArg (·[index]?) accounted.positions
      simp only [List.getElem?_map, List.getElem?_eq_getElem inReport, Option.map_some] at row
      rw [List.getElem?_range' (by rwa [length] at inReport)] at row
      simpa [Nat.add_comm] using row
    · have number := congrArg (·[index]?) accounted.numbers
      rw [← handled] at number
      simpa [List.getElem?_eq_getElem inReport, List.getElem?_eq_getElem within] using number
  · exact (tallies_sum _ _ tallies).trans (by rw [length, handled, Work.processed])
  · exact tallies

theorem sent_broadcasts (counted : Counted uuids payload attempts work) (done : work.remaining = [])
    (sent : ChunksSent work work.processed frames) :
    Broadcasts payload.rows.length work.counts frames := by
  obtain ⟨⟨rfl, accounted⟩, tallies, _⟩ := counted
  have all : work.processed = work.payload.rows.length := by
    rw [accounted.split, done, List.append_nil, Work.processed]
  have length := report_length work accounted
  have positions := sent.positions
  rw [all, Work.total] at positions
  have listed : ∀ frame ∈ frames,
      frame.processedRows ∈ boundaries work.payload.rows.length work.payload.rows.length := by
    intro frame member
    rw [← positions]
    exact List.mem_map_of_mem member
  constructor
  · have increasing := boundaries_increasing work.payload.rows.length work.payload.rows.length
    rw [← positions] at increasing
    exact List.pairwise_map.mp increasing
  · exact fun frame member => ((mem_boundaries _ _ _).mp (listed frame member)).2.2
  · intro frame member
    have within := ((mem_boundaries _ _ _).mp (listed frame member)).2.1
    refine (tallies_sum _ _ (sent.tallies frame member)).trans ?_
    rw [List.length_take, length, all]
    exact Nat.min_eq_left within
  · intro nonempty
    have last := boundaries_last work.payload.rows.length nonempty
    rw [← positions, List.getLast?_map] at last
    obtain ⟨frame, latest, position⟩ := Option.map_eq_some_iff.mp last
    refine ⟨frame, latest, position, counts_eq _ _ fun status => ?_⟩
    have tally := sent.tallies frame (List.mem_of_getLast? latest) status
    rwa [position, ← all, ← length, List.take_length, ← tallies status] at tally

end Reports

/-- Other handlers take no step while they are at work on the job. -/
def Apart (index : Nat) (id : Uuid) (system : State K) : Event Input Change → Prop
  | .act other _ =>
      other ≠ index → ∀ payload, payloadOf (system.procs other) = some payload → payload.jobId ≠ id
  | .env _ => True

/-- No run has completed the job. -/
def Uncompleted (stored : Option ImportJob) : Prop :=
  ∀ job, stored = some job → job.status ≠ .COMPLETED

/-- A report and counters that account for all rows, in the frames and, where the
job is completed, in its row. -/
structure Reported (uuids : UuidSource) (payload : Payload) (attempts : List (Attempt K))
    (frames : List ImportProgressEvent) (stored : Option ImportJob) (counts : Counts)
    (report : List ImportRowResult) : Prop where
  accounts : Accounts payload counts report
  rows : attempts.map (·.row) = payload.rows
  entries : report = entries uuids payload.courseId attempts
  broadcasts : Broadcasts payload.rows.length counts frames
  stored : ∀ job, stored = some job → job.status = .COMPLETED → job.report = some (.rows report)

def Settles (uuids : UuidSource) (payload : Payload) (attempts : List (Attempt K))
    (frames : List ImportProgressEvent) (stored : Option ImportJob) : Prop :=
  Uncompleted stored ∨
    ∃ counts report, Reported uuids payload attempts frames stored counts report

/-- What holds of a handler in the run of `process` that began with the reset,
with the rows it has tried and the progress frames it has sent. -/
def Tracked (uuids : UuidSource) (payload : Payload) (attempts : List (Attempt K))
    (frames : List ImportProgressEvent) (stored : Option ImportJob) : Handler → Prop
  | .resetting other => other = payload ∧ attempts = [] ∧ frames = [] ∧ Uncompleted stored
  | .importing work => Counted uuids payload attempts work ∧ ChunksSent work work.processed frames ∧
      Uncompleted stored
  | .persisting work | .announcing work => Counted uuids payload attempts work ∧
      (∃ passed, work.processed = passed + 1 ∧ ChunksSent work passed frames) ∧ Due work ∧
      Uncompleted stored
  | .completing work => Counted uuids payload attempts work ∧ work.remaining = [] ∧
      ChunksSent work work.processed frames ∧ Uncompleted stored
  | .announcingCompleted work => work.payload = payload ∧
      Reported uuids payload attempts frames stored work.counts work.report
  | .acking other | .failing other _ | .announcingFailed other _ => other = payload ∧
      Settles uuids payload attempts frames stored
  | .acked | .stopped => Settles uuids payload attempts frames stored
  | .idle | .reading _ => False

theorem progressFrames_concat (id : Uuid) (first : Nat) (frames : List ImportProgressEvent)
    (event : ImportProgressEvent) (within : first ≤ frames.length) :
    progressFrames id ((frames ++ [event]).drop first) = progressFrames id (frames.drop first) ++
      if event.type = "import.progress" ∧ event.jobId = id then [event] else [] := by
  rw [List.drop_append_of_le_length within, progressFrames, List.filter_append, ← progressFrames]
  by_cases ofJob : event.type = "import.progress" ∧ event.jobId = id <;> simp [ofJob]

theorem found_rows (db after : Database K) (id other : Uuid) (data : JobData)
    (rows : after.importJobs.rows = db.importJobs.rows.map (writeJob other data)) :
    findImportJob after id = (findImportJob db id).map (writeJob other data) := by
  have alike : ((· == id) ∘ (·.id)) ∘ writeJob other data = ((· == id) ∘ (·.id)) :=
    funext fun job => congrArg (· == id) (writeJob_id other data job)
  rw [findImportJob, rows, List.find?_map]
  exact congrArg (Option.map _) (congrArg (db.importJobs.rows.find? ·) alike)

theorem writeJob_uncompleted (id : Uuid) (data : JobData) (stored : Option ImportJob)
    (status : data.status ≠ some .COMPLETED) (uncompleted : Uncompleted stored) :
    Uncompleted (stored.map (writeJob id data)) := by
  intro job written
  obtain ⟨old, found, rfl⟩ := Option.map_eq_some_iff.mp written
  have before := uncompleted old found
  by_cases target : old.id = id
  · rw [writeJob_target id data old target]
    cases given : data.status with
    | none => simpa [JobData.write, given] using before
    | some value =>
        have other : value ≠ .COMPLETED := fun same => status (by rw [given, same])
        simpa [JobData.write, given] using other
  · rwa [writeJob_other id data old target]

section Tracking

variable (uuids : UuidSource) (payload : Payload) (attempts : List (Attempt K))
  (frames : List ImportProgressEvent) (stored : Option ImportJob)

theorem loop_tracked (work : Work) (counted : Counted uuids payload attempts work)
    (sent : ChunksSent work work.processed frames) (uncompleted : Uncompleted stored) :
    Tracked uuids payload attempts frames stored (loop work) := by
  unfold loop
  split
  · next done => exact ⟨counted, done, sent, uncompleted⟩
  · exact ⟨counted, sent, uncompleted⟩

theorem boundary_tracked (work : Work) (passed : Nat)
    (counted : Counted uuids payload attempts work) (processed : work.processed = passed + 1)
    (sent : ChunksSent work passed frames) (uncompleted : Uncompleted stored) :
    Tracked uuids payload attempts frames stored (boundary work) := by
  unfold boundary
  split
  · next due => exact ⟨counted, ⟨passed, processed, sent⟩, due, uncompleted⟩
  · next idle =>
      refine loop_tracked uuids payload attempts frames stored work counted ⟨?_, sent.tallies⟩ uncompleted
      rw [processed] at idle ⊢
      rw [boundaries_succ, if_neg idle, List.append_nil, sent.positions]

theorem importRow_counted (now : Instant) (work : Work) (row : BulkImportRow)
    (rest : List BulkImportRow) (fate : Fate) (db : Database K)
    (counted : Counted uuids payload attempts work) (waits : work.remaining = row :: rest) :
    Counted uuids payload (attempts ++ [⟨row, db, now, fate⟩])
      (importRow uuids now work row rest fate db).1 := by
  have processed : work.processed = attempts.length := by
    rw [Work.processed, counted.rows, List.length_map]
  constructor
  · exact ⟨counted.under.payload,
      importRow_accounted uuids now work row rest fate db counted.under.accounted waits⟩
  · simp only [importRow]
    exact tallies_add work.counts work.report _ counted.tallies
  · simp [importRow, counted.rows]
  · rw [entries_concat, ← counted.report, ← processed, ← counted.under.payload]
    rfl

/-- The frames sent so far count rows that are in the report already. -/
theorem importRow_sent (now : Instant) (work : Work) (row : BulkImportRow)
    (rest : List BulkImportRow) (fate : Fate) (db : Database K)
    (counted : Counted uuids payload attempts work) (sent : ChunksSent work work.processed frames) :
    ChunksSent (importRow uuids now work row rest fate db).1 work.processed frames := by
  refine ⟨sent.positions, fun frame member => ?_⟩
  have listed : frame.processedRows ∈ boundaries work.total work.processed := by
    rw [← sent.positions]
    exact List.mem_map_of_mem member
  have within := ((mem_boundaries _ _ _).mp listed).2.1
  simp only [importRow]
  rw [List.take_append_of_le_length (by rwa [report_length work counted.under.accounted])]
  exact sent.tallies frame member

theorem announcing_sent (work : Work) (passed : Nat) (counted : Counted uuids payload attempts work)
    (processed : work.processed = passed + 1) (due : Due work)
    (sent : ChunksSent work passed frames) :
    ChunksSent work work.processed (frames ++ [progressEvent work]) := by
  constructor
  · rw [Due, processed] at due
    rw [processed, boundaries_succ, if_pos due, List.map_append, sent.positions, ← processed]
    rfl
  · intro frame member
    rcases List.mem_append.mp member with earlier | last
    · exact sent.tallies frame earlier
    · obtain rfl := List.mem_singleton.mp last
      change Tallies work.counts (work.report.take work.processed)
      rw [← report_length work counted.under.accounted, List.take_length]
      exact counted.tallies

end Tracking

/-- An update of the job row, by where it leads and what is found afterwards. -/
theorem update_found (id : Uuid) (data : JobData) (fate : Fate) (store : Store K)
    (continues : ImportJob → Handler) (fails : Failure → Handler) :
    (findImportJob (update id data fate store continues fails).1.db id = findImportJob store.db id ∧
        ∃ failure, (update id data fate store continues fails).2 = fails failure) ∨
      (findImportJob (update id data fate store continues fails).1.db id =
          (findImportJob store.db id).map (writeJob id data) ∧
        ((∃ job, (update id data fate store continues fails).2 = continues job) ∨
          ∃ failure, (update id data fate store continues fails).2 = fails failure)) := by
  rcases update_cases id data fate store continues fails with
    ⟨same, failed⟩ | ⟨_, rows, _, ⟨job, continued⟩ | ⟨failure, failed, _⟩⟩
  · exact Or.inl ⟨by rw [same], failed⟩
  · exact Or.inr ⟨found_rows _ _ id id data rows, Or.inl ⟨job, continued⟩⟩
  · exact Or.inr ⟨found_rows _ _ id id data rows, Or.inr ⟨failure, failed⟩⟩

section Steps

variable (uuids : UuidSource) (payload : Payload) (attempts : List (Attempt K))
  (frames : List ImportProgressEvent)

/-- An update on the way, while the job is not completed. -/
theorem updating_tracked (data : JobData) (fate : Fate) (store : Store K) (next : Handler)
    (status : data.status ≠ some .COMPLETED)
    (uncompleted : Uncompleted (findImportJob store.db payload.jobId))
    (continues : ∀ stored, Uncompleted stored → Tracked uuids payload attempts frames stored next) :
    Tracked uuids payload attempts frames
      (findImportJob (update payload.jobId data fate store (fun _ => next) (fail payload)).1.db
        payload.jobId)
      (update payload.jobId data fate store (fun _ => next) (fail payload)).2 := by
  rcases update_found payload.jobId data fate store (fun _ => next) (fail payload) with
    ⟨same, failure, failed⟩ | ⟨written, leads⟩
  · rw [same, failed]
    exact ⟨rfl, Or.inl uncompleted⟩
  · have kept := writeJob_uncompleted payload.jobId data _ status uncompleted
    rw [written]
    rcases leads with ⟨_, continued⟩ | ⟨failure, failed⟩
    · rw [continued]
      exact continues _ kept
    · rw [failed]
      exact ⟨rfl, Or.inl kept⟩

theorem completing_tracked (fate : Fate) (store : Store K) (work : Work)
    (tracked : Tracked uuids payload attempts frames (findImportJob store.db payload.jobId)
      (.completing work)) :
    Tracked uuids payload attempts frames
      (findImportJob (handle uuids (.completing work) fate store).1.db payload.jobId)
      (handle uuids (.completing work) fate store).2 := by
  obtain ⟨counted, done, sent, uncompleted⟩ := tracked
  have owner := counted.under.payload
  simp only [handle]
  rcases update_found work.payload.jobId (completedData work) fate store
      (fun _ => .announcingCompleted work) (fail work.payload) with
    ⟨same, failure, failed⟩ | ⟨written, leads⟩
  · rw [← owner, same, failed, owner]
    exact ⟨rfl, Or.inl uncompleted⟩
  · have reported : Reported uuids payload attempts frames
        ((findImportJob store.db payload.jobId).map (writeJob payload.jobId (completedData work)))
        work.counts work.report := by
      refine ⟨counted_accounts uuids payload attempts work counted done, ?_, counted.report,
        sent_broadcasts uuids payload attempts work frames counted done sent, fun job stored _ => ?_⟩
      · rw [← counted.rows, ← owner, counted.under.accounted.split, done, List.append_nil]
      obtain ⟨old, found, rfl⟩ := Option.map_eq_some_iff.mp stored
      rw [writeJob_target _ _ old (by simpa using List.find?_some found)]
      rfl
    rw [owner] at written
    rw [owner, written]
    rcases leads with ⟨_, continued⟩ | ⟨failure, failed⟩
    · rw [owner] at continued
      rw [continued]
      exact ⟨owner, reported⟩
    · rw [owner] at failed
      rw [failed]
      exact ⟨rfl, Or.inr ⟨_, _, reported⟩⟩

theorem failing_tracked (fate : Fate) (store : Store K) (error : String)
    (settles : Settles uuids payload attempts frames (findImportJob store.db payload.jobId)) :
    Tracked uuids payload attempts frames
      (findImportJob (handle uuids (.failing payload error) fate store).1.db payload.jobId)
      (handle uuids (.failing payload error) fate store).2 := by
  simp only [handle]
  rcases update_found payload.jobId (failedData error) fate store
      (fun job => .announcingFailed payload job.processedRows) (fun _ => .acked) with
    ⟨same, failure, failed⟩ | ⟨written, leads⟩
  · rw [same, failed]
    exact settles
  · have marked : Uncompleted ((findImportJob store.db payload.jobId).map
        (writeJob payload.jobId (failedData error))) := by
      intro job stored
      obtain ⟨old, found, rfl⟩ := Option.map_eq_some_iff.mp stored
      rw [writeJob_target _ _ old (by simpa using List.find?_some found)]
      simp [JobData.write, failedData]
    rw [written]
    rcases leads with ⟨_, continued⟩ | ⟨failure, failed⟩
    · rw [continued]
      exact ⟨rfl, Or.inl marked⟩
    · rw [failed]
      exact Or.inl marked

end Steps

/-- The handler is in the run that began when `first` frames had been sent. -/
structure Traced (uuids : UuidSource) (payload : Payload) (attempts : List (Attempt K)) (first : Nat)
    (store : Store K) (handler : Handler) : Prop where
  within : first ≤ store.frames.length
  tracked : Tracked uuids payload attempts (progressFrames payload.jobId (store.frames.drop first))
    (findImportJob store.db payload.jobId) handler

theorem broadcast_sent (event : ImportProgressEvent) (fate : Fate) (store : Store K)
    (next : Handler) (fails : Failure → Handler) :
    broadcast event fate store next fails =
        ({ store with frames := store.frames ++ [event] }, next) ∨
      ∃ failure, broadcast event fate store next fails = (store, fails failure) := by
  unfold broadcast
  cases faultOf fate.chances with
  | none => exact Or.inl rfl
  | some failure => exact Or.inr ⟨failure, rfl⟩

section Steps

variable (uuids : UuidSource) (payload : Payload) (attempts : List (Attempt K)) (first : Nat)
  (store : Store K)

theorem broadcasting_traced (event : ImportProgressEvent) (fate : Fate) (next : Handler)
    (fails : Failure → Handler) (within : first ≤ store.frames.length)
    (sends : Tracked uuids payload attempts
      (progressFrames payload.jobId (store.frames.drop first) ++
        if event.type = "import.progress" ∧ event.jobId = payload.jobId then [event] else [])
      (findImportJob store.db payload.jobId) next)
    (breaks : ∀ failure, Tracked uuids payload attempts
      (progressFrames payload.jobId (store.frames.drop first))
      (findImportJob store.db payload.jobId) (fails failure)) :
    Traced uuids payload attempts first (broadcast event fate store next fails).1
      (broadcast event fate store next fails).2 := by
  rcases broadcast_sent event fate store next fails with sent | ⟨failure, failed⟩
  · rw [sent]
    refine ⟨?_, ?_⟩
    · rw [List.length_append]
      exact within.trans (Nat.le_add_right _ _)
    · rw [progressFrames_concat _ _ _ _ within]
      exact sends
  · rw [failed]
    exact ⟨within, breaks failure⟩

theorem attemptOf_none (input : Input) (handler : Handler)
    (quiet : (∀ work, handler ≠ .importing work) ∨ ∀ fate, input ≠ .proceed fate) :
    attemptOf input store handler = none := by
  cases handler with
  | importing work =>
      rcases quiet with elsewhere | waiting
      · exact absurd rfl (elsewhere work)
      · cases input with
        | proceed fate => exact absurd rfl (waiting fate)
        | _ => cases remains : work.remaining <;> simp only [attemptOf, remains]
  | _ => rfl

theorem importing_traced (work : Work) (fate : Fate)
    (traced : Traced uuids payload attempts first store (.importing work)) :
    Traced uuids payload
      (attempts ++ (attemptOf (.proceed fate) store (.importing work)).toList) first
      (handle uuids (.importing work) fate store).1
      (handle uuids (.importing work) fate store).2 := by
  obtain ⟨within, counted, sent, uncompleted⟩ := traced
  cases waits : work.remaining with
  | nil =>
      have stays : handle uuids (.importing work) fate store = (store, .importing work) := by
        obtain ⟨owner, done, remaining, counts, report⟩ := work
        obtain rfl : remaining = [] := waits
        rfl
      have none_ : attemptOf (.proceed fate) store (.importing work) = none := by
        simp only [attemptOf, waits]
      rw [stays, none_, Option.toList_none, List.append_nil]
      exact ⟨within, counted, sent, uncompleted⟩
  | cons row rest =>
      have attempt : attemptOf (.proceed fate) store (.importing work) =
          some ⟨row, store.db, store.clock, fate⟩ := by
        simp only [attemptOf, waits]
      rw [handle_importing uuids work row rest fate store waits, attempt, Option.toList_some]
      refine ⟨within, ?_⟩
      have jobs := (importRow_jobs uuids store.clock work row rest fate store.db).1
      rw [findImportJob_same _ _ payload.jobId jobs]
      apply boundary_tracked _ _ _ _ _ _ work.processed
      · exact importRow_counted uuids payload attempts store.clock work row rest fate store.db counted
          waits
      · simp [importRow, Work.processed]
      · exact importRow_sent uuids payload attempts _ store.clock work row rest fate store.db counted
          sent
      · exact uncompleted

theorem handle_quiet (handler : Handler) (fate : Fate)
    (traced : Traced uuids payload attempts first store handler)
    (quiet : ∀ work, handler ≠ .importing work) :
    Traced uuids payload attempts first (handle uuids handler fate store).1
      (handle uuids handler fate store).2 := by
  have ⟨within, tracked⟩ := traced
  cases handler with
  | idle => exact tracked.elim
  | reading other => exact tracked.elim
  | importing work => exact absurd rfl (quiet work)
  | resetting other =>
      obtain ⟨rfl, rfl, silent, uncompleted⟩ := tracked
      have none_ : ChunksSent (Work.start other) 0
          (progressFrames other.jobId (store.frames.drop first)) := by
        rw [silent]
        exact ⟨rfl, fun _ member => by contradiction⟩
      have counted : Counted uuids other ([] : List (Attempt K)) (Work.start other) :=
        ⟨⟨rfl, start_accounted other⟩, fun status => by cases status <;> rfl, rfl, rfl⟩
      exact ⟨within, updating_tracked uuids other [] _ resetData fate store _ (by decide) uncompleted
        fun stored => loop_tracked uuids other [] _ stored (Work.start other) counted none_⟩
  | persisting work =>
      obtain ⟨counted, sent, due, uncompleted⟩ := tracked
      obtain rfl := counted.under.payload
      exact ⟨within, updating_tracked uuids work.payload attempts _ (chunkData work) fate store _
        (by simp [chunkData]) uncompleted fun _ kept => ⟨counted, sent, due, kept⟩⟩
  | announcing work =>
      obtain ⟨counted, ⟨passed, processed, sent⟩, due, uncompleted⟩ := tracked
      have owner := counted.under.payload
      apply broadcasting_traced _ _ _ _ _ _ _ _ _ within
      · rw [if_pos ⟨rfl, congrArg (·.jobId) owner⟩]
        exact loop_tracked uuids payload attempts _ _ work counted
          (announcing_sent uuids payload attempts _ work passed counted processed due sent) uncompleted
      · exact fun failure => ⟨owner, Or.inl uncompleted⟩
  | completing work => exact ⟨within, completing_tracked uuids payload attempts _ fate store work tracked⟩
  | announcingCompleted work =>
      obtain ⟨owner, reported⟩ := tracked
      have settles : Settles uuids payload attempts
          (progressFrames payload.jobId (store.frames.drop first))
          (findImportJob store.db payload.jobId) := Or.inr ⟨_, _, reported⟩
      apply broadcasting_traced _ _ _ _ _ _ _ _ _ within
      · rw [if_neg (by simp [completedEvent]), List.append_nil]
        exact ⟨owner, settles⟩
      · exact fun failure => ⟨owner, settles⟩
  | acking other =>
      simp only [handle]
      cases faultOf fate.chances with
      | none => exact ⟨within, tracked.2⟩
      | some failure => exact ⟨within, tracked⟩
  | failing other error =>
      obtain ⟨rfl, settles⟩ := tracked
      exact ⟨within, failing_tracked uuids other attempts _ fate store error settles⟩
  | announcingFailed other processedRows =>
      apply broadcasting_traced _ _ _ _ _ _ _ _ _ within
      · rw [if_neg (by simp [failedEvent]), List.append_nil]
        exact tracked.2
      · exact fun failure => tracked.2
  | acked => exact traced
  | stopped => exact traced

theorem handle_traced (handler : Handler) (fate : Fate)
    (traced : Traced uuids payload attempts first store handler) :
    Traced uuids payload (attempts ++ (attemptOf (.proceed fate) store handler).toList) first
      (handle uuids handler fate store).1 (handle uuids handler fate store).2 := by
  by_cases imports : ∃ work, handler = .importing work
  · obtain ⟨work, rfl⟩ := imports
    exact importing_traced uuids payload attempts first store work fate traced
  · have quiet : ∀ work, handler ≠ .importing work := fun work same => imports ⟨work, same⟩
    rw [attemptOf_none store _ handler (Or.inl quiet), Option.toList_none, List.append_nil]
    exact handle_quiet uuids payload attempts first store handler fate traced quiet

end Steps

section Runs

variable (uuids : UuidSource) (payload : Payload) (attempts : List (Attempt K)) (first : Nat)

theorem tracked_settles (frames : List ImportProgressEvent) (stored : Option ImportJob)
    (handler : Handler) (tracked : Tracked uuids payload attempts frames stored handler) :
    Settles uuids payload attempts frames stored := by
  cases handler with
  | idle => exact tracked.elim
  | reading => exact tracked.elim
  | resetting => exact Or.inl tracked.2.2.2
  | importing => exact Or.inl tracked.2.2
  | persisting => exact Or.inl tracked.2.2.2
  | announcing => exact Or.inl tracked.2.2.2
  | completing => exact Or.inl tracked.2.2.2
  | announcingCompleted => exact Or.inr ⟨_, _, tracked.2⟩
  | acking => exact tracked.2
  | failing => exact tracked.2
  | announcingFailed => exact tracked.2
  | acked => exact tracked
  | stopped => exact tracked

/-- Where no completed job appears, nothing changes for a handler. -/
theorem tracked_mono (frames : List ImportProgressEvent) (stored after : Option ImportJob)
    (handler : Handler)
    (keeps : ∀ job, after = some job → job.status = .COMPLETED → stored = some job)
    (tracked : Tracked uuids payload attempts frames stored handler) :
    Tracked uuids payload attempts frames after handler := by
  have open_ : Uncompleted stored → Uncompleted after :=
    fun before job found completed => before job (keeps job found completed) completed
  have reported : ∀ counts report, Reported uuids payload attempts frames stored counts report →
      Reported uuids payload attempts frames after counts report :=
    fun counts report before => ⟨before.accounts, before.rows, before.entries, before.broadcasts,
      fun job found completed => before.stored job (keeps job found completed) completed⟩
  have settles : Settles uuids payload attempts frames stored →
      Settles uuids payload attempts frames after :=
    Or.imp open_ fun ⟨counts, report, before⟩ => ⟨counts, report, reported _ _ before⟩
  cases handler with
  | idle => exact tracked.elim
  | reading => exact tracked.elim
  | resetting => exact ⟨tracked.1, tracked.2.1, tracked.2.2.1, open_ tracked.2.2.2⟩
  | importing => exact ⟨tracked.1, tracked.2.1, open_ tracked.2.2⟩
  | persisting => exact ⟨tracked.1, tracked.2.1, tracked.2.2.1, open_ tracked.2.2.2⟩
  | announcing => exact ⟨tracked.1, tracked.2.1, tracked.2.2.1, open_ tracked.2.2.2⟩
  | completing => exact ⟨tracked.1, tracked.2.1, tracked.2.2.1, open_ tracked.2.2.2⟩
  | announcingCompleted => exact ⟨tracked.1, reported _ _ tracked.2⟩
  | acking => exact ⟨tracked.1, settles tracked.2⟩
  | failing => exact ⟨tracked.1, settles tracked.2⟩
  | announcingFailed => exact ⟨tracked.1, settles tracked.2⟩
  | acked => exact settles tracked
  | stopped => exact settles tracked

theorem exec_traced (input : Input) (store : Store K) (handler : Handler)
    (traced : Traced uuids payload attempts first store handler) :
    Traced uuids payload (attempts ++ (attemptOf input store handler).toList) first
      (exec uuids input store handler).1 (exec uuids input store handler).2 := by
  unfold exec
  split
  · exact traced.tracked.elim
  · exact traced.tracked.elim
  · rw [attemptOf_none store _ handler (Or.inr fun _ same => by cases same), Option.toList_none, List.append_nil]
    exact ⟨traced.within, tracked_settles uuids payload attempts _ _ handler traced.tracked⟩
  · exact handle_traced uuids payload attempts first store handler _ traced
  · rw [attemptOf_none store _ handler (Or.inr fun _ same => by cases same), Option.toList_none, List.append_nil]
    exact traced

/-- The frames that the consumer sends: of the three types, each with its status. -/
inductive Typed (event : ImportProgressEvent) : Prop where
  | progress : event.type = "import.progress" → event.status = "PROCESSING" → Typed event
  | completed : event.type = "import.completed" → event.status = "COMPLETED" → Typed event
  | failed : event.type = "import.failed" → event.status = "FAILED" → Typed event

/-- A step sends at most one frame, about the handler's own job. -/
def Sends (store after : Store K) (handler : Handler) : Prop :=
  after.frames = store.frames ∨ ∃ event payload, payloadOf handler = some payload ∧
    event.jobId = payload.jobId ∧ Typed event ∧ after.frames = store.frames ++ [event]

theorem broadcast_sends (event : ImportProgressEvent) (fate : Fate) (store : Store K)
    (handler next : Handler) (fails : Failure → Handler) (payload : Payload)
    (owner : payloadOf handler = some payload) (named : event.jobId = payload.jobId)
    (typed : Typed event) : Sends store (broadcast event fate store next fails).1 handler := by
  rcases broadcast_sent event fate store next fails with sent | ⟨failure, failed⟩
  · exact Or.inr ⟨event, payload, owner, named, typed, by rw [sent]⟩
  · exact Or.inl (by rw [failed])

theorem handle_sends (handler : Handler) (fate : Fate) (store : Store K) :
    Sends store (handle uuids handler fate store).1 handler := by
  cases handler with
  | reading payload =>
      left
      simp only [handle]
      split
      · rfl
      · split
        · rfl
        · split <;> rfl
  | importing work =>
      left
      obtain ⟨payload, done, remaining, counts, report⟩ := work
      cases remaining <;> rfl
  | announcing work => exact broadcast_sends _ _ _ _ _ _ work.payload rfl rfl (.progress rfl rfl)
  | announcingCompleted work =>
      exact broadcast_sends _ _ _ _ _ _ work.payload rfl rfl (.completed rfl rfl)
  | announcingFailed payload processedRows =>
      exact broadcast_sends _ _ _ _ _ _ payload rfl rfl (.failed rfl rfl)
  | acking payload =>
      left
      simp only [handle]
      split <;> rfl
  | _ => exact Or.inl rfl

theorem exec_sends (input : Input) (store : Store K) (handler : Handler) :
    Sends store (exec uuids input store handler).1 handler := by
  unfold exec
  split
  · split <;> exact Or.inl rfl
  · exact Or.inl rfl
  · exact Or.inl rfl
  · exact handle_sends uuids handler _ store
  · exact Or.inl rfl

/-- What the handler of another job does to the frames and to this job. -/
theorem exec_apart (input : Input) (store : Store K) (handler : Handler) (id : Uuid)
    (apart : ∀ other, payloadOf handler = some other → other.jobId ≠ id)
    (within : first ≤ store.frames.length) :
    first ≤ (exec uuids input store handler).1.frames.length ∧
      progressFrames id ((exec uuids input store handler).1.frames.drop first) =
        progressFrames id (store.frames.drop first) ∧
      findImportJob (exec uuids input store handler).1.db id = findImportJob store.db id := by
  rw [← and_assoc]
  constructor
  · rcases exec_sends uuids input store handler with
      same | ⟨event, payload, owner, named, _, sent⟩
    · rw [same]
      exact ⟨within, rfl⟩
    · rw [sent, progressFrames_concat _ _ _ _ within, if_neg, List.append_nil, List.length_append]
      · exact ⟨within.trans (Nat.le_add_right _ _), rfl⟩
      · exact fun same => apart payload owner (named.symm.trans same.2)
  · obtain ⟨_, kept | ⟨other, data, writes, rows⟩⟩ := effect_jobs store _ handler _ input
      (exec_effect uuids store input handler)
    · rw [findImportJob, kept]
      rfl
    · obtain ⟨payload, owner, rfl⟩ := writing_payload handler other writes
      rw [found_rows _ _ id _ data rows]
      cases found : findImportJob store.db id with
      | none => rfl
      | some job =>
          have named : job.id = id := by simpa using List.find?_some found
          rw [Option.map_some, writeJob_other]
          exact fun same => apart payload owner (same.symm.trans named)

theorem ambient_completed (change : Change) (store : Store K) (id : Uuid) (job : ImportJob)
    (found : findImportJob (ambient uuids change store).db id = some job)
    (completed : job.status = .COMPLETED) : findImportJob store.db id = some job := by
  cases change with
  | tick milliseconds => exact found
  | request courseId actorId rows fate =>
      rcases request_cases uuids store courseId actorId rows fate with same | ⟨added, created⟩
      · rwa [same] at found
      · obtain ⟨middle, message, _, appended, announced⟩ := created.announced
        rw [findImportJob, announced.frame, appended, List.find?_append] at found
        rcases Option.or_eq_some_iff.mp found with before | ⟨_, new⟩
        · exact before
        · obtain rfl := List.mem_singleton.mp (List.mem_of_find?_eq_some new)
          rw [created.pending] at completed
          contradiction

theorem step_traced (index : Nat) (system : State K) (event : Event Input Change)
    (traced : Traced uuids payload attempts first system.store (system.procs index))
    (apart : Apart index payload.jobId system event) :
    Traced uuids payload (attempts ++ (attempted index system event).toList) first
      ((machine uuids).step system event).store
      (((machine uuids).step system event).procs index) := by
  cases event with
  | env change =>
      rw [attempted, Option.toList_none, List.append_nil]
      have frames : (ambient uuids change system.store).frames = system.store.frames := by
        cases change <;> rfl
      refine ⟨traced.within.trans_eq (congrArg List.length frames).symm, ?_⟩
      have kept := tracked_mono uuids payload attempts _ _ _ (system.procs index)
        (ambient_completed uuids change system.store payload.jobId) traced.tracked
      rwa [← frames] at kept
  | act other input =>
      by_cases same : other = index
      · subst other
        rw [attempted, if_pos rfl, step_store, step_self]
        exact exec_traced uuids payload attempts first input system.store (system.procs index) traced
      · obtain ⟨within, frames, stored⟩ := exec_apart uuids first input system.store
          (system.procs other) payload.jobId (apart same) traced.within
        rw [attempted, if_neg same, Option.toList_none, List.append_nil, step_store,
          step_other _ _ _ _ _ (Ne.symm same)]
        refine ⟨within, ?_⟩
        change Tracked uuids payload attempts (progressFrames payload.jobId
          ((exec uuids input system.store (system.procs other)).1.frames.drop first))
          (findImportJob (exec uuids input system.store (system.procs other)).1.db payload.jobId) _
        rw [frames, stored]
        exact traced.tracked

/-- The run that begins with the reset of an uncompleted job. -/
theorem run_traced (system : State K) (index : Nat) (begins : system.procs index = .resetting payload)
    (uncompleted : Uncompleted (findImportJob system.store.db payload.jobId))
    (events : List (Event Input Change))
    (apart : (machine uuids).Along (Apart index payload.jobId) system events) :
    Traced uuids payload ((machine uuids).observed (attempted index) system events)
      system.store.frames.length ((machine uuids).run system events).store
      (((machine uuids).run system events).procs index) := by
  apply observed_invariant (machine uuids) (attempted index) (Apart index payload.jobId)
    (fun reached attempts => Traced uuids payload attempts system.store.frames.length reached.store
      (reached.procs index)) _ system events [] _ apart
  · exact fun reached event attempts => step_traced uuids payload attempts _ index reached event
  · rw [begins]
    exact ⟨Nat.le_refl _, rfl, rfl, by rw [List.drop_length]; rfl, uncompleted⟩

end Runs

/-- A run of `process` that completes its job, with no other handler at work on
it, has reported every row once, and announced every chunk. -/
theorem completed_import_accounts (uuids : UuidSource) (system : State K) (index : Nat)
    (payload : Payload) (begins : system.procs index = .resetting payload)
    (uncompleted : ∀ job, findImportJob system.store.db payload.jobId = some job →
      job.status ≠ .COMPLETED)
    (events : List (Event Input Change))
    (apart : (machine uuids).Along (Apart index payload.jobId) system events) (job : ImportJob)
    (found : findImportJob ((machine uuids).run system events).store.db payload.jobId = some job)
    (completed : job.status = .COMPLETED) :
    ∃ counts report, job.report = some (.rows report) ∧ Accounts payload counts report ∧
      Broadcasts payload.rows.length counts (progressFrames payload.jobId
        (((machine uuids).run system events).store.frames.drop system.store.frames.length)) ∧
      ∀ work, ((machine uuids).run system events).procs index = .announcingCompleted work →
        work.counts = counts ∧ work.report = report := by
  have traced := run_traced uuids payload system index begins uncompleted events apart
  cases waits : ((machine uuids).run system events).procs index with
  | announcingCompleted work =>
      have tracked := traced.tracked
      rw [waits] at tracked
      obtain ⟨_, reported⟩ := tracked
      refine ⟨work.counts, work.report, reported.stored job found completed, reported.accounts,
        reported.broadcasts, fun other same => ?_⟩
      cases same
      exact ⟨rfl, rfl⟩
  | _ =>
      rcases tracked_settles uuids payload _ _ _ _ traced.tracked with open_ | ⟨counts, report, reported⟩
      · exact absurd completed (open_ job found)
      · exact ⟨counts, report, reported.stored job found completed, reported.accounts,
          reported.broadcasts, fun work same => by cases same⟩

/-- A new student, and a row without a name. -/
def mixed : Payload := ⟨1, 2, [⟨"s1", some "Ada", none⟩, ⟨"s2", none, none⟩]⟩

/-- The request is stored, delivered, and past its status check. -/
def mixedTaken : State ℤ :=
  (machine UuidSource.counting).run (begin freshTerm.db 0)
    [.env (.request 2 7 mixed.rows {}), .act 0 (.deliver 0), .act 0 (.proceed {})]

def mixedJob : ImportJob :=
  ⟨1, 2, some 7, .COMPLETED, 2, 2, some (.rows [⟨1, "s1", .created, none⟩,
    ⟨2, "s2", .error, some "fullName is required to create a new student"⟩])⟩

theorem completed_import_accounts_mixed :
    ∃ counts report, mixedJob.report = some (.rows report) ∧ Accounts mixed counts report ∧
      Broadcasts 2 counts (progressFrames 1 (((machine UuidSource.counting).run mixedTaken
        (advance 0 6)).store.frames.drop mixedTaken.store.frames.length)) ∧
      ∀ work, ((machine UuidSource.counting).run mixedTaken (advance 0 6)).procs 0 =
        .announcingCompleted work → work.counts = counts ∧ work.report = report :=
  completed_import_accounts UuidSource.counting mixedTaken 0 mixed rfl (by decide) (advance 0 6)
    ⟨absurd rfl, absurd rfl, absurd rfl, absurd rfl, absurd rfl, absurd rfl, trivial⟩ mixedJob
    (by decide) rfl

end FaceVec.Import
