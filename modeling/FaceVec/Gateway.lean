import FaceVec.Attendance.Recording
import FaceVec.Courses.Enrollment
import FaceVec.Interleaving

/-!
The writing calls of the gateway as a machine over one database: manual marks,
identifications, session closing, enrolments, the row transactions of bulk
imports and the creation of import jobs, any number of them at once. A call
takes one step for each read, external answer and transaction; every read may
fail, and so may every statement of a transaction and its commit. `marks`,
`links` and `jobs` are histories of what committed; no step reads them.
-/

namespace FaceVec.Gateway

open Interleaving Attendance Courses

variable {K : Type}

structure Store (K : Type) where
  db : Database K
  clock : Instant
  /-- The recording transactions that committed, by session and student. -/
  marks : List (Uuid × Uuid)
  /-- The enrollment rows that were created, by course and student. -/
  links : List (Uuid × Uuid)
  /-- The import jobs that were created, with the rows they were created for. -/
  jobs : List (Uuid × Uuid × List BulkImportRow)

inductive Answer (K : Type) where
  | record (record : AttendanceRecord K)
  | unmatched (similarity : Option (Number K))
  | session (session : AttendanceSession)
  | enrolled (result : ResolveResult)
  | job (job : ImportJob)

inductive Call (K : Type) where
  | idle
  | marking (session : AttendanceSession) (input : MarkAttendanceInput)
  | extracting (session : AttendanceSession)
  | searching (session : AttendanceSession) (embedding : List K)
  | recording (session : AttendanceSession) (best : NearestMatch K)
  | closing (id : Uuid)
  | enrolling (courseId : Uuid) (input : ResolveInput)
  | importing (courseId : Uuid) (rows : List BulkImportRow) (actorId : Uuid)
  | answered (answer : Answer K)
  | failed (failure : Failure)

inductive Input (K : Type) where
  | markAttendance (sessionId : Uuid) (input : MarkAttendanceInput) (actor : AuthContext)
  | identifyAndRecord (sessionId : Uuid) (actor : AuthContext)
  | closeSession (id : Uuid) (actor : AuthContext)
  | enrollStudent (courseId : Uuid) (input : ResolveInput) (actor : AuthContext)
  | importRow (courseId : Uuid) (row : BulkImportRow) (fate : Fate)
  | createBulkImportJob (courseId : Uuid) (rows : List BulkImportRow) (actor : AuthContext)
  | extract (extraction : Except Failure (Option (List K)))
  | search (chosen : Option Uuid)
  | transact (fate : Fate)
  | fail (failure : Failure)

inductive Change where
  | tick (milliseconds : Nat)

def finish {α : Type} (answer : α → Answer K) : Except Failure α → Call K
  | .error failure => .failed failure
  | .ok result => .answered (answer result)

/-- The enrollment rows that `after` has and `before` has not. -/
def newLinks (before after : Database K) : List (Uuid × Uuid) :=
  (after.courseEnrollments.rows.filter fun row => !before.courseEnrollments.rows.contains row).map
    fun row => (row.courseId, row.studentId)

def newJobs (before after : Database K) : List (Uuid × Uuid) :=
  (after.importJobs.rows.filter fun job => !before.importJobs.rows.contains job).map
    fun job => (job.id, job.courseId)

/-- The store after a transaction that left `db`. -/
def Store.settle (store : Store K) (db : Database K) (marks : List (Uuid × Uuid))
    (rows : List BulkImportRow) : Store K :=
  { store with
    db
    marks := store.marks ++ marks
    links := store.links ++ newLinks store.db db
    jobs := store.jobs ++ (newJobs store.db db).map fun job => (job.1, job.2, rows) }

section Exec

variable [Ring K] [LinearOrder K]
variable (uuids : UuidSource) (vision : Vision K) (threshold : K)

def firstStep (store : Store K) : Input K → Call K
  | .markAttendance sessionId input actor =>
      match openSessionForActor store.db sessionId actor
          "Cannot record attendance for a closed session" with
      | .error failure => .failed failure
      | .ok session => .marking session input
  | .identifyAndRecord sessionId actor =>
      match openSessionForActor store.db sessionId actor
          "Cannot identify for a closed session" with
      | .error failure => .failed failure
      | .ok session => .extracting session
  | .closeSession id actor =>
      match getSessionForActor store.db id actor with
      | .error failure => .failed failure
      | .ok session =>
          if session.status = .CLOSED then
            .failed (.http (conflictError "Session is already closed"))
          else .closing id
  | .enrollStudent courseId input actor =>
      match getCourseForActor store.db courseId actor with
      | .error failure => .failed failure
      | .ok _ => .enrolling courseId input
  | .createBulkImportJob courseId rows actor =>
      match getCourseForActor store.db courseId actor with
      | .error failure => .failed failure
      | .ok _ => .importing courseId rows actor.userId
  | .fail failure => .failed failure
  | _ => .idle

def record (body : Statement K (AttendanceRecord K)) (answers : Failure → Failure)
    (pair : Uuid × Uuid) (fate : Fate) (store : Store K) : Store K × Call K :=
  let run := transaction body fate.chances fate.ending store.db
  let marks := if commits body fate.chances fate.ending store.db then [pair] else []
  (store.settle run.2 marks [], finish .record (run.1.mapError answers))

def enroll (courseId : Uuid) (input : ResolveInput) (fate : Fate) (store : Store K) :
    Store K × Call K :=
  let run := transaction (resolveAndLinkStudent uuids store.clock courseId input)
    fate.chances fate.ending store.db
  (store.settle run.2 [] [], finish .enrolled run.1)

def createJob (courseId : Uuid) (rows : List BulkImportRow) (actorId : Uuid) (fate : Fate)
    (store : Store K) : Store K × Call K :=
  let run := transaction (createBulkImportJobTx uuids store.clock courseId actorId rows)
    fate.chances fate.ending store.db
  (store.settle run.2 [] rows, finish .job run.1)

def exec (input : Input K) (store : Store K) (call : Call K) : Store K × Call K :=
  match call, input with
  -- A row of an import starts with its transaction.
  | .idle, .importRow courseId row fate => enroll uuids courseId (importInput row) fate store
  | .idle, input => (store, firstStep store input)
  | .marking session input, .transact fate =>
      record (markAttendanceTx uuids store.clock session input) markFailure
        (session.id, input.studentId) fate store
  | .extracting session, .extract extraction =>
      match primaryEmbedding extraction with
      | .error failure => (store, .failed failure)
      | .ok embedding => (store, .searching session embedding)
  | .searching session embedding, .search chosen =>
      match searchNearestInCourse vision store.db session.courseId embedding chosen with
      -- `chosen` does not come first: not an answer of the query.
      | none => (store, .searching session embedding)
      | some best =>
          match aboveThreshold threshold best with
          | none => (store, .answered (.unmatched (best.map (·.similarity))))
          | some nearest => (store, .recording session nearest)
  | .recording session best, .transact fate =>
      record (identifyTx uuids store.clock session best) id (session.id, best.studentId) fate store
  | .closing id, .transact fate =>
      let run := transaction (closeUpdate id store.clock) fate.chances fate.ending store.db
      ({ store with db := run.2 }, finish .session run.1)
  | .enrolling courseId input, .transact fate => enroll uuids courseId input fate store
  | .importing courseId rows actorId, .transact fate => createJob uuids courseId rows actorId fate store
  | .answered answer, _ => (store, .answered answer)
  | .failed failure, _ => (store, .failed failure)
  | _, .fail failure => (store, .failed failure)
  | call, _ => (store, call)

def ambient (change : Change) (store : Store K) : Store K :=
  match change with
  | .tick milliseconds => { store with clock := store.clock + milliseconds }

def machine : Machine (Store K) (Call K) (Input K) Change where
  exec := exec uuids vision threshold
  ambient := ambient

end Exec

abbrev State (K : Type) := System (Store K) (Call K)

/-- A gateway that has recorded nothing and announced nothing so far; what
else is stored is arbitrary. -/
def start (db : Database K) (clock : Instant) : State K :=
  ⟨⟨{ db with
      attendanceRecords := Table.empty
      importJobs := Table.empty
      outboxMessages := Table.empty }, clock, [], [], []⟩, fun _ => .idle⟩

/-- The session a recording call has found open. -/
def inFlight : Call K → Option Uuid
  | .marking session _ | .extracting session | .searching session _ | .recording session _ =>
      some session.id
  | _ => none

/-- Everything one step of a call can do. -/
inductive Effect (store : Store K) (call : Call K) (input : Input K) :
    Store K → Call K → Prop where
  | quiet (next : Call K) : inFlight next = none → Effect store call input store next
  | carried (next : Call K) : inFlight next = inFlight call → Effect store call input store next
  | admitted (session : AttendanceSession) (next : Call K) :
      session ∈ store.db.attendanceSessions → session.status = .OPEN →
      inFlight next = some session.id → Effect store call input store next
  | recorded (session : AttendanceSession) (studentId : Uuid) (record : AttendanceRecord K)
      (after : Database K) (next : Call K) : inFlight call = some session.id →
      inFlight next = none → Recorded store.db after session studentId record →
      Effect store call input (store.settle after [(session.id, studentId)] []) next
  | linked (courseId : Uuid) (row : ResolveInput) (student : Student) (isNew : Bool)
      (middle after : Database K) (result : ResolveResult) (next : Call K) :
      inFlight next = none → Resolved store.db middle row student isNew →
      Linked middle courseId student isNew result after →
      Effect store call input (store.settle after [] []) next
  | created (courseId : Uuid) (rows : List BulkImportRow) (job : ImportJob) (after : Database K)
      (next : Call K) : inFlight next = none → JobCreated store.db after courseId rows job →
      Effect store call input (store.settle after [] rows) next
  | closed (id : Uuid) (fate : Fate) (after : Database K) (next : Call K) : call = .closing id →
      input = .transact fate →
      commits (closeUpdate id store.clock) fate.chances fate.ending store.db = true →
      inFlight next = none → after = { store.db with attendanceSessions := after.attendanceSessions } →
      after.attendanceSessions.rows = store.db.attendanceSessions.rows.map (closeRow id store.clock) →
      Effect store call input { store with db := after } next

theorem newLinks_same (before after : Database K)
    (same : after.courseEnrollments = before.courseEnrollments) : newLinks before after = [] := by
  simp [newLinks, same]

theorem newJobs_same (before after : Database K) (same : after.importJobs = before.importJobs) :
    newJobs before after = [] := by
  simp [newJobs, same]

theorem settle_self (store : Store K) (rows : List BulkImportRow) :
    store.settle store.db [] rows = store := by
  simp [Store.settle, newLinks_same, newJobs_same]

theorem finish_quiet {α : Type} (answer : α → Answer K) (result : Except Failure α) :
    inFlight (finish answer result) = none := by
  cases result <;> rfl

section Effects

variable (uuids : UuidSource) (store : Store K)

theorem firstStep_effect (input : Input K) :
    Effect store .idle input store (firstStep store input) := by
  cases input with
  | markAttendance sessionId input actor =>
      simp only [firstStep]
      split
      · exact .quiet _ rfl
      · next session passed =>
          obtain ⟨member, _, isOpen⟩ := openSession_open _ _ _ _ _ passed
          exact .admitted session _ member isOpen rfl
  | identifyAndRecord sessionId actor =>
      simp only [firstStep]
      split
      · exact .quiet _ rfl
      · next session passed =>
          obtain ⟨member, _, isOpen⟩ := openSession_open _ _ _ _ _ passed
          exact .admitted session _ member isOpen rfl
  | closeSession id actor =>
      simp only [firstStep]
      split
      · exact .quiet _ rfl
      · split <;> exact .quiet _ rfl
  | enrollStudent courseId input actor =>
      simp only [firstStep]
      split <;> exact .quiet _ rfl
  | createBulkImportJob courseId rows actor =>
      simp only [firstStep]
      split <;> exact .quiet _ rfl
  | _ => exact .quiet _ rfl

theorem record_effect (call : Call K) (input : Input K) (session : AttendanceSession) (studentId : Uuid)
    (data : RecordData K) (answers : Failure → Failure) (fate : Fate)
    (waits : inFlight call = some session.id) :
    Effect store call input
      (record (recordAttendance uuids store.clock session studentId data) answers
        (session.id, studentId) fate store).1
      (record (recordAttendance uuids store.clock session studentId data) answers
        (session.id, studentId) fate store).2 := by
  simp only [record]
  split
  · next committed =>
      obtain ⟨written, recorded⟩ := transaction_committed _ _ _ _ _
        (recordAttendance_spec uuids store.clock session studentId data store.db) committed
      exact .recorded session studentId written _ _ waits (finish_quiet _ _) recorded
  · next aborted =>
      rw [transaction_aborted _ _ _ _ (by simpa using aborted), settle_self]
      exact .quiet _ (finish_quiet _ _)

theorem enroll_effect (call : Call K) (input : Input K) (courseId : Uuid) (row : ResolveInput)
    (fate : Fate) :
    Effect store call input (enroll uuids courseId row fate store).1
      (enroll uuids courseId row fate store).2 := by
  simp only [enroll]
  cases committed : commits (resolveAndLinkStudent uuids store.clock courseId row) fate.chances
      fate.ending store.db with
  | true =>
      obtain ⟨result, middle, student, isNew, resolved, linked⟩ := transaction_committed _ _ _ _ _
        (resolveAndLinkStudent_spec uuids store.clock courseId row store.db) committed
      exact .linked courseId row student isNew middle _ result _ (finish_quiet _ _) resolved linked
  | false =>
      rw [transaction_aborted _ _ _ _ committed, settle_self]
      exact .quiet _ (finish_quiet _ _)

theorem createJob_effect (call : Call K) (input : Input K) (courseId : Uuid)
    (rows : List BulkImportRow) (actorId : Uuid) (fate : Fate) :
    Effect store call input (createJob uuids courseId rows actorId fate store).1
      (createJob uuids courseId rows actorId fate store).2 := by
  simp only [createJob]
  cases committed : commits (createBulkImportJobTx uuids store.clock courseId actorId rows)
      fate.chances fate.ending store.db with
  | true =>
      obtain ⟨job, created⟩ := transaction_committed _ _ _ _ _
        (createBulkImportJobTx_spec uuids store.clock courseId actorId rows store.db) committed
      exact .created courseId rows job _ _ (finish_quiet _ _) created
  | false =>
      rw [transaction_aborted _ _ _ _ committed, settle_self]
      exact .quiet _ (finish_quiet _ _)

theorem close_effect (id : Uuid) (fate : Fate) :
    Effect store (.closing id) (.transact fate)
      { store with
        db := (transaction (closeUpdate id store.clock) fate.chances fate.ending store.db).2 }
      (finish .session
        (transaction (closeUpdate id store.clock) fate.chances fate.ending store.db).1) := by
  cases committed : commits (closeUpdate id store.clock) fate.chances fate.ending store.db with
  | true =>
      obtain ⟨session, frame, rows⟩ := transaction_committed _ _ _ _ _
        (closeUpdate_spec id store.clock store.db) committed
      exact .closed id fate _ _ rfl rfl committed (finish_quiet _ _) frame rows
  | false =>
      rw [transaction_aborted _ _ _ _ committed]
      exact .quiet _ (finish_quiet _ _)

variable [Ring K] [LinearOrder K] (vision : Vision K) (threshold : K)

theorem exec_effect (input : Input K) (call : Call K) :
    Effect store call input (exec uuids vision threshold input store call).1
      (exec uuids vision threshold input store call).2 := by
  unfold exec
  split
  · exact enroll_effect uuids store _ _ _ _ _
  · exact firstStep_effect store _
  · exact record_effect uuids store _ _ _ _ _ _ _ rfl
  · split
    · exact .quiet _ rfl
    · exact .carried _ rfl
  · split
    · exact .carried _ rfl
    · split
      · exact .quiet _ rfl
      · exact .carried _ rfl
  · exact record_effect uuids store _ _ _ _ _ _ _ rfl
  · exact close_effect store _ _
  · exact enroll_effect uuids store _ _ _ _ _
  · exact createJob_effect uuids store _ _ _ _ _ _
  · exact .carried _ rfl
  · exact .carried _ rfl
  · exact .quiet _ rfl
  · exact .carried _ rfl

end Effects

end FaceVec.Gateway
