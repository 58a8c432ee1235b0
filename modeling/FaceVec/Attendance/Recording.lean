import Mathlib.Algebra.Ring.Defs
import Mathlib.Order.Defs.LinearOrder
import FaceVec.Database

/-!
The steps of `attendance.service.ts`: the session read that opens every call,
the nearest-face query, the decision of `identifyAndRecord`, and the one
transaction that manual marks and identified faces share. Vector distance and
face extraction are outside the repository.
-/

namespace FaceVec.Attendance

variable {K : Type}

/-- Fetch a session and assert the actor owns its course (or is an admin). -/
def getSessionForActor (db : Database K) (id : Uuid) (actor : AuthContext) :
    Except Failure AttendanceSession :=
  match findSession db id with
  | none => .error (.http (notFoundError "Session not found"))
  | some session =>
      let owner := (findCourse db session.courseId).map (·.professorId)
      if actor.role ≠ .ADMIN ∧ owner ≠ some actor.userId then
        .error (.http (forbiddenError "You do not have access to this session"))
      else .ok session

theorem getSession_ok (db : Database K) (id : Uuid) (actor : AuthContext)
    (session : AttendanceSession) (passed : getSessionForActor db id actor = .ok session) :
    session ∈ db.attendanceSessions ∧ session.id = id ∧ (actor.role = .ADMIN ∨
      ∃ course ∈ db.courses, course.id = session.courseId ∧ course.professorId = actor.userId) := by
  unfold getSessionForActor at passed
  split at passed
  · cases passed
  · next stored lookup =>
      dsimp only at passed
      split at passed
      · cases passed
      · next permitted =>
          obtain rfl := Except.ok.inj passed
          refine ⟨List.mem_of_find?_eq_some lookup, by simpa using List.find?_some lookup, ?_⟩
          rw [not_and_or, not_ne_iff, not_ne_iff] at permitted
          refine permitted.imp_right fun owner => ?_
          obtain ⟨course, found, owned⟩ := Option.map_eq_some_iff.mp owner
          exact ⟨course, List.mem_of_find?_eq_some found, by simpa using List.find?_some found, owned⟩

/-- The read and the status check that start a recording call. -/
def openSessionForActor (db : Database K) (id : Uuid) (actor : AuthContext) (refusal : String) :
    Except Failure AttendanceSession :=
  match getSessionForActor db id actor with
  | .error failure => .error failure
  | .ok session =>
      if session.status ≠ .OPEN then .error (.http (conflictError refusal)) else .ok session

theorem openSession_ok (db : Database K) (id : Uuid) (actor : AuthContext) (refusal : String)
    (session : AttendanceSession) (passed : openSessionForActor db id actor refusal = .ok session) :
    getSessionForActor db id actor = .ok session ∧ session.status = .OPEN := by
  unfold openSessionForActor at passed
  split at passed
  · cases passed
  · next found fetched =>
      split at passed
      · cases passed
      · next isOpen =>
          obtain rfl := Except.ok.inj passed
          exact ⟨fetched, not_ne_iff.mp isOpen⟩

theorem openSession_open (db : Database K) (id : Uuid) (actor : AuthContext) (refusal : String)
    (session : AttendanceSession)
    (passed : openSessionForActor db id actor refusal = .ok session) :
    session ∈ db.attendanceSessions ∧ session.id = id ∧ session.status = .OPEN := by
  obtain ⟨fetched, isOpen⟩ := openSession_ok db id actor refusal session passed
  obtain ⟨stored, same, _⟩ := getSession_ok db id actor session fetched
  exact ⟨stored, same, isOpen⟩

structure MarkAttendanceInput where
  studentId : Uuid
  status : AttendanceStatus := .PRESENT
  deriving DecidableEq, Repr

structure NearestMatch (K : Type) where
  studentId : Uuid
  fullName : String
  studentNumber : String
  similarity : Number K
  deriving DecidableEq, Repr

section Recording

variable (uuids : UuidSource) (now : Instant)

/-- Upsert the record and emit the event atomically. -/
def recordAttendance (session : AttendanceSession) (studentId : Uuid) (data : RecordData K) :
    Statement K (AttendanceRecord K) := do
  let record ← upsertRecord uuids now session.id studentId data
  let _ ← recordEvent uuids now "AttendanceSession" session.id EventType.AttendanceRecorded
    (.attendanceRecorded record.id session.id session.courseId record.studentId record.status
      record.method (data.similarity.map fun _ => record.similarity) record.capturedAt)
  pure record

def markAttendanceTx (session : AttendanceSession) (input : MarkAttendanceInput) :
    Statement K (AttendanceRecord K) :=
  recordAttendance uuids now session input.studentId ⟨input.status, .MANUAL, none⟩

def identifyTx (session : AttendanceSession) (best : NearestMatch K) :
    Statement K (AttendanceRecord K) :=
  recordAttendance uuids now session best.studentId ⟨.PRESENT, .FACE, some best.similarity.column⟩

/-- How `markAttendance` answers a failed transaction. -/
def markFailure : Failure → Failure
  | .prisma .P2003 _ => .http (notFoundError "Student not found")
  | failure => failure

/-- A recording transaction leaves one record for the pair and one event about it. -/
structure Recorded (db after : Database K) (session : AttendanceSession) (studentId : Uuid)
    (record : AttendanceRecord K) : Prop where
  upserted : ∃ middle data, Upserted db middle session.id studentId data record ∧
    ∃ similarity message, Announced middle after "AttendanceSession" session.id
      EventType.AttendanceRecorded
      (.attendanceRecorded record.id session.id session.courseId studentId record.status
        record.method similarity record.capturedAt) message

theorem recordAttendance_spec (session : AttendanceSession) (studentId : Uuid)
    (data : RecordData K) (db : Database K) :
    Triple (· = db) (recordAttendance uuids now session studentId data)
      fun record after => Recorded db after session studentId record := by
  rintro start chances rfl result after rest ends
  obtain ⟨⟨record, middle, left⟩, written, ends⟩ := bind_ok _ _ _ _ ends
  obtain ⟨⟨message, final, last⟩, announced, ends⟩ := bind_ok _ _ _ _ ends
  obtain ⟨rfl, rfl, rfl⟩ := pure_ok _ _ _ _ _ _ ends
  have first := upsertRecord_spec uuids now session.id studentId data start start chances rfl
    _ _ _ written
  have second := recordEvent_spec uuids now _ _ _ _ middle middle left rfl _ _ _ announced
  rw [first.ofStudent] at second
  exact ⟨middle, data, first, _, message, second⟩

theorem recordAttendance_fails (session : AttendanceSession) (studentId : Uuid)
    (data : RecordData K) (db : Database K) :
    FailsOnly (· = db) (recordAttendance uuids now session studentId data)
      (findSession db session.id = none ∨ findStudent db studentId = none) := by
  apply failsOnly_bind _ _ _ (upsertRecord_fails uuids now session.id studentId data db)
    (upsertRecord_spec uuids now session.id studentId data db)
  intro record
  apply failsOnly_bind _ _ fun _ _ => True
  · exact recordEvent_fails uuids now _ _ _ _ _ _
  · intro _ _ _ _ _ _ _
    trivial
  · intro _
    exact failsOnly_pure _

theorem recordAttendance_columns (session : AttendanceSession) (studentId : Uuid)
    (data : RecordData K) (db : Database K) :
    Triple (· = db) (recordAttendance uuids now session studentId data)
      fun record after => Recorded db after session studentId record ∧
        record.status = data.status ∧ record.method = data.method := by
  intro start chances started result after rest ends
  refine ⟨recordAttendance_spec uuids now session studentId data db _ _ started _ _ _ ends, ?_⟩
  obtain ⟨⟨record, middle, left⟩, written, ends⟩ := bind_ok _ _ _ _ ends
  obtain ⟨⟨message, final, last⟩, announced, ends⟩ := bind_ok _ _ _ _ ends
  obtain ⟨rfl, rfl, rfl⟩ := pure_ok _ _ _ _ _ _ ends
  have upserted := upsertRecord_spec uuids now session.id studentId data db start chances started
    _ _ _ written
  exact ⟨upserted.status, upserted.method⟩

end Recording

/-- `attendanceSession.update` of `closeSession`. -/
def closeRow (id : Uuid) (now : Instant) (session : AttendanceSession) : AttendanceSession :=
  if session.id = id then { session with status := .CLOSED, endedAt := some now } else session

theorem closeRow_id (id : Uuid) (now : Instant) (session : AttendanceSession) :
    (closeRow id now session).id = session.id := by
  unfold closeRow
  split <;> rfl

def closeUpdate (id : Uuid) (now : Instant) : Statement K AttendanceSession :=
  statement fun _ db =>
    match findSession db id with
    | none => .error (.prisma .P2025 none)
    | some session =>
        .ok (closeRow id now session,
          { db with
            attendanceSessions := db.attendanceSessions.modify (closeRow id now) (by
              intro a b
              simp [AttendanceSession.clash, closeRow_id]) })

theorem closeUpdate_spec (id : Uuid) (now : Instant) (db : Database K) :
    Triple (· = db) (closeUpdate id now) fun _ after =>
      after = { db with attendanceSessions := after.attendanceSessions } ∧
        after.attendanceSessions.rows = db.attendanceSessions.rows.map (closeRow id now) := by
  apply triple_statement
  rintro draw _ session after rfl ran
  split at ran
  · cases ran
  · obtain ⟨_, rfl⟩ := Prod.mk.inj (Except.ok.inj ran)
    exact ⟨rfl, rfl⟩

def isAiFailure : Failure → Bool
  | .aiUnavailable _ | .aiBadResponse _ => true
  | .breaker code _ => code == "EOPENBREAKER" || code == "ETIMEDOUT"
  | _ => false

/-- What `identifyAndRecord` makes of the extraction of its image. -/
def primaryEmbedding (extraction : Except Failure (Option (List K))) : Except Failure (List K) :=
  match extraction with
  | .error failure =>
      if isAiFailure failure then
        .error (.http ⟨503, "ai_unavailable", "Face inference is temporarily unavailable", none⟩)
      else .error failure
  -- An answer without a face is no failure of the service.
  | .ok none => .error (.http ⟨422, "no_face_detected", "No face detected in the image", none⟩)
  | .ok (some embedding) => .ok embedding

section Search

variable [Ring K] [LinearOrder K]

/-- pgvector's `<=>`. -/
structure Vision (K : Type) where
  cosineDistance : List K → List K → Number K

/-- The `ORDER BY` of PostgreSQL: NaN is the largest value. -/
def sortsBefore : Number K → Number K → Bool
  | _, .nan => true
  | .nan, .real _ => false
  | .real a, .real b => decide (a ≤ b)

def oneMinus : Number K → Number K
  | .nan => .nan
  | .real distance => .real (1 - distance)

/-- The faces of a course's roster, with their owners. -/
def rosterFaces (db : Database K) (courseId : Uuid) : List (FaceEmbedding K × Student) :=
  db.faceEmbeddings.rows.filterMap fun face =>
    match findStudent db face.studentId with
    | none => none
    | some student =>
        if (findEnrollment db courseId student.id).isSome then some (face, student) else none

/-- `searchNearestInCourse(courseId, embedding, 1)`: `chosen` is the face that
came first. `none` if that is not a possible answer. -/
def searchNearestInCourse (vision : Vision K) (db : Database K) (courseId : Uuid)
    (embedding : List K) (chosen : Option Uuid) : Option (Option (NearestMatch K)) :=
  let faces := rosterFaces db courseId
  let distance := fun face : FaceEmbedding K => vision.cosineDistance face.embedding embedding
  match chosen with
  | none => if faces.isEmpty then some none else none
  | some id =>
      match faces.find? (·.1.id == id) with
      | none => none
      | some (face, student) =>
          if faces.all fun other => sortsBefore (distance face) (distance other.1) then
            some (some ⟨student.id, student.fullName, student.studentNumber,
              oneMinus (distance face)⟩)
          else none

/-- `!best || best.similarity < threshold` is an unrecognised face. -/
def aboveThreshold (threshold : K) (best : Option (NearestMatch K)) : Option (NearestMatch K) :=
  best.filter fun nearest => !nearest.similarity.lt (.real threshold)

end Search

end FaceVec.Attendance
