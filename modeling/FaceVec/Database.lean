import FaceVec.Errors
import FaceVec.Schema
import FaceVec.Transaction

/-!
The database of the gateway and the statements its services run inside a
transaction: finds by unique key, creates that check the unique indexes and
the foreign keys, and the upsert of an attendance record. `recordEvent` is
`messaging/outbox.ts`.
-/

namespace FaceVec

structure Database (K : Type) where
  students : Table Student.clash
  faceEmbeddings : Table (FaceEmbedding.clash (K := K))
  courses : Table Course.clash
  courseEnrollments : Table CourseEnrollment.clash
  importJobs : Table ImportJob.clash
  attendanceSessions : Table AttendanceSession.clash
  attendanceRecords : Table (AttendanceRecord.clash (K := K))
  outboxMessages : Table (@OutboxMessage.clash (EventPayload K))

variable {K : Type}

abbrev Statement (K α : Type) := Tx (Database K) Failure α

section Finds

variable (db : Database K)

def findStudent (id : Uuid) : Option Student := db.students.rows.find? (·.id == id)

def findStudentByNumber (studentNumber : String) : Option Student :=
  db.students.rows.find? (·.studentNumber == studentNumber)

def findCourse (id : Uuid) : Option Course := db.courses.rows.find? (·.id == id)

def findEnrollment (courseId studentId : Uuid) : Option CourseEnrollment :=
  db.courseEnrollments.rows.find? fun row => row.courseId == courseId && row.studentId == studentId

def findSession (id : Uuid) : Option AttendanceSession :=
  db.attendanceSessions.rows.find? (·.id == id)

def findRecord (sessionId studentId : Uuid) : Option (AttendanceRecord K) :=
  db.attendanceRecords.rows.find? fun row =>
    row.sessionId == sessionId && row.studentId == studentId

def findImportJob (id : Uuid) : Option ImportJob := db.importJobs.rows.find? (·.id == id)

end Finds

/-- The unique-constraint and the foreign-key violation. -/
def violation {α : Type} (code : PrismaCode) : Except Failure α := .error (.prisma code none)

/-- Insert into one table of the database. -/
def create {Row : Type} {clash : Row → Row → Bool} (table : Database K → Table clash)
    (put : Table clash → Database K → Database K) (row : Row) (db : Database K) :
    Except Failure (Row × Database K) :=
  match (table db).insert row with
  | none => violation .P2002
  | some rows => .ok (row, put rows db)

theorem create_ok {Row : Type} {clash : Row → Row → Bool} (table : Database K → Table clash)
    (put : Table clash → Database K → Database K) (row result : Row) (db after : Database K)
    (created : create table put row db = .ok (result, after)) :
    result = row ∧ ∃ rows, (table db).insert row = some rows ∧ after = put rows db := by
  unfold create at created
  split at created
  · cases created
  · next rows inserted =>
      obtain ⟨rfl, rfl⟩ : row = result ∧ put rows db = after := by simpa using created
      exact ⟨rfl, rows, inserted, rfl⟩

theorem create_error {Row : Type} {clash : Row → Row → Bool} (table : Database K → Table clash)
    (put : Table clash → Database K → Database K) (row : Row) (db : Database K) (failure : Failure)
    (refused : create table put row db = .error failure) :
    ∃ old ∈ table db, clash old row = true := by
  unfold create at refused
  split at refused
  · next clashes => exact Table.insert_eq_none _ _ clashes
  · cases refused

/-- The request that an `import.bulk.requested` event carries. -/
def importEvent (message : OutboxMessage (EventPayload K)) :
    Option (Uuid × Uuid × List BulkImportRow) :=
  match message.payload with
  | .courseBulkImportRequested jobId courseId rows =>
      if message.eventType = EventType.CourseBulkImportRequested then some (jobId, courseId, rows)
      else none
  | _ => none

def importEvents (db : Database K) : List (Uuid × Uuid × List BulkImportRow) :=
  db.outboxMessages.rows.filterMap importEvent

/-- What a transaction meets: chances for its statements, and its ending. -/
structure Fate where
  chances : List (Chance Failure) := []
  ending : Ending Failure := .commits

def studentIds (db : Database K) : List Uuid :=
  db.students.rows.map (·.id) ++ db.courseEnrollments.rows.map (·.studentId)

section Creates

variable (uuids : UuidSource) (now : Instant)

def createStudent (studentNumber fullName : String) (email : Option String) : Statement K Student :=
  statement fun draw db =>
    let id := uuids.generate draw (studentIds db)
    create (·.students) (fun students db => { db with students })
      ⟨id, studentNumber, fullName, email, none⟩ db

def createEnrollment (courseId studentId : Uuid) : Statement K CourseEnrollment :=
  statement fun draw db =>
    let id := uuids.generate draw (db.courseEnrollments.rows.map (·.id))
    if (findCourse db courseId).isNone || (findStudent db studentId).isNone then violation .P2003
    else
      create (·.courseEnrollments) (fun courseEnrollments db => { db with courseEnrollments })
        ⟨id, courseId, studentId⟩ db

def createImportJobRow (courseId createdById : Uuid) (totalRows : Nat) : Statement K ImportJob :=
  statement fun draw db =>
    let id := uuids.generate draw (db.importJobs.rows.map (·.id))
    if (findCourse db courseId).isNone then violation .P2003
    else
      create (·.importJobs) (fun importJobs db => { db with importJobs })
        ⟨id, courseId, some createdById, .PENDING, totalRows, 0, none⟩ db

def recordEvent (aggregateType : String) (aggregateId : Uuid) (eventType : String)
    (payload : EventPayload K) : Statement K (OutboxMessage (EventPayload K)) :=
  statement fun draw db =>
    let id := uuids.generate draw (db.outboxMessages.rows.map (·.id))
    create (·.outboxMessages) (fun outboxMessages db => { db with outboxMessages })
      { id, aggregateType, aggregateId, eventType, payload, availableAt := now, createdAt := now } db

/-- The columns an upsert of an attendance record gives; the similarity only
when the caller names it. -/
structure RecordData (K : Type) where
  status : AttendanceStatus
  method : AttendanceMethod
  similarity : Option (Option (Number K))

def RecordData.overwrite (data : RecordData K) (record : AttendanceRecord K) : AttendanceRecord K :=
  { record with
    status := data.status
    method := data.method
    similarity := data.similarity.getD record.similarity }

def overwriteRecord (target : AttendanceRecord K) (data : RecordData K)
    (record : AttendanceRecord K) : AttendanceRecord K :=
  if record.id = target.id then data.overwrite record else record

theorem overwriteRecord_keys (target : AttendanceRecord K) (data : RecordData K)
    (record : AttendanceRecord K) :
    (overwriteRecord target data record).id = record.id ∧
      (overwriteRecord target data record).sessionId = record.sessionId ∧
      (overwriteRecord target data record).studentId = record.studentId ∧
      (overwriteRecord target data record).capturedAt = record.capturedAt := by
  unfold overwriteRecord
  split <;> exact ⟨rfl, rfl, rfl, rfl⟩

/-- `attendanceRecord.upsert` on `(sessionId, studentId)`. -/
def upsertRecord (sessionId studentId : Uuid) (data : RecordData K) :
    Statement K (AttendanceRecord K) :=
  statement fun draw db =>
    match findRecord db sessionId studentId with
    -- The conflict target is the pair: the row keeps its id and `capturedAt`.
    | some record =>
        .ok (data.overwrite record,
          { db with
            attendanceRecords := db.attendanceRecords.modify (overwriteRecord record data) (by
              intro a b
              simp [AttendanceRecord.clash, overwriteRecord_keys]) })
    | none =>
        let id := uuids.generate draw (db.attendanceRecords.rows.map (·.id))
        if (findSession db sessionId).isNone || (findStudent db studentId).isNone then
          violation .P2003
        else
          create (·.attendanceRecords) (fun attendanceRecords db => { db with attendanceRecords })
            ⟨id, sessionId, studentId, data.status, data.method, data.similarity.getD none, now⟩ db

end Creates

/-- `message` is the event that `recordEvent` appended. -/
structure Announced (db after : Database K) (aggregateType : String) (aggregateId : Uuid)
    (eventType : String) (payload : EventPayload K) (message : OutboxMessage (EventPayload K)) :
    Prop where
  aggregateType : message.aggregateType = aggregateType
  aggregateId : message.aggregateId = aggregateId
  eventType : message.eventType = eventType
  payload : message.payload = payload
  frame : after = { db with outboxMessages := after.outboxMessages }
  appended : after.outboxMessages.rows = db.outboxMessages.rows ++ [message]

theorem recordEvent_spec (uuids : UuidSource) (now : Instant) (aggregateType : String)
    (aggregateId : Uuid) (eventType : String) (payload : EventPayload K) (db : Database K) :
    Triple (· = db) (recordEvent uuids now aggregateType aggregateId eventType payload)
      fun message after => Announced db after aggregateType aggregateId eventType payload message := by
  apply triple_statement
  rintro draw _ message after rfl ran
  obtain ⟨rfl, rows, inserted, rfl⟩ := create_ok _ _ _ _ _ _ ran
  exact ⟨rfl, rfl, rfl, rfl, rfl, Table.insert_eq_some _ _ _ inserted⟩

theorem recordEvent_fails (uuids : UuidSource) (now : Instant) (aggregateType : String)
    (aggregateId : Uuid) (eventType : String) (payload : EventPayload K) (pre : Database K → Prop)
    (why : Prop) :
    FailsOnly pre (recordEvent uuids now aggregateType aggregateId eventType payload) why := by
  apply failsOnly_statement
  intro draw db failure started refused
  obtain ⟨old, member, clashes⟩ := create_error _ _ _ _ _ refused
  have same : old.id = uuids.generate draw (db.outboxMessages.rows.map (·.id)) := by
    simpa [OutboxMessage.clash] using clashes
  exact absurd (List.mem_map.mpr ⟨old, member, same⟩) (uuids.fresh draw _)

/-- What an upsert leaves: `record` in the place of the pair, everything else as it was. -/
structure Upserted (db after : Database K) (sessionId studentId : Uuid) (data : RecordData K)
    (record : AttendanceRecord K) : Prop where
  ofSession : record.sessionId = sessionId
  ofStudent : record.studentId = studentId
  status : record.status = data.status
  method : record.method = data.method
  frame : after = { db with attendanceRecords := after.attendanceRecords }
  rows : ∀ row, row ∈ after.attendanceRecords ↔ row = record ∨
    (row ∈ db.attendanceRecords ∧ ¬ (row.sessionId = sessionId ∧ row.studentId = studentId))

theorem course_eq_of_id (courses : Table Course.clash) (a b : Course) (inA : a ∈ courses)
    (inB : b ∈ courses) (same : a.id = b.id) : a = b :=
  courses.eq_of_clash a b inA inB (by simp [Course.clash, same]) (by simp [Course.clash, same])

theorem session_eq_of_id (sessions : Table AttendanceSession.clash) (a b : AttendanceSession)
    (inA : a ∈ sessions) (inB : b ∈ sessions) (same : a.id = b.id) : a = b :=
  sessions.eq_of_clash a b inA inB (by simp [AttendanceSession.clash, same])
    (by simp [AttendanceSession.clash, same])

theorem job_eq_of_id (jobs : Table ImportJob.clash) (a b : ImportJob) (inA : a ∈ jobs)
    (inB : b ∈ jobs) (same : a.id = b.id) : a = b :=
  jobs.eq_of_clash a b inA inB (by simp [ImportJob.clash, same]) (by simp [ImportJob.clash, same])

theorem record_eq_of_pair (records : Table (AttendanceRecord.clash (K := K)))
    (a b : AttendanceRecord K) (inA : a ∈ records) (inB : b ∈ records)
    (sameSession : a.sessionId = b.sessionId) (sameStudent : a.studentId = b.studentId) : a = b :=
  records.eq_of_clash a b inA inB (by simp [AttendanceRecord.clash, sameSession, sameStudent])
    (by simp [AttendanceRecord.clash, sameSession, sameStudent])

theorem record_eq_of_id (records : Table (AttendanceRecord.clash (K := K)))
    (a b : AttendanceRecord K) (inA : a ∈ records) (inB : b ∈ records) (same : a.id = b.id) :
    a = b :=
  records.eq_of_clash a b inA inB (by simp [AttendanceRecord.clash, same])
    (by simp [AttendanceRecord.clash, same])

theorem findRecord_some (db : Database K) (sessionId studentId : Uuid)
    (record : AttendanceRecord K) (found : findRecord db sessionId studentId = some record) :
    record ∈ db.attendanceRecords ∧ record.sessionId = sessionId ∧ record.studentId = studentId := by
  refine ⟨List.mem_of_find?_eq_some found, ?_⟩
  simpa using List.find?_some found

theorem findRecord_none (db : Database K) (sessionId studentId : Uuid)
    (found : findRecord db sessionId studentId = none) (row : AttendanceRecord K)
    (member : row ∈ db.attendanceRecords) :
    ¬ (row.sessionId = sessionId ∧ row.studentId = studentId) := by
  rw [findRecord, List.find?_eq_none] at found
  simpa using found row member

theorem overwrite_spec (db : Database K) (sessionId studentId : Uuid) (data : RecordData K)
    (record : AttendanceRecord K) (found : findRecord db sessionId studentId = some record)
    (row : AttendanceRecord K) :
    row ∈ db.attendanceRecords.rows.map (overwriteRecord record data) ↔
      row = data.overwrite record ∨
        (row ∈ db.attendanceRecords ∧ ¬ (row.sessionId = sessionId ∧ row.studentId = studentId)) := by
  obtain ⟨stored, ofSession, ofStudent⟩ := findRecord_some db sessionId studentId record found
  rw [List.mem_map]
  constructor
  · rintro ⟨old, member, rfl⟩
    by_cases same : old.id = record.id
    · left
      rw [record_eq_of_id _ old record member stored same]
      simp [overwriteRecord]
    · right
      rw [overwriteRecord, if_neg same]
      refine ⟨member, ?_⟩
      rintro ⟨inSession, ofOther⟩
      exact same (congrArg _ (record_eq_of_pair _ old record member stored
        (inSession.trans ofSession.symm) (ofOther.trans ofStudent.symm)))
  · rintro (rfl | ⟨member, other⟩)
    · exact ⟨record, stored, by simp [overwriteRecord]⟩
    · refine ⟨row, member, if_neg fun same => other ?_⟩
      rw [record_eq_of_id _ row record member stored same]
      exact ⟨ofSession, ofStudent⟩

theorem upsertRecord_spec (uuids : UuidSource) (now : Instant) (sessionId studentId : Uuid)
    (data : RecordData K) (db : Database K) :
    Triple (· = db) (upsertRecord uuids now sessionId studentId data)
      fun record after => Upserted db after sessionId studentId data record := by
  apply triple_statement
  rintro draw _ result after rfl ran
  split at ran
  · next record found =>
      obtain ⟨_, ofSession, ofStudent⟩ := findRecord_some _ sessionId studentId record found
      obtain ⟨rfl, rfl⟩ := Prod.mk.inj (Except.ok.inj ran)
      exact ⟨ofSession, ofStudent, rfl, rfl, rfl, overwrite_spec _ _ _ _ _ found⟩
  · next found =>
      split at ran
      · cases ran
      · obtain ⟨rfl, rows, inserted, rfl⟩ := create_ok _ _ _ _ _ _ ran
        refine ⟨rfl, rfl, rfl, rfl, rfl, fun row => ?_⟩
        rw [Table.mem_insert _ _ _ inserted row]
        constructor
        · rintro (member | rfl)
          · exact Or.inr ⟨member, findRecord_none _ _ _ found row member⟩
          · exact Or.inl rfl
        · rintro (rfl | ⟨member, _⟩)
          · exact Or.inr rfl
          · exact Or.inl member

/-- An upsert that meets no fault fails only where a parent row is missing. -/
theorem upsertRecord_fails (uuids : UuidSource) (now : Instant) (sessionId studentId : Uuid)
    (data : RecordData K) (db : Database K) :
    FailsOnly (· = db) (upsertRecord uuids now sessionId studentId data)
      (findSession db sessionId = none ∨ findStudent db studentId = none) := by
  apply failsOnly_statement
  rintro draw db failure rfl refused
  split at refused
  · cases refused
  · next absent =>
      dsimp only at refused
      split at refused
      · next missing => simpa using missing
      · obtain ⟨old, member, clashes⟩ := create_error _ _ _ _ _ refused
        have other := findRecord_none _ _ _ absent old member
        have same : old.id = uuids.generate draw (db.attendanceRecords.rows.map (·.id)) := by
          rcases Bool.or_eq_true _ _ ▸ clashes with sameId | samePair
          · simpa using sameId
          · exact absurd (by simpa using samePair) other
        exact absurd (List.mem_map.mpr ⟨old, member, same⟩) (uuids.fresh draw _)

end FaceVec
