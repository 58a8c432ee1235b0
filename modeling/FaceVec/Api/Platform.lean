import Mathlib.Data.List.Sort
import FaceVec.Cascades
import FaceVec.Courses.Enrollment
import FaceVec.Faces.Enrollment

/-!
What the HTTP handlers share: the stored rows with their time stamps, pages of
rows (`http/pagination.ts`), the bodies of the serializers, and the run of one
transaction. A handler serves one request from beginning to end.
-/

namespace FaceVec.Api

open Attendance Courses Faces

variable {K : Type}

structure Stamp where
  createdAt : Instant
  updatedAt : Instant
  deriving DecidableEq, Repr

/-- The time columns of the tables, by the ids of the rows. -/
structure Stamps where
  students : Uuid → Stamp
  courses : Uuid → Stamp
  importJobs : Uuid → Stamp
  /-- `created_at` of enrollments and faces, `started_at` of sessions. -/
  courseEnrollments : Uuid → Instant
  faceEmbeddings : Uuid → Instant
  attendanceSessions : Uuid → Instant

/-- A column that defaults to `now()`, when all rows but the `old` ones are new. -/
def stampNew {α : Type} (old : List Uuid) (fresh : α) (stamps : Uuid → α) (id : Uuid) : α :=
  if id ∈ old then stamps id else fresh

def Stamps.settle (stamps : Stamps) (now : Instant) (db : Database K) : Stamps where
  students := stampNew (db.students.rows.map (·.id)) ⟨now, now⟩ stamps.students
  courses := stampNew (db.courses.rows.map (·.id)) ⟨now, now⟩ stamps.courses
  importJobs := stampNew (db.importJobs.rows.map (·.id)) ⟨now, now⟩ stamps.importJobs
  courseEnrollments :=
    stampNew (db.courseEnrollments.rows.map (·.id)) now stamps.courseEnrollments
  faceEmbeddings := stampNew (db.faceEmbeddings.rows.map (·.id)) now stamps.faceEmbeddings
  attendanceSessions :=
    stampNew (db.attendanceSessions.rows.map (·.id)) now stamps.attendanceSessions

/-- `@updatedAt` of the row an update has written. -/
def touch (now : Instant) (id : Uuid) (stamps : Uuid → Stamp) : Uuid → Stamp :=
  Function.update stamps id { stamps id with updatedAt := now }

structure Platform (K : Type) where
  db : Database K
  users : Table User.clash
  stamps : Stamps
  /-- The face tasks handed to the broker. -/
  queued : List EnrollmentTask
  /-- The students whose deletion committed; no handler reads them. -/
  deleted : List Uuid

def hasUser (users : Table User.clash) (id : Uuid) : Bool := users.rows.any (·.id == id)

/-- What one request meets besides the database. -/
structure Circumstances (K : Type) where
  now : Instant
  requestId : String
  /-- What its reads meet. -/
  fault : Option Failure := none
  /-- What its transaction, or its one writing statement, meets. -/
  fate : Fate := {}
  extraction : Except Failure (EmbeddingResult K)
  /-- The face that the search puts first. -/
  chosen : Option Uuid := none
  draw : Nat := 0
  /-- Whether the broker confirms a face task. -/
  confirmed : Bool := true

def Circumstances.read {α : Type} (met : Circumstances K) (result : Except Failure α) :
    Except Failure α :=
  match met.fault with
  | some failure => .error failure
  | none => result

section Pages

/-- `paginationSchema`, with its defaults and its upper bound. -/
structure Pagination where
  page : ℕ+ := 1
  pageSize : ℕ+ := 20
  bounded : pageSize ≤ 100 := by decide

structure Page (Row : Type) where
  items : List Row
  total : Nat
  page : ℕ+
  pageSize : ℕ+

structure Paginated (Dto : Type) where
  data : List Dto
  page : ℕ+
  pageSize : ℕ+
  total : Nat
  totalPages : Nat
  deriving DecidableEq, Repr

/-- `orderBy: 'desc'`; rows of one instant stay in the order of insertion. -/
def newestFirst {Row : Type} (stamp : Row → Instant) (rows : List Row) : List Row :=
  rows.insertionSort fun a b => stamp b ≤ stamp a

def pageOf {Row : Type} (query : Pagination) (stamp : Row → Instant) (rows : List Row) : Page Row :=
  let skip := ((query.page : ℕ) - 1) * query.pageSize
  { items := ((newestFirst stamp rows).drop skip).take query.pageSize
    total := rows.length
    page := query.page
    pageSize := query.pageSize }

def paginatedResponse {Row Dto : Type} (page : Page Row) (map : Row → Dto) : Paginated Dto :=
  { data := page.items.map map
    page := page.page
    pageSize := page.pageSize
    total := page.total
    totalPages := max 1 ((page.total + page.pageSize - 1) / page.pageSize) }

end Pages

section Serializers

structure StudentDto where
  id : Uuid
  studentNumber : String
  fullName : String
  email : Option String
  userId : Option Uuid
  createdAt : Instant
  updatedAt : Instant
  deriving DecidableEq, Repr

structure CourseDto where
  id : Uuid
  code : String
  title : String
  professorId : Uuid
  createdAt : Instant
  updatedAt : Instant
  deriving DecidableEq, Repr

/-- `student` is only absent where the row refers to no student. -/
structure EnrollmentDto where
  id : Uuid
  courseId : Uuid
  studentId : Uuid
  enrolledAt : Instant
  student : Option StudentDto
  deriving DecidableEq, Repr

structure ImportJobDto where
  id : Uuid
  courseId : Uuid
  status : ImportJobStatus
  totalRows : Nat
  processedRows : Nat
  report : Option ImportReport
  createdAt : Instant
  updatedAt : Instant
  deriving DecidableEq, Repr

structure SessionDto where
  id : Uuid
  courseId : Uuid
  createdById : Uuid
  status : SessionStatus
  startedAt : Instant
  endedAt : Option Instant
  deriving DecidableEq, Repr

structure AttendanceRecordDto (K : Type) where
  id : Uuid
  sessionId : Uuid
  studentId : Uuid
  status : AttendanceStatus
  method : AttendanceMethod
  similarity : Option (Number K)
  capturedAt : Instant
  student : Option StudentDto
  deriving DecidableEq, Repr

structure FaceEmbeddingDto (K : Type) where
  id : Uuid
  studentId : Uuid
  model : String
  quality : Option K
  sourceImageHash : Option String
  createdAt : Instant
  deriving DecidableEq, Repr

variable (platform : Platform K)

def serializeStudent (student : Student) : StudentDto :=
  let stamp := platform.stamps.students student.id
  ⟨student.id, student.studentNumber, student.fullName, student.email, student.userId,
    stamp.createdAt, stamp.updatedAt⟩

def serializeCourse (course : Course) : CourseDto :=
  let stamp := platform.stamps.courses course.id
  ⟨course.id, course.code, course.title, course.professorId, stamp.createdAt, stamp.updatedAt⟩

def includeStudent (studentId : Uuid) : Option StudentDto :=
  (findStudent platform.db studentId).map (serializeStudent platform)

def serializeEnrollment (enrollment : CourseEnrollment) : EnrollmentDto :=
  ⟨enrollment.id, enrollment.courseId, enrollment.studentId,
    platform.stamps.courseEnrollments enrollment.id, includeStudent platform enrollment.studentId⟩

def serializeImportJob (job : ImportJob) : ImportJobDto :=
  let stamp := platform.stamps.importJobs job.id
  ⟨job.id, job.courseId, job.status, job.totalRows, job.processedRows, job.report,
    stamp.createdAt, stamp.updatedAt⟩

def serializeSession (session : AttendanceSession) : SessionDto :=
  ⟨session.id, session.courseId, session.createdById, session.status,
    platform.stamps.attendanceSessions session.id, session.endedAt⟩

def serializeRecord (record : AttendanceRecord K) : AttendanceRecordDto K :=
  ⟨record.id, record.sessionId, record.studentId, record.status, record.method,
    record.similarity, record.capturedAt, includeStudent platform record.studentId⟩

def serializeEmbedding (face : FaceEmbedding K) : FaceEmbeddingDto K :=
  ⟨face.id, face.studentId, face.model, face.quality, face.sourceImageHash,
    platform.stamps.faceEmbeddings face.id⟩

end Serializers

/-- The JSON of a successful answer; `empty` is a 204. -/
inductive Body (K : Type) where
  | course (course : CourseDto)
  | courses (page : Paginated CourseDto)
  | enrollment (enrollment : EnrollmentDto) (created alreadyEnrolled : Bool)
  | enrollments (page : Paginated EnrollmentDto)
  | job (job : ImportJobDto)
  | session (session : SessionDto)
  | sessions (page : Paginated SessionDto)
  | record (record : AttendanceRecordDto K)
  | records (page : Paginated (AttendanceRecordDto K))
  | identified (matched : Bool) (similarity : Option (Number K)) (threshold : K)
      (student : Option (Uuid × String × String)) (record : Option (AttendanceRecordDto K))
  | student (student : StudentDto)
  | students (page : Paginated StudentDto)
  | enrolled (embedding : FaceEmbeddingDto K) (faceCount : Nat)
  | queued (jobId : Uuid)
  | faces (data : List (FaceEmbeddingDto K))
  | empty
  deriving DecidableEq, Repr

/-- The status and the body of an answer, or what the handler threw. -/
abbrev Reply (K : Type) := Except Failure (Nat × Body K)

abbrev Handler (K : Type) := Circumstances K → Platform K → Reply K × Platform K

/-- Go on where a check passed. -/
def provided {α : Type} (check : Except Failure α) (platform : Platform K)
    (next : α → Reply K × Platform K) : Reply K × Platform K :=
  match check with
  | .error failure => (.error failure, platform)
  | .ok value => next value

/-- Run a transaction and answer from what it leaves; `amend` completes the
columns of what it has committed. -/
def transact {α : Type} (body : Statement K α) (failed : Failure → Failure)
    (amend : Platform K → Platform K) (answer : Platform K → α → Reply K)
    (met : Circumstances K) (platform : Platform K) : Reply K × Platform K :=
  let run := transaction body met.fate.chances met.fate.ending platform.db
  let settled := { platform with db := run.2, stamps := platform.stamps.settle met.now platform.db }
  let after :=
    if commits body met.fate.chances met.fate.ending platform.db then amend settled else settled
  match run.1 with
  | .error failure => (.error (failed failure), after)
  | .ok result => (answer after result, after)

/-- A transaction whose failure is thrown on as it is. -/
def commit {α : Type} (body : Statement K α) (answer : Platform K → α → Reply K) : Handler K :=
  transact body id id answer

end FaceVec.Api
