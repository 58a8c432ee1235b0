import Mathlib.Data.PNat.Basic
import FaceVec.Table

/-!
The relational model of `prisma/schema.prisma`: rows, enums and, as `clash`
relations, the primary keys and unique indexes. `createdAt` and `updatedAt`
columns are kept only where a modelled function reads them. Numbers are exact:
`K` stands for the arithmetic of embeddings and similarities.
-/

namespace FaceVec

abbrev Uuid := Nat

/-- Milliseconds since the epoch, as in `Date.getTime()`. -/
abbrev Instant := Nat

/-- A source of `gen_random_uuid()` values: whatever `draw` is, the value is
not in use in the column it is generated for. -/
structure UuidSource where
  generate : Nat → List Uuid → Uuid
  fresh : ∀ draw used, generate draw used ∉ used

theorem le_foldr_max (used : List Uuid) (id : Uuid) (member : id ∈ used) :
    id ≤ used.foldr max 0 := by
  induction used with
  | nil => simp at member
  | cons head rest ih =>
      rcases List.mem_cons.mp member with rfl | later
      · exact Nat.le_max_left _ _
      · exact Nat.le_trans (ih later) (Nat.le_max_right _ _)

/-- A source that counts on from the largest id in use. -/
def UuidSource.counting : UuidSource where
  generate draw used := used.foldr max 0 + draw + 1
  fresh draw used member := by
    have above : used.foldr max 0 < used.foldr max 0 + draw + 1 :=
      Nat.lt_succ_of_le (Nat.le_add_right _ _)
    exact Nat.not_le_of_lt above (le_foldr_max used _ member)

/-- SQL unique indexes never compare NULLs as equal. -/
def sameValue {α : Type} [DecidableEq α] : Option α → Option α → Bool
  | some x, some y => x == y
  | _, _ => false

inductive Role where
  | PROFESSOR | ADMIN | STUDENT
  deriving DecidableEq, Repr

structure User where
  id : Uuid
  email : String
  passwordHash : String
  role : Role
  isActive : Bool
  deriving DecidableEq, Repr

def User.clash (a b : User) : Bool := a.id == b.id || a.email == b.email

/-- The principal of a request (`http/types.ts`). -/
structure AuthContext where
  userId : Uuid
  role : Role
  jti : String
  expiresAt : ℤ
  deriving DecidableEq, Repr

structure RefreshToken where
  id : Uuid
  userId : Uuid
  tokenHash : String
  expiresAt : Instant
  revokedAt : Option Instant
  replacedById : Option Uuid
  userAgent : Option String
  ip : Option String
  deriving DecidableEq, Repr

def RefreshToken.clash (a b : RefreshToken) : Bool :=
  a.id == b.id || a.tokenHash == b.tokenHash || sameValue a.replacedById b.replacedById

structure Student where
  id : Uuid
  studentNumber : String
  fullName : String
  email : Option String
  userId : Option Uuid
  deriving DecidableEq, Repr

def Student.clash (a b : Student) : Bool :=
  a.id == b.id || a.studentNumber == b.studentNumber || sameValue a.email b.email ||
    sameValue a.userId b.userId

structure Course where
  id : Uuid
  code : String
  title : String
  professorId : Uuid
  deriving DecidableEq, Repr

def Course.clash (a b : Course) : Bool := a.id == b.id || a.code == b.code

structure CourseEnrollment where
  id : Uuid
  courseId : Uuid
  studentId : Uuid
  deriving DecidableEq, Repr

def CourseEnrollment.clash (a b : CourseEnrollment) : Bool :=
  a.id == b.id || (a.courseId == b.courseId && a.studentId == b.studentId)

inductive OutboxStatus where
  | PENDING | PUBLISHED | FAILED
  deriving DecidableEq, Repr

/-- `Payload` is what the JSON column holds. -/
structure OutboxMessage (Payload : Type) where
  id : Uuid
  aggregateType : String
  aggregateId : Uuid
  eventType : String
  payload : Payload
  status : OutboxStatus := .PENDING
  attempts : Nat := 0
  availableAt : Instant
  publishedAt : Option Instant := none
  lastError : Option String := none
  createdAt : Instant
  deriving DecidableEq, Repr

def OutboxMessage.clash {Payload : Type} (a b : OutboxMessage Payload) : Bool := a.id == b.id

inductive ImportJobStatus where
  | PENDING | PROCESSING | COMPLETED | FAILED
  deriving DecidableEq, Repr

inductive ImportRowStatus where
  | created | enrolled | already | error
  deriving DecidableEq, Repr

structure ImportRowResult where
  row : Nat
  studentNumber : String
  status : ImportRowStatus
  message : Option String := none
  deriving DecidableEq, Repr

/-- The JSON of the `report` column: the rows' results, or `{ error }`. -/
inductive ImportReport where
  | rows (results : List ImportRowResult)
  | error (message : String)
  deriving DecidableEq, Repr

structure ImportJob where
  id : Uuid
  courseId : Uuid
  createdById : Option Uuid
  status : ImportJobStatus
  totalRows : Nat
  processedRows : Nat
  report : Option ImportReport
  deriving DecidableEq, Repr

def ImportJob.clash (a b : ImportJob) : Bool := a.id == b.id

/-- A JavaScript number over the exact values `K`. -/
inductive Number (K : Type) where
  | nan
  | real (value : K)
  deriving DecidableEq, Repr

/-- `a < b`; every comparison with NaN is false. -/
def Number.lt {K : Type} [LT K] [DecidableLT K] : Number K → Number K → Bool
  | .real a, .real b => decide (a < b)
  | _, _ => false

/-- The value of a column; the JSON of a query's parameters has null for NaN. -/
def Number.column {K : Type} : Number K → Option (Number K)
  | .nan => none
  | .real value => some (.real value)

theorem Number.column_real {K : Type} (number : Number K) (value : K)
    (stored : number.column = some (.real value)) : number = .real value := by
  cases number with
  | nan => cases stored
  | real own => exact Option.some.inj stored

structure FaceEmbedding (K : Type) where
  id : Uuid
  studentId : Uuid
  embedding : List K
  model : String
  quality : Option K
  sourceImageHash : Option String
  deriving DecidableEq, Repr

def FaceEmbedding.clash {K : Type} (a b : FaceEmbedding K) : Bool := a.id == b.id

inductive SessionStatus where
  | OPEN | CLOSED
  deriving DecidableEq, Repr

structure AttendanceSession where
  id : Uuid
  courseId : Uuid
  createdById : Uuid
  status : SessionStatus
  endedAt : Option Instant
  deriving DecidableEq, Repr

def AttendanceSession.clash (a b : AttendanceSession) : Bool := a.id == b.id

inductive AttendanceStatus where
  | PRESENT | LATE | ABSENT
  deriving DecidableEq, Repr

inductive AttendanceMethod where
  | FACE | MANUAL
  deriving DecidableEq, Repr

structure AttendanceRecord (K : Type) where
  id : Uuid
  sessionId : Uuid
  studentId : Uuid
  status : AttendanceStatus
  method : AttendanceMethod
  similarity : Option (Number K)
  capturedAt : Instant
  deriving DecidableEq, Repr

def AttendanceRecord.clash {K : Type} (a b : AttendanceRecord K) : Bool :=
  a.id == b.id || (a.sessionId == b.sessionId && a.studentId == b.studentId)

structure BulkImportRow where
  studentNumber : String
  fullName : Option String
  email : Option String
  deriving DecidableEq, Repr

/-- The payload contracts of `messaging/events.ts`. Only identified faces
carry a `similarity` key. -/
inductive EventPayload (K : Type) where
  | attendanceRecorded (recordId sessionId courseId studentId : Uuid) (status : AttendanceStatus)
      (method : AttendanceMethod) (similarity : Option (Option (Number K))) (capturedAt : Instant)
  | courseStudentEnrolled (enrollmentId courseId studentId : Uuid)
  | courseBulkImportRequested (jobId courseId : Uuid) (rows : List BulkImportRow)
  deriving DecidableEq, Repr

namespace EventType

def AttendanceRecorded : String := "attendance.recorded"
def CourseStudentEnrolled : String := "course.student_enrolled"
def CourseBulkImportRequested : String := "import.bulk.requested"

end EventType

end FaceVec
