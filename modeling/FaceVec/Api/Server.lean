import FaceVec.Api.Attendance
import FaceVec.Api.Students

/-!
The routes of `/api/v1` for courses, attendance and students: the capability
gate of each router, its handlers, the central error handler, and sequences of
requests of one principal. The requests are those that validation let through.
-/

namespace FaceVec.Api

open Attendance Courses Faces

variable {K : Type}

inductive Capability where
  | MANAGE_USERS | MANAGE_COURSES | MANAGE_OWN_COURSES | ENROLL_STUDENTS | RUN_ATTENDANCE
  | VIEW_OWN_ATTENDANCE
  deriving DecidableEq, Repr

def Capability.text : Capability → String
  | .MANAGE_USERS => "manage:users"
  | .MANAGE_COURSES => "manage:courses"
  | .MANAGE_OWN_COURSES => "manage:own-courses"
  | .ENROLL_STUDENTS => "enroll:students"
  | .RUN_ATTENDANCE => "run:attendance"
  | .VIEW_OWN_ATTENDANCE => "view:own-attendance"

/-- `ROLE_CAPABILITIES`. -/
def capabilitiesOf : Role → List Capability
  | .ADMIN => [.MANAGE_USERS, .MANAGE_COURSES, .MANAGE_OWN_COURSES, .ENROLL_STUDENTS,
      .RUN_ATTENDANCE, .VIEW_OWN_ATTENDANCE]
  | .PROFESSOR => [.MANAGE_OWN_COURSES, .ENROLL_STUDENTS, .RUN_ATTENDANCE]
  | .STUDENT => [.VIEW_OWN_ATTENDANCE]

def can (role : Role) (capability : Capability) : Bool := (capabilitiesOf role).contains capability

inductive Request where
  | listCourses (query : ListCoursesQuery)
  | createCourse (input : CreateCourseInput)
  | getCourse (id : Uuid)
  | updateCourse (id : Uuid) (input : UpdateCourseInput)
  | deleteCourse (id : Uuid)
  | listEnrollments (courseId : Uuid) (query : Pagination)
  | enrollStudent (courseId : Uuid) (input : ResolveInput)
  | bulkEnroll (courseId : Uuid) (rows : List BulkImportRow)
  | getImportJob (courseId jobId : Uuid)
  | unenrollStudent (courseId studentId : Uuid)
  | openSession (courseId : Uuid)
  | listSessions (courseId : Uuid) (query : Pagination)
  | getSession (id : Uuid)
  | closeSession (id : Uuid)
  | markAttendance (sessionId : Uuid) (input : MarkAttendanceInput)
  | identify (sessionId : Uuid)
  | listRecords (sessionId : Uuid) (query : Pagination)
  | listStudents (query : ListStudentsQuery)
  | createStudent (input : CreateStudentInput)
  | getStudent (id : Uuid)
  | updateStudent (id : Uuid) (input : UpdateStudentInput)
  | deleteStudent (id : Uuid)
  | enrollFace (studentId : Uuid) (file : UploadedImage)
  | listFaces (studentId : Uuid)
  | removeFace (studentId embeddingId : Uuid)

/-- The gates on the way to a handler. The course router is mounted first, so
the session routes under `/courses` pass its gate, too. -/
def Request.gates : Request → List Capability
  | .listCourses _ | .createCourse _ | .getCourse _ | .updateCourse _ _ | .deleteCourse _
  | .listEnrollments _ _ | .enrollStudent _ _ | .bulkEnroll _ _ | .getImportJob _ _
  | .unenrollStudent _ _ => [.MANAGE_OWN_COURSES]
  | .openSession _ | .listSessions _ _ => [.MANAGE_OWN_COURSES, .RUN_ATTENDANCE]
  | .getSession _ | .closeSession _ | .markAttendance _ _ | .identify _ | .listRecords _ _ =>
      [.RUN_ATTENDANCE]
  | .listStudents _ | .createStudent _ | .getStudent _ | .updateStudent _ _ | .deleteStudent _
  | .enrollFace _ _ | .listFaces _ | .removeFace _ _ => [.ENROLL_STUDENTS]

/-- What `res` carries: an answer, or the error body. -/
inductive Response (K : Type) where
  | answer (status : Nat) (body : Body K)
  | error (status : Nat) (body : ErrorBody)
  deriving DecidableEq, Repr

def respond (config : Config) (requestId : String) : Reply K → Response K
  | .error failure =>
      let answered := errorHandler config.isProduction requestId failure
      .error answered.1 answered.2
  | .ok (status, body) => .answer status body

/-- What does not change between requests. -/
structure Setting (K : Type) where
  config : Config
  uuids : UuidSource
  codec : Codec
  contains : Contains
  vision : Vision K
  threshold : K

section Serve

variable [Ring K] [LinearOrder K] (setting : Setting K) (actor : AuthContext)

def handle : Request → Handler K
  | .listCourses query => listCourses setting.contains actor query
  | .createCourse input => createCourse setting.uuids actor input
  | .getCourse id => getCourse actor id
  | .updateCourse id input => updateCourse actor id input
  | .deleteCourse id => deleteCourse actor id
  | .listEnrollments courseId query => listEnrollments actor courseId query
  | .enrollStudent courseId input => enrollStudent setting.uuids actor courseId input
  | .bulkEnroll courseId rows => bulkEnroll setting.uuids actor courseId rows
  | .getImportJob courseId jobId => getImportJob actor courseId jobId
  | .unenrollStudent courseId studentId => unenrollStudent actor courseId studentId
  | .openSession courseId => openSession setting.uuids actor courseId
  | .listSessions courseId query => listSessions actor courseId query
  | .getSession id => getSession actor id
  | .closeSession id => closeSession actor id
  | .markAttendance sessionId input => markAttendance setting.uuids actor sessionId input
  | .identify sessionId =>
      identify setting.uuids actor setting.vision setting.threshold sessionId
  | .listRecords sessionId query => listRecords actor sessionId query
  | .listStudents query => listStudents setting.contains query
  | .createStudent input => createStudent setting.uuids input
  | .getStudent id => getStudent id
  | .updateStudent id input => updateStudent id input
  | .deleteStudent id => deleteStudent id
  | .enrollFace studentId file => enrollFace setting.uuids setting.codec studentId file
  | .listFaces studentId => listFaces studentId
  | .removeFace studentId embeddingId => removeFace studentId embeddingId

def forbidden (capability : Capability) : Failure :=
  .http (forbiddenError ("Missing required capability: " ++ capability.text))

/-- One request of the principal, from the gates to the response. -/
def serve (request : Request) (met : Circumstances K) (platform : Platform K) :
    Response K × Platform K :=
  let done : Reply K × Platform K :=
    match request.gates.find? fun capability => !can actor.role capability with
    | some missing => (.error (forbidden missing), platform)
    | none => handle setting actor request met platform
  (respond setting.config met.requestId done.1, done.2)

/-- The responses to requests one after the other, and what they leave. -/
def serveAll : List (Request × Circumstances K) → Platform K → List (Response K) × Platform K
  | [], platform => ([], platform)
  | (request, met) :: rest, platform =>
      let first := serve setting actor request met platform
      let later := serveAll rest first.2
      (first.1 :: later.1, later.2)

end Serve

end FaceVec.Api
