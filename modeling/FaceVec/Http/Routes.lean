import FaceVec.Http.Validate

/-!
The routers of `routes.ts` and how a request finds its handler: each router
under its base path, with its gate, in the order in which they are mounted, and
the attendance router at the root behind the others.
-/

namespace FaceVec.Http

open Validation Api Users Courses Faces

inductive Method where
  | GET | HEAD | POST | PATCH | DELETE
  | other (name : String)
  deriving DecidableEq, Repr

/-- A segment of a route's path. -/
inductive Part where
  | literal (text : String)
  | param (name : String)
  deriving DecidableEq, Repr

/-- What stands before `validate` on a route of its own. -/
inductive Guard where
  | unguarded
  | optional
  | required
  | capable (capability : Capability)

inductive Action where
  | register (input : RegisterInput)
  | login (input : LoginInput)
  | refresh
  | logout
  | users (request : Users.Request)
  | api (request : Api.Request)

inductive Rejection where
  | invalid (details : List Detail)
  | failed (failure : Failure)

structure Route where
  method : Method
  path : List Part
  guard : Guard := .unguarded
  read : Parts → Except Rejection Action

structure Router where
  base : Option String
  /-- `router.use(authenticate, requireCapability(…))`. -/
  gate : Option Capability
  routes : List Route

/-- A request under `/api/v1`, its path without a slash at the end. -/
structure Incoming where
  method : Method
  path : List String
  body : Option Json
  query : List (String × Json)
  upload : Except Failure (Option UploadedImage)

inductive Outcome where
  | handled (actor : Option AuthContext) (action : Action)
  | rejected (rejection : Rejection)
  | denied (failure : Failure)
  | notFound

section Reading

variable {α β γ : Type}

def validated (body : Schema α) (params : Schema β) (query : Schema γ)
    (make : α → β → γ → Action) (parts : Parts) : Except Rejection Action :=
  match validate body params query parts with
  | .error details => .error (.invalid details)
  | .ok value => .ok (make value.1 value.2.1 value.2.2)

def missingImage : Failure := .http (badRequestError "Missing image upload (form field \"image\")")

/-- `imageUpload.single('image')` and `requireImage` behind the validation. -/
def withImage (params : Schema β) (make : β → UploadedImage → Action) (parts : Parts) :
    Except Rejection Action :=
  match validate ignored params ignored parts with
  | .error details => .error (.invalid details)
  | .ok value =>
      match parts.upload with
      | .error failure => .error (.failed failure)
      | .ok none => .error (.failed missingImage)
      | .ok (some file) => .ok (make value.2.1 file)

end Reading

section Tables

open FaceVec.Http.Part

variable (formats : Formats)

def authRouter : Router where
  base := some "auth"
  gate := none
  routes :=
    [{ method := .POST, path := [literal "register"],
       read := validated (registerSchema formats) ignored ignored fun input _ _ => .register input },
     { method := .POST, path := [literal "login"],
       read := validated (loginSchema formats) ignored ignored fun input _ _ => .login input },
     { method := .POST, path := [literal "refresh"], read := fun _ => .ok .refresh },
     { method := .POST, path := [literal "logout"], guard := .optional, read := fun _ => .ok .logout },
     { method := .POST, path := [literal "logout-all"], guard := .required,
       read := fun _ => .ok (.users .logoutAll) },
     { method := .GET, path := [literal "me"], guard := .required, read := fun _ => .ok (.users .me) }]

def usersRouter : Router where
  base := some "users"
  gate := some .MANAGE_USERS
  routes :=
    [{ method := .GET, path := [],
       read := validated ignored ignored (listUsersQuerySchema formats)
         fun _ _ query => .users (.listUsers query) },
     { method := .POST, path := [],
       read := validated (createUserSchema formats) ignored ignored
         fun input _ _ => .users (.createUser input) },
     { method := .GET, path := [param "id"],
       read := validated ignored (idParamSchema formats) ignored fun _ id _ => .users (.getUser id) },
     { method := .PATCH, path := [param "id"],
       read := validated updateUserSchema (idParamSchema formats) ignored
         fun input id _ => .users (.updateUser id input) },
     { method := .DELETE, path := [param "id"],
       read := validated ignored (idParamSchema formats) ignored
         fun _ id _ => .users (.deleteUser id) }]

def studentsRouter : Router where
  base := some "students"
  gate := some .ENROLL_STUDENTS
  routes :=
    [{ method := .GET, path := [],
       read := validated ignored ignored (listStudentsQuerySchema formats)
         fun _ _ query => .api (.listStudents query) },
     { method := .POST, path := [],
       read := validated (createStudentSchema formats) ignored ignored
         fun input _ _ => .api (.createStudent input) },
     { method := .GET, path := [param "id"],
       read := validated ignored (idParamSchema formats) ignored
         fun _ id _ => .api (.getStudent id) },
     { method := .PATCH, path := [param "id"],
       read := validated (updateStudentSchema formats) (idParamSchema formats) ignored
         fun input id _ => .api (.updateStudent id input) },
     { method := .DELETE, path := [param "id"],
       read := validated ignored (idParamSchema formats) ignored
         fun _ id _ => .api (.deleteStudent id) },
     { method := .POST, path := [param "id", literal "faces"],
       read := withImage (idParamSchema formats) fun id file => .api (.enrollFace id file) },
     { method := .GET, path := [param "id", literal "faces"],
       read := validated ignored (idParamSchema formats) ignored
         fun _ id _ => .api (.listFaces id) },
     { method := .DELETE, path := [param "id", literal "faces", param "embeddingId"],
       read := validated ignored (faceParamsSchema formats) ignored
         fun _ ids _ => .api (.removeFace ids.1 ids.2) }]

def coursesRouter : Router where
  base := some "courses"
  gate := some .MANAGE_OWN_COURSES
  routes :=
    [{ method := .GET, path := [],
       read := validated ignored ignored (listCoursesQuerySchema formats)
         fun _ _ query => .api (.listCourses query) },
     { method := .POST, path := [],
       read := validated (createCourseSchema formats) ignored ignored
         fun input _ _ => .api (.createCourse input) },
     { method := .GET, path := [param "id"],
       read := validated ignored (idParamSchema formats) ignored
         fun _ id _ => .api (.getCourse id) },
     { method := .PATCH, path := [param "id"],
       read := validated (updateCourseSchema formats) (idParamSchema formats) ignored
         fun input id _ => .api (.updateCourse id input) },
     { method := .DELETE, path := [param "id"],
       read := validated ignored (idParamSchema formats) ignored
         fun _ id _ => .api (.deleteCourse id) },
     { method := .GET, path := [param "id", literal "enrollments"],
       read := validated ignored (idParamSchema formats) (paginationSchema formats)
         fun _ id query => .api (.listEnrollments id query) },
     { method := .POST, path := [param "id", literal "enrollments"],
       read := validated (enrollStudentSchema formats) (idParamSchema formats) ignored
         fun input id _ => .api (.enrollStudent id input) },
     { method := .POST, path := [param "id", literal "enrollments", literal "bulk"],
       read := validated (bulkEnrollSchema formats) (idParamSchema formats) ignored
         fun rows id _ => .api (.bulkEnroll id rows) },
     { method := .GET, path := [param "id", literal "imports", param "jobId"],
       read := validated ignored (importJobParamsSchema formats) ignored
         fun _ ids _ => .api (.getImportJob ids.1 ids.2) },
     { method := .DELETE, path := [param "id", literal "enrollments", param "studentId"],
       read := validated ignored (enrollmentParamsSchema formats) ignored
         fun _ ids _ => .api (.unenrollStudent ids.1 ids.2) }]

def attendanceRouter : Router where
  base := none
  gate := none
  routes :=
    [{ method := .POST, path := [literal "courses", param "id", literal "sessions"],
       guard := .capable .RUN_ATTENDANCE,
       read := validated ignored (idParamSchema formats) ignored
         fun _ id _ => .api (.openSession id) },
     { method := .GET, path := [literal "courses", param "id", literal "sessions"],
       guard := .capable .RUN_ATTENDANCE,
       read := validated ignored (idParamSchema formats) (paginationSchema formats)
         fun _ id query => .api (.listSessions id query) },
     { method := .GET, path := [literal "sessions", param "id"],
       guard := .capable .RUN_ATTENDANCE,
       read := validated ignored (idParamSchema formats) ignored
         fun _ id _ => .api (.getSession id) },
     { method := .POST, path := [literal "sessions", param "id", literal "close"],
       guard := .capable .RUN_ATTENDANCE,
       read := validated ignored (idParamSchema formats) ignored
         fun _ id _ => .api (.closeSession id) },
     { method := .POST, path := [literal "sessions", param "id", literal "attendance"],
       guard := .capable .RUN_ATTENDANCE,
       read := validated (markAttendanceSchema formats) (idParamSchema formats) ignored
         fun input id _ => .api (.markAttendance id input) },
     { method := .POST, path := [literal "sessions", param "id", literal "identify"],
       guard := .capable .RUN_ATTENDANCE,
       read := withImage (idParamSchema formats) fun id _ => .api (.identify id) },
     { method := .GET, path := [literal "sessions", param "id", literal "attendance"],
       guard := .capable .RUN_ATTENDANCE,
       read := validated ignored (idParamSchema formats) (paginationSchema formats)
         fun _ id query => .api (.listRecords id query) }]

def routers : List Router :=
  [authRouter formats, usersRouter formats, studentsRouter formats, coursesRouter formats,
    attendanceRouter formats]

end Tables

section Matching

/-- Paths are compared without regard to case. -/
def same (literal segment : String) : Bool :=
  Text.toLowerCase literal == Text.toLowerCase segment

/-- A `GET` route serves `HEAD`, too. -/
def Method.serves : Method → Method → Bool
  | .GET, .HEAD => true
  | route, request => route == request

/-- The values of the path's parameters, none of which is empty. -/
def matchPath : List Part → List String → Option (List (String × String))
  | [], [] => some []
  | .literal text :: parts, segment :: rest => if same text segment then matchPath parts rest else none
  | .param name :: parts, segment :: rest =>
      if segment = "" then none else (matchPath parts rest).map ((name, segment) :: ·)
  | _, _ => none

def Router.mounted (router : Router) (path : List String) : Option (List String) :=
  match router.base, path with
  | none, path => some path
  | some _, [] => none
  | some base, segment :: rest => if same base segment then some rest else none

/-- `requireCapability` behind `authenticate`. -/
def authorize (auth : Except Failure AuthContext) (capability : Capability) :
    Except Failure AuthContext :=
  match auth with
  | .error failure => .error failure
  | .ok actor => if can actor.role capability then .ok actor else .error (forbidden capability)

/-- `req.auth` behind a guard, given what it was before. -/
def Guard.admits (auth : Except Failure AuthContext) (current : Option AuthContext) :
    Guard → Except Failure (Option AuthContext)
  | .unguarded => .ok current
  | .optional => .ok (auth.toOption.or current)
  | .required => auth.map some
  | .capable capability => (authorize auth capability).map some

def Route.run (auth : Except Failure AuthContext) (current : Option AuthContext)
    (request : Incoming) (path : List String) (route : Route) : Option Outcome :=
  if route.method.serves request.method then
    (matchPath route.path path).map fun params =>
      match route.guard.admits auth current with
      | .error failure => .denied failure
      | .ok actor =>
          match route.read ⟨request.body, params, request.query, request.upload⟩ with
          | .error rejection => .rejected rejection
          | .ok action => .handled actor action
  else none

/-- `req.auth` behind the gate of a router. -/
def Router.enter (router : Router) (auth : Except Failure AuthContext) :
    Except Failure (Option AuthContext) :=
  match router.gate with
  | none => .ok none
  | some capability => (authorize auth capability).map some

/-- The outcome of a request in a router; `none` goes on to the next one. -/
def Router.run (auth : Except Failure AuthContext) (request : Incoming) (router : Router) :
    Option Outcome :=
  (router.mounted request.path).bind fun path =>
    match router.enter auth with
    | .error failure => some (.denied failure)
    | .ok current => router.routes.findSome? fun route => route.run auth current request path

def dispatch (formats : Formats) (auth : Except Failure AuthContext) (request : Incoming) :
    Outcome :=
  ((routers formats).findSome? (·.run auth request)).getD .notFound

end Matching

end FaceVec.Http
