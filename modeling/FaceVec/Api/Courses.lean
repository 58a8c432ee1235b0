import FaceVec.Api.Platform

/-!
The course routes: `courses.controller.ts` over `courses.service.ts` and
`bulk-import.service.ts`. How PostgreSQL compares texts without regard to case
is a parameter.
-/

namespace FaceVec.Api

open Courses

variable {K : Type}

structure CreateCourseInput where
  code : String
  title : String
  professorId : Option Uuid := none
  deriving DecidableEq, Repr

structure UpdateCourseInput where
  code : Option String := none
  title : Option String := none
  professorId : Option Uuid := none
  deriving DecidableEq, Repr

structure ListCoursesQuery where
  page : Pagination := {}
  search : Option String := none
  professorId : Option Uuid := none

/-- `{ contains, mode: 'insensitive' }`: the text, then what it is searched for. -/
abbrev Contains := String → String → Bool

def courseIds (db : Database K) : List Uuid :=
  db.courses.rows.map (·.id) ++ db.courseEnrollments.rows.map (·.courseId) ++
    db.attendanceSessions.rows.map (·.courseId) ++ db.importJobs.rows.map (·.courseId)

section Statements

variable (uuids : UuidSource) (users : Table User.clash)

def createCourseRow (code title : String) (professorId : Uuid) : Statement K Course :=
  statement fun draw db =>
    let id := uuids.generate draw (courseIds db)
    match create (·.courses) (fun courses db => { db with courses })
        ⟨id, code, title, professorId⟩ db with
    | .error failure => .error failure
    -- A foreign key is checked when the statement ends.
    | .ok created => if hasUser users professorId then .ok created else violation .P2003

def UpdateCourseInput.overwrite (data : UpdateCourseInput) (course : Course) : Course :=
  { course with
    code := data.code.getD course.code
    title := data.title.getD course.title
    professorId := data.professorId.getD course.professorId }

def overwriteCourse (id : Uuid) (data : UpdateCourseInput) (course : Course) : Course :=
  if course.id = id then data.overwrite course else course

def updateCourseRow (id : Uuid) (data : UpdateCourseInput) : Statement K Course :=
  statement fun _ db =>
    match findCourse db id with
    | none => violation .P2025
    | some course =>
        match db.courses.rewrite (overwriteCourse id data) with
        | none => violation .P2002
        | some courses =>
            if data.professorId.all (hasUser users) then
              .ok (data.overwrite course, { db with courses })
            else violation .P2003

def deleteCourseRow (id : Uuid) : Statement K Unit :=
  statement fun _ db =>
    if (findCourse db id).isSome then .ok ((), FaceVec.deleteCourse id db) else violation .P2025

def deleteEnrollmentRow (courseId studentId : Uuid) : Statement K Unit :=
  statement fun _ db =>
    match findEnrollment db courseId studentId with
    | none => violation .P2025
    | some enrollment =>
        .ok ((), { db with
          courseEnrollments := db.courseEnrollments.delete (·.id == enrollment.id) })

variable (db : Database K)

theorem createCourseRow_spec (code title : String) (professorId : Uuid) :
    Triple (· = db) (createCourseRow uuids users code title professorId) fun course after =>
      course.professorId = professorId ∧ course.id ∉ courseIds db ∧
        after = { db with courses := after.courses } ∧
        after.courses.rows = db.courses.rows ++ [course] := by
  apply triple_statement
  rintro draw _ course after rfl ran
  dsimp only at ran
  split at ran
  · cases ran
  · next created inserted =>
      split at ran
      · cases ran
        obtain ⟨rfl, rows, appended, rfl⟩ := create_ok _ _ _ _ _ _ inserted
        exact ⟨rfl, uuids.fresh draw _, rfl, Table.insert_eq_some _ _ _ appended⟩
      · cases ran

theorem updateCourseRow_spec (id : Uuid) (data : UpdateCourseInput) :
    Triple (· = db) (updateCourseRow users id data) fun _ after =>
      after = { db with courses := after.courses } ∧
        after.courses.rows = db.courses.rows.map (overwriteCourse id data) := by
  apply triple_statement
  rintro draw _ course after rfl ran
  split at ran
  · cases ran
  · split at ran
    · cases ran
    · next courses rewritten =>
        split at ran
        · cases ran
          exact ⟨rfl, Table.rewrite_eq_some _ _ _ rewritten⟩
        · cases ran

theorem deleteCourseRow_spec (id : Uuid) :
    Triple (· = db) (deleteCourseRow id) fun _ after => after = FaceVec.deleteCourse id db := by
  apply triple_statement
  rintro draw _ result after rfl ran
  split at ran
  · cases ran
    rfl
  · cases ran

theorem deleteEnrollmentRow_spec (courseId studentId : Uuid) :
    Triple (· = db) (deleteEnrollmentRow courseId studentId) fun _ after =>
      ∃ enrollment ∈ db.courseEnrollments, enrollment.courseId = courseId ∧
        after = { db with
          courseEnrollments := db.courseEnrollments.delete (·.id == enrollment.id) } := by
  apply triple_statement
  rintro draw _ result after rfl ran
  split at ran
  · cases ran
  · next enrollment found =>
      cases ran
      have matches_ := List.find?_some found
      simp only [Bool.and_eq_true, beq_iff_eq] at matches_
      exact ⟨enrollment, List.mem_of_find?_eq_some found, matches_.1, rfl⟩

end Statements

/-- How `createCourse` and `updateCourse` answer a failed statement. -/
def courseFailure : Failure → Failure
  | .prisma .P2002 _ => .http (conflictError "A course with this code already exists")
  | .prisma .P2003 _ => .http (badRequestError "Assigned professor does not exist")
  | failure => failure

def unenrollFailure : Failure → Failure
  | .prisma .P2025 _ => .http (notFoundError "Enrollment not found")
  | failure => failure

section Services

variable (uuids : UuidSource) (contains : Contains) (actor : AuthContext)

/-- The `where` of `listCourses`. -/
def ListCoursesQuery.selects (query : ListCoursesQuery) (course : Course) : Bool :=
  (if actor.role ≠ .ADMIN then course.professorId == actor.userId
    else query.professorId.all (course.professorId == ·)) &&
  query.search.all fun search => contains course.code search || contains course.title search

def listCourses (query : ListCoursesQuery) : Handler K := fun met platform =>
  let selected := platform.db.courses.rows.filter (query.selects contains actor)
  let page := pageOf query.page (fun course => (platform.stamps.courses course.id).createdAt) selected
  (met.read (.ok (200, .courses (paginatedResponse page (serializeCourse platform)))), platform)

def getCourse (id : Uuid) : Handler K := fun met platform =>
  provided (met.read (getCourseForActor platform.db id actor)) platform fun course =>
    (.ok (200, .course (serializeCourse platform course)), platform)

def createCourse (input : CreateCourseInput) : Handler K := fun met platform =>
  -- Only admins may assign a course to another professor.
  let professorId :=
    if actor.role = .ADMIN then input.professorId.getD actor.userId else actor.userId
  transact (createCourseRow uuids platform.users input.code input.title professorId) courseFailure id
    (fun after course => .ok (201, .course (serializeCourse after course))) met platform

def updateCourse (id : Uuid) (input : UpdateCourseInput) : Handler K := fun met platform =>
  provided (met.read (getCourseForActor platform.db id actor)) platform fun _ =>
    -- Reassigning the owning professor is an admin-only action.
    let data :=
      { input with professorId := if actor.role = .ADMIN then input.professorId else none }
    transact (updateCourseRow platform.users id data) courseFailure
      (fun after => { after with
        stamps := { after.stamps with courses := touch met.now id after.stamps.courses } })
      (fun after course => .ok (200, .course (serializeCourse after course))) met platform

def deleteCourse (id : Uuid) : Handler K := fun met platform =>
  provided (met.read (getCourseForActor platform.db id actor)) platform fun _ =>
    commit (deleteCourseRow id)
      (fun _ _ => .ok (204, .empty)) met platform

def listEnrollments (courseId : Uuid) (query : Pagination) : Handler K := fun met platform =>
  provided (met.read (getCourseForActor platform.db courseId actor)) platform fun _ =>
    let selected := platform.db.courseEnrollments.rows.filter (·.courseId == courseId)
    let page := pageOf query (fun row => platform.stamps.courseEnrollments row.id) selected
    (.ok (200, .enrollments (paginatedResponse page (serializeEnrollment platform))), platform)

def enrollStudent (courseId : Uuid) (input : ResolveInput) : Handler K := fun met platform =>
  provided (met.read (getCourseForActor platform.db courseId actor)) platform fun _ =>
    commit (resolveAndLinkStudent uuids met.now courseId input)
      (fun after result =>
        .ok (if result.alreadyEnrolled then 200 else 201,
          .enrollment (serializeEnrollment after result.enrollment) result.created
            result.alreadyEnrolled)) met platform

def unenrollStudent (courseId studentId : Uuid) : Handler K := fun met platform =>
  provided (met.read (getCourseForActor platform.db courseId actor)) platform fun _ =>
    transact (deleteEnrollmentRow courseId studentId) unenrollFailure (fun after => after)
      (fun _ _ => .ok (204, .empty)) met platform

def bulkEnroll (courseId : Uuid) (rows : List BulkImportRow) : Handler K := fun met platform =>
  provided (met.read (getCourseForActor platform.db courseId actor)) platform fun _ =>
    commit (createBulkImportJobTx uuids met.now courseId actor.userId rows)
      (fun after job => .ok (202, .job (serializeImportJob after job))) met platform

/-- A job scoped to a course the actor may access. -/
def findJobOfCourse (db : Database K) (courseId jobId : Uuid) : Except Failure ImportJob :=
  match findImportJob db jobId with
  | none => .error (.http (notFoundError "Import job not found"))
  | some job =>
      if job.courseId ≠ courseId then .error (.http (notFoundError "Import job not found"))
      else .ok job

def getImportJob (courseId jobId : Uuid) : Handler K := fun met platform =>
  provided (met.read (getCourseForActor platform.db courseId actor)) platform fun _ =>
    provided (findJobOfCourse platform.db courseId jobId) platform fun job =>
      (.ok (200, .job (serializeImportJob platform job)), platform)

end Services

end FaceVec.Api
