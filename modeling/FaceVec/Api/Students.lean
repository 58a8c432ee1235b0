import FaceVec.Api.Platform

/-!
The student routes, faces included: `students.controller.ts` over
`students.service.ts` and `faces.service.ts`. The roster is global: nothing here
asks whose student it is.
-/

namespace FaceVec.Api

open Faces Attendance

variable {K : Type}

structure CreateStudentInput where
  studentNumber : String
  fullName : String
  email : Option String := none
  deriving DecidableEq, Repr

/-- The outer option of `email` is a missing field, the inner one `null`. -/
structure UpdateStudentInput where
  studentNumber : Option String := none
  fullName : Option String := none
  email : Option (Option String) := none
  deriving DecidableEq, Repr

structure ListStudentsQuery where
  page : Pagination := {}
  search : Option String := none

def DUPLICATE : String := "A student with this number or email already exists"

def UpdateStudentInput.overwrite (data : UpdateStudentInput) (student : Student) : Student :=
  { student with
    studentNumber := data.studentNumber.getD student.studentNumber
    fullName := data.fullName.getD student.fullName
    email := data.email.getD student.email }

def overwriteStudent (id : Uuid) (data : UpdateStudentInput) (student : Student) : Student :=
  if student.id = id then data.overwrite student else student

def updateStudentRow (id : Uuid) (data : UpdateStudentInput) : Statement K Student :=
  statement fun _ db =>
    match findStudent db id with
    | none => violation .P2025
    | some student =>
        match db.students.rewrite (overwriteStudent id data) with
        | none => violation .P2002
        | some students => .ok (data.overwrite student, { db with students })

def deleteStudentRow (id : Uuid) : Statement K Unit :=
  statement fun _ db =>
    if (findStudent db id).isSome then .ok ((), FaceVec.deleteStudent id db) else violation .P2025

def deleteEmbedding (studentId embeddingId : Uuid) : Statement K Nat :=
  statement fun _ db =>
    let gone := fun face : FaceEmbedding K => face.id == embeddingId && face.studentId == studentId
    .ok (db.faceEmbeddings.rows.countP gone,
      { db with faceEmbeddings := db.faceEmbeddings.delete gone })

section Specs

variable (db : Database K) (id : Uuid)

theorem updateStudentRow_spec (data : UpdateStudentInput) :
    Triple (· = db) (updateStudentRow id data) fun _ after =>
      after = { db with students := after.students } := by
  apply triple_statement
  rintro draw _ student after rfl ran
  split at ran
  · cases ran
  · split at ran
    · cases ran
    · cases ran
      rfl

theorem deleteStudentRow_spec :
    Triple (· = db) (deleteStudentRow id) fun _ after => after = FaceVec.deleteStudent id db := by
  apply triple_statement
  rintro draw _ result after rfl ran
  split at ran
  · cases ran
    rfl
  · cases ran

theorem deleteEmbedding_spec (embeddingId : Uuid) :
    Triple (· = db) (deleteEmbedding id embeddingId) fun _ after =>
      after = { db with faceEmbeddings := after.faceEmbeddings } := by
  apply triple_statement
  rintro draw _ affected after rfl ran
  cases ran
  rfl

theorem insertEmbedding_frame (uuids : UuidSource) (face : DetectedFace K) (model hash : String) :
    Triple (· = db) (insertEmbedding uuids id face model hash) fun _ after =>
      after = { db with faceEmbeddings := after.faceEmbeddings } := by
  apply triple_statement
  rintro draw _ row after rfl ran
  dsimp only at ran
  split at ran
  · cases ran
  · obtain ⟨_, rows, _, rfl⟩ := create_ok _ _ _ _ _ _ ran
    rfl

theorem createStudent_frame (uuids : UuidSource) (studentNumber fullName : String)
    (email : Option String) :
    Triple (· = db) (FaceVec.createStudent uuids studentNumber fullName email) fun _ after =>
      after = { db with students := after.students } := by
  apply triple_statement
  rintro draw _ student after rfl ran
  obtain ⟨_, rows, _, rfl⟩ := create_ok _ _ _ _ _ _ ran
  rfl

end Specs

/-- How the student services answer a failed statement. -/
def studentFailure : Failure → Failure
  | .prisma .P2025 _ => .http (notFoundError "Student not found")
  | .prisma .P2002 _ => .http (conflictError DUPLICATE)
  | failure => failure

def getStudentRow (db : Database K) (id : Uuid) : Except Failure Student :=
  match findStudent db id with
  | none => .error (.http (notFoundError "Student not found"))
  | some student => .ok student

section Services

variable (uuids : UuidSource) (contains : String → String → Bool) (codec : Codec)

def ListStudentsQuery.selects (query : ListStudentsQuery) (student : Student) : Bool :=
  query.search.all fun search => contains student.studentNumber search ||
    contains student.fullName search || student.email.any (contains · search)

def listStudents (query : ListStudentsQuery) : Handler K := fun met platform =>
  let selected := platform.db.students.rows.filter (query.selects contains)
  let page := pageOf query.page (fun row => (platform.stamps.students row.id).createdAt) selected
  (met.read (.ok (200, .students (paginatedResponse page (serializeStudent platform)))), platform)

def getStudent (id : Uuid) : Handler K := fun met platform =>
  provided (met.read (getStudentRow platform.db id)) platform fun student =>
    (.ok (200, .student (serializeStudent platform student)), platform)

def createStudent (input : CreateStudentInput) : Handler K :=
  transact (FaceVec.createStudent uuids input.studentNumber input.fullName input.email)
    studentFailure (fun after => after)
    (fun after student => .ok (201, .student (serializeStudent after student)))

def updateStudent (id : Uuid) (input : UpdateStudentInput) : Handler K := fun met platform =>
  transact (updateStudentRow id input) studentFailure
    (fun after => { after with
      stamps := { after.stamps with students := touch met.now id after.stamps.students } })
    (fun after student => .ok (200, .student (serializeStudent after student))) met platform

def deleteStudent (id : Uuid) : Handler K :=
  transact (deleteStudentRow id) studentFailure
    (fun after => { after with deleted := after.deleted ++ [id] }) (fun _ _ => .ok (204, .empty))

/-- `enrollFace`, its steps one after the other. -/
def enrollFace (studentId : Uuid) (file : UploadedImage) : Handler K := fun met platform =>
  let hash := codec.sha256 file.buffer
  provided (met.read (getStudentRow platform.db studentId)) platform fun _ =>
    if existsByHash platform.db studentId hash then (.error alreadyEnrolled, platform)
    else
      match met.extraction with
      | .error failure =>
          if isAiFailure failure then
            let jobId := uuids.generate met.draw (platform.queued.map (·.jobId))
            if met.confirmed then
              (.ok (202, .queued jobId),
                { platform with
                  queued := platform.queued ++ [enrollmentTask codec jobId studentId file] })
            else (.error unqueued, platform)
          else (.error failure, platform)
      | .ok result =>
          provided (usableFace result) platform fun face =>
            commit (insertEmbedding uuids studentId face result.model hash)
              (fun after row =>
                .ok (201, .enrolled (serializeEmbedding after row) result.faceCount)) met platform

def listFaces (studentId : Uuid) : Handler K := fun met platform =>
  provided (met.read (getStudentRow platform.db studentId)) platform fun _ =>
    let selected := platform.db.faceEmbeddings.rows.filter (·.studentId == studentId)
    let rows := newestFirst (fun row => platform.stamps.faceEmbeddings row.id) selected
    (.ok (200, .faces (rows.map (serializeEmbedding platform))), platform)

def removeFace (studentId embeddingId : Uuid) : Handler K := fun met platform =>
  provided (met.read (getStudentRow platform.db studentId)) platform fun _ =>
    commit (deleteEmbedding studentId embeddingId)
      (fun _ affected =>
        if affected = 0 then .error (.http (notFoundError "Face embedding not found"))
        else .ok (204, .empty)) met platform

end Services

end FaceVec.Api
