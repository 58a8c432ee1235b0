import FaceVec.Composed
import FaceVec.Http.Dispatch
import FaceVec.Import.Consumer

/-!
The statements that write to the database, each with values that validation has
let through, and the transaction bodies that the services and consumers compose
of them.
-/

namespace FaceVec.Site

open Http Api Attendance Courses Faces

variable {K : Type}

section Texts

theorem trimmed_name {bound : Nat} {field : Option String} (fits : Given (Name bound) field)
    (nonempty : trimmed field ≠ "") : Name bound (trimmed field) := by
  cases field with
  | none => exact absurd rfl nonempty
  | some text =>
      have same : trimmed (some text) = text := (trim_eq text).trans (fits text rfl).trimmed
      rw [same]
      exact fits text rfl

theorem trimmedOrNull_mail {formats : Formats} {field : Option String}
    (fits : Given (Mail formats) field) : Given (Mail formats) (trimmedOrNull field) := by
  unfold trimmedOrNull
  split
  · intro _ member
    cases member
  · intro own member
    cases member
    cases field with
    | none => contradiction
    | some text =>
        have mail := fits text rfl
        have same : trimmed (some text) = text :=
          (trim_eq text).trans (formats.email_trim text mail.email)
        rw [same]
        exact mail

end Texts

/-- A face that passes the checks has all of its dimensions. -/
theorem usableFace_whole (result : EmbeddingResult K) (face : DetectedFace K)
    (usable : usableFace result = .ok face) : face.embedding.length = EMBEDDING_DIMENSIONS := by
  unfold usableFace at usable
  split at usable
  · cases usable
  · split at usable
    · cases usable
    · next whole =>
        cases usable
        exact not_not.mp whole

variable (formats : Formats) (checked : Prop) (uuids : UuidSource) (users : Table User.clash)

/-- What a consumer may rely on in the payload of an event. -/
def EventFits : EventPayload K → Prop
  | .courseBulkImportRequested _ _ rows => BulkEnrollFits formats rows
  | _ => True

/-- The writing statements of the gateway; where they are `checked`, with values that fit. -/
inductive Elementary : (α : Type) → Statement K α → Prop where
  | createCourse (code title : String) (professorId : Uuid) (fits : checked → Name 32 code ∧ Name 200 title) :
      Elementary Course (createCourseRow uuids users code title professorId)
  | updateCourse (id : Uuid) (data : UpdateCourseInput)
      (fits : checked → Given (Name 32) data.code ∧ Given (Name 200) data.title) :
      Elementary Course (updateCourseRow users id data)
  | deleteCourse (id : Uuid) : Elementary Unit (deleteCourseRow id)
  | createStudent (studentNumber fullName : String) (email : Option String)
      (fits : checked → CreateStudentFits formats ⟨studentNumber, fullName, email⟩) :
      Elementary Student (FaceVec.createStudent uuids studentNumber fullName email)
  | updateStudent (id : Uuid) (data : UpdateStudentInput) (fits : checked → UpdateStudentFits formats data) :
      Elementary Student (updateStudentRow id data)
  | deleteStudent (id : Uuid) : Elementary Unit (deleteStudentRow id)
  | createEnrollment (courseId studentId : Uuid) :
      Elementary CourseEnrollment (FaceVec.createEnrollment uuids courseId studentId)
  | deleteEnrollment (courseId studentId : Uuid) :
      Elementary Unit (deleteEnrollmentRow courseId studentId)
  | createImportJob (courseId createdById : Uuid) (totalRows : Nat)
      (fits : checked → 1 ≤ totalRows ∧ totalRows ≤ 2000) :
      Elementary ImportJob (createImportJobRow uuids courseId createdById totalRows)
  | updateImportJob (id : Uuid) (data : Import.JobData) :
      Elementary ImportJob (Import.updateImportJob id data)
  | createSession (courseId createdById : Uuid) :
      Elementary AttendanceSession (createSessionRow uuids users courseId createdById)
  | closeSession (id : Uuid) (now : Instant) : Elementary AttendanceSession (closeUpdate id now)
  | upsertRecord (now : Instant) (sessionId studentId : Uuid) (data : RecordData K) :
      Elementary (AttendanceRecord K) (FaceVec.upsertRecord uuids now sessionId studentId data)
  | insertEmbedding (studentId : Uuid) (face : DetectedFace K) (model hash : String)
      (whole : face.embedding.length = EMBEDDING_DIMENSIONS) :
      Elementary (FaceEmbedding K) (Faces.insertEmbedding uuids studentId face model hash)
  | deleteEmbedding (studentId embeddingId : Uuid) :
      Elementary Nat (Api.deleteEmbedding studentId embeddingId)
  | recordEvent (now : Instant) (aggregateType : String) (aggregateId : Uuid) (eventType : String)
      (payload : EventPayload K) (fits : checked → EventFits formats payload) :
      Elementary (OutboxMessage (EventPayload K))
        (FaceVec.recordEvent uuids now aggregateType aggregateId eventType payload)

abbrev Program {α : Type} (body : Statement K α) : Prop :=
  Composed (Elementary formats checked uuids users) α body

/-- What a roster row may be relied on for, in a request as in an import. -/
structure RosterFits (input : ResolveInput) : Prop where
  studentNumber : Given (Name 64) input.studentNumber
  fullName : Given (Name 200) input.fullName
  email : Given (Mail formats) input.email

theorem EnrollStudentFits.roster {formats : Formats} {input : ResolveInput}
    (fits : EnrollStudentFits formats input) : RosterFits formats input :=
  ⟨fits.studentNumber, fits.fullName, fits.email⟩

theorem BulkImportRowFits.roster {formats : Formats} {row : BulkImportRow}
    (fits : BulkImportRowFits formats row) : RosterFits formats (importInput row) :=
  ⟨fun _ same => Option.some.inj same ▸ fits.studentNumber, fits.fullName, fits.email⟩

section Bodies

variable {formats checked uuids users}

theorem createNewStudent_program (studentNumber fullName : String) (email : Option String)
    (fits : checked → CreateStudentFits formats ⟨studentNumber, fullName, email⟩) :
    Program (K := K) formats checked uuids users
      (createNewStudent uuids studentNumber fullName email) :=
  .handled _ _ _ (.elementary _ _ (.createStudent _ _ _ fits)) fun _ => .throw _ _

theorem resolveStudent_program (input : ResolveInput) (fits : checked → RosterFits formats input) :
    Program (K := K) formats checked uuids users (resolveStudent uuids input) := by
  unfold resolveStudent
  split
  · refine .bind _ _ _ _ (.query _ _) fun found => ?_
    cases found with
    | none => exact .throw _ _
    | some student => exact .pure _ _
  · dsimp only
    split
    · exact .throw _ _
    · next numbered =>
        refine .bind _ _ _ _ (.query _ _) fun found => ?_
        cases found with
        | some student => exact .pure _ _
        | none =>
            dsimp only
            split
            · exact .throw _ _
            · next named =>
                refine .bind _ _ _ _ ?_ fun _ => .pure _ _
                exact createNewStudent_program _ _ _ fun check =>
                  ⟨trimmed_name (fits check).studentNumber numbered,
                    trimmed_name (fits check).fullName named,
                    trimmedOrNull_mail (fits check).email⟩

theorem linkStudent_program (now : Instant) (courseId : Uuid) (student : Student) (created : Bool) :
    Program (K := K) formats checked uuids users (linkStudent uuids now courseId student created) := by
  unfold linkStudent
  refine .bind _ _ _ _ (.query _ _) fun found => ?_
  cases found with
  | some enrollment => exact .pure _ _
  | none =>
      refine .bind _ _ _ _ (.elementary _ _ (.createEnrollment _ _)) fun enrollment => ?_
      exact .bind _ _ _ _ (.elementary _ _ (.recordEvent _ _ _ _ _ fun _ => trivial)) fun _ => .pure _ _

theorem resolveAndLinkStudent_program (now : Instant) (courseId : Uuid) (input : ResolveInput)
    (fits : checked → RosterFits formats input) :
    Program (K := K) formats checked uuids users (resolveAndLinkStudent uuids now courseId input) :=
  .bind _ _ _ _ (resolveStudent_program input fits) fun _ => linkStudent_program now courseId _ _

theorem createBulkImportJobTx_program (now : Instant) (courseId actorId : Uuid)
    (rows : List BulkImportRow) (fits : checked → BulkEnrollFits formats rows) :
    Program (K := K) formats checked uuids users (createBulkImportJobTx uuids now courseId actorId rows) :=
  .bind _ _ _ _ (.elementary _ _ (.createImportJob _ _ _ fun check =>
      ⟨(fits check).some_, (fits check).bounded⟩)) fun _ =>
    .bind _ _ _ _ (.elementary _ _ (.recordEvent _ _ _ _ _ fits)) fun _ => .pure _ _

theorem recordAttendance_program (now : Instant) (session : AttendanceSession) (studentId : Uuid)
    (data : RecordData K) :
    Program formats checked uuids users (recordAttendance uuids now session studentId data) :=
  .bind _ _ _ _ (.elementary _ _ (.upsertRecord _ _ _ _)) fun _ =>
    .bind _ _ _ _ (.elementary _ _ (.recordEvent _ _ _ _ _ fun _ => trivial)) fun _ => .pure _ _

end Bodies

end FaceVec.Site
