import FaceVec.Http.Requests
import FaceVec.JsonText

/-!
The bodies of requests: for the input of each schema the JSON value that a client
sends for it, which the schema reads as this input again.
-/

namespace FaceVec.Http

open Validation Api Users Attendance Courses

/-- An object literal; a field that is `undefined` is left out of its text. -/
def record (entries : List (String × Option Json)) : Json :=
  .object (entries.filterMap fun entry => entry.2.map (entry.1, ·))

def lookup (entries : List (String × Option Json)) (key : String) : Option Json :=
  (entries.find? (·.1 == key)).bind (·.2)

theorem field_cons (key : String) (value : Json) (fields : List (String × Json)) (asked : String) :
    Json.field ((key, value) :: fields) asked =
      (Json.field fields asked).or (if key == asked then some value else none) := by
  simp only [Json.field, List.reverse_cons, List.find?_append, List.find?_singleton]
  cases fields.reverse.find? (·.1 == asked) <;> cases key == asked <;> rfl

theorem field_missing (fields : List (String × Json)) (key : String)
    (missing : key ∉ fields.map (·.1)) : Json.field fields key = none := by
  rw [Json.field, List.find?_eq_none.mpr, Option.map_none]
  rintro entry member same
  exact missing (List.mem_map.mpr ⟨entry, List.mem_reverse.mp member, by simpa using same⟩)

theorem field_record (entries : List (String × Option Json))
    (apart : (entries.map (·.1)).Nodup) (key : String) :
    Json.field (entries.filterMap fun entry => entry.2.map (entry.1, ·)) key =
      lookup entries key := by
  induction entries with
  | nil => rfl
  | cons entry rest ih =>
      obtain ⟨name, value⟩ := entry
      obtain ⟨fresh, apart⟩ := List.nodup_cons.mp apart
      have missing : Json.field (rest.filterMap fun entry => entry.2.map (entry.1, ·)) name = none := by
        refine field_missing _ _ fun member => fresh ?_
        obtain ⟨kept, among, same⟩ := List.mem_map.mp member
        obtain ⟨own, there, made⟩ := List.mem_filterMap.mp among
        obtain ⟨json, _, rfl⟩ := Option.map_eq_some_iff.mp made
        exact List.mem_map.mpr ⟨own, there, same⟩
      by_cases same : name = key
      · subst same
        cases value with
        | none => simpa [lookup] using missing
        | some json => simp [lookup, field_cons, missing]
      · have later : lookup ((name, value) :: rest) key = lookup rest key := by
          simp [lookup, same]
        rw [later, ← ih apart]
        cases value with
        | none => simp
        | some json => simp [field_cons, same]

theorem object_record {α : Type} (shape : Shape α) (entries : List (String × Option Json))
    (apart : (entries.map (·.1)).Nodup) :
    object shape (some (record entries)) = shape.read (lookup entries) :=
  congrArg shape.read (funext (field_record entries apart))

variable (formats : Formats)

def textOf (text : String) : Option Json := some (.string text)

def idOf (id : Uuid) : Option Json := some (.string (formats.print id))

section Bodies

def registerBody (input : RegisterInput) : Json :=
  record [("email", textOf input.email), ("password", textOf input.password),
    ("displayName", textOf input.displayName)]

def loginBody (input : LoginInput) : Json :=
  record [("email", textOf input.email), ("password", textOf input.password)]

def createCourseBody (input : CreateCourseInput) : Json :=
  record [("code", textOf input.code), ("title", textOf input.title),
    ("professorId", input.professorId.bind (idOf formats))]

def updateCourseBody (input : UpdateCourseInput) : Json :=
  record [("code", input.code.bind textOf), ("title", input.title.bind textOf),
    ("professorId", input.professorId.bind (idOf formats))]

def enrollStudentBody (input : ResolveInput) : Json :=
  record [("studentId", input.studentId.bind (idOf formats)),
    ("studentNumber", input.studentNumber.bind textOf), ("fullName", input.fullName.bind textOf),
    ("email", input.email.bind textOf)]

def rowBody (row : BulkImportRow) : Json :=
  record [("studentNumber", textOf row.studentNumber), ("fullName", row.fullName.bind textOf),
    ("email", row.email.bind textOf)]

def bulkEnrollBody (rows : List BulkImportRow) : Json :=
  record [("rows", some (.array (rows.map rowBody)))]

def createStudentBody (input : CreateStudentInput) : Json :=
  record [("studentNumber", textOf input.studentNumber), ("fullName", textOf input.fullName),
    ("email", input.email.bind textOf)]

def updateStudentBody (input : UpdateStudentInput) : Json :=
  record [("studentNumber", input.studentNumber.bind textOf),
    ("fullName", input.fullName.bind textOf), ("email", input.email.bind (orNull textOf))]

def markAttendanceBody (input : MarkAttendanceInput) : Json :=
  record [("studentId", idOf formats input.studentId),
    ("status", textOf (statusName input.status))]

def createUserBody (input : CreateUserInput) : Json :=
  record [("email", textOf input.email), ("password", textOf input.password),
    ("displayName", textOf input.displayName), ("role", textOf (roleName input.role))]

def updateUserBody (input : UpdateUserInput) : Json :=
  record [("displayName", input.displayName.bind textOf),
    ("role", input.role.bind fun role => textOf (roleName role)),
    ("isActive", input.isActive.map .boolean), ("password", input.password.bind textOf)]

end Bodies

section Read

theorem under_pass {α : Type} (segment : Segment) (value : α) :
    (Parsed.done value []).under segment = .done value [] := rfl

theorem both_pass {α β : Type} (one : α) (other : β) :
    (Parsed.done one []).both (.done other []) = .done (one, other) [] := rfl

theorem map_pass {α β : Type} (change : α → β) (value : α) :
    (Parsed.done value []).map change = .done (change value) [] := rfl

theorem lookup_cons (name : String) (value : Option Json) (rest : List (String × Option Json))
    (key : String) :
    lookup ((name, value) :: rest) key = if name = key then value else lookup rest key := by
  by_cases same : name = key <;> simp [lookup, same]

theorem registerBody_read (input : RegisterInput) (fits : RegisterFits formats input) :
    registerSchema formats (some (registerBody input)) = .done input [] := by
  have email : address formats (textOf input.email) = _ :=
    (address_lawful formats).complete _ fits.email
  have password : string [minLength 8 "Password must be at least 8 characters", maxLength 200]
      (textOf input.password) = _ := (password_lawful _).complete _ fits.password
  have displayName : name 120 (textOf input.displayName) = _ :=
    (name_lawful 120).complete _ fits.displayName
  rw [registerSchema, registerBody, object_record _ _ (by simp)]
  simp only [registerShape, Shape.mapped, Shape.both, field, lookup_cons, String.reduceEq,
    ↓reduceIte, email, password, displayName, under_pass, both_pass, map_pass]

theorem loginBody_read (input : LoginInput) (fits : LoginFits formats input) :
    loginSchema formats (some (loginBody input)) = .done input [] := by
  have email : loginAddress formats (textOf input.email) = _ :=
    (loginAddress_lawful formats).complete _ fits.email
  have password : string [minLength 1] (textOf input.password) = _ :=
    nonempty_lawful.complete _ fits.password
  rw [loginSchema, loginBody, object_record _ _ (by simp)]
  simp only [loginShape, Shape.mapped, Shape.both, field, lookup_cons, String.reduceEq, ↓reduceIte,
    email, password, under_pass, both_pass, map_pass]

theorem createCourseBody_read (input : CreateCourseInput) (fits : CreateCourseFits input) :
    createCourseSchema formats (some (createCourseBody formats input)) = .done input [] := by
  have code : name 32 (textOf input.code) = _ := (name_lawful 32).complete _ fits.code
  have title : name 200 (textOf input.title) = _ := (name_lawful 200).complete _ fits.title
  have professorId : Validation.optional (id formats) (input.professorId.bind (idOf formats)) = _ :=
    (optionalId_lawful formats).complete _ (given_true input.professorId)
  rw [createCourseSchema, createCourseBody, object_record _ _ (by simp)]
  simp only [createCourseShape, Shape.mapped, Shape.both, field, lookup_cons, String.reduceEq,
    ↓reduceIte, code, title, professorId, under_pass, both_pass, map_pass]

theorem updateCourseBody_read (input : UpdateCourseInput) (fits : UpdateCourseFits input) :
    updateCourseSchema formats (some (updateCourseBody formats input)) = .done input [] := by
  have code : Validation.optional (name 32) (input.code.bind textOf) = _ :=
    (optionalText_lawful (name_lawful 32)).complete _ fits.code
  have title : Validation.optional (name 200) (input.title.bind textOf) = _ :=
    (optionalText_lawful (name_lawful 200)).complete _ fits.title
  have professorId : Validation.optional (id formats) (input.professorId.bind (idOf formats)) = _ :=
    (optionalId_lawful formats).complete _ (given_true input.professorId)
  rw [updateCourseSchema, refine, updateCourseBody, object_record _ _ (by simp)]
  simp only [updateCourseShape, Shape.mapped, Shape.both, field, lookup_cons, String.reduceEq,
    ↓reduceIte, code, title, professorId, under_pass, both_pass, map_pass, fits.supplied]

theorem enrollStudentBody_read (input : ResolveInput) (fits : EnrollStudentFits formats input) :
    enrollStudentSchema formats (some (enrollStudentBody formats input)) = .done input [] := by
  have printed : Given (fun text => (formats.uuid text).isSome = true)
      (input.studentId.map formats.print) := by
    intro text member
    obtain ⟨id, _, rfl⟩ := Option.map_eq_some_iff.mp member
    simp [formats.uuid_print]
  have studentId : Validation.optional (uuidText formats) (input.studentId.bind (idOf formats)) =
      .done (input.studentId.map formats.print) [] := by
    have read := (optionalText_lawful (uuidText_lawful formats)).complete _ printed
    rwa [Option.bind_map] at read
  have studentNumber : Validation.optional (name 64) (input.studentNumber.bind textOf) = _ :=
    (optionalText_lawful (name_lawful 64)).complete _ fits.studentNumber
  have fullName : Validation.optional (name 200) (input.fullName.bind textOf) = _ :=
    (optionalText_lawful (name_lawful 200)).complete _ fits.fullName
  have email : Validation.optional (address formats) (input.email.bind textOf) = _ :=
    (optionalText_lawful (address_lawful formats)).complete _ fits.email
  have named : (truthy (input.studentId.map formats.print) || truthy input.studentNumber) = true := by
    rw [truthy_print, truthy_name _ fits.studentNumber]
    exact fits.named
  have same := toResolveInput_ofResolveInput formats input
  rw [enrollStudentSchema, mapped, refine, enrollStudentBody, object_record _ _ (by simp)]
  simp only [enrollStudentShape, Shape.both, field, lookup_cons, String.reduceEq, ↓reduceIte,
    studentId, studentNumber, fullName, email, under_pass, both_pass, map_pass, named]
  rw [ofResolveInput] at same
  rw [same]

theorem rowBody_read (row : BulkImportRow) (fits : BulkImportRowFits formats row) :
    bulkImportRowSchema formats (some (rowBody row)) = .done row [] := by
  have studentNumber : name 64 (textOf row.studentNumber) = _ :=
    (name_lawful 64).complete _ fits.studentNumber
  have fullName : Validation.optional (name 200) (row.fullName.bind textOf) = _ :=
    (optionalText_lawful (name_lawful 200)).complete _ fits.fullName
  have email : Validation.optional (address formats) (row.email.bind textOf) = _ :=
    (optionalText_lawful (address_lawful formats)).complete _ fits.email
  rw [bulkImportRowSchema, rowBody, object_record _ _ (by simp)]
  simp only [bulkImportRowShape, Shape.mapped, Shape.both, field, lookup_cons, String.reduceEq,
    ↓reduceIte, studentNumber, fullName, email, under_pass, both_pass, map_pass]

theorem bulkEnrollBody_read (rows : List BulkImportRow) (fits : BulkEnrollFits formats rows) :
    bulkEnrollSchema formats (some (bulkEnrollBody rows)) = .done rows [] := by
  have each : items (bulkImportRowSchema formats) 0 (rows.map rowBody) = .done rows [] := by
    rw [items_map, List.forall₂_same]
    exact fun row member => rowBody_read formats row (fits.each row member)
  have length : lengthIssues 1 2000 (rows.map rowBody).length = [] := by
    rw [lengthIssues_nil, List.length_map]
    exact ⟨fits.some_, fits.bounded⟩
  rw [bulkEnrollSchema, bulkEnrollBody, object_record _ _ (by simp)]
  simp only [field, lookup_cons, ↓reduceIte, array, each, length]
  rfl

theorem createStudentBody_read (input : CreateStudentInput)
    (fits : CreateStudentFits formats input) :
    createStudentSchema formats (some (createStudentBody input)) = .done input [] := by
  have studentNumber : name 64 (textOf input.studentNumber) = _ :=
    (name_lawful 64).complete _ fits.studentNumber
  have fullName : name 200 (textOf input.fullName) = _ := (name_lawful 200).complete _ fits.fullName
  have email : Validation.optional (address formats) (input.email.bind textOf) = _ :=
    (optionalText_lawful (address_lawful formats)).complete _ fits.email
  rw [createStudentSchema, createStudentBody, object_record _ _ (by simp)]
  simp only [createStudentShape, Shape.mapped, Shape.both, field, lookup_cons, String.reduceEq,
    ↓reduceIte, studentNumber, fullName, email, under_pass, both_pass, map_pass]

theorem updateStudentBody_read (input : UpdateStudentInput)
    (fits : UpdateStudentFits formats input) :
    updateStudentSchema formats (some (updateStudentBody input)) = .done input [] := by
  have studentNumber : Validation.optional (name 64) (input.studentNumber.bind textOf) = _ :=
    (optionalText_lawful (name_lawful 64)).complete _ fits.studentNumber
  have fullName : Validation.optional (name 200) (input.fullName.bind textOf) = _ :=
    (optionalText_lawful (name_lawful 200)).complete _ fits.fullName
  have email : Validation.optional (nullable (address formats))
      (input.email.bind (orNull textOf)) = _ :=
    (nullableAddress_lawful formats).complete _ fits.email
  rw [updateStudentSchema, refine, updateStudentBody, object_record _ _ (by simp)]
  simp only [updateStudentShape, Shape.mapped, Shape.both, field, lookup_cons, String.reduceEq,
    ↓reduceIte, studentNumber, fullName, email, under_pass, both_pass, map_pass, fits.supplied]

theorem markAttendanceBody_read (input : MarkAttendanceInput) :
    markAttendanceSchema formats (some (markAttendanceBody formats input)) = .done input [] := by
  have studentId : id formats (idOf formats input.studentId) = _ :=
    (id_lawful formats).complete _ trivial
  have status : withDefault (.string "PRESENT") attendanceStatusSchema
      (textOf (statusName input.status)) = _ :=
    (withDefault_lawful _ attendanceStatusSchema_lawful fun _ => rfl).complete _ trivial
  rw [markAttendanceSchema, markAttendanceBody, object_record _ _ (by simp)]
  simp only [markAttendanceShape, Shape.mapped, Shape.both, field, lookup_cons, String.reduceEq,
    ↓reduceIte, studentId, status, under_pass, both_pass, map_pass]

theorem createUserBody_read (input : CreateUserInput) (fits : CreateUserFits formats input) :
    createUserSchema formats (some (createUserBody input)) = .done input [] := by
  have email : address formats (textOf input.email) = _ :=
    (address_lawful formats).complete _ fits.email
  have password : newPassword (textOf input.password) = _ :=
    newPassword_lawful.complete _ fits.password
  have displayName : name 120 (textOf input.displayName) = _ :=
    (name_lawful 120).complete _ fits.displayName
  have role : roleSchema (textOf (roleName input.role)) = _ := roleSchema_lawful.complete _ trivial
  rw [createUserSchema, createUserBody, object_record _ _ (by simp)]
  simp only [createUserShape, Shape.mapped, Shape.both, field, lookup_cons, String.reduceEq,
    ↓reduceIte, email, password, displayName, role, under_pass, both_pass, map_pass]

theorem updateUserBody_read (input : UpdateUserInput) (fits : UpdateUserFits input) :
    updateUserSchema (some (updateUserBody input)) = .done input [] := by
  have displayName : Validation.optional (name 120) (input.displayName.bind textOf) = _ :=
    (optionalText_lawful (name_lawful 120)).complete _ fits.displayName
  have role : Validation.optional roleSchema
      (input.role.bind fun role => textOf (roleName role)) = _ :=
    optionalRole_lawful.complete _ (given_true input.role)
  have isActive : Validation.optional boolean (input.isActive.map .boolean) = .done input.isActive [] := by
    cases input.isActive <;> rfl
  have password : Validation.optional newPassword (input.password.bind textOf) = _ :=
    (optionalText_lawful newPassword_lawful).complete _ fits.password
  rw [updateUserSchema, refine, updateUserBody, object_record _ _ (by simp)]
  simp only [updateUserShape, Shape.mapped, Shape.both, field, lookup_cons, String.reduceEq,
    ↓reduceIte, displayName, role, isActive, password, under_pass, both_pass, map_pass,
    fits.supplied]

end Read

section Text

/-- A field of a body, which has no numbers. -/
def Wordy (value : Option Json) : Prop := ∀ own ∈ value, own.Numeric

theorem textOf_wordy (text : String) : Wordy (textOf text) := by
  rintro _ ⟨⟩
  exact trivial

theorem idOf_wordy (own : Uuid) : Wordy (idOf formats own) := by
  rintro _ ⟨⟩
  exact trivial

theorem bind_wordy {α : Type} (value : Option α) {encode : α → Option Json}
    (each : ∀ own, Wordy (encode own)) : Wordy (value.bind encode) := by
  intro json member
  obtain ⟨own, _, made⟩ := Option.bind_eq_some_iff.mp member
  exact each own json made

theorem filterMap_numeric (entries : List (String × Option Json))
    (each : ∀ entry ∈ entries, Wordy entry.2) :
    Json.NumericFields (entries.filterMap fun entry => entry.2.map (entry.1, ·)) := by
  induction entries with
  | nil => trivial
  | cons entry rest ih =>
      obtain ⟨own, others⟩ := List.forall_mem_cons.mp each
      obtain ⟨name, value⟩ := entry
      cases value with
      | none => exact ih others
      | some json => exact ⟨own json rfl, ih others⟩

theorem record_numeric (entries : List (String × Option Json))
    (each : ∀ entry ∈ entries, Wordy entry.2) : (record entries).Numeric :=
  filterMap_numeric entries each

end Text

end FaceVec.Http
