import FaceVec.Http.Schemas

/-!
The schemas of the request parts, in the order of their modules, each with the
values that it is for.
-/

namespace FaceVec.Http

open Validation Api Users Attendance Courses

variable (formats : Formats)

def supplied : String := "At least one field must be provided"

theorem given_true {α : Type} (value : Option α) : Given (fun _ => True) value :=
  fun _ _ => trivial

theorem optionalId_lawful :
    Lawful (optional (id formats)) (Given fun _ => True)
      fun value => value.bind fun own => some (.string (formats.print own)) :=
  optional_lawful (id_lawful formats) fun _ => rfl

section Auth

structure LoginInput where
  email : String
  password : String

def registerShape :=
  (field "email" (address formats)).both ((field "password"
    (string [minLength 8 "Password must be at least 8 characters", maxLength 200])).both
      (field "displayName" (name 120)))

def registerSchema : Schema RegisterInput :=
  object ((registerShape formats).mapped fun value => ⟨value.1, value.2.1, value.2.2⟩)

def loginShape := (field "email" (loginAddress formats)).both (field "password" (string [minLength 1]))

def loginSchema : Schema LoginInput :=
  object ((loginShape formats).mapped fun value => ⟨value.1, value.2⟩)

structure RegisterFits (input : RegisterInput) : Prop where
  email : Mail formats input.email
  password : Password input.password
  displayName : Name 120 input.displayName

structure LoginFits (input : LoginInput) : Prop where
  email : Address formats input.email
  password : 1 ≤ Text.length input.password

theorem registerShape_reads :
    Reads (registerShape formats) fun value =>
      Mail formats value.1 ∧ Password value.2.1 ∧ Name 120 value.2.2 :=
  Reads.both (.field _ (address_lawful formats))
    (.both (.field _ (password_lawful _)) (.field _ (name_lawful 120)) (by simp [field]))
    (by simp [field, Shape.both])

theorem registerSchema_admits :
    Admits (registerSchema formats) ["email", "password", "displayName"] (RegisterFits formats) :=
  (registerShape_reads formats).admits _
    (fun input => (input.email, input.password, input.displayName)) (fun _ => rfl) (fun _ => rfl)
    fun _ => ⟨fun fits => ⟨fits.email, fits.password, fits.displayName⟩,
      fun fits => ⟨fits.1, fits.2.1, fits.2.2⟩⟩

theorem loginShape_reads :
    Reads (loginShape formats) fun value =>
      Address formats value.1 ∧ 1 ≤ Text.length value.2 :=
  Reads.both (.field _ (loginAddress_lawful formats)) (.field _ nonempty_lawful) (by simp [field])

theorem loginSchema_admits :
    Admits (loginSchema formats) ["email", "password"] (LoginFits formats) :=
  (loginShape_reads formats).admits _ (fun input => (input.email, input.password))
    (fun _ => rfl) (fun _ => rfl)
    fun _ => ⟨fun fits => ⟨fits.email, fits.password⟩, fun fits => ⟨fits.1, fits.2⟩⟩

end Auth

section Ids

/-- `z.object({ <key>: z.string().uuid() })`, and two of them. -/
def idSchema (key : String) : Schema Uuid := object (field key (id formats))

def idsSchema (key other : String) : Schema (Uuid × Uuid) :=
  object ((field key (id formats)).both (field other (id formats)))

def idParamSchema : Schema Uuid := idSchema formats "id"

def enrollmentParamsSchema : Schema (Uuid × Uuid) := idsSchema formats "id" "studentId"

def importJobParamsSchema : Schema (Uuid × Uuid) := idsSchema formats "id" "jobId"

def faceParamsSchema : Schema (Uuid × Uuid) := idsSchema formats "id" "embeddingId"

theorem idSchema_admits (key : String) : Admits (idSchema formats key) [key] fun _ => True :=
  (Reads.field key (id_lawful formats)).object

theorem idsSchema_admits (key other : String) (apart : key ≠ other) :
    Admits (idsSchema formats key other) [key, other] fun _ => True :=
  (Reads.object ((Reads.field key (id_lawful formats)).both (.field other (id_lawful formats))
    (by simpa [field] using apart.symm))).of_iff fun _ => ⟨fun _ => ⟨trivial, trivial⟩, fun _ => trivial⟩

theorem paginationSchema_admits :
    Admits (paginationSchema formats) ["page", "pageSize"] (PageFits formats) :=
  (pagination_reads formats).object

end Ids

section Courses

def createCourseShape :=
  (field "code" (name 32)).both
    ((field "title" (name 200)).both (field "professorId" (optional (id formats))))

def createCourseSchema : Schema CreateCourseInput :=
  object ((createCourseShape formats).mapped fun value => ⟨value.1, value.2.1, value.2.2⟩)

def updateCourseShape :=
  (field "code" (optional (name 32))).both
    ((field "title" (optional (name 200))).both (field "professorId" (optional (id formats))))

def updateCourseSchema : Schema UpdateCourseInput :=
  refine (fun data => data.code.isSome || data.title.isSome || data.professorId.isSome) supplied
    (object ((updateCourseShape formats).mapped fun value => ⟨value.1, value.2.1, value.2.2⟩))

def listCoursesQueryShape :=
  (pagination formats).both
    ((field "search" (optional (name 200))).both (field "professorId" (optional (id formats))))

def listCoursesQuerySchema : Schema ListCoursesQuery :=
  object ((listCoursesQueryShape formats).mapped fun value => ⟨value.1, value.2.1, value.2.2⟩)

structure CreateCourseFits (input : CreateCourseInput) : Prop where
  code : Name 32 input.code
  title : Name 200 input.title

structure UpdateCourseFits (input : UpdateCourseInput) : Prop where
  code : Given (Name 32) input.code
  title : Given (Name 200) input.title
  supplied : (input.code.isSome || input.title.isSome || input.professorId.isSome) = true

structure ListCoursesFits (query : ListCoursesQuery) : Prop where
  page : PageFits formats query.page
  search : Given (Name 200) query.search

theorem createCourseShape_reads :
    Reads (createCourseShape formats) fun value =>
      Name 32 value.1 ∧ Name 200 value.2.1 ∧ Given (fun _ => True) value.2.2 :=
  Reads.both (.field _ (name_lawful 32))
    (.both (.field _ (name_lawful 200)) (.field _ (optionalId_lawful formats)) (by simp [field]))
    (by simp [field, Shape.both])

theorem createCourseSchema_admits :
    Admits (createCourseSchema formats) ["code", "title", "professorId"] CreateCourseFits :=
  (createCourseShape_reads formats).admits _
    (fun input => (input.code, input.title, input.professorId)) (fun _ => rfl) (fun _ => rfl)
    fun _ => ⟨fun fits => ⟨fits.code, fits.title, given_true _⟩, fun fits => ⟨fits.1, fits.2.1⟩⟩

theorem updateCourseShape_reads :
    Reads (updateCourseShape formats) fun value =>
      Given (Name 32) value.1 ∧ Given (Name 200) value.2.1 ∧ Given (fun _ => True) value.2.2 :=
  Reads.both (.field _ (optionalText_lawful (name_lawful 32)))
    (.both (.field _ (optionalText_lawful (name_lawful 200)))
      (.field _ (optionalId_lawful formats)) (by simp [field]))
    (by simp [field, Shape.both])

theorem updateCourseSchema_admits :
    Admits (updateCourseSchema formats) ["code", "title", "professorId"] UpdateCourseFits :=
  (((updateCourseShape_reads formats).record _
    (fun input : UpdateCourseInput => (input.code, input.title, input.professorId))
    (fun _ => rfl) fun _ => rfl).object.refine _ _).of_iff
    fun _ => ⟨fun fits => ⟨⟨fits.code, fits.title, given_true _⟩, fits.supplied⟩,
      fun fits => ⟨fits.1.1, fits.1.2.1, fits.2⟩⟩

theorem listCoursesQueryShape_reads :
    Reads (listCoursesQueryShape formats) fun value =>
      PageFits formats value.1 ∧ Given (Name 200) value.2.1 ∧ Given (fun _ => True) value.2.2 :=
  Reads.both (pagination_reads formats)
    (.both (.field _ (optionalText_lawful (name_lawful 200)))
      (.field _ (optionalId_lawful formats)) (by simp [field]))
    (by simp [field, Shape.both, Shape.mapped, pagination, paginationShape])

theorem listCoursesQuerySchema_admits :
    Admits (listCoursesQuerySchema formats) ["page", "pageSize", "search", "professorId"]
      (ListCoursesFits formats) :=
  (listCoursesQueryShape_reads formats).admits _
    (fun query => (query.page, query.search, query.professorId)) (fun _ => rfl) (fun _ => rfl)
    fun _ => ⟨fun fits => ⟨fits.page, fits.search, given_true _⟩, fun fits => ⟨fits.1, fits.2.1⟩⟩

end Courses

section Rosters

def enrollStudentShape :=
  (field "studentId" (optional (uuidText formats))).both
    ((field "studentNumber" (optional (name 64))).both
      ((field "fullName" (optional (name 200))).both (field "email" (optional (address formats)))))

abbrev EnrollStudent := Option String × Option String × Option String × Option String

/-- `Boolean(text)`. -/
def truthy (text : Option String) : Bool := text.any (· != "")

def toResolveInput (data : EnrollStudent) : ResolveInput :=
  ⟨data.1.map (readId formats), data.2.1, data.2.2.1, data.2.2.2⟩

def ofResolveInput (input : ResolveInput) : EnrollStudent :=
  (input.studentId.map formats.print, input.studentNumber, input.fullName, input.email)

def enrollStudentSchema : Schema ResolveInput :=
  mapped (toResolveInput formats)
    (refine (fun data => truthy data.1 || truthy data.2.1)
      "Provide either an existing studentId or a studentNumber to enroll."
      (object (enrollStudentShape formats)))

theorem char_eq_iff (a b : Char) : a = b ↔ a.toNat = b.toNat :=
  ⟨congrArg Char.toNat, Text.char_ext a b⟩

theorem isTrimmed_eq (c : Char) : isTrimmed c = Text.isSpace c := by
  simp only [isTrimmed, Text.isSpace, List.contains_eq_mem, List.mem_cons, List.not_mem_nil,
    char_eq_iff c]
  rfl

theorem trim_eq (text : String) : Courses.trim text = Text.trim text := by
  have same : isTrimmed = Text.isSpace := funext isTrimmed_eq
  simp only [Courses.trim, Text.trim, Text.trimmed, List.rdropWhile, same]

structure EnrollStudentFits (input : ResolveInput) : Prop where
  studentNumber : Given (Name 64) input.studentNumber
  fullName : Given (Name 200) input.fullName
  email : Given (Mail formats) input.email
  named : (input.studentId.isSome || input.studentNumber.isSome) = true

def bulkImportRowShape :=
  (field "studentNumber" (name 64)).both
    ((field "fullName" (optional (name 200))).both (field "email" (optional (address formats))))

def bulkImportRowSchema : Schema BulkImportRow :=
  object ((bulkImportRowShape formats).mapped fun value => ⟨value.1, value.2.1, value.2.2⟩)

def bulkEnrollSchema : Schema (List BulkImportRow) :=
  object (field "rows" (array (bulkImportRowSchema formats) 1 2000))

structure BulkImportRowFits (row : BulkImportRow) : Prop where
  studentNumber : Name 64 row.studentNumber
  fullName : Given (Name 200) row.fullName
  email : Given (Mail formats) row.email

structure BulkEnrollFits (rows : List BulkImportRow) : Prop where
  some_ : 1 ≤ rows.length
  bounded : rows.length ≤ 2000
  each : ∀ row ∈ rows, BulkImportRowFits formats row

theorem enrollStudentShape_reads :
    Reads (enrollStudentShape formats) fun value =>
      Given (fun text => (formats.uuid text).isSome = true) value.1 ∧
        Given (Name 64) value.2.1 ∧ Given (Name 200) value.2.2.1 ∧
          Given (Mail formats) value.2.2.2 :=
  Reads.both (.field _ (optionalText_lawful (uuidText_lawful formats)))
    (.both (.field _ (optionalText_lawful (name_lawful 64)))
      (.both (.field _ (optionalText_lawful (name_lawful 200)))
        (.field _ (optionalText_lawful (address_lawful formats))) (by simp [field]))
      (by simp [field, Shape.both]))
    (by simp [field, Shape.both])

theorem print_nonempty (own : Uuid) : formats.print own ≠ "" := by
  intro empty
  have read := formats.uuid_print own
  rw [empty, formats.uuid_empty] at read
  cases read

theorem Name.ne_empty {bound : Nat} {text : String} (fits : Name bound text) : text ≠ "" := by
  rintro rfl
  exact absurd fits.nonempty (by decide)

theorem truthy_print (own : Option Uuid) : truthy (own.map formats.print) = own.isSome := by
  cases own with
  | none => rfl
  | some id => simp [truthy, print_nonempty]

theorem truthy_name {bound : Nat} (text : Option String) (fits : Given (Name bound) text) :
    truthy text = text.isSome := by
  cases text with
  | none => rfl
  | some own => simp [truthy, (fits own rfl).ne_empty]

theorem truthy_uuid (text : Option String)
    (fits : Given (fun text => (formats.uuid text).isSome = true) text) :
    truthy text = text.isSome := by
  cases text with
  | none => rfl
  | some own =>
      have read := fits own rfl
      have nonempty : own ≠ "" := by
        rintro rfl
        rw [formats.uuid_empty] at read
        cases read
      simp [truthy, nonempty]

theorem toResolveInput_ofResolveInput (input : ResolveInput) :
    toResolveInput formats (ofResolveInput formats input) = input := by
  cases input with
  | mk studentId studentNumber fullName email =>
      have ids : (studentId.map formats.print).map (readId formats) = studentId := by
        cases studentId <;> simp
      simp only [toResolveInput, ofResolveInput, ids]

theorem enrollStudentSchema_admits :
    Admits (enrollStudentSchema formats) ["studentId", "studentNumber", "fullName", "email"]
      (EnrollStudentFits formats) := by
  have printed (own : Option Uuid) :
      Given (fun text => (formats.uuid text).isSome = true) (own.map formats.print) := by
    intro text member
    obtain ⟨id, _, rfl⟩ := Option.map_eq_some_iff.mp member
    simp [formats.uuid_print]
  refine (((enrollStudentShape_reads formats).object.refine _ _).mapped (toResolveInput formats)
    (ofResolveInput formats) ?_).of_iff ?_
  · rintro ⟨studentId, studentNumber, fullName, email⟩ ⟨⟨uuid, number, rest⟩, named⟩
    refine ⟨⟨⟨printed _, number, rest⟩, ?_⟩, toResolveInput_ofResolveInput formats _⟩
    simp only [truthy_uuid formats studentId uuid] at named
    simpa only [ofResolveInput, toResolveInput, truthy_print, Option.isSome_map] using named
  · intro input
    constructor
    · intro fits
      refine ⟨⟨⟨printed _, fits.studentNumber, fits.fullName, fits.email⟩, ?_⟩,
        toResolveInput_ofResolveInput formats input⟩
      simpa only [ofResolveInput, truthy_print, truthy_name _ fits.studentNumber] using fits.named
    · rintro ⟨⟨⟨_, number, name, mail⟩, named⟩, _⟩
      refine ⟨number, name, mail, ?_⟩
      have given : truthy input.studentNumber = input.studentNumber.isSome := truthy_name _ number
      simpa only [ofResolveInput, truthy_print, given] using named

theorem bulkImportRowShape_reads :
    Reads (bulkImportRowShape formats) fun value =>
      Name 64 value.1 ∧ Given (Name 200) value.2.1 ∧ Given (Mail formats) value.2.2 :=
  Reads.both (.field _ (name_lawful 64))
    (.both (.field _ (optionalText_lawful (name_lawful 200)))
      (.field _ (optionalText_lawful (address_lawful formats))) (by simp [field]))
    (by simp [field, Shape.both])

theorem bulkImportRowSchema_admits :
    Admits (bulkImportRowSchema formats) ["studentNumber", "fullName", "email"]
      (BulkImportRowFits formats) :=
  (bulkImportRowShape_reads formats).admits _
    (fun row => (row.studentNumber, row.fullName, row.email)) (fun _ => rfl) (fun _ => rfl)
    fun _ => ⟨fun fits => ⟨fits.studentNumber, fits.fullName, fits.email⟩,
      fun fits => ⟨fits.1, fits.2.1, fits.2.2⟩⟩

theorem bulkEnrollSchema_admits :
    Admits (bulkEnrollSchema formats) ["rows"] (BulkEnrollFits formats) := by
  obtain ⟨encode, lawful⟩ := (bulkImportRowSchema_admits formats).lawful
  exact (Reads.object (.field "rows" (array_lawful lawful 1 2000))).of_iff fun _ =>
    ⟨fun fits => ⟨⟨fits.some_, fits.bounded⟩, fits.each⟩,
      fun fits => ⟨fits.1.1, fits.1.2, fits.2⟩⟩

theorem bulkEnrollSchema_rows {ones others : List (List (String × Json))}
    {fields fields' : List (String × Json)}
    (first : Json.field fields "rows" = some (.array (ones.map .object)))
    (second : Json.field fields' "rows" = some (.array (others.map .object)))
    (alike : List.Forall₂ (fun one other => ∀ key ∈ ["studentNumber", "fullName", "email"],
      Json.field one key = Json.field other key) ones others) :
    bulkEnrollSchema formats (some (.object fields)) =
      bulkEnrollSchema formats (some (.object fields')) := by
  have rows : List.Forall₂ (fun one other => bulkImportRowSchema formats (some one) =
      bulkImportRowSchema formats (some other)) (ones.map Json.object) (others.map Json.object) := by
    rw [List.forall₂_map_left_iff, List.forall₂_map_right_iff]
    exact alike.imp (bulkImportRowSchema_admits formats).declared
  simp only [bulkEnrollSchema, object, field, first, second]
  exact congrArg (Parsed.under (.key "rows")) (array_congr rows 1 2000)

end Rosters

section Students

def createStudentShape :=
  (field "studentNumber" (name 64)).both
    ((field "fullName" (name 200)).both (field "email" (optional (address formats))))

def createStudentSchema : Schema CreateStudentInput :=
  object ((createStudentShape formats).mapped fun value => ⟨value.1, value.2.1, value.2.2⟩)

def updateStudentShape :=
  (field "studentNumber" (optional (name 64))).both
    ((field "fullName" (optional (name 200))).both
      (field "email" (optional (nullable (address formats)))))

def updateStudentSchema : Schema UpdateStudentInput :=
  refine (fun data => data.studentNumber.isSome || data.fullName.isSome || data.email.isSome)
    supplied
    (object ((updateStudentShape formats).mapped fun value => ⟨value.1, value.2.1, value.2.2⟩))

def listStudentsQueryShape := (pagination formats).both (field "search" (optional (name 200)))

def listStudentsQuerySchema : Schema ListStudentsQuery :=
  object ((listStudentsQueryShape formats).mapped fun value => ⟨value.1, value.2⟩)

structure CreateStudentFits (input : CreateStudentInput) : Prop where
  studentNumber : Name 64 input.studentNumber
  fullName : Name 200 input.fullName
  email : Given (Mail formats) input.email

structure UpdateStudentFits (input : UpdateStudentInput) : Prop where
  studentNumber : Given (Name 64) input.studentNumber
  fullName : Given (Name 200) input.fullName
  email : Given (Given (Mail formats)) input.email
  supplied : (input.studentNumber.isSome || input.fullName.isSome || input.email.isSome) = true

structure ListStudentsFits (query : ListStudentsQuery) : Prop where
  page : PageFits formats query.page
  search : Given (Name 200) query.search

theorem createStudentShape_reads :
    Reads (createStudentShape formats) fun value =>
      Name 64 value.1 ∧ Name 200 value.2.1 ∧ Given (Mail formats) value.2.2 :=
  Reads.both (.field _ (name_lawful 64))
    (.both (.field _ (name_lawful 200))
      (.field _ (optionalText_lawful (address_lawful formats))) (by simp [field]))
    (by simp [field, Shape.both])

theorem createStudentSchema_admits :
    Admits (createStudentSchema formats) ["studentNumber", "fullName", "email"]
      (CreateStudentFits formats) :=
  (createStudentShape_reads formats).admits _
    (fun input => (input.studentNumber, input.fullName, input.email)) (fun _ => rfl) (fun _ => rfl)
    fun _ => ⟨fun fits => ⟨fits.studentNumber, fits.fullName, fits.email⟩,
      fun fits => ⟨fits.1, fits.2.1, fits.2.2⟩⟩

theorem nullableAddress_lawful :
    Lawful (optional (nullable (address formats))) (Given (Given (Mail formats)))
      fun value => value.bind (orNull fun text => some (.string text)) :=
  optional_lawful (nullable_lawful (address_lawful formats) fun _ null => by cases null)
    fun value => by cases value <;> rfl

theorem updateStudentShape_reads :
    Reads (updateStudentShape formats) fun value =>
      Given (Name 64) value.1 ∧ Given (Name 200) value.2.1 ∧
        Given (Given (Mail formats)) value.2.2 :=
  Reads.both (.field _ (optionalText_lawful (name_lawful 64)))
    (.both (.field _ (optionalText_lawful (name_lawful 200)))
      (.field _ (nullableAddress_lawful formats)) (by simp [field]))
    (by simp [field, Shape.both])

theorem updateStudentSchema_admits :
    Admits (updateStudentSchema formats) ["studentNumber", "fullName", "email"]
      (UpdateStudentFits formats) :=
  (((updateStudentShape_reads formats).record _
    (fun input : UpdateStudentInput => (input.studentNumber, input.fullName, input.email))
    (fun _ => rfl) fun _ => rfl).object.refine _ _).of_iff
    fun _ => ⟨fun fits => ⟨⟨fits.studentNumber, fits.fullName, fits.email⟩, fits.supplied⟩,
      fun fits => ⟨fits.1.1, fits.1.2.1, fits.1.2.2, fits.2⟩⟩

theorem listStudentsQueryShape_reads :
    Reads (listStudentsQueryShape formats) fun value =>
      PageFits formats value.1 ∧ Given (Name 200) value.2 :=
  Reads.both (pagination_reads formats) (.field _ (optionalText_lawful (name_lawful 200)))
    (by simp [field, Shape.both, Shape.mapped, pagination, paginationShape])

theorem listStudentsQuerySchema_admits :
    Admits (listStudentsQuerySchema formats) ["page", "pageSize", "search"]
      (ListStudentsFits formats) :=
  (listStudentsQueryShape_reads formats).admits _ (fun query => (query.page, query.search))
    (fun _ => rfl) (fun _ => rfl)
    fun _ => ⟨fun fits => ⟨fits.page, fits.search⟩, fun fits => ⟨fits.1, fits.2⟩⟩

end Students

section Attendance

def attendanceStatusSchema : Schema AttendanceStatus :=
  oneOf [("PRESENT", .PRESENT), ("LATE", .LATE), ("ABSENT", .ABSENT)]

def statusName : AttendanceStatus → String
  | .PRESENT => "PRESENT"
  | .LATE => "LATE"
  | .ABSENT => "ABSENT"

def markAttendanceShape :=
  (field "studentId" (id formats)).both
    (field "status" (withDefault (.string "PRESENT") attendanceStatusSchema))

def markAttendanceSchema : Schema MarkAttendanceInput :=
  object ((markAttendanceShape formats).mapped fun value => ⟨value.1, value.2⟩)

theorem attendanceStatusSchema_lawful :
    Lawful attendanceStatusSchema (fun _ => True) fun status => some (.string (statusName status)) :=
  oneOf_lawful _ _ fun status => by cases status <;> exact ⟨_, by rfl, rfl⟩

theorem markAttendanceSchema_admits :
    Admits (markAttendanceSchema formats) ["studentId", "status"] fun _ => True :=
  (Reads.both (.field _ (id_lawful formats))
    (.field _ (withDefault_lawful _ attendanceStatusSchema_lawful fun _ => rfl))
    (by simp [field])).admits _ (fun input => (input.studentId, input.status))
    (fun _ => rfl) (fun _ => rfl) fun _ => ⟨fun _ => ⟨trivial, trivial⟩, fun _ => trivial⟩

end Attendance

section Users

def roleSchema : Schema Role :=
  oneOf [("PROFESSOR", .PROFESSOR), ("ADMIN", .ADMIN), ("STUDENT", .STUDENT)]

def roleName : Role → String
  | .PROFESSOR => "PROFESSOR"
  | .ADMIN => "ADMIN"
  | .STUDENT => "STUDENT"

def createUserShape :=
  (field "email" (address formats)).both
    ((field "password" newPassword).both
      ((field "displayName" (name 120)).both (field "role" roleSchema)))

def createUserSchema : Schema CreateUserInput :=
  object ((createUserShape formats).mapped fun value =>
    ⟨value.1, value.2.1, value.2.2.1, value.2.2.2⟩)

def updateUserShape :=
  (field "displayName" (optional (name 120))).both
    ((field "role" (optional roleSchema)).both
      ((field "isActive" (optional boolean)).both (field "password" (optional newPassword))))

def updateUserSchema : Schema UpdateUserInput :=
  refine (fun data => data.displayName.isSome || data.role.isSome || data.isActive.isSome ||
      data.password.isSome) supplied
    (object (updateUserShape.mapped fun value => ⟨value.1, value.2.1, value.2.2.1, value.2.2.2⟩))

def listUsersQueryShape :=
  (pagination formats).both
    ((field "role" (optional roleSchema)).both (field "search" (optional (name 120))))

def listUsersQuerySchema : Schema ListUsersQuery :=
  object ((listUsersQueryShape formats).mapped fun value => ⟨value.1, value.2.1, value.2.2⟩)

structure CreateUserFits (input : CreateUserInput) : Prop where
  email : Mail formats input.email
  password : Password input.password
  displayName : Name 120 input.displayName

structure UpdateUserFits (input : UpdateUserInput) : Prop where
  displayName : Given (Name 120) input.displayName
  password : Given Password input.password
  supplied : (input.displayName.isSome || input.role.isSome || input.isActive.isSome ||
    input.password.isSome) = true

structure ListUsersFits (query : ListUsersQuery) : Prop where
  page : PageFits formats query.page
  search : Given (Name 120) query.search

theorem roleSchema_lawful :
    Lawful roleSchema (fun _ => True) fun role => some (.string (roleName role)) :=
  oneOf_lawful _ _ fun role => by cases role <;> exact ⟨_, by rfl, rfl⟩

theorem optionalRole_lawful :
    Lawful (optional roleSchema) (Given fun _ => True)
      fun value => value.bind fun role => some (.string (roleName role)) :=
  optional_lawful roleSchema_lawful fun _ => rfl

theorem newPassword_lawful : Lawful newPassword Password fun text => some (.string text) :=
  password_lawful _

theorem createUserShape_reads :
    Reads (createUserShape formats) fun value =>
      Mail formats value.1 ∧ Password value.2.1 ∧ Name 120 value.2.2.1 ∧ True :=
  Reads.both (.field _ (address_lawful formats))
    (.both (.field _ newPassword_lawful)
      (.both (.field _ (name_lawful 120)) (.field _ roleSchema_lawful) (by simp [field]))
      (by simp [field, Shape.both]))
    (by simp [field, Shape.both])

theorem createUserSchema_admits :
    Admits (createUserSchema formats) ["email", "password", "displayName", "role"]
      (CreateUserFits formats) :=
  (createUserShape_reads formats).admits _
    (fun input => (input.email, input.password, input.displayName, input.role)) (fun _ => rfl)
    (fun _ => rfl)
    fun _ => ⟨fun fits => ⟨fits.email, fits.password, fits.displayName, trivial⟩,
      fun fits => ⟨fits.1, fits.2.1, fits.2.2.1⟩⟩

theorem updateUserShape_reads :
    Reads updateUserShape fun value =>
      Given (Name 120) value.1 ∧ Given (fun _ => True) value.2.1 ∧
        Given (fun _ => True) value.2.2.1 ∧ Given Password value.2.2.2 :=
  Reads.both (.field _ (optionalText_lawful (name_lawful 120)))
    (.both (.field _ optionalRole_lawful)
      (.both (.field _ (optional_lawful boolean_lawful fun _ => rfl))
        (.field _ (optionalText_lawful newPassword_lawful)) (by simp [field]))
      (by simp [field, Shape.both]))
    (by simp [field, Shape.both])

theorem updateUserSchema_admits :
    Admits updateUserSchema ["displayName", "role", "isActive", "password"] UpdateUserFits :=
  ((updateUserShape_reads.record _ (fun input : UpdateUserInput =>
      (input.displayName, input.role, input.isActive, input.password))
    (fun _ => rfl) fun _ => rfl).object.refine _ _).of_iff
    fun _ => ⟨fun fits => ⟨⟨fits.displayName, given_true _, given_true _, fits.password⟩,
      fits.supplied⟩, fun fits => ⟨fits.1.1, fits.1.2.2.2, fits.2⟩⟩

theorem listUsersQueryShape_reads :
    Reads (listUsersQueryShape formats) fun value =>
      PageFits formats value.1 ∧ Given (fun _ => True) value.2.1 ∧ Given (Name 120) value.2.2 :=
  Reads.both (pagination_reads formats)
    (.both (.field _ optionalRole_lawful) (.field _ (optionalText_lawful (name_lawful 120)))
      (by simp [field]))
    (by simp [field, Shape.both, Shape.mapped, pagination, paginationShape])

theorem listUsersQuerySchema_admits :
    Admits (listUsersQuerySchema formats) ["page", "pageSize", "role", "search"]
      (ListUsersFits formats) :=
  (listUsersQueryShape_reads formats).admits _
    (fun query => (query.page, query.role, query.search)) (fun _ => rfl) (fun _ => rfl)
    fun _ => ⟨fun fits => ⟨fits.page, given_true _, fits.search⟩, fun fits => ⟨fits.1, fits.2.2⟩⟩

end Users

end FaceVec.Http
