import FaceVec.Courses.Enrollment
import FaceVec.Http.App

/-!
A roster file on its way to the students: the rows that `BulkImportPanel.tsx`
parses, the text that `api.bulkEnroll` sends, the application that reads and
validates it, and the students the consumer resolves. The sheet is what SheetJS
makes of the file: rows of cells, each with its text or empty.
-/

namespace FaceVec.Import

open Validation Http Api Courses

variable {K : Type}

/-- `String(v)` of a cell that is not nullish. -/
abbrev Cell := Option String

def cell (value : Cell) : String := (value.map Text.trim).getD ""

/-- `row[column]`. -/
def cellAt (cells : List Cell) (column : Nat) : String := cell cells[column]?.join

/-- `...(text ? { key: text } : {})`. -/
def given (text : String) : Option String := if text = "" then none else some text

/-- Rows without a student number are skipped. -/
def rosterRow (cells : List Cell) : Option BulkImportRow :=
  let studentNumber := cellAt cells 0
  if studentNumber = "" then none
  else some ⟨studentNumber, given (cellAt cells 1), given (cellAt cells 2)⟩

/-- `none` is a workbook without a sheet; the first row is the header. -/
def parseWorkbook (sheet : Option (List (List Cell))) : List BulkImportRow :=
  ((sheet.getD []).drop 1).filterMap rosterRow

section Client

variable (formats : Formats)

/-- The text of `{ rows }`. -/
def rosterText (rows : List BulkImportRow) : List Char := Json.stringify (bulkEnrollBody rows)

/-- `api.bulkEnroll(courseId, rows)`. -/
def bulkEnrollRequest (courseId : Uuid) (rows : List BulkImportRow) : Arriving where
  method := .POST
  path := ["courses", formats.print courseId, "enrollments", "bulk"]
  query := []
  content := .json (rosterText rows)

/-- What the gateway makes of a row. -/
def received (row : BulkImportRow) : BulkImportRow :=
  { row with email := row.email.map Text.toLowerCase }

structure RowTaken (row : BulkImportRow) : Prop where
  studentNumber : Text.length row.studentNumber ≤ 64
  fullName : ∀ text ∈ row.fullName, Text.length text ≤ 200
  email : ∀ text ∈ row.email, formats.email text = true ∧ Text.length text ≤ 254

structure Taken (rows : List BulkImportRow) : Prop where
  some_ : 1 ≤ rows.length
  bounded : rows.length ≤ 2000
  each : ∀ row ∈ rows, RowTaken formats row

end Client

section Parsing

/-- A text of the file: trimmed, and not empty. -/
structure Written (text : String) : Prop where
  trimmed : Text.trim text = text
  nonempty : text ≠ ""

structure RowWritten (row : BulkImportRow) : Prop where
  studentNumber : Written row.studentNumber
  fullName : ∀ text ∈ row.fullName, Written text
  email : ∀ text ∈ row.email, Written text

theorem cell_trimmed (value : Cell) : Text.trim (cell value) = cell value := by
  cases value with
  | none => decide
  | some text => exact Text.trim_trim text

theorem given_written (value : Cell) : ∀ text ∈ given (cell value), Written text := by
  intro text member
  unfold given at member
  split at member
  · cases member
  · next nonempty =>
      cases member
      exact ⟨cell_trimmed value, nonempty⟩

theorem parsed_written (sheet : Option (List (List Cell))) (row : BulkImportRow)
    (parsed : row ∈ parseWorkbook sheet) : RowWritten row := by
  obtain ⟨cells, _, read⟩ := List.mem_filterMap.mp parsed
  unfold rosterRow at read
  dsimp only at read
  split at read
  · cases read
  · next nonempty =>
      cases read
      exact ⟨⟨cell_trimmed _, nonempty⟩, given_written _, given_written _⟩

theorem length_pos (text : String) (nonempty : text ≠ "") : 1 ≤ Text.length text := by
  have characters : text.toList ≠ [] := fun none => nonempty (String.toList_eq_nil_iff.mp none)
  obtain ⟨first, rest, same⟩ := List.exists_cons_of_ne_nil characters
  simp only [Text.length, same, List.foldr_cons]
  unfold Text.units
  split <;> omega

end Parsing

section Validation

variable (formats : Formats)

theorem name_done_iff (bound : Nat) (text result : String) (written : Written text) :
    name bound (some (.string text)) = .done result [] ↔
      Text.length text ≤ bound ∧ result = text := by
  rw [name, string_done_iff]
  simp only [checkAll_trim, checkAll_minLength, checkAll_maxLength, checkAll_nil, written.trimmed,
    length_pos text written.nonempty, true_and]
  exact and_congr_right fun _ => eq_comm

theorem address_done_iff (text result : String) :
    address formats (some (.string text)) = .done result [] ↔
      (formats.email text = true ∧ Text.length text ≤ 254) ∧ result = Text.toLowerCase text := by
  rw [address, string_done_iff]
  simp only [checkAll_email, checkAll_maxLength, checkAll_toLowerCase, checkAll_nil, and_assoc]
  exact and_congr_right fun _ => and_congr_right fun _ => eq_comm

theorem optional_done_iff {schema : Schema String} {takes : String → Prop}
    {reads : String → String} (text result : Option String)
    (each : ∀ own ∈ text, ∀ value,
      schema (some (.string own)) = .done value [] ↔ takes own ∧ value = reads own) :
    Validation.optional schema (text.bind textOf) = .done result [] ↔
      (∀ own ∈ text, takes own) ∧ result = text.map reads := by
  cases text with
  | none => simp [Validation.optional, eq_comm]
  | some own =>
      have known := each own rfl
      constructor
      · intro done_
        obtain ⟨value, read, rfl⟩ := Parsed.map_done _ _ _ done_
        obtain ⟨takes_, rfl⟩ := (known value).mp read
        exact ⟨by simpa using takes_, rfl⟩
      · rintro ⟨takes_, rfl⟩
        simp only [Validation.optional, Option.bind_some, textOf, (known _).mpr ⟨takes_ own rfl, rfl⟩]
        rfl

/-- A row that the panel has parsed is taken where its texts are, and nothing in it changes but
the case of its address. -/
theorem row_done_iff (row result : BulkImportRow) (written : RowWritten row) :
    bulkImportRowSchema formats (some (rowBody row)) = .done result [] ↔
      RowTaken formats row ∧ result = received row := by
  have first := fun value => name_done_iff 64 row.studentNumber value written.studentNumber
  have second := fun value => optional_done_iff row.fullName value fun text member own =>
    name_done_iff 200 text own (written.fullName text member)
  have third := fun value => optional_done_iff row.email value fun text _ own =>
    address_done_iff formats text own
  have read : ∀ value, (bulkImportRowShape formats).read (lookup
      [("studentNumber", textOf row.studentNumber), ("fullName", row.fullName.bind textOf),
        ("email", row.email.bind textOf)]) = .done value [] ↔
      RowTaken formats row ∧
        value = (row.studentNumber, row.fullName, row.email.map Text.toLowerCase) := by
    rintro ⟨text, fullText, mail⟩
    simp only [bulkImportRowShape, Shape.both, field, lookup_cons, String.reduceEq, ↓reduceIte,
      Parsed.both_done_iff, Parsed.under_done_iff, textOf, first]
    simp only [second, third, Option.map_id', Prod.mk.injEq]
    constructor
    · rintro ⟨⟨short, rfl⟩, ⟨named, rfl⟩, mails, rfl⟩
      exact ⟨⟨short, named, mails⟩, rfl, rfl, rfl⟩
    · rintro ⟨taken, rfl, rfl, rfl⟩
      exact ⟨⟨taken.studentNumber, rfl⟩, ⟨taken.fullName, rfl⟩, taken.email, rfl⟩
  rw [bulkImportRowSchema, rowBody, object_record _ _ (by simp)]
  constructor
  · intro done_
    obtain ⟨value, inner, rfl⟩ := Parsed.map_done _ _ _ done_
    obtain ⟨taken, rfl⟩ := (read value).mp inner
    exact ⟨taken, rfl⟩
  · rintro ⟨taken, rfl⟩
    simp only [Shape.mapped, (read _).mpr ⟨taken, rfl⟩]
    rfl

theorem rows_done_iff (rows results : List BulkImportRow) (written : ∀ row ∈ rows, RowWritten row) :
    bulkEnrollSchema formats (some (bulkEnrollBody rows)) = .done results [] ↔
      Taken formats rows ∧ results = rows.map received := by
  have shape : bulkEnrollSchema formats (some (bulkEnrollBody rows)) =
      ((items (bulkImportRowSchema formats) 0 (rows.map rowBody)).prepend
        (lengthIssues 1 2000 (rows.map rowBody).length)).under (.key "rows") := rfl
  have each : List.Forall₂ (fun row result =>
      bulkImportRowSchema formats (some (rowBody row)) = .done result []) rows results ↔
        (∀ row ∈ rows, RowTaken formats row) ∧ results = rows.map received :=
    forall₂_reads rows results fun row member result =>
      row_done_iff formats row result (written row member)
  rw [shape, Parsed.under_done_iff, Parsed.prepend_done_iff, items_map, each, lengthIssues_nil, List.length_map]
  constructor
  · rintro ⟨⟨some_, bounded⟩, taken, rfl⟩
    exact ⟨⟨some_, bounded, taken⟩, rfl⟩
  · rintro ⟨taken, rfl⟩
    exact ⟨⟨taken.some_, taken.bounded⟩, taken.each, rfl⟩

end Validation

section Arrival

variable (formats : Formats) (own : AuthContext)

/-- A route of the course router answers what is sent to its path. -/
theorem course_route (allowed : can own.role .MANAGE_OWN_COURSES = true) (index : ℕ)
    {method : Method} {path : List Part} {read : Parts → Except Rejection Action}
    (listed : (coursesRouter formats).routes[index]? = some ⟨method, path, .unguarded, read⟩)
    (values : List String) (length : values.length = (names path).length)
    (nonempty : ∀ value ∈ values, value ≠ "") (body : Option Json) (query : List (String × Json))
    (upload : Except Failure (Option Faces.UploadedImage)) :
    dispatch formats (.ok own) ⟨method, "courses" :: fill path values, body, query, upload⟩ =
      match read ⟨body, (names path).zip values, query, upload⟩ with
      | .error rejection => .rejected rejection
      | .ok action => .handled (some own) action := by
  have elsewhere : ∀ router ∈ [authRouter formats, usersRouter formats, studentsRouter formats],
      ∃ base, router.base = some base ∧ same base "courses" = false := by
    simpa using ⟨⟨"auth", rfl, by decide⟩, ⟨"users", rfl, by decide⟩, ⟨"students", rfl, by decide⟩⟩
  refine dispatch_under formats (.ok own) [authRouter formats, usersRouter formats,
    studentsRouter formats] [attendanceRouter formats] (coursesRouter formats) _ _ rfl
    (fun other known => ?_) ?_
  · obtain ⟨base, based, differs⟩ := elsewhere other known
    exact run_elsewhere _ _ other (mounted_elsewhere other base "courses" based differs _)
  · have entered := gate_enters own (coursesRouter formats) _ rfl allowed
    have matched := matchPath_fill path values length nonempty
    simp only [Router.run, mounted_base (coursesRouter formats) "courses" rfl, Option.bind_some,
      entered]
    refine routes_run _ _ _ _ _ rfl _ (List.mem_of_getElem? listed) _ ?_
    cases answer : read ⟨body, (names path).zip values, query, upload⟩ <;>
      simp only [Route.run, serves_self, if_true, matched, Option.map_some, Guard.admits, answer]

theorem id_read (courseId : Uuid) :
    idParamSchema formats (some (.object [("id", .string (formats.print courseId))])) =
      .done courseId [] := by
  simp [idParamSchema, idSchema, object, field, Json.field, id_done, Parsed.under]

theorem validate_informs {α β γ : Type} (body : Schema α) (params : Schema β) (query : Schema γ)
    (parts : Parts) (details : List Detail)
    (refused : validate body params query parts = .error details) : details ≠ [] := by
  rcases validate_error body params query parts details refused with
    bad | ⟨_, bad | ⟨_, bad⟩⟩ <;> exact (parse_error _ _ _ bad).2

def bulkEnrollParts (courseId : Uuid) (rows : List BulkImportRow) : Parts where
  body := some (bulkEnrollBody rows)
  params := [("id", formats.print courseId)]
  query := []
  upload := .ok none

theorem roster_validated (courseId : Uuid) (rows : List BulkImportRow)
    (written : ∀ row ∈ rows, RowWritten row) (value : List BulkImportRow × Uuid × Unit) :
    validate (bulkEnrollSchema formats) (idParamSchema formats) ignored
        (bulkEnrollParts formats courseId rows) = .ok value ↔
      Taken formats rows ∧ value = (rows.map received, courseId, ()) := by
  obtain ⟨results, id, _⟩ := value
  rw [validate_ok]
  have first := rows_done_iff formats rows results written
  have second : idParamSchema formats (some (bulkEnrollParts formats courseId rows).path) =
      .done courseId [] := id_read formats courseId
  constructor
  · rintro ⟨bodied, named, _⟩
    obtain ⟨taken, rfl⟩ := first.mp bodied
    rw [second] at named
    cases named
    exact ⟨taken, rfl⟩
  · rintro ⟨taken, same⟩
    cases same
    exact ⟨first.mpr ⟨taken, rfl⟩, second, rfl⟩

theorem linked_student (db middle after : Database K) (courseId : Uuid) (input : ResolveInput)
    (student : Student) (created : Bool) (result : ResolveResult)
    (resolved : Resolved db middle input student created)
    (linked : Linked middle courseId student created result after) :
    student ∈ after.students ∧ result.enrollment.studentId = student.id ∧
      result.created = created := by
  cases linked with
  | already enrollment found =>
      have pair := List.find?_some found
      simp only [Bool.and_eq_true, beq_iff_eq] at pair
      exact ⟨resolved.stored, pair.2, rfl⟩
  | new enrollment message between after absent ofCourse ofStudent course frame rows announced =>
      have students : after.students = middle.students := by
        rw [announced.frame, frame]
      exact ⟨students ▸ resolved.stored, ofStudent, rfl⟩

theorem trimmed_written (text : String) (written : Written text) : trimmed (some text) = text :=
  (trim_eq text).trans written.trimmed

/-- The address of a row that was taken is stored as it was received. -/
theorem mail_stored (row : BulkImportRow) (written : RowWritten row) (taken : RowTaken formats row) :
    trimmedOrNull (received row).email = (received row).email := by
  cases present : row.email with
  | none => simp [received, present, trimmedOrNull, trimmed]
  | some text =>
      have own := written.email text present
      have mail := (taken.email text present).1
      have lower : Written (Text.toLowerCase text) := by
        refine ⟨formats.email_trim _ (formats.email_lower text mail), fun empty => ?_⟩
        have length := Text.length_toLowerCase text
        rw [empty] at length
        have positive := length_pos text own.nonempty
        rw [← length] at positive
        exact absurd positive (by decide)
      simp only [received, present, Option.map_some, trimmedOrNull, trimmed_written _ lower,
        if_neg lower.nonempty]

theorem bulkEnrollBody_numeric (rows : List BulkImportRow) : (bulkEnrollBody rows).Numeric :=
  record_numeric _ (by simp [rows_wordy])

/-- A roster whose text is within the limit is read as it was sent. -/
theorem roster_read (multer : Multer) (MAX_UPLOAD_BYTES : ℕ) (auth : Except Failure AuthContext)
    (courseId : Uuid) (rows : List BulkImportRow)
    (small : Json.byteLength (rosterText rows) ≤ jsonLimit) :
    createApp multer MAX_UPLOAD_BYTES formats auth (bulkEnrollRequest formats courseId rows) =
      dispatch formats auth ⟨.POST, ["courses", formats.print courseId, "enrollments", "bulk"],
        some (bulkEnrollBody rows), [], .ok none⟩ := by
  have read : expressJson (.json (rosterText rows)) = .ok (some (bulkEnrollBody rows)) :=
    expressJson_object _ (bulkEnrollBody_numeric rows) small
  simp only [createApp, bulkEnrollRequest, read]
  rfl

/-- A roster file arrives as it was written. What the panel sends is read where its text is within
the limit of the application, and then taken exactly where its texts are; the import request holds
the rows of the sheet, their addresses in lower case, and a row that the consumer commits links a
student of the number in its cell. A longer text is refused before it is read. -/
theorem roster_arrives (multer : Multer) (MAX_UPLOAD_BYTES : ℕ)
    (allowed : can own.role .MANAGE_OWN_COURSES = true) (courseId : Uuid)
    (sheet : Option (List (List Cell))) :
    let rows := parseWorkbook sheet
    let answer := createApp multer MAX_UPLOAD_BYTES formats (.ok own)
      (bulkEnrollRequest formats courseId rows)
    (Json.byteLength (rosterText rows) ≤ jsonLimit →
      (Taken formats rows →
        answer = .handled (some own) (.api (.bulkEnroll courseId (rows.map received))) ∧
          ∀ row ∈ rows, ∀ uuids now, ∀ db : Database K,
            Triple (· = db) (resolveAndLinkStudent uuids now courseId (importInput (received row)))
              fun result after => ∃ student ∈ after.students,
                result.enrollment.studentId = student.id ∧
                  student.studentNumber = row.studentNumber ∧
                    (result.created = true → student.email = (received row).email)) ∧
        (¬ Taken formats rows →
          ∃ details, details ≠ [] ∧ answer = .rejected (.invalid details))) ∧
      (jsonLimit < Json.byteLength (rosterText rows) → answer = .denied tooLarge) := by
  intro rows answer
  have written : ∀ row ∈ rows, RowWritten row := parsed_written sheet
  have verdict := roster_validated formats courseId rows written
  refine ⟨fun small => ?_, fun large => ?_⟩
  · have routed : answer =
        match validated (bulkEnrollSchema formats) (idParamSchema formats) ignored
            (fun rows id _ => .api (.bulkEnroll id rows)) (bulkEnrollParts formats courseId rows) with
        | .error rejection => .rejected rejection
        | .ok action => .handled (some own) action :=
      (roster_read formats multer MAX_UPLOAD_BYTES (.ok own) courseId rows small).trans
        (course_route formats own allowed 7 rfl [formats.print courseId] rfl
          (by simpa using print_nonempty formats courseId) _ _ _)
    rw [routed, validated]
    constructor
    · intro taken
      rw [(verdict _).mpr ⟨taken, rfl⟩]
      refine ⟨rfl, fun row member uuids now db => ?_⟩
      refine triple_imp _ _ (resolveAndLinkStudent_spec uuids now courseId _ db) ?_
      rintro result after ⟨middle, student, created, resolved, linked⟩
      obtain ⟨stored, ofStudent, same⟩ :=
        linked_student db middle after courseId _ student created result resolved linked
      have number : trimmed (some row.studentNumber) = row.studentNumber :=
        trimmed_written _ (written row member).studentNumber
      refine ⟨student, stored, ofStudent, ((resolved.number rfl).2).trans number, fun fresh => ?_⟩
      rw [same] at fresh
      exact (resolved.email fresh).trans
        (mail_stored formats row (written row member) (taken.each row member))
    · intro refused
      cases outcome : validate (bulkEnrollSchema formats) (idParamSchema formats) ignored
          (bulkEnrollParts formats courseId rows) with
      | ok value => exact absurd ((verdict value).mp outcome).1 refused
      | error details => exact ⟨details, validate_informs _ _ _ _ _ outcome, rfl⟩
  · have read : expressJson (.json (rosterText rows)) = .error tooLarge := if_pos large
    simp only [answer, createApp, bulkEnrollRequest, read]

/-- A header, a row with spaces around its texts, and a row without a number. -/
def sheet : List (List Cell) :=
  [[some "Number", some "Name"], [some " S-1 ", some "Ada", some "a@b"], [none, some "Nobody"]]

def lecturer : AuthContext := ⟨7, .PROFESSOR, "jti", 1000⟩

theorem sheet_taken : Taken plain (parseWorkbook (some sheet)) := by
  refine ⟨by decide, by decide, fun row member => ?_⟩
  have only : parseWorkbook (some sheet) = [⟨"S-1", some "Ada", some "a@b"⟩] := by decide
  rw [only] at member
  rw [List.mem_singleton.mp member]
  exact ⟨by decide, by decide, by decide⟩

def upTo : Multer where
  exceeds limit size := limit < size
  below limit size small := by simp [Nat.le_of_lt small]
  above limit size large := by simp [large]

theorem roster_arrives_sheet :
    createApp upTo 10485760 plain (.ok lecturer)
        (bulkEnrollRequest plain 3 (parseWorkbook (some sheet))) =
      .handled (some lecturer) (.api (.bulkEnroll 3 [⟨"S-1", some "Ada", some "a@b"⟩])) := by
  have rows : (parseWorkbook (some sheet)).map received = [⟨"S-1", some "Ada", some "a@b"⟩] := by
    decide
  rw [← rows]
  exact (((roster_arrives (K := ℤ) plain lecturer upTo 10485760 (by decide) 3 (some sheet)).1
    (by decide +kernel)).1 sheet_taken).1

end Arrival

end FaceVec.Import
