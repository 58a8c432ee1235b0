import FaceVec.Users.Service
import FaceVec.Validation

/-!
The request schemas of the gateway: `common.schemas.ts` and the `*.schemas.ts`
of the modules, each with what the handlers may rely on once it has let a
value through. The patterns of zod are parameters.
-/

namespace FaceVec.Http

open Validation Numerals Api Users Attendance

/-- The patterns of `email()` and `uuid()`, how the database reads an id, and
the rounding of numbers. -/
structure Formats where
  email : String → Bool
  email_lower : ∀ text, email text = true → email (Text.toLowerCase text) = true
  email_trim : ∀ text, email text = true → Text.trim text = text
  uuid : String → Option Uuid
  print : Uuid → String
  uuid_print : ∀ id, uuid (print id) = some id
  uuid_empty : uuid "" = none
  doubles : Doubles

variable (formats : Formats)

section Texts

/-- A trimmed text of bounded length that is not empty. -/
structure Name (bound : Nat) (text : String) : Prop where
  trimmed : Text.trim text = text
  nonempty : 1 ≤ Text.length text
  bounded : Text.length text ≤ bound

structure Address (text : String) : Prop where
  email : formats.email text = true
  lower : Text.toLowerCase text = text

structure Mail (text : String) : Prop extends Address formats text where
  bounded : Text.length text ≤ 254

structure Password (text : String) : Prop where
  strong : 8 ≤ Text.length text
  bounded : Text.length text ≤ 200

/-- `z.string().trim().min(1).max(bound)`. -/
def name (bound : Nat) : Schema String := string [Validation.trim, minLength 1, maxLength bound]

def emailCheck : Check := test formats.email "invalid_string" "Invalid email"

/-- `z.string().email().max(254).toLowerCase()`. -/
def address : Schema String :=
  string [emailCheck formats, maxLength 254, Validation.toLowerCase]

/-- `loginSchema` does not bound its address. -/
def loginAddress : Schema String := string [emailCheck formats, Validation.toLowerCase]

def newPassword : Schema String := string [minLength 8, maxLength 200]

def uuidText : Schema String :=
  string [test (fun text => (formats.uuid text).isSome) "invalid_string" "Invalid uuid"]

def readId (text : String) : Uuid := (formats.uuid text).getD 0

def id : Schema Uuid := mapped (readId formats) (uuidText formats)

theorem name_lawful (bound : Nat) :
    Lawful (name bound) (Name bound) fun text => some (.string text) := by
  apply string_lawful
  · intro text value passed
    simp only [checkAll_trim, checkAll_minLength, checkAll_maxLength, checkAll_nil] at passed
    obtain ⟨low, high, rfl⟩ := passed
    exact ⟨Text.trim_trim text, low, high⟩
  · intro text fitting
    simp only [checkAll_trim, checkAll_minLength, checkAll_maxLength, checkAll_nil,
      fitting.trimmed]
    exact ⟨fitting.nonempty, fitting.bounded, trivial⟩

theorem checkAll_email (rest : List Check) (text value : String) :
    checkAll (emailCheck formats :: rest) text = (value, []) ↔
      formats.email text = true ∧ checkAll rest text = (value, []) :=
  checkAll_test rest text value _ _ _

theorem address_lawful :
    Lawful (address formats) (Mail formats) fun text => some (.string text) := by
  apply string_lawful
  · intro text value passed
    simp only [checkAll_email, checkAll_maxLength, checkAll_toLowerCase, checkAll_nil] at passed
    obtain ⟨email, short, rfl⟩ := passed
    exact ⟨⟨formats.email_lower text email, Text.toLowerCase_toLowerCase text⟩,
      (Text.length_toLowerCase text).trans_le short⟩
  · intro text fitting
    simp only [checkAll_email, checkAll_maxLength, checkAll_toLowerCase, checkAll_nil]
    exact ⟨fitting.email, fitting.bounded, fitting.lower⟩

theorem loginAddress_lawful :
    Lawful (loginAddress formats) (Address formats) fun text => some (.string text) := by
  apply string_lawful
  · intro text value passed
    simp only [checkAll_email, checkAll_toLowerCase, checkAll_nil] at passed
    obtain ⟨email, rfl⟩ := passed
    exact ⟨formats.email_lower text email, Text.toLowerCase_toLowerCase text⟩
  · intro text fitting
    simp only [checkAll_email, checkAll_toLowerCase, checkAll_nil]
    exact ⟨fitting.email, fitting.lower⟩

/-- The passwords of `registerSchema` and of the user schemas, whatever the message. -/
theorem password_lawful (message : String) :
    Lawful (string [minLength 8 message, maxLength 200]) Password
      fun text => some (.string text) := by
  apply string_lawful
  · intro text value passed
    simp only [checkAll_minLength, checkAll_maxLength, checkAll_nil] at passed
    obtain ⟨low, high, rfl⟩ := passed
    exact ⟨low, high⟩
  · intro text fitting
    simp only [checkAll_minLength, checkAll_maxLength, checkAll_nil]
    exact ⟨fitting.strong, fitting.bounded, trivial⟩

theorem nonempty_lawful :
    Lawful (string [minLength 1]) (fun text => 1 ≤ Text.length text)
      fun text => some (.string text) := by
  apply string_lawful
  · intro text value passed
    simp only [checkAll_minLength, checkAll_nil] at passed
    obtain ⟨low, rfl⟩ := passed
    exact low
  · intro text fitting
    simp only [checkAll_minLength, checkAll_nil]
    exact ⟨fitting, trivial⟩

theorem uuidText_lawful :
    Lawful (uuidText formats) (fun text => (formats.uuid text).isSome = true)
      fun text => some (.string text) := by
  apply string_lawful
  · intro text value passed
    simp only [checkAll_test, checkAll_nil] at passed
    obtain ⟨read, rfl⟩ := passed
    exact read
  · intro text fitting
    simp only [checkAll_test, checkAll_nil]
    exact ⟨fitting, trivial⟩

@[simp] theorem readId_print (own : Uuid) : readId formats (formats.print own) = own := by
  simp [readId, formats.uuid_print]

theorem id_lawful :
    Lawful (id formats) (fun _ => True) fun own => some (.string (formats.print own)) :=
  (mapped_lawful (readId formats) formats.print (uuidText_lawful formats) fun text _ =>
      ⟨by simp [formats.uuid_print], readId_print formats _⟩).of_iff fun own => by
    simp [formats.uuid_print]

end Texts

def Given {α : Type} (fits : α → Prop) (value : Option α) : Prop := ∀ own ∈ value, fits own

theorem optionalText_lawful {schema : Schema String} {fits : String → Prop}
    (lawful : Lawful schema fits fun text => some (.string text)) :
    Lawful (optional schema) (Given fits) fun value => value.bind fun text => some (.string text) :=
  optional_lawful lawful fun _ => rfl

section Pages

/-- `paginationSchema`, before its numbers are read as what they are. -/
def paginationShape : Shape (JsNumber × JsNumber) :=
  (field "page" (withDefault (.number "1") (number formats.doubles [int, atLeast 1]))).both
    (field "pageSize"
      (withDefault (.number "20") (number formats.doubles [int, atLeast 1, atMost 100])))

def natural : JsNumber → ℕ
  | .finite value => value.num.toNat
  | _ => 0

theorem toPNat'_min (n : ℕ) : (min n 100).toPNat' ≤ 100 := by
  rw [← PNat.coe_le_coe, Nat.toPNat'_coe]
  split
  · exact Nat.min_le_right n 100
  · decide

def toPagination (numbers : JsNumber × JsNumber) : Pagination :=
  ⟨(natural numbers.1).toPNat', (min (natural numbers.2) 100).toPNat', toPNat'_min _⟩

def ofPagination (page : Pagination) : JsNumber × JsNumber :=
  (.finite (page.page : ℕ), .finite (page.pageSize : ℕ))

def pagination : Shape Pagination := (paginationShape formats).mapped toPagination

def paginationSchema : Schema Pagination := object (pagination formats)

def PageFits (page : Pagination) : Prop := formats.doubles.Has ((page.page : ℕ) : ℚ)

theorem encodeWhole_isSome (value : JsNumber) : (encodeWhole value).isSome = true := by
  cases value <;> rfl

theorem natural_cast (n : ℕ) : natural (.finite (n : ℚ)) = n := by simp [natural]

theorem toPagination_ofPagination (page : Pagination) : toPagination (ofPagination page) = page := by
  obtain ⟨number, size, bounded⟩ := page
  have small : min (size : ℕ) 100 = size := Nat.min_eq_left bounded
  simp only [toPagination, ofPagination, natural_cast, small, PNat.coe_toPNat']

theorem paginationShape_reads :
    Reads (paginationShape formats) fun numbers =>
      Whole formats.doubles none numbers.1 ∧ Whole formats.doubles (some 100) numbers.2 :=
  Reads.both
    (.field _ (withDefault_lawful _ (whole_lawful formats.doubles none) encodeWhole_isSome))
    (.field _
      (withDefault_lawful _ (whole_lawful formats.doubles (some 100)) encodeWhole_isSome))
    (by simp [field])

theorem whole_pagination (page : Pagination) (fitting : PageFits formats page) :
    Whole formats.doubles none (ofPagination page).1 ∧
      Whole formats.doubles (some 100) (ofPagination page).2 := by
  have size : (page.pageSize : ℕ) ≤ 100 := page.bounded
  refine ⟨⟨page.page, rfl, page.page.pos, by simp, fitting⟩,
    ⟨page.pageSize, rfl, page.pageSize.pos, by simpa using size, ?_⟩⟩
  exact formats.doubles.small _ (by omega)

theorem pagination_reads : Reads (pagination formats) (PageFits formats) := by
  obtain ⟨encode, lawful⟩ := paginationShape_reads formats
  refine ⟨_, (mappedShape_lawful toPagination ofPagination lawful ?_).of_iff ?_⟩
  · rintro ⟨_, _⟩ ⟨⟨n, rfl, positive, _, has⟩, ⟨m, rfl, _⟩⟩
    refine ⟨whole_pagination formats _ ?_, toPagination_ofPagination _⟩
    have page : ((toPagination (.finite n, .finite m)).page : ℕ) = n := by
      simp only [toPagination, natural_cast, Nat.toPNat'_coe]
      exact if_pos (Nat.lt_of_lt_of_le Nat.one_pos positive)
    rw [PageFits, page]
    exact has
  · intro page
    constructor
    · intro fitting
      exact ⟨whole_pagination formats page fitting, toPagination_ofPagination page⟩
    · rintro ⟨⟨⟨n, same, _, _, has⟩, _⟩, _⟩
      have value : ((page.page : ℕ) : ℚ) = n := by simpa [ofPagination] using same
      rw [PageFits, value]
      exact has

end Pages

section Plain

/-- Formats that know one address, count ones for ids and round nothing. -/
def printOnes (own : Uuid) : String := String.ofList ('-' :: List.replicate own '1')

def plain : Formats where
  email := (· == "a@b")
  email_lower text known := by
    rw [beq_iff_eq] at known ⊢
    rw [known]
    decide
  email_trim text known := by
    rw [beq_iff_eq] at known
    rw [known]
    decide
  uuid text :=
    let own := text.toList.count '1'
    if text = printOnes own then some own else none
  print := printOnes
  uuid_print own := by simp [printOnes]
  uuid_empty := by decide
  doubles := ⟨.finite, fun _ _ => rfl, fun _ _ _ => rfl, fun _ _ same => by cases same; rfl⟩

end Plain

end FaceVec.Http
