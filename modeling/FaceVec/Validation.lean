import FaceVec.Json
import FaceVec.Numerals

/-!
Schemas over unvalidated JSON, after zod: a schema aborts, or goes on with a
value that may have issues. `Lawful` relates a schema to the values it is for:
it accepts nothing else, and it reads each of them back from its encoding.
-/

namespace FaceVec.Validation

inductive Segment where
  | key (name : String)
  | index (position : Nat)
  deriving DecidableEq, Repr

structure Issue where
  path : List Segment
  code : String
  message : String
  deriving DecidableEq, Repr

def Issue.under (segment : Segment) (issue : Issue) : Issue :=
  { issue with path := segment :: issue.path }

/-- An aborted value has an issue; a value that is done may still have some. -/
inductive Parsed (α : Type) where
  | aborted (first : Issue) (rest : List Issue)
  | done (value : α) (issues : List Issue)
  deriving DecidableEq, Repr

namespace Parsed

variable {α β : Type}

def issues : Parsed α → List Issue
  | aborted first rest => first :: rest
  | done _ issues => issues

def under (segment : Segment) : Parsed α → Parsed α
  | aborted first rest => aborted (first.under segment) (rest.map (Issue.under segment))
  | done value issues => done value (issues.map (Issue.under segment))

def map (change : α → β) : Parsed α → Parsed β
  | aborted first rest => aborted first rest
  | done value issues => done (change value) issues

def prepend (earlier : List Issue) : Parsed α → Parsed α
  | aborted first rest =>
      match earlier with
      | [] => aborted first rest
      | head :: tail => aborted head (tail ++ first :: rest)
  | done value issues => done value (earlier ++ issues)

/-- Both parts are looked at, whatever the first one gives. -/
def both : Parsed α → Parsed β → Parsed (α × β)
  | aborted first rest, other => aborted first (rest ++ other.issues)
  | done value issues, other => (other.map (value, ·)).prepend issues

/-- `parse`: the value, or what the `ZodError` lists. -/
def accepted : Parsed α → Except (List Issue) α
  | done value [] => .ok value
  | parsed => .error parsed.issues

@[simp] theorem issues_under (segment : Segment) (parsed : Parsed α) :
    (parsed.under segment).issues = parsed.issues.map (Issue.under segment) := by
  cases parsed <;> rfl

@[simp] theorem issues_map (change : α → β) (parsed : Parsed α) :
    (parsed.map change).issues = parsed.issues := by
  cases parsed <;> rfl

@[simp] theorem issues_prepend (earlier : List Issue) (parsed : Parsed α) :
    (parsed.prepend earlier).issues = earlier ++ parsed.issues := by
  cases parsed with
  | aborted first rest => cases earlier <;> rfl
  | done value issues => rfl

@[simp] theorem issues_both (one : Parsed α) (other : Parsed β) :
    (both one other).issues = one.issues ++ other.issues := by
  cases one with
  | aborted first rest => rfl
  | done value issues =>
      rw [both, issues_prepend, issues_map]
      rfl

theorem under_done (segment : Segment) (parsed : Parsed α) (value : α)
    (done_ : parsed.under segment = done value []) : parsed = done value [] := by
  cases parsed with
  | aborted first rest => cases done_
  | done own issues =>
      cases issues with
      | nil => exact done_
      | cons head tail => simp [under] at done_

theorem map_done (change : α → β) (parsed : Parsed α) (value : β)
    (done_ : parsed.map change = done value []) :
    ∃ own, parsed = done own [] ∧ change own = value := by
  cases parsed with
  | aborted first rest => cases done_
  | done own issues =>
      obtain ⟨rfl, rfl⟩ : change own = value ∧ issues = [] := by simpa [map] using done_
      exact ⟨own, rfl, rfl⟩

theorem both_done (one : Parsed α) (other : Parsed β) (value : α × β)
    (done_ : both one other = done value []) :
    one = done value.1 [] ∧ other = done value.2 [] := by
  have silent : one.issues ++ other.issues = [] := by
    rw [← issues_both, done_]
    rfl
  obtain ⟨first, second⟩ := List.append_eq_nil_iff.mp silent
  cases one with
  | aborted head tail => cases first
  | done own issues =>
      cases first
      cases other with
      | aborted head tail => cases second
      | done own' issues' =>
          cases second
          obtain rfl : (own, own') = value := by simpa [both, map, prepend] using done_
          exact ⟨rfl, rfl⟩

theorem accepted_ok (parsed : Parsed α) (value : α) :
    parsed.accepted = .ok value ↔ parsed = done value [] := by
  cases parsed with
  | aborted first rest => simp [accepted]
  | done own issues => cases issues <;> simp [accepted]

theorem issues_nil (parsed : Parsed α) (silent : parsed.issues = []) :
    ∃ value, parsed = done value [] := by
  cases parsed with
  | aborted first rest => cases silent
  | done value issues => exact ⟨value, congrArg _ silent⟩

theorem accepted_error (parsed : Parsed α) (reported : List Issue)
    (refused : parsed.accepted = .error reported) :
    reported = parsed.issues ∧ reported ≠ [] := by
  cases parsed with
  | aborted first rest =>
      cases refused
      exact ⟨rfl, List.cons_ne_nil _ _⟩
  | done own issues =>
      cases issues with
      | nil => cases refused
      | cons head tail =>
          cases refused
          exact ⟨rfl, List.cons_ne_nil _ _⟩

theorem both_done_iff (one : Parsed α) (other : Parsed β) (value : α × β) :
    one.both other = .done value [] ↔ one = .done value.1 [] ∧ other = .done value.2 [] := by
  constructor
  · exact both_done one other value
  · rintro ⟨rfl, rfl⟩
    rfl

theorem under_done_iff (segment : Segment) (parsed : Parsed α) (value : α) :
    parsed.under segment = .done value [] ↔ parsed = .done value [] := by
  constructor
  · exact under_done segment parsed value
  · rintro rfl
    rfl

theorem prepend_done_iff (earlier : List Issue) (parsed : Parsed α) (value : α) :
    parsed.prepend earlier = .done value [] ↔ earlier = [] ∧ parsed = .done value [] := by
  constructor
  · intro done_
    have silent := congrArg Parsed.issues done_
    rw [issues_prepend] at silent
    obtain ⟨none, _⟩ := List.append_eq_nil_iff.mp silent
    refine ⟨none, ?_⟩
    rw [none] at done_
    cases parsed with
    | aborted first rest => cases done_
    | done own issues => exact done_
  · rintro ⟨rfl, rfl⟩
    rfl

end Parsed

/-- `none` is `undefined`. -/
abbrev Schema (α : Type) := Option Json → Parsed α

structure Lawful {α : Type} (schema : Schema α) (fits : α → Prop) (encode : α → Option Json) :
    Prop where
  sound : ∀ input value, schema input = .done value [] → fits value
  complete : ∀ value, fits value → schema (encode value) = .done value []

section Values

variable {α : Type}

/-- `getParsedType`. -/
def typeName : Option Json → String
  | none => "undefined"
  | some .null => "null"
  | some (.boolean _) => "boolean"
  | some (.number _) => "number"
  | some (.string _) => "string"
  | some (.array _) => "array"
  | some (.object _) => "object"

def invalidType (expected : String) (input : Option Json) : Issue :=
  ⟨[], "invalid_type",
    if input.isNone then "Required"
    else "Expected " ++ expected ++ ", received " ++ typeName input⟩

/-- One link of a chain of string checks: the text it passes on, and its issues. -/
abbrev Check := String → String × List Issue

def trim : Check := fun text => (Text.trim text, [])

def toLowerCase : Check := fun text => (Text.toLowerCase text, [])

def test (holds : String → Bool) (code message : String) : Check := fun text =>
  (text, if holds text then [] else [⟨[], code, message⟩])

def minLength (bound : Nat)
    (message : String := "String must contain at least " ++ toString bound ++ " character(s)") :
    Check :=
  test (bound ≤ Text.length ·) "too_small" message

def maxLength (bound : Nat) : Check :=
  test (Text.length · ≤ bound) "too_big"
    ("String must contain at most " ++ toString bound ++ " character(s)")

/-- The checks run in their order, and an issue does not stop them. -/
def checkAll : List Check → Check
  | [], text => (text, [])
  | check :: rest, text =>
      let first := check text
      let later := checkAll rest first.1
      (later.1, first.2 ++ later.2)

def string (checks : List Check) : Schema String
  | some (.string text) => .done (checkAll checks text).1 (checkAll checks text).2
  | input => .aborted (invalidType "string" input) []

theorem string_done (checks : List Check) (input : Option Json) (value : String)
    (issues : List Issue) (done_ : string checks input = .done value issues) :
    ∃ text, input = some (.string text) ∧ checkAll checks text = (value, issues) := by
  unfold string at done_
  split at done_
  · next text =>
      cases done_
      exact ⟨text, rfl, rfl⟩
  · cases done_

section Chains

variable (rest : List Check) (text value : String)

theorem checkAll_nil : checkAll [] text = (value, []) ↔ text = value := by
  simp [checkAll]

theorem checkAll_test (holds : String → Bool) (code message : String) :
    checkAll (test holds code message :: rest) text = (value, []) ↔
      holds text = true ∧ checkAll rest text = (value, []) := by
  by_cases met : holds text = true
  · simp [checkAll, test, met]
  · simp [checkAll, test, met]

theorem checkAll_trim :
    checkAll (trim :: rest) text = (value, []) ↔ checkAll rest (Text.trim text) = (value, []) := by
  simp [checkAll, trim, Prod.ext_iff]

theorem checkAll_toLowerCase :
    checkAll (toLowerCase :: rest) text = (value, []) ↔
      checkAll rest (Text.toLowerCase text) = (value, []) := by
  simp [checkAll, toLowerCase, Prod.ext_iff]

theorem checkAll_minLength (bound : Nat) (message : String) :
    checkAll (minLength bound message :: rest) text = (value, []) ↔
      bound ≤ Text.length text ∧ checkAll rest text = (value, []) := by
  rw [minLength, checkAll_test, decide_eq_true_eq]

theorem checkAll_maxLength (bound : Nat) :
    checkAll (maxLength bound :: rest) text = (value, []) ↔
      Text.length text ≤ bound ∧ checkAll rest text = (value, []) := by
  rw [maxLength, checkAll_test, decide_eq_true_eq]

end Chains

/-- A chain of checks is lawful where what passes it fits, and fitting texts pass unchanged. -/
theorem string_lawful (checks : List Check) (fits : String → Prop)
    (sound : ∀ text value, checkAll checks text = (value, []) → fits value)
    (complete : ∀ text, fits text → checkAll checks text = (text, [])) :
    Lawful (string checks) fits fun text => some (.string text) where
  sound input value done_ := by
    obtain ⟨text, _, passed⟩ := string_done checks input value [] done_
    exact sound text value passed
  complete text fitting := by
    simp only [string, complete text fitting]

def boolean : Schema Bool
  | some (.boolean value) => .done value []
  | input => .aborted (invalidType "boolean" input) []

theorem boolean_lawful :
    Lawful boolean (fun _ => True) fun value => some (.boolean value) where
  sound _ _ _ := trivial
  complete _ _ := rfl

/-- `z.enum`: the names, each for a value. -/
def oneOf (names : List (String × α)) : Schema α
  | some (.string text) =>
      match names.find? (·.1 == text) with
      | some entry => .done entry.2 []
      | none => .aborted ⟨[], "invalid_enum_value", "Invalid enum value. Expected " ++
          " | ".intercalate (names.map fun entry => "'" ++ entry.1 ++ "'") ++ ", received '" ++
          text ++ "'"⟩ []
  | input => .aborted (invalidType (" | ".intercalate (names.map fun entry =>
      "'" ++ entry.1 ++ "'")) input) []

theorem oneOf_lawful (names : List (String × α)) (name : α → String)
    (named : ∀ value, ∃ entry, names.find? (·.1 == name value) = some entry ∧ entry.2 = value) :
    Lawful (oneOf names) (fun _ => True) fun value => some (.string (name value)) where
  sound _ _ _ := trivial
  complete value _ := by
    obtain ⟨entry, found, rfl⟩ := named value
    simp only [oneOf, found]

theorem string_done_iff (checks : List Check) (text value : String) :
    string checks (some (.string text)) = .done value [] ↔ checkAll checks text = (value, []) := by
  simp [string, Prod.ext_iff]

end Values

section Wrappers

variable {α β : Type} {schema : Schema α} {fits : α → Prop} {encode : α → Option Json}

def optional (schema : Schema α) : Schema (Option α)
  | none => .done none []
  | some json => (schema (some json)).map some

theorem optional_lawful (lawful : Lawful schema fits encode)
    (present : ∀ value, (encode value).isSome) :
    Lawful (optional schema) (fun value => ∀ own ∈ value, fits own) (·.bind encode) where
  sound input value done_ := by
    cases input with
    | none =>
        cases done_
        simp
    | some json =>
        obtain ⟨own, inner, rfl⟩ := Parsed.map_done _ _ _ done_
        rintro _ ⟨rfl⟩
        exact lawful.sound _ _ inner
  complete value fitting := by
    cases value with
    | none => rfl
    | some own =>
        obtain ⟨json, encoded⟩ := Option.isSome_iff_exists.mp (present own)
        have read := lawful.complete own (fitting own rfl)
        rw [encoded] at read
        simp [optional, encoded, read, Parsed.map]

def nullable (schema : Schema α) : Schema (Option α)
  | some .null => .done none []
  | input => (schema input).map some

def orNull (encode : α → Option Json) : Option α → Option Json
  | none => some .null
  | some value => encode value

theorem nullable_lawful (lawful : Lawful schema fits encode)
    (nonnull : ∀ value, encode value ≠ some .null) :
    Lawful (nullable schema) (fun value => ∀ own ∈ value, fits own) (orNull encode) where
  sound input value done_ := by
    unfold nullable at done_
    split at done_
    · cases done_
      simp
    · obtain ⟨own, inner, rfl⟩ := Parsed.map_done _ _ _ done_
      rintro _ ⟨rfl⟩
      exact lawful.sound _ _ inner
  complete value fitting := by
    cases value with
    | none => rfl
    | some own =>
        have read := lawful.complete own (fitting own rfl)
        simp only [orNull]
        unfold nullable
        split
        · next null => exact absurd null (nonnull own)
        · rw [read]
          rfl

/-- `default`: what is missing is parsed as the default is. -/
def withDefault (fallback : Json) (schema : Schema α) : Schema α :=
  fun input => schema (some (input.getD fallback))

theorem withDefault_lawful (fallback : Json) (lawful : Lawful schema fits encode)
    (present : ∀ value, (encode value).isSome) :
    Lawful (withDefault fallback schema) fits encode where
  sound _ value done_ := lawful.sound _ value done_
  complete value fitting := by
    obtain ⟨json, encoded⟩ := Option.isSome_iff_exists.mp (present value)
    have read := lawful.complete value fitting
    rw [encoded] at read ⊢
    exact read

def mapped (change : α → β) (schema : Schema α) : Schema β := fun input =>
  (schema input).map change

/-- A change of representation is lawful where the way back keeps what it has led to. -/
theorem mapped_lawful (change : α → β) (back : β → α) (lawful : Lawful schema fits encode)
    (stays : ∀ value, fits value →
      fits (back (change value)) ∧ change (back (change value)) = change value) :
    Lawful (mapped change schema) (fun value => fits (back value) ∧ change (back value) = value)
      fun value => encode (back value) where
  sound input value done_ := by
    obtain ⟨own, inner, rfl⟩ := Parsed.map_done _ _ _ done_
    exact stays own (lawful.sound _ _ inner)
  complete value fitting := by
    simp [mapped, lawful.complete _ fitting.1, Parsed.map, fitting.2]

/-- `refine`: an issue of the whole value, unless the value was aborted. -/
def refine (holds : α → Bool) (message : String) (schema : Schema α) : Schema α := fun input =>
  match schema input with
  | .aborted first rest => .aborted first rest
  | .done value issues =>
      .done value (if holds value then issues else issues ++ [⟨[], "custom", message⟩])

theorem refine_lawful (holds : α → Bool) (message : String) (lawful : Lawful schema fits encode) :
    Lawful (refine holds message schema) (fun value => fits value ∧ holds value = true)
      encode where
  sound input value done_ := by
    unfold refine at done_
    split at done_
    · cases done_
    · next own issues inner =>
        by_cases met : holds own = true
        · simp only [met, if_true, Parsed.done.injEq] at done_
          obtain ⟨rfl, rfl⟩ := done_
          exact ⟨lawful.sound _ _ inner, met⟩
        · simp [met] at done_
  complete value fitting := by
    simp [refine, lawful.complete value fitting.1, fitting.2]

theorem Lawful.encoded {encode' : α → Option Json} (lawful : Lawful schema fits encode)
    (same : ∀ value, encode value = encode' value) : Lawful schema fits encode' where
  sound := lawful.sound
  complete value fitting := same value ▸ lawful.complete value fitting

theorem Lawful.of_iff {other : α → Prop} (lawful : Lawful schema fits encode)
    (same : ∀ value, other value ↔ fits value) : Lawful schema other encode where
  sound input value done_ := (same value).mpr (lawful.sound input value done_)
  complete value fitting := lawful.complete value ((same value).mp fitting)

end Wrappers

section Numbers

open Numerals

variable (doubles : Doubles)

/-- `Number(value)`; the item of an array is a text where the array is one of a query. -/
def coerced : Option Json → JsNumber
  | none => .nan
  | some .null => .finite 0
  | some (.boolean value) => .finite (if value then 1 else 0)
  | some (.number literal) => toNumber doubles literal
  | some (.string text) => toNumber doubles text
  | some (.array []) => .finite 0
  | some (.array [.string text]) => toNumber doubles text
  | some (.array _) => .nan
  | some (.object _) => .nan

def int : JsNumber → List Issue
  | .finite value =>
      if value.isInt then [] else [⟨[], "invalid_type", "Expected integer, received float"⟩]
  | _ => [⟨[], "invalid_type", "Expected integer, received float"⟩]

def atLeast (bound : ℕ) (value : JsNumber) : List Issue :=
  let holds : Bool :=
    match value with
    | .finite value => (bound : ℚ) ≤ value
    | .infinite negative => !negative
    | .nan => false
  if holds then []
  else [⟨[], "too_small", "Number must be greater than or equal to " ++ toString bound⟩]

def atMost (bound : ℕ) (value : JsNumber) : List Issue :=
  let holds : Bool :=
    match value with
    | .finite value => value ≤ (bound : ℚ)
    | .infinite negative => negative
    | .nan => false
  if holds then []
  else [⟨[], "too_big", "Number must be less than or equal to " ++ toString bound⟩]

/-- `z.coerce.number()` with its checks. -/
def number (checks : List (JsNumber → List Issue)) : Schema JsNumber := fun input =>
  match coerced doubles input with
  | .nan => .aborted ⟨[], "invalid_type", "Expected number, received nan"⟩ []
  | value => .done value (checks.flatMap (· value))

/-- A positive whole number that is a double, up to a bound where there is one. -/
def Whole (max : Option ℕ) (value : JsNumber) : Prop :=
  ∃ n : ℕ, value = .finite n ∧ 1 ≤ n ∧ (∀ bound ∈ max, n ≤ bound) ∧ doubles.Has n

def encodeWhole : JsNumber → Option Json
  | .finite value => some (.string value.num.toNat.repr)
  | _ => some (.string "")

theorem coerced_has (input : Option Json) (value : ℚ)
    (read : coerced doubles input = .finite value) : doubles.Has value := by
  have small : ∀ n : ℕ, n ≤ 2 ^ 53 → doubles.Has n := has_natural doubles
  unfold coerced at read
  split at read
  · cases read
  · cases read
    exact_mod_cast small 0 (by decide)
  · next truth =>
      cases truth
      · cases read
        exact_mod_cast small 0 (by decide)
      · cases read
        exact_mod_cast small 1 (by decide)
  · exact toNumber_has doubles _ value read
  · exact toNumber_has doubles _ value read
  · cases read
    exact_mod_cast small 0 (by decide)
  · exact toNumber_has doubles _ value read
  · cases read
  · cases read

theorem toNat_of_silent (value : ℚ) (whole : int (.finite value) = [])
    (positive : atLeast 1 (.finite value) = []) :
    ((value.num.toNat : ℕ) : ℚ) = value ∧ 1 ≤ value.num.toNat := by
  have integral : value.isInt = true := by
    by_contra fraction
    simp [int, fraction] at whole
  have above : (1 : ℚ) ≤ value := by
    by_contra below
    simp [atLeast, below] at positive
  have form : (value.num : ℚ) = value := Rat.coe_int_num_of_den_eq_one (by
    simpa [Rat.isInt] using integral)
  have natural : ((value.num.toNat : ℕ) : ℚ) = value := by
    have nonneg : 0 ≤ value.num := Rat.num_nonneg.mpr (by linarith)
    rw [← form]
    exact_mod_cast congrArg (Int.cast : ℤ → ℚ) (Int.toNat_of_nonneg nonneg)
  exact ⟨natural, by exact_mod_cast natural ▸ above⟩

theorem whole_lawful (max : Option ℕ) :
    Lawful (number doubles ([int, atLeast 1] ++ max.toList.map atMost)) (Whole doubles max)
      encodeWhole where
  sound input result done_ := by
    unfold number at done_
    split at done_
    · cases done_
    · next value defined =>
        obtain ⟨rfl, silent⟩ := Parsed.done.inj done_
        simp only [List.flatMap_eq_nil_iff, List.mem_append, List.mem_cons, List.not_mem_nil,
          or_false, List.mem_map, Option.mem_toList] at silent
        have whole := silent int (Or.inl (Or.inl rfl))
        have positive := silent (atLeast 1) (Or.inl (Or.inr rfl))
        cases read : coerced doubles input with
        | nan => exact absurd read defined
        | infinite negative => rw [read] at whole; cases whole
        | finite value =>
            rw [read] at whole positive
            obtain ⟨natural, above⟩ := toNat_of_silent value whole positive
            refine ⟨value.num.toNat, by rw [natural], above, fun bound given => ?_, ?_⟩
            · have limited := silent (atMost bound) (Or.inr ⟨bound, given, rfl⟩)
              rw [read] at limited
              have below : value ≤ (bound : ℚ) := by
                by_contra over_
                simp [atMost, over_] at limited
              exact_mod_cast natural ▸ below
            · rw [natural]
              exact coerced_has doubles input value read
  complete value fitting := by
    obtain ⟨n, rfl, positive, bounded, has⟩ := fitting
    have read : coerced doubles (encodeWhole (.finite n)) = .finite n := by
      simp only [encodeWhole, coerced, Rat.num_natCast, Int.toNat_natCast, toNumber_repr]
      exact has
    have silent : ([int, atLeast 1] ++ max.toList.map atMost).flatMap (· (.finite (n : ℚ))) = [] := by
      rw [List.flatMap_eq_nil_iff]
      intro check member
      rcases List.mem_append.mp member with basic | bounding
      · have above : (1 : ℚ) ≤ n := by exact_mod_cast positive
        rcases List.mem_cons.mp basic with rfl | last
        · simp [int, Rat.isInt]
        · rw [List.mem_singleton.mp last]
          simp [atLeast, above]
      · obtain ⟨bound, given, rfl⟩ := List.mem_map.mp bounding
        have below : (n : ℚ) ≤ bound := by
          exact_mod_cast bounded bound (Option.mem_toList.mp given)
        simp [atMost, below]
    unfold number
    rw [read]
    simp only [silent]

end Numbers

section Arrays

variable {α : Type} {schema : Schema α} {fits : α → Prop} {encode : α → Json}

/-- The items from a position on, each under its own index. -/
def items (schema : Schema α) : Nat → List Json → Parsed (List α)
  | _, [] => .done [] []
  | position, json :: rest =>
      (Parsed.both ((schema (some json)).under (.index position))
        (items schema (position + 1) rest)).map fun both => both.1 :: both.2

def lengthIssues (min max length : Nat) : List Issue :=
  (if min ≤ length then []
    else [⟨[], "too_small", "Array must contain at least " ++ toString min ++ " element(s)"⟩]) ++
  (if length ≤ max then []
    else [⟨[], "too_big", "Array must contain at most " ++ toString max ++ " element(s)"⟩])

theorem lengthIssues_nil (min max length : Nat) :
    lengthIssues min max length = [] ↔ min ≤ length ∧ length ≤ max := by
  unfold lengthIssues
  by_cases above : min ≤ length <;> by_cases below : length ≤ max <;> simp [above, below]

/-- The issues of an array's length come before those of its items. -/
def array (schema : Schema α) (min max : Nat) : Schema (List α)
  | some (.array values) =>
      (items schema 0 values).prepend (lengthIssues min max values.length)
  | input => .aborted (invalidType "array" input) []

theorem items_congr {ones others : List Json}
    (alike : List.Forall₂ (fun one other => schema (some one) = schema (some other)) ones others)
    (position : Nat) : items schema position ones = items schema position others := by
  induction alike generalizing position with
  | nil => rfl
  | cons same _ ih => rw [items, items, same, ih]

theorem array_congr {ones others : List Json}
    (alike : List.Forall₂ (fun one other => schema (some one) = schema (some other)) ones others)
    (min max : Nat) :
    array schema min max (some (.array ones)) = array schema min max (some (.array others)) := by
  rw [array, array, items_congr alike, alike.length_eq]

theorem items_done (schema : Schema α) (position : Nat) (values : List Json) (result : List α)
    (done_ : items schema position values = .done result []) :
    result.length = values.length ∧
      ∀ value ∈ result, ∃ json ∈ values, schema (some json) = .done value [] := by
  induction values generalizing position result with
  | nil =>
      cases done_
      simp
  | cons json rest ih =>
      obtain ⟨pair, both, rfl⟩ := Parsed.map_done _ _ _ done_
      obtain ⟨first, later⟩ := Parsed.both_done _ _ _ both
      obtain ⟨length, each⟩ := ih _ _ later
      refine ⟨congrArg (· + 1) length, fun value member => ?_⟩
      rcases List.mem_cons.mp member with rfl | among
      · exact ⟨json, List.mem_cons_self, Parsed.under_done _ _ _ first⟩
      · obtain ⟨other, stands, read⟩ := each value among
        exact ⟨other, List.mem_cons_of_mem _ stands, read⟩

theorem items_complete (lawful : Lawful schema fits fun value => some (encode value))
    (position : Nat) (values : List α) (fitting : ∀ value ∈ values, fits value) :
    items schema position (values.map encode) = .done values [] := by
  induction values generalizing position with
  | nil => rfl
  | cons value rest ih =>
      have first := lawful.complete value (fitting value List.mem_cons_self)
      have later := ih (position + 1) fun other member =>
        fitting other (List.mem_cons_of_mem _ member)
      simp only [List.map_cons, items, first, later]
      rfl

theorem array_lawful (lawful : Lawful schema fits fun value => some (encode value))
    (min max : Nat) :
    Lawful (array schema min max)
      (fun values => (min ≤ values.length ∧ values.length ≤ max) ∧ ∀ value ∈ values, fits value)
      fun values => some (.array (values.map encode)) where
  sound input result done_ := by
    unfold array at done_
    split at done_
    · next values =>
        have silent := congrArg Parsed.issues done_
        rw [Parsed.issues_prepend] at silent
        obtain ⟨bounds, _⟩ := List.append_eq_nil_iff.mp silent
        have inner : items schema 0 values = .done result [] := by
          rw [bounds] at done_
          cases own : items schema 0 values with
          | aborted first rest => rw [own] at done_; cases done_
          | done value issues => rw [own] at done_; exact done_
        obtain ⟨length, each⟩ := items_done schema 0 values result inner
        refine ⟨length ▸ (lengthIssues_nil _ _ _).mp bounds, fun value member => ?_⟩
        obtain ⟨json, _, read⟩ := each value member
        exact lawful.sound _ _ read
    · cases done_
  complete values fitting := by
    have bounds := (lengthIssues_nil min max values.length).mpr fitting.1
    simp only [array, List.length_map, bounds, items_complete lawful 0 values fitting.2]
    rfl

/-- Lists related one by one, where each value has at most one result. -/
theorem forall₂_reads {rel : α → β → Prop} {takes : α → Prop} {reads : α → β} (values : List α)
    (results : List β)
    (each : ∀ value ∈ values, ∀ result, rel value result ↔ takes value ∧ result = reads value) :
    List.Forall₂ rel values results ↔
      (∀ value ∈ values, takes value) ∧ results = values.map reads := by
  induction values generalizing results with
  | nil => simp
  | cons value rest ih =>
      have later := fun others =>
        ih others fun other member => each other (List.mem_cons_of_mem _ member)
      simp only [List.forall₂_cons_left_iff, each value List.mem_cons_self, later,
        List.forall_mem_cons, List.map_cons]
      constructor
      · rintro ⟨_, _, ⟨first, rfl⟩, ⟨taken, rfl⟩, rfl⟩
        exact ⟨⟨first, taken⟩, rfl⟩
      · rintro ⟨⟨first, taken⟩, rfl⟩
        exact ⟨_, _, ⟨first, rfl⟩, ⟨taken, rfl⟩, rfl⟩

/-- Items that are encoded one by one are read one by one. -/
theorem items_map (schema : Schema α) (position : Nat) (encode : β → Json) (values : List β)
    (results : List α) :
    items schema position (values.map encode) = .done results [] ↔
      List.Forall₂ (fun value result => schema (some (encode value)) = .done result []) values
        results := by
  induction values generalizing position results with
  | nil =>
      simp only [List.map_nil, items, List.forall₂_nil_left_iff]
      constructor
      · rintro ⟨⟩
        rfl
      · rintro rfl
        rfl
  | cons value rest ih =>
      simp only [List.map_cons, items]
      constructor
      · intro done_
        obtain ⟨pair, both, rfl⟩ := Parsed.map_done _ _ _ done_
        obtain ⟨first, later⟩ := (Parsed.both_done_iff _ _ _).mp both
        exact .cons ((Parsed.under_done_iff _ _ _).mp first) ((ih _ _).mp later)
      · rintro (_ | ⟨first, later⟩)
        rw [(ih _ _).mpr later, first]
        rfl

end Arrays

section Objects

variable {α β : Type}

/-- The declared keys of an object, and how they are read. -/
structure Shape (α : Type) where
  keys : List String
  read : (String → Option Json) → Parsed α

def field (key : String) (schema : Schema α) : Shape α where
  keys := [key]
  read get := (schema (get key)).under (.key key)

def Shape.both (one : Shape α) (other : Shape β) : Shape (α × β) where
  keys := one.keys ++ other.keys
  read get := (one.read get).both (other.read get)

/-- `z.object`: keys that are not declared are not looked at. -/
def object (shape : Shape α) : Schema α
  | some (.object fields) => shape.read (Json.field fields)
  | input => .aborted (invalidType "object" input) []

def Shape.mapped (change : α → β) (shape : Shape α) : Shape β where
  keys := shape.keys
  read get := (shape.read get).map change

/-- The fields are looked at one by one: what a key has to answer for rests on
its own value. -/
structure Separate (shape : Shape α) (own : String → Option Json → List Issue) : Prop where
  issues : ∀ get, (shape.read get).issues = shape.keys.flatMap fun key => own key (get key)
  path : ∀ key value, ∀ issue ∈ own key value, issue.path.head? = some (.key key)

theorem field_separate (key : String) (schema : Schema α) :
    Separate (field key schema) fun name value =>
      (schema value).issues.map (Issue.under (.key name)) where
  issues get := by simp [field]
  path name value issue reported := by
    obtain ⟨inner, _, rfl⟩ := List.mem_map.mp reported
    rfl

theorem both_separate {one : Shape α} {other : Shape β} {own own' : String → Option Json → List Issue}
    (first : Separate one own) (second : Separate other own')
    (apart : ∀ key ∈ other.keys, key ∉ one.keys) :
    Separate (one.both other) fun key => if key ∈ one.keys then own key else own' key where
  issues get := by
    have left : one.keys.flatMap (fun key => own key (get key)) =
        one.keys.flatMap fun key => (if key ∈ one.keys then own key else own' key) (get key) :=
      List.flatMap_congr fun key member => by rw [if_pos member]
    have right : other.keys.flatMap (fun key => own' key (get key)) =
        other.keys.flatMap fun key => (if key ∈ one.keys then own key else own' key) (get key) :=
      List.flatMap_congr fun key member => by rw [if_neg (apart key member)]
    rw [Shape.both, Parsed.issues_both, first.issues, second.issues, left, right]
    exact List.flatMap_append.symm
  path key value issue reported := by
    split at reported
    · exact first.path key value issue reported
    · exact second.path key value issue reported

theorem mapped_separate (change : α → β) {shape : Shape α}
    {own : String → Option Json → List Issue} (separate : Separate shape own) :
    Separate (shape.mapped change) own where
  issues get := by
    rw [Shape.mapped, Parsed.issues_map]
    exact separate.issues get
  path := separate.path

/-- What a key is reported for stays whatever the others hold. -/
theorem Separate.reported {shape : Shape α} {own : String → Option Json → List Issue}
    (separate : Separate shape own) (get : String → Option Json) (key : String)
    (declared : key ∈ shape.keys)
    (reported : ∃ issue ∈ (shape.read get).issues, issue.path.head? = some (.key key))
    (other : String → Option Json) (same : other key = get key) :
    (shape.read other).issues ≠ [] := by
  obtain ⟨issue, among, about⟩ := reported
  intro silent
  rw [separate.issues] at among silent
  obtain ⟨name, member, mine⟩ := List.mem_flatMap.mp among
  have named := (separate.path name _ issue mine).symm.trans about
  obtain rfl : name = key := by simpa using named
  have none_ := List.flatMap_eq_nil_iff.mp silent name declared
  rw [same] at none_
  rw [none_] at mine
  cases mine

/-- Keys that are not reported pass together with any others that do. -/
theorem Separate.repaired {shape : Shape α} {own : String → Option Json → List Issue}
    (separate : Separate shape own) (get good other : String → Option Json)
    (passes : (shape.read good).issues = [])
    (repairs : ∀ key ∈ shape.keys, other key = good key ∨ (other key = get key ∧
      ¬∃ issue ∈ (shape.read get).issues, issue.path.head? = some (.key key))) :
    (shape.read other).issues = [] := by
  rw [separate.issues] at passes ⊢
  rw [List.flatMap_eq_nil_iff] at passes ⊢
  intro name member
  rcases repairs name member with same | ⟨same, unreported⟩
  · rw [same]
    exact passes name member
  · rw [same, List.eq_nil_iff_forall_not_mem]
    intro issue mine
    refine unreported ⟨issue, ?_, separate.path name _ issue mine⟩
    rw [separate.issues]
    exact List.mem_flatMap.mpr ⟨name, member, mine⟩

structure LawfulShape (shape : Shape α) (fits : α → Prop) (encode : α → String → Option Json) :
    Prop where
  sound : ∀ get value, shape.read get = .done value [] → fits value
  complete : ∀ value, fits value → shape.read (encode value) = .done value []
  /-- Only the declared keys count. -/
  declared : ∀ one other, (∀ key ∈ shape.keys, one key = other key) →
    shape.read one = shape.read other
  separate : ∃ own, Separate shape own

theorem LawfulShape.named {shape : Shape α} {fits : α → Prop} {encode : α → String → Option Json}
    (lawful : LawfulShape shape fits encode) (get : String → Option Json) (issue : Issue)
    (reported : issue ∈ (shape.read get).issues) :
    ∃ key ∈ shape.keys, ∃ rest, issue.path = .key key :: rest := by
  obtain ⟨own, separate⟩ := lawful.separate
  rw [separate.issues] at reported
  obtain ⟨key, member, mine⟩ := List.mem_flatMap.mp reported
  obtain ⟨rest, path⟩ := List.head?_eq_some_iff.mp (separate.path key _ issue mine)
  exact ⟨key, member, rest, path⟩

def encodeBoth (one : Shape α) (first : α → String → Option Json)
    (second : β → String → Option Json) (value : α × β) (key : String) : Option Json :=
  if key ∈ one.keys then first value.1 key else second value.2 key

theorem field_lawful (key : String) {schema : Schema α} {fits : α → Prop}
    {encode : α → Option Json} (lawful : Lawful schema fits encode) :
    LawfulShape (field key schema) fits fun value _ => encode value where
  sound get value done_ := lawful.sound _ value (Parsed.under_done _ _ _ done_)
  complete value fitting := by
    simp only [field, lawful.complete value fitting]
    rfl
  declared one other agree := by
    simp only [field, agree key List.mem_cons_self]
  separate := ⟨_, field_separate key schema⟩

theorem both_lawful {one : Shape α} {other : Shape β} {fits : α → Prop} {fits' : β → Prop}
    {encode : α → String → Option Json} {encode' : β → String → Option Json}
    (first : LawfulShape one fits encode) (second : LawfulShape other fits' encode')
    (apart : ∀ key ∈ other.keys, key ∉ one.keys) :
    LawfulShape (one.both other) (fun value => fits value.1 ∧ fits' value.2)
      (encodeBoth one encode encode') where
  sound get value done_ := by
    obtain ⟨left, right⟩ := Parsed.both_done _ _ _ done_
    exact ⟨first.sound _ _ left, second.sound _ _ right⟩
  complete value fitting := by
    have left : one.read (encodeBoth one encode encode' value) = .done value.1 [] :=
      (first.declared _ (encode value.1) fun key member => if_pos member).trans
        (first.complete _ fitting.1)
    have right : other.read (encodeBoth one encode encode' value) = .done value.2 [] :=
      (second.declared _ (encode' value.2) fun key member => if_neg (apart key member)).trans
        (second.complete _ fitting.2)
    simp only [Shape.both, left, right]
    rfl
  declared a b agree := by
    simp only [Shape.both]
    rw [first.declared a b fun key member => agree key (List.mem_append_left _ member),
      second.declared a b fun key member => agree key (List.mem_append_right _ member)]
  separate := by
    obtain ⟨own, left⟩ := first.separate
    obtain ⟨own', right⟩ := second.separate
    exact ⟨_, both_separate left right apart⟩

theorem mappedShape_lawful (change : α → β) (back : β → α) {shape : Shape α} {fits : α → Prop}
    {encode : α → String → Option Json} (lawful : LawfulShape shape fits encode)
    (stays : ∀ value, fits value →
      fits (back (change value)) ∧ change (back (change value)) = change value) :
    LawfulShape (shape.mapped change) (fun value => fits (back value) ∧ change (back value) = value)
      fun value => encode (back value) where
  sound get value done_ := by
    obtain ⟨own, inner, rfl⟩ := Parsed.map_done _ _ _ done_
    exact stays own (lawful.sound _ _ inner)
  complete value fitting := by
    simp [Shape.mapped, lawful.complete _ fitting.1, Parsed.map, fitting.2]
  declared one other agree := by
    simp only [Shape.mapped, lawful.declared one other agree]
  separate := by
    obtain ⟨own, separate⟩ := lawful.separate
    exact ⟨own, mapped_separate change separate⟩

theorem LawfulShape.of_iff {shape : Shape α} {fits other : α → Prop}
    {encode : α → String → Option Json} (lawful : LawfulShape shape fits encode)
    (same : ∀ value, other value ↔ fits value) : LawfulShape shape other encode where
  sound get value done_ := (same value).mpr (lawful.sound get value done_)
  complete value fitting := lawful.complete value ((same value).mp fitting)
  declared := lawful.declared
  separate := lawful.separate

def Reads (shape : Shape α) (fits : α → Prop) : Prop := ∃ encode, LawfulShape shape fits encode

/-- The declared keys of a value, those that are there. -/
def fieldsOf (keys : List String) (get : String → Option Json) : List (String × Json) :=
  keys.filterMap fun key => (get key).map (key, ·)

theorem field_fieldsOf (keys : List String) (get : String → Option Json) (key : String)
    (member : key ∈ keys) : Json.field (fieldsOf keys get) key = get key := by
  have own : ∀ entry ∈ fieldsOf keys get, get entry.1 = some entry.2 := by
    intro entry kept
    obtain ⟨name, _, same⟩ := List.mem_filterMap.mp kept
    obtain ⟨json, present, rfl⟩ := Option.map_eq_some_iff.mp same
    exact present
  unfold Json.field
  cases found : (fieldsOf keys get).reverse.find? (·.1 == key) with
  | some entry =>
      have same : entry.1 = key := by simpa using List.find?_some found
      have present := own entry (List.mem_reverse.mp (List.mem_of_find?_eq_some found))
      rw [← same, present]
      rfl
  | none =>
      cases present : get key with
      | none => rfl
      | some json =>
          rw [List.find?_eq_none] at found
          have kept : (key, json) ∈ (fieldsOf keys get).reverse :=
            List.mem_reverse.mpr (List.mem_filterMap.mpr ⟨key, member, by rw [present]; rfl⟩)
          exact absurd (beq_self_eq_true key) (found _ kept)

theorem object_lawful {shape : Shape α} {fits : α → Prop} {encode : α → String → Option Json}
    (lawful : LawfulShape shape fits encode) :
    Lawful (object shape) fits fun value =>
      some (.object (fieldsOf shape.keys (encode value))) where
  sound input value done_ := by
    unfold object at done_
    split at done_
    · exact lawful.sound _ _ done_
    · cases done_
  complete value fitting := by
    rw [object, lawful.declared _ (encode value) fun key member => field_fieldsOf _ _ key member]
    exact lawful.complete value fitting

/-- An issue of an object is one of a declared key, or of the object itself. -/
theorem object_named {shape : Shape α} {fits : α → Prop} {encode : α → String → Option Json}
    (lawful : LawfulShape shape fits encode) (input : Option Json) (issue : Issue)
    (reported : issue ∈ (object shape input).issues) :
    issue.path = [] ∨ ∃ key ∈ shape.keys, ∃ rest, issue.path = .key key :: rest := by
  unfold object at reported
  split at reported
  · exact Or.inr (lawful.named _ issue reported)
  · left
    rw [List.mem_singleton.mp reported]
    rfl

theorem Reads.field (key : String) {schema : Schema α} {fits : α → Prop}
    {encode : α → Option Json} (lawful : Lawful schema fits encode) :
    Reads (Validation.field key schema) fits :=
  ⟨_, field_lawful key lawful⟩

theorem Reads.both {one : Shape α} {other : Shape β} {fits : α → Prop} {fits' : β → Prop}
    (first : Reads one fits) (second : Reads other fits')
    (apart : ∀ key ∈ other.keys, key ∉ one.keys) :
    Reads (one.both other) fun value => fits value.1 ∧ fits' value.2 := by
  obtain ⟨encode, lawful⟩ := first
  obtain ⟨encode', lawful'⟩ := second
  exact ⟨_, both_lawful lawful lawful' apart⟩

theorem Reads.record {shape : Shape α} {fits : α → Prop} (reads : Reads shape fits)
    (change : α → β) (back : β → α) (there : ∀ value, back (change value) = value)
    (here : ∀ value, change (back value) = value) :
    Reads (shape.mapped change) fun value => fits (back value) := by
  obtain ⟨encode, lawful⟩ := reads
  refine ⟨_, (mappedShape_lawful change back lawful fun value fitting => ?_).of_iff fun value => ?_⟩
  · rw [there]
    exact ⟨fitting, rfl⟩
  · simp [here]

theorem Reads.of_iff {shape : Shape α} {fits other : α → Prop} (reads : Reads shape fits)
    (same : ∀ value, other value ↔ fits value) : Reads shape other := by
  obtain ⟨encode, lawful⟩ := reads
  exact ⟨encode, lawful.of_iff same⟩

/-- A schema of objects: what it lets through, and what its issues are about. -/
structure Admits (schema : Schema α) (keys : List String) (fits : α → Prop) : Prop where
  lawful : ∃ encode : α → List (String × Json),
    Lawful schema fits fun value => some (.object (encode value))
  named : ∀ input, ∀ issue ∈ (schema input).issues,
    issue.path = [] ∨ ∃ key ∈ keys, ∃ rest, issue.path = .key key :: rest
  declared : ∀ one other, (∀ key ∈ keys, Json.field one key = Json.field other key) →
    schema (some (.object one)) = schema (some (.object other))

theorem Reads.object {shape : Shape α} {fits : α → Prop} (reads : Reads shape fits) :
    Admits (Validation.object shape) shape.keys fits := by
  obtain ⟨encode, lawful⟩ := reads
  exact ⟨⟨_, object_lawful lawful⟩, fun input issue => object_named lawful input issue,
    fun one other agree => lawful.declared _ _ agree⟩

/-- A record of fields, the values it is for told field by field. -/
theorem Reads.admits {shape : Shape α} {fits : α → Prop} {other : β → Prop}
    (reads : Reads shape fits) (change : α → β) (back : β → α)
    (there : ∀ value, back (change value) = value) (here : ∀ value, change (back value) = value)
    (same : ∀ value, other value ↔ fits (back value)) :
    Admits (Validation.object (shape.mapped change)) shape.keys other :=
  ((reads.record change back there here).of_iff same).object

theorem Admits.of_iff {schema : Schema α} {keys : List String} {fits other : α → Prop}
    (admits : Admits schema keys fits) (same : ∀ value, other value ↔ fits value) :
    Admits schema keys other := by
  obtain ⟨encode, lawful⟩ := admits.lawful
  exact ⟨⟨encode, lawful.of_iff same⟩, admits.named, admits.declared⟩

theorem Admits.refine {schema : Schema α} {keys : List String} {fits : α → Prop}
    (admits : Admits schema keys fits) (holds : α → Bool) (message : String) :
    Admits (Validation.refine holds message schema) keys
      fun value => fits value ∧ holds value = true := by
  obtain ⟨encode, lawful⟩ := admits.lawful
  refine ⟨⟨encode, refine_lawful holds message lawful⟩, fun input issue reported => ?_,
    fun one other agree => ?_⟩
  · have inner := admits.named input
    unfold Validation.refine at reported
    cases parsed : schema input with
    | aborted first rest =>
        rw [parsed] at reported inner
        exact inner issue reported
    | done value issues =>
        rw [parsed] at reported inner
        by_cases met : holds value = true
        · simp only [met, if_true] at reported
          exact inner issue reported
        · simp only [met, Bool.false_eq_true, if_false] at reported
          rcases List.mem_append.mp reported with own | added
          · exact inner issue own
          · rw [List.mem_singleton.mp added]
            exact Or.inl rfl
  · unfold Validation.refine
    rw [admits.declared one other agree]

theorem Admits.mapped {schema : Schema α} {keys : List String} {fits : α → Prop}
    (admits : Admits schema keys fits) (change : α → β) (back : β → α)
    (stays : ∀ value, fits value →
      fits (back (change value)) ∧ change (back (change value)) = change value) :
    Admits (Validation.mapped change schema) keys
      fun value => fits (back value) ∧ change (back value) = value := by
  obtain ⟨encode, lawful⟩ := admits.lawful
  refine ⟨⟨_, mapped_lawful change back lawful stays⟩, fun input issue reported => ?_,
    fun one other agree => ?_⟩
  · rw [Validation.mapped, Parsed.issues_map] at reported
    exact admits.named input issue reported
  · unfold Validation.mapped
    rw [admits.declared one other agree]

end Objects

end FaceVec.Validation
