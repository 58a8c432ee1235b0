import Mathlib.Algebra.Order.Ring.Rat
import Mathlib.Data.Rat.Floor
import FaceVec.Text

/-!
Numbers as `Number(text)` reads them: the grammar of numeric literals, exact,
before the rounding to a double. The rounding is a parameter.
-/

namespace FaceVec.Numerals

inductive JsNumber where
  | nan
  | infinite (negative : Bool)
  | finite (value : ℚ)
  deriving DecidableEq, Repr

/-- Rounding to a double: exact on the integers up to 2^53 and on its own
results, and the same on both sides of zero. -/
structure Doubles where
  round : ℚ → JsNumber
  small : ∀ n : ℕ, n ≤ 2 ^ 53 → round n = .finite n
  settled : ∀ exact value, round exact = .finite value → round value = .finite value
  odd : ∀ exact value, round exact = .finite value → round (-exact) = .finite (-value)

def value (digits : List Char) : ℕ := Nat.ofDigitChars 10 digits 0

def allDigits (text : List Char) : Bool := text ≠ [] && text.all Char.isDigit

/-- What stands after the digits: nothing, or an exponent. -/
def exponent : List Char → Option ℤ
  | [] => some 0
  | mark :: rest =>
      if mark ≠ 'e' ∧ mark ≠ 'E' then none
      else
        match rest with
        | '-' :: digits => if allDigits digits then some (-(value digits : ℤ)) else none
        | '+' :: digits => if allDigits digits then some (value digits) else none
        | digits => if allDigits digits then some (value digits) else none

def scaled (digits : List Char) (shift : ℤ) : ℚ := (value digits : ℚ) * 10 ^ shift

/-- StrUnsignedDecimalLiteral, `Infinity` apart. -/
def decimal (text : List Char) : Option ℚ :=
  let whole := text.takeWhile Char.isDigit
  match text.dropWhile Char.isDigit with
  | '.' :: rest =>
      let fraction := rest.takeWhile Char.isDigit
      if whole = [] ∧ fraction = [] then none
      else
        (exponent (rest.dropWhile Char.isDigit)).map fun power =>
          scaled (whole ++ fraction) (power - fraction.length)
  | rest => if whole = [] then none else (exponent rest).map (scaled whole)

def digitOf (c : Char) : ℕ :=
  if c.isDigit then c.toNat - '0'.toNat
  else if 'a' ≤ c ∧ c ≤ 'f' then c.toNat - 'a'.toNat + 10
  else if 'A' ≤ c ∧ c ≤ 'F' then c.toNat - 'A'.toNat + 10
  else 16

def radix (base : ℕ) (text : List Char) : Option ℚ :=
  if text ≠ [] ∧ text.all (digitOf · < base) then
    some ((text.foldl (fun sum c => sum * base + digitOf c) 0 : ℕ) : ℚ)
  else none

def unsigned (doubles : Doubles) (text : List Char) : JsNumber :=
  if text = "Infinity".toList then .infinite false
  else
    match decimal text with
    | none => .nan
    | some exact => doubles.round exact

def negate : JsNumber → JsNumber
  | .nan => .nan
  | .infinite negative => .infinite !negative
  | .finite value => .finite (-value)

def radixNumber (doubles : Doubles) (base : ℕ) (text : List Char) : JsNumber :=
  match radix base text with
  | none => .nan
  | some exact => doubles.round exact

/-- `Number(text)`. -/
def toNumber (doubles : Doubles) (text : String) : JsNumber :=
  match Text.trimmed text.toList with
  | [] => .finite 0
  | '0' :: 'x' :: rest | '0' :: 'X' :: rest => radixNumber doubles 16 rest
  | '0' :: 'o' :: rest | '0' :: 'O' :: rest => radixNumber doubles 8 rest
  | '0' :: 'b' :: rest | '0' :: 'B' :: rest => radixNumber doubles 2 rest
  | '+' :: rest => unsigned doubles rest
  | '-' :: rest => negate (unsigned doubles rest)
  | rest => unsigned doubles rest

section Digits

variable {digits : List Char}

theorem trimmed_digits (numeric : ∀ c ∈ digits, c.isDigit = true) : Text.trimmed digits = digits := by
  have solid : ∀ c ∈ digits, Text.isSpace c = false := by
    intro c member
    have range := numeric c member
    simp only [Char.isDigit, Bool.and_eq_true, decide_eq_true_eq] at range
    have low : 48 ≤ c.toNat := range.1
    have high : c.toNat ≤ 57 := range.2
    simp [Text.isSpace]
    omega
  have front : digits.dropWhile Text.isSpace = digits := by
    rw [List.dropWhile_eq_self_iff]
    intro nonempty
    simp [solid _ (List.getElem_mem nonempty)]
  rw [Text.trimmed, front, List.rdropWhile_eq_self_iff]
  intro nonempty
  simp [solid _ (List.getLast_mem nonempty)]

theorem decimal_digits (numeric : ∀ c ∈ digits, c.isDigit = true) (nonempty : digits ≠ []) :
    decimal digits = some (value digits : ℚ) := by
  have whole : digits.takeWhile Char.isDigit = digits := List.takeWhile_eq_self_iff.mpr numeric
  have rest : digits.dropWhile Char.isDigit = [] := List.dropWhile_eq_nil_iff.mpr numeric
  simp [decimal, whole, rest, nonempty, exponent, scaled]

theorem unsigned_digits (doubles : Doubles) (numeric : ∀ c ∈ digits, c.isDigit = true)
    (nonempty : digits ≠ []) : unsigned doubles digits = doubles.round (value digits) := by
  have other : digits ≠ "Infinity".toList := by
    rintro rfl
    exact absurd (numeric 'I' (by decide)) (by decide)
  rw [unsigned, if_neg other, decimal_digits numeric nonempty]

theorem toNumber_digits (doubles : Doubles) (text : String)
    (numeric : ∀ c ∈ text.toList, c.isDigit = true) (nonempty : text.toList ≠ []) :
    toNumber doubles text = doubles.round (value text.toList) := by
  rw [← unsigned_digits doubles numeric nonempty, toNumber, trimmed_digits numeric]
  -- No other literal is made of digits alone.
  split
  all_goals first
    | rfl
    | exact absurd ‹_› nonempty
    | skip
  all_goals
    rename_i shape
    rw [shape] at numeric
    simp [Char.isDigit] at numeric

end Digits

/-- A natural number is read back from its decimal digits. -/
theorem toNumber_repr (doubles : Doubles) (n : ℕ) :
    toNumber doubles n.repr = doubles.round n := by
  have digits : n.repr.toList = Nat.toDigits 10 n := Nat.toList_repr
  rw [toNumber_digits doubles n.repr, digits, value, Nat.ofDigitChars_ten_toDigits]
  · rw [digits]
    exact fun c member => Nat.isDigit_of_mem_toDigits (by decide) (by decide) member
  · rw [digits]
    exact Nat.toDigits_ne_nil

section Rounded

variable (doubles : Doubles)

/-- The doubles: what rounding leaves as it is. -/
def Doubles.Has (value : ℚ) : Prop := doubles.round value = .finite value

theorem has_natural (n : ℕ) (bound : n ≤ 2 ^ 53) : doubles.Has n := doubles.small n bound

theorem unsigned_has (text : List Char) (value : ℚ)
    (read : unsigned doubles text = .finite value) : doubles.Has value := by
  unfold unsigned at read
  split at read
  · cases read
  · split at read
    · cases read
    · exact doubles.settled _ value read

theorem radixNumber_has (base : ℕ) (text : List Char) (value : ℚ)
    (read : radixNumber doubles base text = .finite value) : doubles.Has value := by
  unfold radixNumber at read
  split at read
  · cases read
  · exact doubles.settled _ value read

theorem toNumber_has (text : String) (value : ℚ)
    (read : toNumber doubles text = .finite value) : doubles.Has value := by
  unfold toNumber at read
  split at read
  · cases read
    exact_mod_cast has_natural doubles 0 (Nat.zero_le _)
  · exact radixNumber_has doubles _ _ value read
  · exact radixNumber_has doubles _ _ value read
  · exact radixNumber_has doubles _ _ value read
  · exact radixNumber_has doubles _ _ value read
  · exact radixNumber_has doubles _ _ value read
  · exact radixNumber_has doubles _ _ value read
  · exact unsigned_has doubles _ value read
  · next rest _ =>
      cases own : unsigned doubles rest with
      | nan => rw [own] at read; cases read
      | infinite negative => rw [own] at read; cases read
      | finite positive =>
          rw [own] at read
          cases read
          exact doubles.odd _ _ (unsigned_has doubles rest positive own)
  · exact unsigned_has doubles _ value read

end Rounded

end FaceVec.Numerals
