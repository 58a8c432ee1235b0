import Mathlib.Data.List.DropRight

/-!
The string operations of the language that the gateway rests on: `trim`, the
length in UTF-16 code units, and lower case. Lower case is that of ASCII; the
only texts it is applied to are e-mail addresses, whose pattern has no others.
-/

namespace FaceVec.Text

/-- WhiteSpace and LineTerminator, as `String.prototype.trim` strips them. -/
def isSpace (c : Char) : Bool :=
  [0x9, 0xA, 0xB, 0xC, 0xD, 0x20, 0xA0, 0x1680, 0x2028, 0x2029, 0x202F, 0x205F, 0x3000,
      0xFEFF].contains c.toNat ||
    (0x2000 ≤ c.toNat && c.toNat ≤ 0x200A)

def trimmed (characters : List Char) : List Char :=
  (characters.dropWhile isSpace).rdropWhile isSpace

def trim (text : String) : String := String.ofList (trimmed text.toList)

/-- The length of a text is the number of its UTF-16 code units. -/
def units (c : Char) : Nat := if c.toNat < 0x10000 then 1 else 2

def length (text : String) : Nat := text.toList.foldr (fun c total => units c + total) 0

def toLowerCase (text : String) : String := String.ofList (text.toList.map Char.toLower)

/-- `text.startsWith(start)` and then `text.slice(start.length)`. -/
def after (start text : String) : Option String :=
  if start.toList.isPrefixOf text.toList then
    some (String.ofList (text.toList.drop start.toList.length))
  else none

theorem lower_value (c : Char) :
    c.toLower.toNat = if 65 ≤ c.toNat ∧ c.toNat ≤ 90 then c.toNat + 32 else c.toNat := by
  have upper : (c.val ≥ 'A'.val ∧ c.val ≤ 'Z'.val) ↔ (65 ≤ c.toNat ∧ c.toNat ≤ 90) := Iff.rfl
  unfold Char.toLower
  split
  · next range =>
      have bounds := upper.mp range
      rw [if_pos bounds]
      change (c.val + ('a'.val - 'A'.val)).toNat = c.val.toNat + 32
      rw [UInt32.toNat_add]
      have small : c.val.toNat ≤ 90 := bounds.2
      have offset : ('a'.val - 'A'.val : UInt32).toNat = 32 := by decide
      rw [offset]
      omega
  · next range => rw [if_neg fun bounds => range (upper.mpr bounds)]

theorem char_ext (a b : Char) (same : a.toNat = b.toNat) : a = b :=
  Char.ext (UInt32.toNat_inj.mp same)

theorem lower_lower (c : Char) : c.toLower.toLower = c.toLower := by
  apply char_ext
  rw [lower_value c.toLower, lower_value c]
  by_cases upper : 65 ≤ c.toNat ∧ c.toNat ≤ 90
  · rw [if_pos upper, if_neg (by omega)]
  · rw [if_neg upper, if_neg upper]

theorem units_lower (c : Char) : units c.toLower = units c := by
  unfold units
  rw [lower_value c]
  by_cases upper : 65 ≤ c.toNat ∧ c.toNat ≤ 90
  · rw [if_pos upper, if_pos (by omega), if_pos (by omega)]
  · rw [if_neg upper]

@[simp] theorem toLowerCase_toLowerCase (text : String) :
    toLowerCase (toLowerCase text) = toLowerCase text := by
  rw [toLowerCase, toLowerCase, String.toList_ofList, List.map_map]
  exact congrArg String.ofList (List.map_congr_left fun c _ => lower_lower c)

@[simp] theorem length_toLowerCase (text : String) : length (toLowerCase text) = length text := by
  simp [length, toLowerCase, List.foldr_map, units_lower]

theorem trimmed_front (characters : List Char) :
    (trimmed characters).dropWhile isSpace = trimmed characters := by
  rw [List.dropWhile_eq_self_iff]
  intro nonempty
  have front := List.rdropWhile_prefix isSpace (characters.dropWhile isSpace)
  have whole : 0 < (characters.dropWhile isSpace).length := nonempty.trans_le front.length_le
  have fixed := List.dropWhile_eq_self_iff.mp (List.dropWhile_idempotent isSpace characters) whole
  rw [show (trimmed characters)[0] = (characters.dropWhile isSpace)[0] from front.getElem nonempty]
  exact fixed

theorem trimmed_trimmed (characters : List Char) :
    trimmed (trimmed characters) = trimmed characters := by
  have kept := trimmed_front characters
  unfold trimmed at kept ⊢
  rw [kept, List.rdropWhile_idempotent]

@[simp] theorem trim_trim (text : String) : trim (trim text) = trim text := by
  simp [trim, trimmed_trimmed]

end FaceVec.Text
