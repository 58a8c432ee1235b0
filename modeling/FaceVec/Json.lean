import FaceVec.Errors

/-!
What `JSON.parse` makes of a body that nobody has validated, and what the code
reads of it. An absent value is `undefined`: only `null` and `undefined` throw
when a property of theirs is read.
-/

namespace FaceVec

inductive Json where
  | null
  | boolean (value : Bool)
  | number (literal : String)
  | string (value : String)
  | array (items : List Json)
  | object (fields : List (String × Json))
  deriving Repr

namespace Json

/-- The value of a key; the last one counts where a key is repeated. -/
def field (fields : List (String × Json)) (key : String) : Option Json :=
  (fields.reverse.find? fun entry => entry.1 == key).map (·.2)

/-- The length of a string in UTF-16 code units. -/
def utf16Length (text : String) : Nat :=
  text.toList.foldr (fun char length => (if char.toNat < 0x10000 then 1 else 2) + length) 0

/-- A property of a value; `none` is `undefined`. -/
def property (value : Json) (key : String) : Option Json :=
  match value with
  | .object fields => field fields key
  | .array items => if key = "length" then some (.number (toString items.length)) else none
  | .string text => if key = "length" then some (.number (toString (utf16Length text))) else none
  | _ => none

/-- `null` or `undefined`. -/
def nullish : Option Json → Bool
  | none | some .null => true
  | _ => false

def unreadable (what key : String) : Failure :=
  .other ("Cannot read properties of " ++ what ++ " (reading " ++ key ++ ")")

/-- `value.key`. -/
def get (value : Option Json) (key : String) : Except Failure (Option Json) :=
  match value with
  | none => .error (unreadable "undefined" key)
  | some .null => .error (unreadable "null" key)
  | some value => .ok (value.property key)

theorem get_ok (value : Option Json) (key : String) (present : nullish value = false) :
    ∃ result, get value key = .ok result := by
  cases value with
  | none => cases present
  | some value =>
      cases value with
      | null => cases present
      | _ => exact ⟨_, rfl⟩

theorem get_error (value : Option Json) (key : String) (absent : nullish value = true) :
    ∃ failure, get value key = .error failure := by
  cases value with
  | none => exact ⟨_, rfl⟩
  | some value =>
      cases value with
      | null => exact ⟨_, rfl⟩
      | _ => cases absent

end Json

end FaceVec
