import FaceVec.Json

/-!
`JSON.stringify` and `JSON.parse`: the text of a value, and the value of a text.
A number is kept as its literal. What is written is read back.
-/

namespace FaceVec.Json

section Grammar

def isWhite (c : Char) : Bool := c == ' ' || c == '\n' || c == '\r' || c == '\t'

def skip (text : List Char) : List Char := text.dropWhile isWhite

def isDigit (c : Char) : Bool := '0' ≤ c && c ≤ '9'

def isNumeric (c : Char) : Bool := isDigit c || ['-', '+', '.', 'e', 'E'].contains c

def isExponent : List Char → Bool
  | [] => true
  | mark :: rest =>
      let digits := if ['-', '+'].contains (rest.headD '0') then rest.tail else rest
      ['e', 'E'].contains mark && digits != [] && digits.all isDigit

def isFraction : List Char → Bool
  | '.' :: rest => (rest.takeWhile isDigit) != [] && isExponent (rest.dropWhile isDigit)
  | rest => isExponent rest

/-- A literal without leading zeros. -/
def isNumber (literal : List Char) : Bool :=
  let unsigned := if literal.head? == some '-' then literal.tail else literal
  let whole := unsigned.takeWhile isDigit
  whole != [] && (whole.length == 1 || whole.head? != some '0') &&
    isFraction (unsigned.dropWhile isDigit) && literal.all isNumeric

end Grammar

section Write

/-- The quotation mark and the backslash; they are spelt by their numbers. -/
def quote : Char := '\x22'

def backslash : Char := '\x5c'

def hexDigit (digit : Nat) : Char := "0123456789abcdef".toList.getD digit '0'

/-- The characters with an escape of one letter, each with its letter. -/
def letters : List (Char × Char) :=
  [(quote, quote), (backslash, backslash), ('\x08', 'b'), ('\x0c', 'f'), ('\n', 'n'), ('\r', 'r'),
    ('\t', 't')]

def escaped (c : Char) : List Char :=
  match letters.find? (·.1 == c) with
  | some entry => [backslash, entry.2]
  | none =>
      if c.toNat < 0x20 then
        [backslash, 'u', '0', '0', hexDigit (c.toNat / 16), hexDigit (c.toNat % 16)]
      else [c]

def quoted (text : String) : List Char := quote :: (text.toList.flatMap escaped ++ [quote])

mutual

def stringify : Json → List Char
  | .null => "null".toList
  | .boolean true => "true".toList
  | .boolean false => "false".toList
  | .number literal => literal.toList
  | .string text => quoted text
  | .array [] => ['[', ']']
  | .array (item :: rest) => '[' :: (stringify item ++ stringifyItems rest)
  | .object [] => ['\x7b', '\x7d']
  | .object ((key, value) :: rest) =>
      '\x7b' :: (quoted key ++ ':' :: (stringify value ++ stringifyFields rest))

def stringifyItems : List Json → List Char
  | [] => [']']
  | item :: rest => ',' :: (stringify item ++ stringifyItems rest)

def stringifyFields : List (String × Json) → List Char
  | [] => ['\x7d']
  | (key, value) :: rest => ',' :: (quoted key ++ ':' :: (stringify value ++ stringifyFields rest))

end

/-- The length of a text in UTF-8. -/
def byteLength (text : List Char) : Nat := text.foldr (fun c length => c.utf8Size + length) 0

end Write

section Read

def hexValue (c : Char) : Option Nat :=
  if isDigit c then some (c.toNat - 0x30)
  else if 'a' ≤ c && c ≤ 'f' then some (c.toNat - 0x61 + 10)
  else if 'A' ≤ c && c ≤ 'F' then some (c.toNat - 0x41 + 10)
  else none

def codeUnit (digits : List Char) : Option Nat :=
  digits.foldl (fun total c => do return 16 * (← total) + (← hexValue c)) (some 0)

/-- Behind a backslash: the character that is meant. Half of a surrogate pair is none. -/
def unescape : List Char → Option (Char × List Char)
  | 'u' :: a :: b :: c :: d :: rest => do
      let high ← codeUnit [a, b, c, d]
      if 0xD800 ≤ high ∧ high < 0xDC00 then
        match rest with
        | mark :: 'u' :: e :: f :: g :: h :: rest => do
            let low ← codeUnit [e, f, g, h]
            if mark = backslash ∧ 0xDC00 ≤ low ∧ low < 0xE000 then
              return (Char.ofNat (0x10000 + 0x400 * (high - 0xD800) + (low - 0xDC00)), rest)
            else none
        | _ => none
      else if 0xDC00 ≤ high ∧ high < 0xE000 then none
      else return (Char.ofNat high, rest)
  | letter :: rest =>
      if letter = '/' then some (letter, rest)
      else (letters.find? (·.2 == letter)).map fun entry => (entry.1, rest)
  | [] => none

/-- The characters of a string, from behind its first quotation mark. -/
def readString : Nat → List Char → Option (List Char × List Char)
  | fuel + 1, c :: rest =>
      if c = quote then some ([], rest)
      else if c = backslash then
        (unescape rest).bind fun (own, rest) => (readString fuel rest).map (Prod.map (own :: ·) id)
      else if c.toNat < 0x20 then none
      else (readString fuel rest).map (Prod.map (c :: ·) id)
  | _, _ => none

def readQuoted : List Char → Option (String × List Char)
  | c :: rest =>
      if c = quote then (readString (rest.length + 1) rest).map (Prod.map String.ofList id)
      else none
  | [] => none

def readLiteral (text : List Char) : Option (Json × List Char) :=
  let literal := text.takeWhile isNumeric
  if isNumber literal then some (.number (String.ofList literal), text.dropWhile isNumeric)
  else if "null".toList.isPrefixOf text then some (.null, text.drop 4)
  else if "true".toList.isPrefixOf text then some (.boolean true, text.drop 4)
  else if "false".toList.isPrefixOf text then some (.boolean false, text.drop 5)
  else none

mutual

def readValue : Nat → List Char → Option (Json × List Char)
  | fuel + 1, text =>
      match skip text with
      | [] => none
      | c :: rest =>
          if c = '[' then
            if (skip rest).head? = some ']' then some (.array [], (skip rest).tail)
            else (readItems fuel rest).map (Prod.map .array id)
          else if c = '\x7b' then
            if (skip rest).head? = some '\x7d' then some (.object [], (skip rest).tail)
            else (readFields fuel rest).map (Prod.map .object id)
          else if c = quote then (readQuoted (c :: rest)).map (Prod.map .string id)
          else readLiteral (c :: rest)
  | 0, _ => none

/-- An item and what follows it, to the end of the array. -/
def readItems : Nat → List Char → Option (List Json × List Char)
  | fuel + 1, text =>
      (readValue fuel text).bind fun (item, rest) =>
        match skip rest with
        | [] => none
        | c :: rest =>
            if c = ']' then some ([item], rest)
            else if c = ',' then (readItems fuel rest).map (Prod.map (item :: ·) id)
            else none
  | 0, _ => none

def readFields : Nat → List Char → Option (List (String × Json) × List Char)
  | fuel + 1, text =>
      (readQuoted (skip text)).bind fun (key, rest) =>
        if (skip rest).head? = some ':' then
          (readValue fuel (skip rest).tail).bind fun (value, rest) =>
            match skip rest with
            | [] => none
            | c :: rest =>
                if c = '\x7d' then some ([(key, value)], rest)
                else if c = ',' then (readFields fuel rest).map (Prod.map ((key, value) :: ·) id)
                else none
        else none
  | 0, _ => none

end

def parse (text : List Char) : Option Json :=
  match readValue (text.length + 1) text with
  | some (value, rest) => if skip rest = [] then some value else none
  | none => none

end Read

section Strings

theorem hexValue_hexDigit : ∀ digit < 16, hexValue (hexDigit digit) = some digit := by decide

/-- A control character is read back from its four digits. -/
theorem unescape_control (c : Char) (control : c.toNat < 0x20) (rest : List Char) :
    unescape ('u' :: '0' :: '0' :: hexDigit (c.toNat / 16) :: hexDigit (c.toNat % 16) :: rest) =
      some (c, rest) := by
  have zero : hexValue '0' = some 0 := by decide
  have high := hexValue_hexDigit (c.toNat / 16) (by omega)
  have low := hexValue_hexDigit (c.toNat % 16) (by omega)
  have whole : codeUnit ['0', '0', hexDigit (c.toNat / 16), hexDigit (c.toNat % 16)] =
      some c.toNat := by
    simp only [codeUnit, List.foldl_cons, List.foldl_nil, zero, high, low]
    simp only [Option.pure_def, Option.bind_eq_bind, Option.bind_some, Option.some.injEq]
    omega
  have left : ¬(0xD800 ≤ c.toNat ∧ c.toNat < 0xDC00) := by omega
  have right : ¬(0xDC00 ≤ c.toNat ∧ c.toNat < 0xE000) := by omega
  simp only [unescape, whole, Option.bind_eq_bind, Option.bind_some, left, right, if_false,
    Char.ofNat_toNat]
  rfl

theorem readString_cons (fuel : Nat) (c : Char) (rest : List Char) :
    readString (fuel + 1) (escaped c ++ rest) =
      (readString fuel rest).map (Prod.map (c :: ·) id) := by
  have escape (tail : List Char) : readString (fuel + 1) (backslash :: tail) =
      (unescape tail).bind fun (own, rest) =>
        (readString fuel rest).map (Prod.map (own :: ·) id) := rfl
  unfold escaped
  cases known : letters.find? (·.1 == c) with
  | some entry =>
      have same : entry.1 = c := by simpa using List.find?_some known
      have meant : ∀ entry ∈ letters, unescape (entry.2 :: rest) = some (entry.1, rest) := by
        simp only [letters, List.forall_mem_cons]
        exact ⟨rfl, rfl, rfl, rfl, rfl, rfl, rfl, by simp⟩
      simp only [List.cons_append, List.nil_append, escape,
        meant entry (List.mem_of_find?_eq_some known), same, Option.bind_some]
  | none =>
      have unknown := List.find?_eq_none.mp known
      dsimp only
      split
      · next control =>
          simp only [List.cons_append, List.nil_append, escape, unescape_control c control,
            Option.bind_some]
      · next printable =>
          have unquoted : c ≠ quote := by
            rintro rfl
            exact unknown _ (.head _) (by simp)
          have plain : c ≠ backslash := by
            rintro rfl
            exact unknown (backslash, backslash) (by simp [letters]) (by simp)
          simp only [List.singleton_append, readString, unquoted, plain, printable, if_false]

theorem readString_flatMap (text rest : List Char) (fuel : Nat) (enough : text.length < fuel) :
    readString fuel (text.flatMap escaped ++ quote :: rest) = some (text, rest) := by
  induction text generalizing fuel with
  | nil =>
      cases fuel with
      | zero => cases enough
      | succ fuel => simp [readString]
  | cons c text ih =>
      cases fuel with
      | zero => cases enough
      | succ fuel =>
          rw [List.flatMap_cons, List.append_assoc, readString_cons,
            ih fuel (by simpa using enough)]
          rfl

theorem escaped_pos (c : Char) : 1 ≤ (escaped c).length := by
  unfold escaped
  split
  · simp
  · split <;> simp

theorem length_le_flatMap (text : List Char) : text.length ≤ (text.flatMap escaped).length := by
  induction text with
  | nil => simp
  | cons c text ih =>
      have first := escaped_pos c
      simp only [List.flatMap_cons, List.length_append, List.length_cons]
      omega

theorem readQuoted_quoted (text : String) (rest : List Char) :
    readQuoted (quoted text ++ rest) = some (text, rest) := by
  have enough := length_le_flatMap text.toList
  have read := readString_flatMap text.toList rest
    ((text.toList.flatMap escaped ++ quote :: rest).length + 1) (by
      simp only [List.length_append]
      omega)
  simp only [quoted, List.cons_append, List.append_assoc, List.nil_append, readQuoted, if_true,
    read]
  simp

end Strings

section Values

mutual

/-- The numbers in a value are spelt as the grammar has them. -/
def Numeric : Json → Prop
  | .number literal => isNumber literal.toList = true
  | .array items => NumericItems items
  | .object fields => NumericFields fields
  | _ => True

def NumericItems : List Json → Prop
  | [] => True
  | item :: rest => Numeric item ∧ NumericItems rest

def NumericFields : List (String × Json) → Prop
  | [] => True
  | (_, value) :: rest => Numeric value ∧ NumericFields rest

end

/-- What follows cannot belong to a number. -/
def Ends (rest : List Char) : Prop := ∀ c, rest.head? = some c → isNumeric c = false

theorem skip_cons (c : Char) (rest : List Char) (solid : isWhite c = false) :
    skip (c :: rest) = c :: rest := by
  simp [skip, solid]

theorem number_numeric (literal : List Char) (number : isNumber literal = true) :
    (∀ c ∈ literal, isNumeric c = true) ∧ ∃ c rest, literal = c :: rest := by
  simp only [isNumber, Bool.and_eq_true, List.all_eq_true] at number
  refine ⟨number.2, ?_⟩
  cases literal with
  | nil => simp at number
  | cons c rest => exact ⟨c, rest, rfl⟩

theorem numeric_solid (c : Char) (numeric : isNumeric c = true) :
    isWhite c = false ∧ c ∉ [']', '[', '\x7b', quote] := by
  have other : ∀ code : Char, isNumeric code = false → c ≠ code := by
    rintro code silent rfl
    rw [silent] at numeric
    cases numeric
  refine ⟨?_, fun member => ?_⟩
  · simp only [isWhite, Bool.or_eq_false_iff, beq_eq_false_iff_ne]
    exact ⟨⟨⟨other ' ' (by decide), other '\n' (by decide)⟩, other '\r' (by decide)⟩,
      other '\t' (by decide)⟩
  · have silent : ∀ code ∈ [']', '[', '\x7b', quote], isNumeric code = false := by
      simp only [List.forall_mem_cons]
      exact ⟨by decide, by decide, by decide, by decide, by simp⟩
    exact other c (silent c member) rfl

theorem readLiteral_number (literal rest : List Char) (number : isNumber literal = true)
    (ends : Ends rest) :
    readLiteral (literal ++ rest) = some (.number (String.ofList literal), rest) := by
  have all := (number_numeric literal number).1
  have behind : rest.takeWhile isNumeric = [] ∧ rest.dropWhile isNumeric = rest := by
    cases rest with
    | nil => exact ⟨rfl, rfl⟩
    | cons c tail => simp [ends c rfl]
  have taken : (literal ++ rest).takeWhile isNumeric = literal := by
    rw [List.takeWhile_append_of_pos all, behind.1, List.append_nil]
  have dropped : (literal ++ rest).dropWhile isNumeric = rest := by
    rw [List.dropWhile_append_of_pos all, behind.2]
  simp only [readLiteral, taken, dropped, number, if_true]

theorem stringify_front (value : Json) (numeric : Numeric value) :
    ∃ c rest, stringify value = c :: rest ∧ isWhite c = false ∧ c ≠ ']' := by
  match value with
  | .null | .boolean true | .boolean false => exact ⟨_, _, rfl, by decide, by decide⟩
  | .string text =>
      exact ⟨quote, _, by rw [stringify, quoted], by decide, by decide⟩
  | .array [] | .object [] | .array (_ :: _) | .object (_ :: _) =>
      exact ⟨_, _, by rw [stringify], by decide, by decide⟩
  | .number literal =>
      simp only [Numeric] at numeric
      obtain ⟨all, c, rest, same⟩ := number_numeric _ numeric
      have solid := numeric_solid c (all c (same ▸ .head _))
      refine ⟨c, rest, by rw [stringify, same], solid.1, ?_⟩
      rintro rfl
      exact solid.2 (.head _)

theorem ends_cons (c : Char) (rest : List Char) (plain : isNumeric c = false) :
    Ends (c :: rest) := by
  rintro _ ⟨⟩
  exact plain

theorem skip_stringify (value : Json) (numeric : Numeric value) (rest : List Char) :
    skip (stringify value ++ rest) = stringify value ++ rest := by
  obtain ⟨c, tail, same, solid, _⟩ := stringify_front value numeric
  rw [same, List.cons_append, skip_cons c _ solid]

theorem skip_quoted (text : String) (rest : List Char) :
    skip (quoted text ++ rest) = quoted text ++ rest := by
  rw [quoted, List.cons_append, skip_cons quote _ (by decide)]

/-- What a text of a value is read as with so much fuel, whatever follows it. -/
structure ReadsBack (fuel : Nat) : Prop where
  value : ∀ value, Numeric value → ∀ rest, Ends rest → (stringify value).length ≤ fuel →
    readValue fuel (stringify value ++ rest) = some (value, rest)
  items : ∀ item items, Numeric item → NumericItems items →
    (stringify item).length + (stringifyItems items).length ≤ fuel →
      ∀ rest, readItems fuel (stringify item ++ (stringifyItems items ++ rest)) =
        some (item :: items, rest)
  fields : ∀ key value fields, Numeric value → NumericFields fields →
    (stringify value).length + (stringifyFields fields).length < fuel →
      ∀ rest, readFields fuel
          (quoted key ++ (':' :: (stringify value ++ (stringifyFields fields ++ rest)))) =
        some ((key, value) :: fields, rest)

variable {fuel : Nat}

theorem value_step (back : ReadsBack fuel) (value : Json) (numeric : Numeric value)
    (rest : List Char) (ends : Ends rest) (enough : (stringify value).length ≤ fuel + 1) :
    readValue (fuel + 1) (stringify value ++ rest) = some (value, rest) := by
  rw [readValue, skip_stringify value numeric]
  match value with
  | .null | .boolean true | .boolean false => rfl
  | .number literal =>
      have read := readLiteral_number literal.toList rest numeric ends
      obtain ⟨all, first, more, split⟩ := number_numeric _ numeric
      have plain := (numeric_solid first (all first (split ▸ .head _))).2
      simp only [List.mem_cons, List.not_mem_nil, or_false, not_or] at plain
      rw [String.ofList_toList, split] at read
      simpa [stringify, split, plain] using read
  | .string text =>
      have read := readQuoted_quoted text rest
      rw [quoted, List.cons_append] at read
      simp only [stringify, quoted, List.cons_append, read]
      rfl
  | .array [] => rw [stringify]; rfl
  | .object [] => rw [stringify]; rfl
  | .array (item :: items) =>
      simp only [Numeric, NumericItems] at numeric
      simp only [stringify, List.length_cons, List.length_append] at enough
      have read := back.items item items numeric.1 numeric.2 (by omega) rest
      obtain ⟨first, more, front, _, inside⟩ := stringify_front item numeric.1
      have some_ : (skip (stringify item ++ (stringifyItems items ++ rest))).head? ≠ some ']' := by
        rw [skip_stringify item numeric.1, front]
        simpa using inside
      simp only [stringify, List.cons_append, List.append_assoc, if_true, if_neg some_, read]
      rfl
  | .object ((key, own) :: fields) =>
      simp only [Numeric, NumericFields] at numeric
      simp only [stringify, List.length_cons, List.length_append] at enough
      have named : 2 ≤ (quoted key).length := by simp [quoted]
      have read := back.fields key own fields numeric.1 numeric.2 (by omega) rest
      have some_ : (skip (quoted key ++ (':' :: (stringify own ++ (stringifyFields fields ++
          rest))))).head? ≠ some '\x7d' := by
        rw [skip_quoted, quoted, List.cons_append, List.head?_cons]
        decide
      simp only [stringify, List.cons_append, List.append_assoc, if_neg some_, read]
      rfl

theorem items_step (back : ReadsBack fuel) (item : Json) (items : List Json)
    (numeric : Numeric item) (others : NumericItems items)
    (enough : (stringify item).length + (stringifyItems items).length ≤ fuel + 1)
    (rest : List Char) :
    readItems (fuel + 1) (stringify item ++ (stringifyItems items ++ rest)) =
      some (item :: items, rest) := by
  cases items with
  | nil =>
      simp only [stringifyItems, List.length_singleton] at enough
      have read := back.value item numeric (']' :: rest) (ends_cons _ _ (by decide)) (by omega)
      simp only [stringifyItems, List.singleton_append, readItems, read, Option.bind_some,
        skip_cons ']' rest (by decide), if_true]
  | cons next items =>
      simp only [stringifyItems, List.length_cons, List.length_append] at enough
      have read := back.value item numeric
        (',' :: (stringify next ++ (stringifyItems items ++ rest))) (ends_cons _ _ (by decide))
        (by omega)
      have later := back.items next items others.1 others.2 (by omega) rest
      simp only [stringifyItems, List.cons_append, List.append_assoc, readItems, read,
        Option.bind_some, skip_cons ',' _ (by decide), later]
      rfl

theorem fields_step (back : ReadsBack fuel) (key : String) (value : Json)
    (fields : List (String × Json)) (numeric : Numeric value) (others : NumericFields fields)
    (enough : (stringify value).length + (stringifyFields fields).length < fuel + 1)
    (rest : List Char) :
    readFields (fuel + 1)
        (quoted key ++ (':' :: (stringify value ++ (stringifyFields fields ++ rest)))) =
      some ((key, value) :: fields, rest) := by
  simp only [readFields, skip_quoted, readQuoted_quoted, Option.bind_some,
    skip_cons ':' _ (by decide), List.head?_cons, List.tail_cons, if_true]
  match fields with
  | [] =>
      have read := back.value value numeric ('\x7d' :: rest) (ends_cons _ _ (by decide)) (by omega)
      simp only [stringifyFields, List.singleton_append, read, Option.bind_some,
        skip_cons '\x7d' rest (by decide), if_true]
  | (next, own) :: fields =>
      simp only [stringifyFields, List.length_cons, List.length_append] at enough
      have named : 2 ≤ (quoted next).length := by simp [quoted]
      have read := back.value value numeric
        (',' :: (quoted next ++ ':' :: (stringify own ++ (stringifyFields fields ++ rest))))
        (ends_cons _ _ (by decide)) (by omega)
      have later := back.fields next own fields others.1 others.2 (by omega) rest
      simp only [stringifyFields, List.cons_append, List.append_assoc, read, Option.bind_some,
        skip_cons ',' _ (by decide), later]
      rfl

theorem readsBack (fuel : Nat) : ReadsBack fuel := by
  induction fuel with
  | zero =>
      have some_ : ∀ value, Numeric value → 1 ≤ (stringify value).length := by
        intro value numeric
        obtain ⟨c, rest, same, _⟩ := stringify_front value numeric
        simp [same]
      refine ⟨fun value numeric _ _ enough => ?_, fun item _ numeric _ enough => ?_,
        fun _ _ _ _ _ enough => absurd enough (Nat.not_lt_zero _)⟩
      · have := some_ value numeric
        omega
      · have := some_ item numeric
        omega
  | succ fuel back => exact ⟨value_step back, items_step back, fields_step back⟩

theorem parse_stringify (value : Json) (numeric : Numeric value) :
    parse (stringify value) = some value := by
  have read := (readsBack _).value value numeric [] nofun (Nat.le_succ _)
  rw [List.append_nil] at read
  rw [parse, read]
  rfl

end Values
end FaceVec.Json
