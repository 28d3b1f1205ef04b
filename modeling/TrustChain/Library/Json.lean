import Mathlib.Algebra.Order.BigOperators.Group.List
import Mathlib.Algebra.Order.Ring.Nat
import Mathlib.Algebra.Order.Ring.Rat
import Mathlib.Data.List.Sort

/-!
# JSON values and their canonical text

JSON values with the fields of an object in the order of insertion, and the text that has the
keys sorted, no white space and only ASCII characters, or only those characters escaped that have
to be. The length of the text of an object is made up of its fields, so taking fields out of an
object makes its text shorter.
-/

namespace TrustChain.Library

/-- A JSON value. A floating-point number is the rational that it stands for. -/
inductive Json where
  | null
  | bool (value : Bool)
  | int (value : Int)
  | float (value : ℚ)
  | string (value : String)
  | array (items : List Json)
  | object (fields : List (String × Json))

namespace Json

/-- The fields of an object. -/
abbrev Fields := List (String × Json)

def Fields.get (fields : Fields) (key : String) : Option Json := fields.lookup key

/-- The fields with another key. -/
def Fields.pop (fields : Fields) (key : String) : Fields := fields.filter fun field => field.1 ≠ key

/-- `bool(value)`. -/
def truthy : Json → Bool
  | .null => false
  | .bool value => value
  | .int value => value ≠ 0
  | .float value => value ≠ 0
  | .string value => value ≠ ""
  | .array items => !items.isEmpty
  | .object fields => !fields.isEmpty

/-! ## Equality -/

/-- The number that a value is equal to. -/
def number : Json → Option ℚ
  | .bool value => some (if value then 1 else 0)
  | .int value => some value
  | .float value => some value
  | _ => none

mutual

/-- `left == right`: the order of fields and the kind of a number make no difference. -/
def equal : Json → Json → Bool
  | .null, .null => true
  | .string value, .string other => value = other
  | .array items, .array others => equalItems items others
  | .object fields, .object others => fields.length = others.length && equalFields fields others
  | left, right => left.number.isSome && left.number = right.number

def equalItems : List Json → List Json → Bool
  | [], [] => true
  | item :: items, other :: others => equal item other && equalItems items others
  | _, _ => false

/-- Every field is among the others. -/
def equalFields : Fields → Fields → Bool
  | [], _ => true
  | (key, value) :: rest, others =>
      (match others.lookup key with
        | some other => equal value other
        | none => false) && equalFields rest others

end

/-! ## Text -/

def hexDigit (digit : Nat) : Char := if digit < 10 then .ofNat (48 + digit) else .ofNat (87 + digit)

/-- `\uXXXX`. -/
def unicodeEscape (unit : Nat) : List Char :=
  ['\\', 'u', hexDigit (unit / 4096 % 16), hexDigit (unit / 256 % 16), hexDigit (unit / 16 % 16),
    hexDigit (unit % 16)]

/-- A character of a string, by ASCII characters alone. -/
def escape (char : Char) : List Char :=
  let code := char.toNat
  if char = '"' then ['\\', '"']
  else if char = '\\' then ['\\', '\\']
  else if char = '\n' then ['\\', 'n']
  else if char = '\r' then ['\\', 'r']
  else if char = '\t' then ['\\', 't']
  else if code = 8 then ['\\', 'b']
  else if code = 12 then ['\\', 'f']
  else if 32 ≤ code ∧ code ≤ 126 then [char]
  else if code < 65536 then unicodeEscape code
  else unicodeEscape (55296 + (code - 65536) / 1024) ++ unicodeEscape (56320 + (code - 65536) % 1024)

def quote (value : String) : List Char := '"' :: value.toList.flatMap escape ++ ['"']

def integer (value : Int) : List Char :=
  (if value < 0 then ['-'] else []) ++ Nat.toDigits 10 value.natAbs

/-- Parts with commas between them. -/
def commas : List (List Char) → List Char
  | [] => []
  | [part] => part
  | part :: rest => part ++ ',' :: commas rest

/-- Keys in the order of their code points. -/
def keyLE : List Char → List Char → Bool
  | [], _ => true
  | _ :: _, [] => false
  | left :: lefts, right :: rights =>
      left.toNat < right.toNat || left.toNat = right.toNat && keyLE lefts rights

def KeyLE (left right : String × List Char) : Prop := keyLE left.1.toList right.1.toList = true

instance : DecidableRel KeyLE := fun _ _ => inferInstanceAs (Decidable (_ = true))

/-- A field whose value is a text already. -/
def fieldText (field : String × List Char) : List Char := quote field.1 ++ ':' :: field.2

/-- An object whose values are texts already, with its keys sorted. -/
def objectText (fields : List (String × List Char)) : List Char :=
  '{' :: commas ((fields.insertionSort KeyLE).map fieldText) ++ ['}']

section Text

variable (repr : ℚ → List Char)

mutual

/-- `json.dumps(value, sort_keys=True, separators=(",", ":"))`, where `repr` writes a
floating-point number. -/
def text : Json → List Char
  | .null => ['n', 'u', 'l', 'l']
  | .bool value => if value then ['t', 'r', 'u', 'e'] else ['f', 'a', 'l', 's', 'e']
  | .int value => integer value
  | .float value => repr value
  | .string value => quote value
  | .array items => '[' :: commas (textItems items) ++ [']']
  | .object fields => objectText (textFields fields)

def textItems : List Json → List (List Char)
  | [] => []
  | item :: items => text item :: textItems items

def textFields : Fields → List (String × List Char)
  | [] => []
  | (key, value) :: rest => (key, text value) :: textFields rest

end

end Text

/-! ## Text with Unicode characters -/

/-- A character of a string, escaped only where it has to be. -/
def rawEscape (char : Char) : List Char :=
  if char = '"' then ['\\', '"']
  else if char = '\\' then ['\\', '\\']
  else if char = '\n' then ['\\', 'n']
  else if char = '\r' then ['\\', 'r']
  else if char = '\t' then ['\\', 't']
  else if char.toNat = 8 then ['\\', 'b']
  else if char.toNat = 12 then ['\\', 'f']
  else if char.toNat < 32 then unicodeEscape char.toNat
  else [char]

def rawQuote (value : String) : List Char := '"' :: value.toList.flatMap rawEscape ++ ['"']

/-- A field whose value is a text already. -/
def rawFieldText (field : String × List Char) : List Char := rawQuote field.1 ++ ':' :: field.2

section Dump

variable (repr : ℚ → List Char)

mutual

/-- `json.dumps(value, ensure_ascii=False, sort_keys=True, separators=(",", ":"))`, where `repr`
writes a floating-point number. -/
def dump : Json → List Char
  | .null => ['n', 'u', 'l', 'l']
  | .bool value => if value then ['t', 'r', 'u', 'e'] else ['f', 'a', 'l', 's', 'e']
  | .int value => integer value
  | .float value => repr value
  | .string value => rawQuote value
  | .array items => '[' :: commas (dumpItems items) ++ [']']
  | .object fields =>
      '{' :: commas (((dumpFields fields).insertionSort KeyLE).map rawFieldText) ++ ['}']

def dumpItems : List Json → List (List Char)
  | [] => []
  | item :: items => dump item :: dumpItems items

def dumpFields : Fields → List (String × List Char)
  | [] => []
  | (key, value) :: rest => (key, dump value) :: dumpFields rest

end

end Dump

/-! ## The length of a text -/

section Length

variable {repr : ℚ → List Char} {fields others : Fields}

theorem textFields_eq_map : textFields repr fields =
    fields.map fun field => (field.1, text repr field.2) := by
  induction fields with
  | nil => rfl
  | cons field rest ih =>
      obtain ⟨key, value⟩ := field
      rw [textFields, ih]
      rfl

theorem length_commas (parts : List (List Char)) :
    (commas parts).length = (parts.map List.length).sum + (parts.length - 1) := by
  induction parts with
  | nil => rfl
  | cons part rest ih =>
      cases rest with
      | nil => simp [commas]
      | cons second rest =>
          have split : commas (part :: second :: rest) = part ++ ',' :: commas (second :: rest) := rfl
          rw [split, List.length_append, List.length_cons, ih]
          simp only [List.map_cons, List.sum_cons, List.length_cons]
          omega

/-- What a field adds to the text of an object, without the comma. -/
def weight (repr : ℚ → List Char) (field : String × Json) : Nat :=
  (quote field.1).length + 1 + (text repr field.2).length

theorem length_text_object : (text repr (.object fields)).length =
    (fields.map (weight repr)).sum + (fields.length - 1) + 2 := by
  have sorted := ((textFields repr fields).perm_insertionSort KeyLE).map fieldText
  have lengths : ((((textFields repr fields).insertionSort KeyLE).map fieldText).map
      List.length).sum = (fields.map (weight repr)).sum := by
    rw [(sorted.map List.length).sum_eq, textFields_eq_map]
    simp only [List.map_map]
    congr 1
    apply List.map_congr_left
    intro field _
    simp only [Function.comp_apply, fieldText, weight, List.length_append, List.length_cons]
    omega
  rw [text, objectText, List.length_append, List.length_cons, length_commas, lengths]
  simp [textFields_eq_map]

theorem weight_pos (field : String × Json) : 0 < weight repr field := by
  unfold weight
  omega

/-- Of two objects one of which has only fields of the other, the other's text is no shorter. -/
theorem length_text_object_le (kept : fields.Sublist others) :
    (text repr (.object fields)).length ≤ (text repr (.object others)).length := by
  rw [length_text_object, length_text_object]
  have sums := (kept.map (weight repr)).sum_le_sum fun _ _ => Nat.zero_le _
  have lengths := kept.length_le
  omega

theorem length_text_object_lt (kept : fields.Sublist others) (fewer : fields.length < others.length) :
    (text repr (.object fields)).length < (text repr (.object others)).length := by
  rw [length_text_object, length_text_object]
  have sums : (fields.map (weight repr)).sum < (others.map (weight repr)).sum := by
    obtain ⟨more, both⟩ := kept.exists_perm_append
    rw [(both.map (weight repr)).sum_eq, List.map_append, List.sum_append]
    have some_ : more ≠ [] := by
      rintro rfl
      have same := both.length_eq
      simp only [List.append_nil] at same
      omega
    obtain ⟨field, rest, rfl⟩ := List.exists_cons_of_ne_nil some_
    have positive := @weight_pos repr field
    simp only [List.map_cons, List.sum_cons]
    omega
  omega

theorem pop_sublist (fields : Fields) (key : String) : (fields.pop key).Sublist fields :=
  List.filter_sublist

end Length

end Json

end TrustChain.Library
