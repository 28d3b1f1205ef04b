import TrustChain.Library.DateTimes
import TrustChain.Library.Json
import TrustChain.Runtime.Keys

/-!
# The important fields of a deal

The canonical form of the fields that two parties lock, with its rules for amounts, date-times
and texts, the hash and the differences of such fields, and what a scene of the catalog asks of
them.
-/

namespace TrustChain.ImportantFields

open Library

/-- What Unicode and the standard library supply. -/
structure Platform where
  /-- `unicodedata.normalize("NFC", text)` -/
  nfc : String → String
  /-- `\d` of a regular expression. -/
  isDecimal : Char → Bool
  /-- `datetime.fromisoformat`: the microseconds since 1970, a time without an offset being in
  UTC, and `none` for an exception. -/
  fromIsoFormat : String → Option Int
  /-- `repr` of a floating-point number that is no integer. -/
  repr : ℚ → List Char
  /-- The hexadecimal SHA-256 digest of a text in UTF-8. -/
  sha256 : List Char → String

/-- `HASH_EXCLUDE` -/
def hashExclude : List String :=
  ["party_role", "submitter_agent_id", "submitted_at", "signature", "fields_hash"]

/-! ## Amounts -/

/-- `_AMOUNT_RE`: the digits before the point, and up to six after it. -/
def parseAmount (text : List Char) : Option (List Char × List Char) :=
  let whole := text.takeWhile Char.isDigit
  match whole, text.dropWhile Char.isDigit with
  | [], _ => none
  | _, [] => some (whole, [])
  | _, '.' :: fraction =>
      if fraction.all Char.isDigit = true ∧ fraction ≠ [] ∧ fraction.length ≤ 6 then
        some (whole, fraction)
      else none
  | _, _ => none

def digitsValue (digits : List Char) : Nat :=
  digits.foldl (fun value digit => value * 10 + (digit.toNat - 48)) 0

/-- An amount in millionths. -/
def millionths (amount : List Char × List Char) : Nat :=
  digitsValue (amount.1 ++ amount.2) * 10 ^ (6 - amount.2.length)

/-- The precision of the decimal context. -/
def precision : Nat := 28

/-- A decimal number with as many significant digits as the context has, rounded half to even. -/
def roundSignificant (value : Nat) : Nat :=
  let unit := 10 ^ ((Nat.toDigits 10 value).length - precision)
  let floor := value / unit
  let twice := 2 * (value % unit)
  if unit < twice ∨ unit = twice ∧ floor % 2 = 1 then (floor + 1) * unit else floor * unit

/-- `norm.rstrip("0")` -/
def stripZeros (digits : List Char) : List Char := (digits.reverse.dropWhile (· = '0')).reverse

/-- A number of millionths with no zeros at the end. -/
def decimalText (value : Nat) : List Char :=
  let fraction := stripZeros (DateTime.digits 6 (value % 10 ^ 6))
  Nat.toDigits 10 (value / 10 ^ 6) ++ if fraction = [] then [] else '.' :: fraction

def normalizeAmountString (value : String) : Option String :=
  (parseAmount (Runtime.strip value).toList).map fun amount =>
    .ofList (decimalText (roundSignificant (millionths amount)))

/-! ## Date-times and texts -/

section Platform

variable (platform : Platform)

/-- The instants that a date-time in UTC can be, from the year 1 to the year 9999. -/
def Representable (instant : Int) : Prop :=
  -62135596800000000 ≤ instant ∧ instant < 253402300800000000

instance : DecidablePred Representable := fun _ => inferInstanceAs (Decidable (_ ∧ _))

/-- `dt.replace(microsecond=0).strftime("%Y-%m-%dT%H:%M:%SZ")` -/
def stamp (instant : Int) : List Char := DateTime.isoWall (instant - instant % 1000000) ++ ['Z']

/-- The text that is parsed as a date-time. -/
def isoText (value : String) : String :=
  let text := (Runtime.strip value).toList.map fun char => if char = ' ' then 'T' else char
  .ofList (if text.getLast? = some 'Z' then
    text.flatMap fun char => if char = 'Z' then ['+', '0', '0', ':', '0', '0'] else [char]
  else text)

/-- The instant that a text stands for. -/
def readInstant (value : String) : Option Int :=
  if Runtime.strip value = "" then none
  else (platform.fromIsoFormat (isoText value)).filter fun instant => Representable instant

def normalizeDatetimeUtc (value : String) : Option String :=
  (readInstant platform value).map fun instant => .ofList (stamp instant)

def normalizeText (value : String) : String := Runtime.strip (platform.nfc value)

/-- `_DATE_RE` -/
def isDate (text : String) : Bool :=
  match text.toList with
  | [a, b, c, d, '-', e, f, '-', g, h] => [a, b, c, d, e, f, g, h].all platform.isDecimal
  | _ => false

/-! ## The canonical form -/

/-- `path.split(".")[-1]` -/
def leafOf (path : String) : String :=
  .ofList (path.toList.reverse.takeWhile (· ≠ '.')).reverse

/-- The leaves that hold date-times. -/
def isTimeLeaf (leaf : String) : Bool :=
  "_at".toList.isSuffixOf leaf.toList ||
    leaf ∈ ["deadline_at", "check_in", "check_out", "depart_at"]

def isDateLeaf (leaf : String) : Bool := leaf ∈ ["date", "check_in_date", "check_out_date"]

/-- `canonicalize` of a text. A path ends in an amount exactly if its leaf is one. -/
def canonicalizeText (path : String) (value : String) : String :=
  let leaf := leafOf path
  if leaf = "amount" then (normalizeAmountString value).getD (normalizeText platform value)
  else match (if isTimeLeaf leaf then normalizeDatetimeUtc platform value else none) with
    | some time => time
    | none =>
        if isDateLeaf leaf || isDate platform (Runtime.strip value) then Runtime.strip value
        else normalizeText platform value

def childPath (path key : String) : String := if path = "" then key else path ++ "." ++ key

def KeyOrder (left right : String × Json) : Prop :=
  Json.keyLE left.1.toList right.1.toList = true

instance : DecidableRel KeyOrder := fun _ _ => inferInstanceAs (Decidable (_ = true))

mutual

/-- `canonicalize` -/
def canonicalize (path : String) : Json → Json
  | .null => .null
  | .bool value => .bool value
  | .int value => .int value
  | .float value => if value.den = 1 then .int value.num else .float value
  | .string value => .string (canonicalizeText platform path value)
  | .array items => .array (canonicalizeItems path items)
  | .object fields => .object ((canonicalizeFields path fields).insertionSort KeyOrder)

def canonicalizeItems (path : String) : List Json → List Json
  | [] => []
  | item :: items => canonicalize path item :: canonicalizeItems path items

/-- The fields that are kept, in the order of the object. -/
def canonicalizeFields (path : String) : Json.Fields → Json.Fields
  | [] => []
  | (key, value) :: rest =>
      if key ∈ hashExclude then canonicalizeFields path rest
      else match canonicalize (childPath path key) value with
        | .null => canonicalizeFields path rest
        | item => (key, item) :: canonicalizeFields path rest

end

def stripForHash (fields : Json.Fields) : Json.Fields :=
  fields.filter fun field => field.1 ∉ hashExclude

def canonicalJson (fields : Json.Fields) : List Char :=
  Json.dump platform.repr (canonicalize platform "" (.object (stripForHash fields)))

def fieldsHash (fields : Json.Fields) : String := platform.sha256 (canonicalJson platform fields)

end Platform

/-! ## The catalog

The catalog lists the fields that every scene requires and those of each scene. Validation
returns the errors of all of them.
-/

/-- What the catalog says of a field. -/
structure FieldSpec where
  path : String
  type : Option String := none
  format : Option String := none
  minLength : Option Nat := none
  maxLength : Option Nat := none
  enum : Option (List String) := none
  const : Option Json := none
  properties : List (String × FieldSpec) := []
  /-- Nested keys that have to be there. -/
  requiredKeys : List String := []
  /-- `"required": false`, in the specification of a nested field. -/
  notRequired : Bool := false

structure SceneSpec where
  sceneId : String
  requiredSceneFields : List FieldSpec

structure Catalog where
  commonRequired : List FieldSpec
  scenes : List SceneSpec
  extensions : List SceneSpec

/-- The errors of a validation. -/
inductive FieldError where
  | missingCommon (path : String)
  | missingScene (path : String)
  | missingNested (path key : String)
  | acceptanceCriteria
  | proofFields
  | currency (allowed : List String)
  | amountNumber (path : String)
  | amountPattern (path : String)
  | dateTime (path : String)
  | date (path : String)
  | shorter (path : String) (minLength : Nat)
  | longer (path : String) (maxLength : Nat)
  | notOneOf (path : String) (enum : List String)
  | notConst (path : String) (const : Json)

def getScene (catalog : Catalog) (sceneId : String) : Option SceneSpec :=
  (catalog.scenes ++ catalog.extensions).find? fun scene => scene.sceneId = sceneId

/-- `_dig`, along the parts of a path. -/
def dig : Json → List String → Option Json
  | value, [] => some value
  | .object fields, part :: rest => (fields.lookup part).bind fun inner => dig inner rest
  | _, _ :: _ => none

/-- `path.split(".")` -/
def splitPath (path : String) : List String :=
  (path.toList.splitOn '.').map .ofList

/-- `_is_empty` -/
def isEmpty : Option Json → Bool
  | none | some .null => true
  | some (.string value) => Runtime.strip value = ""
  | some (.array items) => items.isEmpty
  | some (.object fields) => fields.isEmpty
  | some _ => false

def isNumber : Json → Bool
  | .int _ | .float _ => true
  | _ => false

section Validation

variable (platform : Platform)

/-- A value that has to be an amount; the check of a leaf ends with it. -/
def amountErrors (path : String) (value : Json) : List FieldError :=
  if isNumber value then [.amountNumber path]
  else match value with
    | .string text => if normalizeAmountString text = none then [.amountPattern path] else []
    | _ => [.amountPattern path]

def isDateTime : Json → Bool
  | .string text => (normalizeDatetimeUtc platform text).isSome
  | _ => false

def isDateValue : Json → Bool
  | .string text => isDate platform (Runtime.strip text)
  | _ => false

def lengthErrors (path : String) (spec : FieldSpec) (text : String) : List FieldError :=
  let length := (normalizeText platform text).length
  (match spec.minLength with
    | some least => if length < least then [.shorter path least] else []
    | none => []) ++
  (match spec.maxLength with
    | some most => if most < length then [.longer path most] else []
    | none => [])

/-- The checks of a value by itself that do not end the check of a leaf. -/
def valueErrors (path : String) (spec : FieldSpec) (value : Json) : List FieldError :=
  (match value with
    | .string text =>
        (if spec.type = some "string" then lengthErrors platform path spec text else []) ++
        (match spec.enum with
          | some enum => if text ∈ enum then [] else [.notOneOf path enum]
          | none => [])
    | _ => []) ++
  (match spec.const with
    | some const => if value.equal const then [] else [.notConst path const]
    | none => [])

/-- Whether a leaf is checked as an amount. -/
def isAmount (path : String) (spec : FieldSpec) : Bool :=
  path = "amount" || spec.type = some "string" && "amount".toList.isSuffixOf path.toList

mutual

/-- `_validate_leaf` -/
def validateLeaf (path : String) (value : Json) : FieldSpec → List FieldError
  | { path := own, type, format, minLength, maxLength, enum, const, properties, requiredKeys,
      notRequired } =>
      let spec : FieldSpec := { path := own, type, format, minLength, maxLength, enum, const,
                                properties, requiredKeys, notRequired }
      let amounts := if isAmount path spec then amountErrors path value else []
      if !amounts.isEmpty then amounts
      else if format = some "date-time" ∧ isDateTime platform value = false then [.dateTime path]
      else if format = some "date" ∧ isDateValue platform value = false then [.date path]
      else valueErrors platform path spec value ++
        match value with
        | .object fields => validateProperties path fields properties
        | _ => []

def validateProperties (path : String) (fields : Json.Fields) :
    List (String × FieldSpec) → List FieldError
  | [] => []
  | (key, spec) :: rest =>
      (match fields.get key with
        | some child =>
            if spec.notRequired || isEmpty (some child) then []
            else validateLeaf (path ++ "." ++ key) child spec
        | none => []) ++ validateProperties path fields rest

end

/-- A field that every scene requires. -/
def commonErrors (fields : Json.Fields) (spec : FieldSpec) : List FieldError :=
  match dig (.object fields) (splitPath spec.path) with
  | none => [.missingCommon spec.path]
  | some value =>
      if isEmpty (some value) then [.missingCommon spec.path]
      else
        (if spec.path = "acceptance_criteria" then
          match value with
          | .array items =>
              if items.all fun item =>
                match item with
                | .string text => normalizeText platform text ≠ ""
                | _ => false then []
              else [.acceptanceCriteria]
          | _ => [.acceptanceCriteria]
        else validateLeaf platform spec.path value spec) ++
        match value, spec.enum with
        | .string text, some allowed =>
            if spec.path = "currency" ∧ allowed ≠ [] ∧ text ∉ allowed then [.currency allowed]
            else []
        | _, _ => []

/-- A field that one scene requires, with its nested keys. -/
def sceneErrors (fields : Json.Fields) (spec : FieldSpec) : List FieldError :=
  match dig (.object fields) (splitPath spec.path) with
  | none => [.missingScene spec.path]
  | some value =>
      if isEmpty (some value) then [.missingScene spec.path]
      else validateLeaf platform spec.path value spec ++
        match value with
        | .object inner =>
            (spec.requiredKeys.filter fun key =>
              (spec.properties.lookup key).isSome && isEmpty (inner.lookup key)).map
                (.missingNested spec.path)
        | _ => []

def proofErrors (fields : Json.Fields) : List FieldError :=
  match fields.lookup "required_proof_fields" with
  | none | some .null => []
  | some (.array (_ :: _)) => []
  | some _ => [.proofFields]

/-- `validate_fields`, for a scene of the catalog. -/
def validateFields (catalog : Catalog) (scene : SceneSpec) (fields : Json.Fields) : List FieldError :=
  catalog.commonRequired.flatMap (commonErrors platform fields) ++
    scene.requiredSceneFields.flatMap (sceneErrors platform fields) ++ proofErrors fields

end Validation

end TrustChain.ImportantFields
