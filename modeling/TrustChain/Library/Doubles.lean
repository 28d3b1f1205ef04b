import Mathlib.Algebra.Order.Field.Power
import Mathlib.Data.Int.Log
import TrustChain.Library.Rounding

/-!
# Doubles

Binary floating-point numbers of 64 bits, as exact rationals with the two infinities and
not-a-number. Zero has one sign. What an operation returns is the exact result, rounded to the
nearest double, ties going to the even one.
-/

namespace TrustChain.Library

inductive Double where
  | nan
  | infinity (negative : Bool)
  | finite (value : ℚ)
deriving DecidableEq

namespace Double

/-- The distance between neighbouring doubles around `x`. -/
def unit (x : ℚ) : ℚ := 2 ^ max (Int.log 2 |x| - 52) (-1074)

/-- The double nearest to `x`. -/
def round (x : ℚ) : Double :=
  let nearest := roundHalfEven (x / unit x) * unit x
  if 2 ^ 1024 ≤ |nearest| then .infinity (x < 0) else .finite nearest

def add : Double → Double → Double
  | .nan, _ | _, .nan => .nan
  | .infinity negative, .infinity other => if negative = other then .infinity negative else .nan
  | .infinity negative, .finite _ | .finite _, .infinity negative => .infinity negative
  | .finite x, .finite y => round (x + y)

/-- `left < right`; nothing compares to not-a-number. -/
def lt : Double → Double → Bool
  | .nan, _ | _, .nan => false
  | .infinity negative, .infinity other => negative && !other
  | .infinity negative, .finite _ => negative
  | .finite _, .infinity negative => !negative
  | .finite x, .finite y => x < y

/-- `left <= right`. -/
def le : Double → Double → Bool
  | .nan, _ | _, .nan => false
  | .infinity negative, .infinity other => negative || !other
  | .infinity negative, .finite _ => negative
  | .finite _, .infinity negative => !negative
  | .finite x, .finite y => x ≤ y

variable {left right : Double}

/-- Of two numbers that are not greater, the first is at most the second. -/
theorem le_of_not_lt (leftNumber : left ≠ .nan) (rightNumber : right ≠ .nan)
    (notLess : lt right left = false) : le left right = true := by
  cases left with
  | nan => exact absurd rfl leftNumber
  | infinity negative =>
      cases right with
      | nan => exact absurd rfl rightNumber
      | infinity other => cases negative <;> cases other <;> simp_all [lt, le]
      | finite value => simpa [lt, le] using notLess
  | finite value =>
      cases right with
      | nan => exact absurd rfl rightNumber
      | infinity other => simpa [lt, le] using notLess
      | finite bound => simpa [lt, le] using notLess

/-! ## Reading a text -/

/-- The ASCII digits at the head of a text, and what follows them. -/
def digitRun : List Char → List Nat × List Char
  | [] => ([], [])
  | char :: rest =>
      if char.isDigit then
        let (digits, after) := digitRun rest
        ((char.toNat - 48) :: digits, after)
      else ([], char :: rest)

/-- The text without its underscores, which stand between digits only. -/
def withoutUnderscores (previous : Char) : List Char → Option (List Char)
  | [] => if previous = '_' then none else some []
  | '_' :: rest => if previous.isDigit then withoutUnderscores '_' rest else none
  | char :: rest =>
      if previous = '_' ∧ ¬char.isDigit then none
      else (withoutUnderscores char rest).map (char :: ·)

def ofDigits (digits : List Nat) : Nat := digits.foldl (fun number digit => 10 * number + digit) 0

/-- An optional sign. -/
def signed : List Char → Bool × List Char
  | '-' :: rest => (true, rest)
  | '+' :: rest => (false, rest)
  | chars => (false, chars)

/-- The exponent of a decimal number, if the rest of its text is one. -/
def exponent : List Char → Option Int
  | [] => some 0
  | mark :: rest =>
      let (negative, chars) := signed rest
      let (digits, after) := digitRun chars
      if (mark = 'e' ∨ mark = 'E') ∧ digits ≠ [] ∧ after = [] then
        some (if negative then -ofDigits digits else ofDigits digits)
      else none

/-- A decimal number without a sign. -/
def decimal (chars : List Char) : Option ℚ := do
  let (whole, afterWhole) := digitRun chars
  let (fraction, rest) :=
    match afterWhole with
    | '.' :: afterPoint => digitRun afterPoint
    | other => ([], other)
  let power ← exponent rest
  if whole = [] ∧ fraction = [] then none
  else some (ofDigits (whole ++ fraction) * 10 ^ (power - fraction.length))

/-- The decimal zeros of all scripts. The other nine digits of a script follow its zero. -/
def zeros : List Nat :=
  [48, 1632, 1776, 1984, 2406, 2534, 2662, 2790, 2918, 3046, 3174, 3302, 3430, 3558, 3664, 3792,
    3872, 4160, 4240, 6112, 6160, 6470, 6608, 6784, 6800, 6992, 7088, 7232, 7248, 42528, 43216,
    43264, 43472, 43504, 43600, 44016, 65296, 66720, 68912, 69734, 69872, 69942, 70096, 70384,
    70736, 70864, 71248, 71360, 71472, 71904, 72016, 72784, 73040, 73120, 92768, 92864, 93008,
    120782, 120792, 120802, 120812, 120822, 123200, 123632, 125264, 130032]

/-- The ASCII digit that a decimal digit of any script stands for. -/
def asciiDigit (char : Char) : Char :=
  match zeros.find? fun first => first ≤ char.toNat ∧ char.toNat < first + 10 with
  | some first => .ofNat (char.toNat - first + 48)
  | none => char

/-- What `float` makes of a text without surrounding space, if it rounds numbers so. -/
def parseWith (rounded : ℚ → Double) (text : String) : Option Double := do
  let chars ← withoutUnderscores ' ' (text.toList.map asciiDigit)
  let (negative, unsigned) := signed chars
  match (String.ofList unsigned).toLower with
  | "inf" | "infinity" => some (.infinity negative)
  | "nan" => some .nan
  | _ => (decimal unsigned).map fun value => rounded (if negative then -value else value)

/-- What `float` makes of a text without surrounding space. -/
def parse (text : String) : Option Double := parseWith round text

end Double

end TrustChain.Library
