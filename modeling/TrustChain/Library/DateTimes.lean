import Mathlib.Algebra.Order.Ring.Int

/-!
# Date-times with and without a UTC offset

A date-time is a wall-clock time, in microseconds since 1970, and possibly an offset from UTC.
Without an offset it stands for the instant that it is in UTC, but it cannot be ordered with one
that has an offset.
-/

namespace TrustChain.Library

structure DateTime where
  /-- Microseconds since the first of January 1970, by the wall clock. -/
  wall : Int
  /-- Minutes ahead of UTC. -/
  offset : Option Int := none
deriving DecidableEq

namespace DateTime

/-- Microseconds in a minute. -/
def minute : Int := 60000000

/-- The instant that a date-time stands for, one without an offset being in UTC. -/
def instant (time : DateTime) : Int := time.wall - time.offset.getD 0 * minute

/-- `left < right`; `none` if one has an offset and the other has not. -/
def lt? (left right : DateTime) : Option Bool :=
  if left.offset.isSome = right.offset.isSome then some (left.instant < right.instant) else none

/-- `left == right`. -/
def equal (left right : DateTime) : Bool :=
  left.offset.isSome = right.offset.isSome && left.instant = right.instant

/-! ## ISO 8601 -/

/-- The year, month and day of a number of days since the first of January 1970. -/
def civil (days : Int) : Nat × Nat × Nat :=
  let shifted := days + 719468
  let era := shifted / 146097
  let dayOfEra := (shifted % 146097).toNat
  let yearOfEra := (dayOfEra - dayOfEra / 1460 + dayOfEra / 36524 - dayOfEra / 146096) / 365
  let dayOfYear := dayOfEra - (365 * yearOfEra + yearOfEra / 4 - yearOfEra / 100)
  let month := (5 * dayOfYear + 2) / 153
  let day := dayOfYear - (153 * month + 2) / 5 + 1
  ((yearOfEra + era * 400).toNat + if 10 ≤ month then 1 else 0,
    if month < 10 then month + 3 else month - 9, day)

/-- The last `width` decimal digits. -/
def digits : Nat → Nat → List Char
  | 0, _ => []
  | width + 1, value => .ofNat (48 + value / 10 ^ width % 10) :: digits width value

@[simp] theorem length_digits (width value : Nat) : (digits width value).length = width := by
  induction width with
  | zero => rfl
  | succ width ih => rw [digits, List.length_cons, ih]

def isoOffset (minutes : Int) : List Char :=
  if minutes = 0 then ['Z']
  else (if minutes < 0 then '-' else '+') :: digits 2 (minutes.natAbs / 60) ++
    ':' :: digits 2 (minutes.natAbs % 60)

/-- The microseconds of the second, if there are any. -/
def isoFraction (micros : Nat) : List Char :=
  if micros = 0 then [] else '.' :: digits 6 micros

/-- The wall-clock time in ISO 8601. -/
def isoWall (wall : Int) : List Char :=
  let (year, month, day) := civil (wall / 86400000000)
  let seconds := (wall / 1000000 % 86400).toNat
  digits 4 year ++ '-' :: digits 2 month ++ '-' :: digits 2 day ++
    'T' :: digits 2 (seconds / 3600) ++ ':' :: digits 2 (seconds / 60 % 60) ++
    ':' :: digits 2 (seconds % 60) ++ isoFraction (wall % 1000000).toNat

/-- The date-time in ISO 8601, an offset of zero being `Z`. -/
def iso (time : DateTime) : List Char := isoWall time.wall ++ time.offset.elim [] isoOffset

example : String.ofList (iso ⟨1704067200000000, some 0⟩) = "2024-01-01T00:00:00Z" := by
  decide +kernel

example : String.ofList (iso ⟨1709251199500000, some (-150)⟩) =
    "2024-02-29T23:59:59.500000-02:30" := by
  decide +kernel

/-! ## The length of the text -/

section Length

variable {time : DateTime}

theorem length_isoWall (wall : Int) :
    (isoWall wall).length = 19 + (isoFraction (wall % 1000000).toNat).length := by
  simp only [isoWall, List.length_append, List.length_cons, length_digits]

theorem isoOffset_pos (minutes : Int) : 0 < (isoOffset minutes).length := by
  unfold isoOffset
  split_ifs <;> simp

/-- The same instant without an offset, which a database keeps of a date-time. -/
def utc (time : DateTime) : DateTime := ⟨time.instant, none⟩

@[simp] theorem utc_instant (time : DateTime) : time.utc.instant = time.instant := by
  simp [utc, instant]

/-- In UTC a time has the microseconds that it has with an offset in minutes. -/
theorem length_isoWall_instant (time : DateTime) :
    (isoWall time.instant).length = (isoWall time.wall).length := by
  rw [length_isoWall, length_isoWall, instant, minute]
  congr 3
  omega

theorem length_iso_utc_le (time : DateTime) : time.utc.iso.length ≤ time.iso.length := by
  simp only [iso, utc, List.length_append, Option.elim_none, List.length_nil,
    length_isoWall_instant]
  omega

/-- Without its offset the text of a date-time is shorter. -/
theorem length_iso_utc_lt (aware : time.offset ≠ none) : time.utc.iso.length < time.iso.length := by
  obtain ⟨minutes, offset⟩ := Option.ne_none_iff_exists'.mp aware
  have positive := isoOffset_pos minutes
  simp only [iso, utc, offset, List.length_append, Option.elim_none, Option.elim_some,
    List.length_nil, length_isoWall_instant]
  omega

/-- A date-time without an offset is kept as it is. -/
theorem utc_eq_self : time.utc = time ↔ time.offset = none := by
  obtain ⟨wall, offset⟩ := time
  cases offset <;> simp [utc, instant]

end Length

end DateTime

end TrustChain.Library
