import Mathlib.Algebra.Order.Floor.Ring
import Mathlib.Algebra.Order.Ring.Int
import Mathlib.Data.Rat.Floor
import Mathlib.Tactic.Linarith
import Mathlib.Tactic.Ring

/-!
# Rounding half to even

Rounding of exact rationals to the nearest integer, ties going to the even one, and to a
fixed number of decimal places. What is rounded to a grid keeps its order and stays where it
is if it lies on the grid. Sums may be rounded at every step.
-/

namespace TrustChain.Library

/-- The nearest integer; of two that are equally near, the even one. -/
def roundHalfEven (x : ℚ) : ℤ :=
  if Int.fract x < 1 / 2 then ⌊x⌋
  else if 1 / 2 < Int.fract x then ⌊x⌋ + 1
  else if Even ⌊x⌋ then ⌊x⌋ else ⌊x⌋ + 1

/-- `round(x, digits)`. -/
def roundTo (digits : ℕ) (x : ℚ) : ℚ := roundHalfEven (x * 10 ^ digits) / 10 ^ digits

section Integers

variable {x y : ℚ}

theorem roundHalfEven_eq_floor_or (x : ℚ) :
    (roundHalfEven x = ⌊x⌋ ∧ Int.fract x ≤ 1 / 2) ∨
      (roundHalfEven x = ⌊x⌋ + 1 ∧ 1 / 2 ≤ Int.fract x) := by
  unfold roundHalfEven
  split
  case isTrue low => exact .inl ⟨rfl, low.le⟩
  case isFalse notLow =>
    have atLeast := not_lt.mp notLow
    split
    case isTrue high => exact .inr ⟨rfl, high.le⟩
    case isFalse notHigh =>
      split
      · exact .inl ⟨rfl, not_lt.mp notHigh⟩
      · exact .inr ⟨rfl, atLeast⟩

@[simp] theorem roundHalfEven_intCast (n : ℤ) : roundHalfEven n = n := by
  simp [roundHalfEven]

theorem roundHalfEven_mono (le : x ≤ y) : roundHalfEven x ≤ roundHalfEven y := by
  rcases (Int.floor_mono le).lt_or_eq with below | same
  · -- the floors differ: the lower one is at most raised to the upper one
    rcases roundHalfEven_eq_floor_or x with ⟨lower, -⟩ | ⟨lower, -⟩ <;>
      rcases roundHalfEven_eq_floor_or y with ⟨upper, -⟩ | ⟨upper, -⟩ <;> omega
  · have fract : Int.fract x ≤ Int.fract y := by
      have left := Int.self_sub_floor x
      have right := Int.self_sub_floor y
      rw [← left, ← right, same]
      linarith
    unfold roundHalfEven
    rw [same]
    split_ifs <;> first | omega | linarith

/-- A shift by an even number keeps the ties that go down and those that go up. -/
theorem roundHalfEven_add_even {n : ℤ} (even : Even n) :
    roundHalfEven (x + n) = roundHalfEven x + n := by
  have parity : Even (⌊x⌋ + n) ↔ Even ⌊x⌋ := by simp [Int.even_add, even]
  simp only [roundHalfEven, Int.fract_add_intCast, Int.floor_add_intCast, parity]
  split_ifs <;> ring

end Integers

section Decimals

variable {digits : ℕ} {x y : ℚ}

theorem roundTo_mono (le : x ≤ y) : roundTo digits x ≤ roundTo digits y := by
  have positive : (0 : ℚ) < 10 ^ digits := by positivity
  have scaled : x * 10 ^ digits ≤ y * 10 ^ digits := by gcongr
  unfold roundTo
  gcongr
  exact roundHalfEven_mono scaled

/-- A number on the grid is its own rounding. -/
theorem roundTo_grid (n : ℤ) : roundTo digits (n / 10 ^ digits) = n / 10 ^ digits := by
  have nonzero : (10 : ℚ) ^ digits ≠ 0 := by positivity
  rw [roundTo, div_mul_cancel₀ _ nonzero, roundHalfEven_intCast]

@[simp] theorem roundTo_zero : roundTo digits 0 = 0 := by
  simpa using roundTo_grid 0

@[simp] theorem roundTo_roundTo : roundTo digits (roundTo digits x) = roundTo digits x :=
  roundTo_grid _

theorem roundTo_nonneg (nonneg : 0 ≤ x) : 0 ≤ roundTo digits x := by
  simpa using roundTo_mono nonneg

/-- The difference of two numbers on the grid is on the grid. -/
theorem roundTo_sub (left : roundTo digits x = x) (right : roundTo digits y = y) :
    roundTo digits (x - y) = x - y := by
  have difference : x - y =
      ((roundHalfEven (x * 10 ^ digits) - roundHalfEven (y * 10 ^ digits) : ℤ) : ℚ) /
        10 ^ digits := by
    rw [Int.cast_sub, sub_div]
    exact congrArg₂ (· - ·) left.symm right.symm
  rw [difference]
  exact roundTo_grid _

/-- If a difference to a number on the grid is on the grid, so is what it was taken from. -/
theorem roundTo_of_sub (right : roundTo digits y = y) (difference : roundTo digits (x - y) = x - y) :
    roundTo digits x = x := by
  have negated : roundTo digits (0 - y) = 0 - y := roundTo_sub roundTo_zero right
  have restored := roundTo_sub difference negated
  simpa using restored

/-- What is two steps of the grid apart stays so. -/
theorem roundTo_gap (apart : x + 2 / 10 ^ digits ≤ y) :
    roundTo digits x + 2 / 10 ^ digits ≤ roundTo digits y := by
  have nonzero : (10 : ℚ) ^ digits ≠ 0 := by positivity
  have shifted : roundTo digits (x + 2 / 10 ^ digits) = roundTo digits x + 2 / 10 ^ digits := by
    have scaled : (x + 2 / 10 ^ digits) * 10 ^ digits = x * 10 ^ digits + (2 : ℤ) := by
      rw [add_mul, div_mul_cancel₀ _ nonzero]
      rfl
    rw [roundTo, scaled, roundHalfEven_add_even even_two, Int.cast_add, add_div]
    rfl
  rw [← shifted]
  exact roundTo_mono apart

end Decimals

/-! ## Sums that are rounded at every step -/

/-- The sum of the amounts, rounded after each of them. -/
def roundedSum (digits : ℕ) (start : ℚ) (amounts : List ℚ) : ℚ :=
  amounts.foldl (fun sum amount => roundTo digits (sum + amount)) start

section Sums

variable {digits : ℕ} {start other : ℚ} {before after amounts : List ℚ}

theorem roundedSum_append : roundedSum digits start (before ++ after) =
    roundedSum digits (roundedSum digits start before) after :=
  List.foldl_append

theorem roundedSum_grid (grid : roundTo digits start = start) :
    roundTo digits (roundedSum digits start amounts) = roundedSum digits start amounts := by
  induction amounts generalizing start with
  | nil => exact grid
  | cons amount rest ih => exact ih roundTo_roundTo

theorem roundedSum_gap (apart : start + 2 / 10 ^ digits ≤ other) :
    roundedSum digits start amounts + 2 / 10 ^ digits ≤ roundedSum digits other amounts := by
  induction amounts generalizing start other with
  | nil => exact apart
  | cons amount rest ih =>
      apply ih
      apply roundTo_gap
      linarith

/-- An amount below zero that is seen on the grid is seen in the sum. -/
theorem roundedSum_insert {amount : ℚ} (grid : roundTo digits start = start)
    (seen : 2 / 10 ^ digits ≤ -amount) :
    roundedSum digits start (before ++ amount :: after) + 2 / 10 ^ digits ≤
      roundedSum digits start (before ++ after) := by
  rw [roundedSum_append, roundedSum_append]
  have below : roundTo digits (roundedSum digits start before + amount) + 2 / 10 ^ digits ≤
      roundTo digits (roundedSum digits start before) := by
    apply roundTo_gap
    linarith
  rw [roundedSum_grid grid] at below
  exact roundedSum_gap below

end Sums

end TrustChain.Library
