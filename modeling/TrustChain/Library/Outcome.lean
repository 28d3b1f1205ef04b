import Mathlib.Algebra.Group.Nat.Defs
import Mathlib.Data.List.ReduceOption

/-!
# Guarded computations with checked arithmetic

A call that may revert is a computation in `Except ε`. This module gives the two
ways in which straight-line code fails, a refused guard and a checked operation
that leaves the machine word, and for each the equation that reads a successful
computation backwards: what held, and with which value it continued. A list of
computations succeeds if each of them does.
-/

namespace TrustChain.Library

universe u

variable {ε : Type u} {α β : Type}

/-- Continue only if `condition` holds; fail with `error` otherwise. -/
def require (condition : Prop) [Decidable condition] (error : ε) : Except ε Unit :=
  if condition then .ok () else .error error

@[simp] theorem ok_bind (value : α) (next : α → Except ε β) :
    (Except.ok value >>= next) = next value := rfl

@[simp] theorem error_bind (error : ε) (next : α → Except ε β) :
    (Except.error error >>= next) = .error error := rfl

/-- A sequence succeeds exactly when its first part does and its second part
succeeds on the value obtained. -/
theorem bind_eq_ok {first : Except ε α} {next : α → Except ε β} {result : β} :
    (first >>= next) = .ok result ↔ ∃ value, first = .ok value ∧ next value = .ok result := by
  cases first with
  | error error => simp
  | ok value => simp

@[simp] theorem require_bind_eq_ok {condition : Prop} [Decidable condition] {error : ε}
    {next : Unit → Except ε β} {result : β} :
    (require condition error >>= next) = .ok result ↔ condition ∧ next () = .ok result := by
  by_cases holds : condition <;> simp [require, holds]

theorem require_eq_ok {condition : Prop} [Decidable condition] {error : ε} {value : Unit} :
    require condition error = .ok value ↔ condition := by
  by_cases holds : condition <;> simp [require, holds]

theorem require_ok {condition : Prop} [Decidable condition] {error : ε} (holds : condition) :
    require condition error = .ok () := require_eq_ok.mpr holds

@[simp] theorem map_eq_ok {first : Except ε α} {image : α → β} {result : β} :
    image <$> first = .ok result ↔ ∃ value, first = .ok value ∧ image value = result := by
  cases first with
  | error error => simp [Functor.map, Except.map]
  | ok value => simp [Functor.map, Except.map]

@[simp] theorem mapError_eq_ok {δ : Type} {first : Except δ α} {image : δ → ε} {result : α} :
    first.mapError image = .ok result ↔ first = .ok result := by
  cases first with
  | error error => exact ⟨nofun, nofun⟩
  | ok value =>
      constructor
      · intro same
        exact congrArg Except.ok (Except.ok.inj same)
      · intro same
        exact congrArg Except.ok (Except.ok.inj same)

theorem toOption_eq_some {outcome : Except ε α} {value : α} :
    outcome.toOption = some value ↔ outcome = .ok value := by
  cases outcome <;> simp [Except.toOption]

/-- Returning what a computation has returned changes nothing. -/
theorem bind_ok_self (outcome : Except ε α) : (outcome >>= fun value => .ok value) = outcome := by
  cases outcome with
  | ok value => rfl
  | error error => rfl

/-- A computation that cannot fail any more succeeds exactly if its first part does. -/
theorem exists_bind_ok_iff {first : Except ε α} {image : α → β} :
    (∃ result, (first >>= fun value => .ok (image value)) = .ok result) ↔
      ∃ value, first = .ok value := by
  cases first with
  | ok value => simp
  | error error => simp

/-! ## Lists of computations -/

section Traversal

variable {image : α → Except ε β} {list : List α} {result : List β}

theorem of_mapM_ok {value : β} (ran : list.mapM image = .ok result) (member : value ∈ result) :
    ∃ entry ∈ list, image entry = .ok value := by
  induction list generalizing result with
  | nil =>
      obtain rfl := Except.ok.inj ran
      exact absurd member List.not_mem_nil
  | cons first rest ih =>
      rw [List.mapM_cons, bind_eq_ok] at ran
      obtain ⟨head, ranFirst, ran⟩ := ran
      obtain ⟨tail, ranRest, same⟩ := bind_eq_ok.1 ran
      obtain rfl := Except.ok.inj same
      rcases List.mem_cons.1 member with rfl | member
      · exact ⟨first, List.mem_cons_self, ranFirst⟩
      · obtain ⟨entry, inside, ranEntry⟩ := ih ranRest member
        exact ⟨entry, List.mem_cons_of_mem _ inside, ranEntry⟩

theorem mapM_ok (runs : ∀ entry ∈ list, ∃ value, image entry = .ok value) :
    ∃ result, list.mapM image = .ok result := by
  induction list with
  | nil => exact ⟨[], rfl⟩
  | cons first rest ih =>
      obtain ⟨head, ranFirst⟩ := runs first List.mem_cons_self
      obtain ⟨tail, ranRest⟩ := ih fun entry member => runs entry (List.mem_cons_of_mem _ member)
      refine ⟨head :: tail, ?_⟩
      rw [List.mapM_cons, ranFirst, ok_bind, ranRest]
      rfl

theorem runs_of_mapM_ok {entry : α} (ran : list.mapM image = .ok result)
    (member : entry ∈ list) : ∃ value, image entry = .ok value := by
  induction list generalizing result with
  | nil => exact absurd member List.not_mem_nil
  | cons first rest ih =>
      rw [List.mapM_cons, bind_eq_ok] at ran
      obtain ⟨head, ranFirst, ran⟩ := ran
      obtain ⟨tail, ranRest, -⟩ := bind_eq_ok.1 ran
      rcases List.mem_cons.1 member with rfl | member
      · exact ⟨head, ranFirst⟩
      · exact ih ranRest member

/-- What a list of computations returns, without those that return nothing. -/
theorem mapM_reduceOption {image : α → Except ε (Option β)} {result : List (Option β)}
    (ran : list.mapM image = .ok result) :
    result.reduceOption = list.filterMap fun entry => (image entry).toOption.join := by
  induction list generalizing result with
  | nil =>
      obtain rfl := Except.ok.inj ran
      rfl
  | cons first rest ih =>
      rw [List.mapM_cons, bind_eq_ok] at ran
      obtain ⟨head, ranFirst, ran⟩ := ran
      obtain ⟨tail, ranRest, same⟩ := bind_eq_ok.1 ran
      obtain rfl := Except.ok.inj same
      have joined : (image first).toOption.join = head := by
        rw [ranFirst]
        rfl
      cases head with
      | none =>
          rw [List.reduceOption_cons_of_none, ih ranRest]
          simp only [List.filterMap_cons, joined]
      | some value =>
          rw [List.reduceOption_cons_of_some, ih ranRest]
          simp only [List.filterMap_cons, joined]

end Traversal

/-! ## Checked word arithmetic -/

/-- Number of values of a 256-bit word. -/
def wordSize : Nat := 2 ^ 256

/-- Errors among which one stands for an arithmetic panic. -/
class ArithmeticPanic (ε : Type u) where
  panic : ε

variable [ArithmeticPanic ε]

/-- Addition that fails when the sum does not fit in a word. -/
def checkedAdd (left right : Nat) : Except ε Nat :=
  if left + right < wordSize then .ok (left + right) else .error ArithmeticPanic.panic

/-- Subtraction that fails below zero. -/
def checkedSub (left right : Nat) : Except ε Nat :=
  if right ≤ left then .ok (left - right) else .error ArithmeticPanic.panic

/-- Multiplication that fails when the product does not fit in a word. -/
def checkedMul (left right : Nat) : Except ε Nat :=
  if left * right < wordSize then .ok (left * right) else .error ArithmeticPanic.panic

@[simp] theorem checkedAdd_eq_ok {left right value : Nat} :
    (checkedAdd left right : Except ε Nat) = .ok value ↔
      left + right < wordSize ∧ value = left + right := by
  by_cases fits : left + right < wordSize <;> simp [checkedAdd, fits, eq_comm]

@[simp] theorem checkedAdd_bind_eq_ok {left right : Nat} {next : Nat → Except ε β} {result : β} :
    (checkedAdd left right >>= next) = .ok result ↔
      left + right < wordSize ∧ next (left + right) = .ok result := by
  by_cases fits : left + right < wordSize <;> simp [checkedAdd, fits]

@[simp] theorem checkedSub_eq_ok {left right value : Nat} :
    (checkedSub left right : Except ε Nat) = .ok value ↔ right ≤ left ∧ value = left - right := by
  by_cases fits : right ≤ left <;> simp [checkedSub, fits, eq_comm]

@[simp] theorem checkedMul_eq_ok {left right value : Nat} :
    (checkedMul left right : Except ε Nat) = .ok value ↔
      left * right < wordSize ∧ value = left * right := by
  by_cases fits : left * right < wordSize <;> simp [checkedMul, fits, eq_comm]

@[simp] theorem checkedSub_bind_eq_ok {left right : Nat} {next : Nat → Except ε β} {result : β} :
    (checkedSub left right >>= next) = .ok result ↔
      right ≤ left ∧ next (left - right) = .ok result := by
  by_cases fits : right ≤ left <;> simp [checkedSub, fits]

@[simp] theorem checkedMul_bind_eq_ok {left right : Nat} {next : Nat → Except ε β} {result : β} :
    (checkedMul left right >>= next) = .ok result ↔
      left * right < wordSize ∧ next (left * right) = .ok result := by
  by_cases fits : left * right < wordSize <;> simp [checkedMul, fits]

end TrustChain.Library
