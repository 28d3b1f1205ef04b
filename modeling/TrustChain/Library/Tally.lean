import TrustChain.Library.Outcome
import Mathlib.Algebra.BigOperators.Intervals
import Mathlib.Algebra.Order.BigOperators.Group.Finset

/-!
# Tallies over counted mappings

A store that hands out the identifiers `1, 2, …, count` keeps its records in a
total mapping. A tally is the sum of a weight over the identifiers handed out.
The rules say how it moves when one record is pushed or overwritten, which is all
that a store with running totals needs to justify them. `credit` and `debit` are the
running totals themselves: one entry of a total mapping raised or lowered.
-/

namespace TrustChain.Library

open Finset

variable {α κ : Type*}

/-- Raise one entry of a table of totals. -/
def credit [DecidableEq κ] (totals : κ → Nat) (key : κ) (amount : Nat) : κ → Nat :=
  Function.update totals key (totals key + amount)

/-- Lower one entry of a table of totals. -/
def debit [DecidableEq κ] (totals : κ → Nat) (key : κ) (amount : Nat) : κ → Nat :=
  Function.update totals key (totals key - amount)

theorem credit_apply [DecidableEq κ] (totals : κ → Nat) (key query : κ) (amount : Nat) :
    credit totals key amount query = totals query + if query = key then amount else 0 := by
  by_cases same : query = key
  · subst same; simp [credit]
  · simp [credit, same]

theorem debit_apply [DecidableEq κ] (totals : κ → Nat) (key query : κ) (amount : Nat) :
    debit totals key amount query = totals query - if query = key then amount else 0 := by
  by_cases same : query = key
  · subst same; simp [debit]
  · simp [debit, same]

/-- `totals[key] += amount`, checked against the word size. -/
def checkedCredit {ε : Type*} [ArithmeticPanic ε] {κ : Type} [DecidableEq κ]
    (totals : κ → Nat) (key : κ) (amount : Nat) : Except ε (κ → Nat) :=
  if totals key + amount < wordSize then .ok (credit totals key amount)
  else .error ArithmeticPanic.panic

/-- `totals[key] -= amount`, checked against zero. -/
def checkedDebit {ε : Type*} [ArithmeticPanic ε] {κ : Type} [DecidableEq κ]
    (totals : κ → Nat) (key : κ) (amount : Nat) : Except ε (κ → Nat) :=
  if amount ≤ totals key then .ok (debit totals key amount)
  else .error ArithmeticPanic.panic

section Checked

variable {ε : Type*} [ArithmeticPanic ε] {β key : Type} [DecidableEq key]
  {totals : key → Nat} {entry : key} {amount : Nat} {next : (key → Nat) → Except ε β} {result : β}

@[simp] theorem checkedCredit_eq_ok {raised : key → Nat} :
    (checkedCredit totals entry amount : Except ε (key → Nat)) = .ok raised ↔
      totals entry + amount < wordSize ∧ raised = credit totals entry amount := by
  by_cases fits : totals entry + amount < wordSize <;> simp [checkedCredit, fits, eq_comm]

@[simp] theorem checkedDebit_eq_ok {lowered : key → Nat} :
    (checkedDebit totals entry amount : Except ε (key → Nat)) = .ok lowered ↔
      amount ≤ totals entry ∧ lowered = debit totals entry amount := by
  by_cases fits : amount ≤ totals entry <;> simp [checkedDebit, fits, eq_comm]

@[simp] theorem checkedCredit_bind_eq_ok :
    (checkedCredit totals entry amount >>= next) = .ok result ↔
      totals entry + amount < wordSize ∧ next (credit totals entry amount) = .ok result := by
  by_cases fits : totals entry + amount < wordSize <;> simp [checkedCredit, fits]

@[simp] theorem checkedDebit_bind_eq_ok :
    (checkedDebit totals entry amount >>= next) = .ok result ↔
      amount ≤ totals entry ∧ next (debit totals entry amount) = .ok result := by
  by_cases fits : amount ≤ totals entry <;> simp [checkedDebit, fits]

end Checked

/-- Sum of `weight` over the records `1, …, count`. -/
def tally (count : Nat) (records : Nat → α) (weight : α → Nat) : Nat :=
  ∑ id ∈ Icc 1 count, weight (records id)

@[simp] theorem tally_zero (records : Nat → α) (weight : α → Nat) :
    tally 0 records weight = 0 := by simp [tally]

theorem tally_congr {β : Type*} {count : Nat} {records : Nat → α} {others : Nat → β}
    {weight : α → Nat} {reweight : β → Nat}
    (same : ∀ id, 1 ≤ id → id ≤ count → weight (records id) = reweight (others id)) :
    tally count records weight = tally count others reweight :=
  sum_congr rfl fun id member =>
    same id (mem_Icc.mp member).1 (mem_Icc.mp member).2

/-- Pushing a record under the next identifier adds its weight. -/
theorem tally_push (count : Nat) (records : Nat → α) (record : α) (weight : α → Nat) :
    tally (count + 1) (Function.update records (count + 1) record) weight =
      tally count records weight + weight record := by
  unfold tally
  rw [sum_Icc_succ_top (by omega), Function.update_self]
  congr 1
  refine sum_congr rfl fun id member => ?_
  have below : id ≠ count + 1 := by have := (mem_Icc.mp member).2; omega
  rw [Function.update_of_ne below]

/-- Overwriting the record of a member exchanges its weight, stated without subtraction. -/
theorem sum_update_add [DecidableEq κ] {members : Finset κ} {key : κ} (member : key ∈ members)
    (records : κ → α) (record : α) (weight : α → Nat) :
    ∑ other ∈ members, weight (Function.update records key record other) + weight (records key) =
      ∑ other ∈ members, weight (records other) + weight record := by
  have elsewhere : ∀ other ∈ members.erase key,
      weight (Function.update records key record other) = weight (records other) := by
    intro other inside
    rw [Function.update_of_ne (ne_of_mem_erase inside)]
  have after := add_sum_erase members
    (fun other => weight (Function.update records key record other)) member
  have before := add_sum_erase members (fun other => weight (records other)) member
  rw [sum_congr rfl elsewhere] at after
  simp only [Function.update_self] at after
  omega

theorem tally_update {count id : Nat} (lower : 1 ≤ id) (upper : id ≤ count)
    (records : Nat → α) (record : α) (weight : α → Nat) :
    tally count (Function.update records id record) weight + weight (records id) =
      tally count records weight + weight record :=
  sum_update_add (mem_Icc.mpr ⟨lower, upper⟩) records record weight

/-- Overwriting two different records exchanges both weights. -/
theorem tally_update_two {count id other : Nat} (lower : 1 ≤ id) (upper : id ≤ count)
    (otherLower : 1 ≤ other) (otherUpper : other ≤ count) (different : id ≠ other)
    (records : Nat → α) (record otherRecord : α) (weight : α → Nat) :
    tally count (Function.update (Function.update records id record) other otherRecord) weight +
        weight (records id) + weight (records other) =
      tally count records weight + weight record + weight otherRecord := by
  have first := tally_update lower upper records record weight
  have second := tally_update otherLower otherUpper (Function.update records id record)
    otherRecord weight
  rw [Function.update_of_ne different.symm] at second
  omega

/-- Every record weighs at most the tally. -/
theorem le_tally {count id : Nat} (lower : 1 ≤ id) (upper : id ≤ count)
    (records : Nat → α) (weight : α → Nat) :
    weight (records id) ≤ tally count records weight :=
  single_le_sum (f := fun other => weight (records other)) (fun _ _ => Nat.zero_le _)
    (mem_Icc.mpr ⟨lower, upper⟩)

/-- Two different records together weigh at most the tally. -/
theorem add_le_tally {count id other : Nat} (lower : 1 ≤ id) (upper : id ≤ count)
    (otherLower : 1 ≤ other) (otherUpper : other ≤ count) (different : id ≠ other)
    (records : Nat → α) (weight : α → Nat) :
    weight (records id) + weight (records other) ≤ tally count records weight := by
  have pair := sum_le_sum_of_subset (f := fun other => weight (records other))
    (s := {id, other}) (t := Icc 1 count) (by
      intro element inside
      simp only [mem_insert, mem_singleton] at inside
      rcases inside with rfl | rfl <;> exact mem_Icc.mpr ⟨‹_›, ‹_›⟩)
  rwa [sum_pair different] at pair

/-! ## Records handed out -/

/-- Exactly the identifiers `1, …, count` were handed out: their records are `valid`,
and every other record is still `blank`. -/
structure Counted (count : Nat) (records : Nat → α) (blank : α) (valid : α → Prop) : Prop where
  outside : ∀ id, ¬(1 ≤ id ∧ id ≤ count) → records id = blank
  inside : ∀ id, 1 ≤ id → id ≤ count → valid (records id)

namespace Counted

variable {count id : Nat} {records : Nat → α} {blank record : α} {valid : α → Prop}

theorem push (counted : Counted count records blank valid) (new : valid record) :
    Counted (count + 1) (Function.update records (count + 1) record) blank valid where
  outside other fresh := by
    have different : other ≠ count + 1 := by rintro rfl; exact fresh ⟨by omega, le_rfl⟩
    rw [Function.update_of_ne different]
    exact counted.outside other fun old => fresh ⟨old.1, by omega⟩
  inside other lower upper := by
    by_cases same : other = count + 1
    · subst same
      rwa [Function.update_self]
    · rw [Function.update_of_ne same]
      exact counted.inside other lower (by omega)

/-- An identifier can be handed out without writing its record. -/
theorem grow (counted : Counted count records blank valid) (new : valid blank) :
    Counted (count + 1) records blank valid where
  outside other fresh := counted.outside other fun old => fresh ⟨old.1, by omega⟩
  inside other lower upper := by
    by_cases same : other = count + 1
    · subst same
      rwa [counted.outside (count + 1) (by omega)]
    · exact counted.inside other lower (by omega)

theorem write (counted : Counted count records blank valid) (lower : 1 ≤ id) (upper : id ≤ count)
    (new : valid record) : Counted count (Function.update records id record) blank valid where
  outside other fresh := by
    have different : other ≠ id := by rintro rfl; exact fresh ⟨lower, upper⟩
    rw [Function.update_of_ne different]
    exact counted.outside other fresh
  inside other otherLower otherUpper := by
    by_cases same : other = id
    · subst same
      rwa [Function.update_self]
    · rw [Function.update_of_ne same]
      exact counted.inside other otherLower otherUpper

end Counted

end TrustChain.Library
