import Mathlib.Data.List.Induction
import TrustChain.Library.Table

/-!
# Secondary indexes

An index is a table that leads from the value of a field to the key of the row that carries it.
It is kept by hand beside the rows. This module says when it is exact, and which changes of the
rows and of the index leave it so.
-/

namespace TrustChain.Library

variable {κ ι ρ : Type*} [DecidableEq ι]

/-- Under every value stands the one key that carries it, and nothing else is indexed. -/
def Inverse (carried : κ → Option ι) (index : Table ι κ) : Prop :=
  ∀ value key, index.get value = some key ↔ carried key = some value

namespace Inverse

variable {carried later : κ → Option ι} {index : Table ι κ} {value : ι} {key other : κ}

theorem empty : Inverse (fun _ : κ => (none : Option ι)) Table.empty := by
  intro value key
  simp

/-- No two keys carry one value. -/
theorem injective (inverse : Inverse carried index) (here : carried key = some value)
    (there : carried other = some value) : key = other := by
  rw [← inverse] at here there
  exact Option.some.inj (here.symm.trans there)

theorem get_eq_none (inverse : Inverse carried index) :
    index.get value = none ↔ ∀ key, carried key ≠ some value := by
  rw [Option.eq_none_iff_forall_ne_some]
  exact forall_congr' fun key => not_congr (inverse value key)

variable [DecidableEq κ]

/-- A key that carried nothing else takes a value over from whichever key carried it. -/
theorem claim (inverse : Inverse carried index)
    (free : carried key = none ∨ carried key = some value)
    (claimed : ∀ other, later other =
      if other = key then some value else (carried other).filter (· ≠ value)) :
    Inverse later (index.set value key) := by
  intro wanted other
  rw [Table.get_set, claimed]
  by_cases same : wanted = value
  · subst same
    by_cases here : other = key
    · simp [here]
    · simp [here, Ne.symm here, Option.filter_eq_some_iff]
  · rw [if_neg same, inverse]
    by_cases here : other = key
    · subst here
      rcases free with none | own
      · simp [none, Ne.symm same]
      · simp [own, Ne.symm same]
    · rw [if_neg here, Option.filter_eq_some_iff]
      simp [same]

/-- A value that no key carries is given to a key that carries nothing. -/
theorem insert (inverse : Inverse carried index) (free : carried key = none)
    (unused : index.get value = none)
    (inserted : ∀ other, later other = if other = key then some value else carried other) :
    Inverse later (index.set value key) := by
  refine inverse.claim (.inl free) fun other => ?_
  rw [inserted]
  have kept : (carried other).filter (· ≠ value) = carried other := by
    have apart := inverse.get_eq_none.mp unused other
    cases there : carried other with
    | none => rfl
    | some found =>
        rw [there, ne_eq, Option.some.injEq] at apart
        simp [Option.filter, apart]
  rw [kept]

end Inverse

/-- The index of a list of rows, made from scratch. -/
def indexRows (field : ρ → Option ι) (rows : List (κ × ρ)) : Table ι κ :=
  rows.foldl (fun index row => (field row.2).elim index fun value => index.set value row.1) .empty

variable {field : ρ → Option ι} {rows : List (κ × ρ)} {value : ι}

theorem indexRows_snoc (field : ρ → Option ι) (rows : List (κ × ρ)) (row : κ × ρ) :
    indexRows field (rows ++ [row]) = (field row.2).elim (indexRows field rows) fun value =>
      (indexRows field rows).set value row.1 := by
  rw [indexRows, List.foldl_append, List.foldl_cons, List.foldl_nil, ← indexRows]

/-- Where no two rows carry one value, the index leads to the row that does. -/
theorem indexRows_get {key : κ} (unique : ∀ first ∈ rows, ∀ second ∈ rows,
      field first.2 = some value → field second.2 = some value → first.1 = second.1) :
    (indexRows field rows).get value = some key ↔
      ∃ row, (key, row) ∈ rows ∧ field row = some value := by
  induction rows using List.reverseRecOn with
  | nil => simp [indexRows]
  | append_singleton rows last ih =>
      have earlier := ih fun first firstIn second secondIn =>
        unique first (List.mem_append_left _ firstIn) second (List.mem_append_left _ secondIn)
      have split : (∃ row, (key, row) ∈ rows ++ [last] ∧ field row = some value) ↔
          (∃ row, (key, row) ∈ rows ∧ field row = some value) ∨
            last.1 = key ∧ field last.2 = some value := by
        obtain ⟨key', row'⟩ := last
        simp only [List.mem_append, List.mem_singleton, or_and_right, exists_or]
        simp [and_assoc, eq_comm]
      rw [indexRows_snoc, split]
      cases carried : field last.2 with
      | none => simp [earlier]
      | some found =>
          rw [Option.elim_some, Table.get_set]
          by_cases same : value = found
          · subst same
            simp only [if_true, Option.some.injEq, and_true]
            refine ⟨.inr, fun either => either.elim ?_ id⟩
            rintro ⟨row, member, is⟩
            exact unique last (List.mem_append_right _ (List.mem_singleton_self _)) (key, row)
              (List.mem_append_left _ member) carried is
          · simp [same, Ne.symm same, earlier]

end TrustChain.Library
