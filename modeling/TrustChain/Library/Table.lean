import Mathlib.Algebra.BigOperators.Group.List.Basic
import Mathlib.Algebra.Order.BigOperators.Group.List
import Mathlib.Data.List.Nodup
import Mathlib.Tactic.Abel

/-!
# Tables with a primary key

A table holds at most one row under each key. Storing a row replaces the one under its key.
The sum of a quantity over the rows of a table moves by what the new row has and the old one
had.
-/

namespace TrustChain.Library

/-- Rows under keys, at most one under each. -/
structure Table (κ ρ : Type*) where
  rows : List (κ × ρ)
  nodup : (rows.map Prod.fst).Nodup

namespace Table

variable {κ ρ : Type*} [DecidableEq κ] {M : Type*}

def empty : Table κ ρ := ⟨[], List.nodup_nil⟩

instance : Inhabited (Table κ ρ) := ⟨empty⟩

def get (table : Table κ ρ) (key : κ) : Option ρ :=
  (table.rows.find? fun row => row.1 = key).map Prod.snd

/-- The rows under other keys. -/
def others (table : Table κ ρ) (key : κ) : List (κ × ρ) :=
  table.rows.filter fun row => row.1 ≠ key

/-- Insert or replace the row under a key. -/
def set (table : Table κ ρ) (key : κ) (row : ρ) : Table κ ρ where
  rows := (key, row) :: table.others key
  nodup := by
    refine List.nodup_cons.mpr ⟨by simp [others], ?_⟩
    exact table.nodup.sublist (List.filter_sublist.map Prod.fst)

/-- The sum of a quantity over the rows. -/
def total [AddCommMonoid M] (table : Table κ ρ) (quantity : κ → ρ → M) : M :=
  (table.rows.map fun row => quantity row.1 row.2).sum

section Rows

variable {table : Table κ ρ} {key other : κ} {row : ρ}

theorem mem_rows_iff : (key, row) ∈ table.rows ↔ table.get key = some row := by
  obtain ⟨rows, nodup⟩ := table
  simp only [get]
  induction rows with
  | nil => simp
  | cons first rest ih =>
      obtain ⟨fresh, nodup⟩ := List.nodup_cons.mp nodup
      rw [List.find?_cons, List.mem_cons]
      by_cases here : first.1 = key
      · subst here
        have elsewhere : (first.1, row) ∉ rest := fun inside =>
          fresh (List.mem_map.mpr ⟨_, inside, rfl⟩)
        simp [elsewhere, Prod.ext_iff, eq_comm]
      · have different : (key, row) ≠ first := fun same => here (congrArg Prod.fst same).symm
        simp [here, different, ih nodup]

@[simp] theorem get_empty (key : κ) : (empty : Table κ ρ).get key = none := rfl

@[simp] theorem get_set_self (table : Table κ ρ) (key : κ) (row : ρ) :
    (table.set key row).get key = some row := by
  simp [get, set]

@[simp] theorem get_set_of_ne (different : other ≠ key) :
    (table.set key row).get other = table.get other := by
  ext found
  rw [← mem_rows_iff, ← mem_rows_iff]
  simp [set, others, different]

@[simp] theorem set_set (table : Table κ ρ) (key : κ) (first row : ρ) :
    (table.set key first).set key row = table.set key row := by
  simp [set, others]

theorem get_set (table : Table κ ρ) (key other : κ) (row : ρ) :
    (table.set key row).get other = if other = key then some row else table.get other := by
  by_cases same : other = key
  · rw [if_pos same, same, get_set_self]
  · rw [if_neg same, get_set_of_ne same]

theorem get_set_eq_some {table : Table κ ρ} {key other : κ} {row found : ρ} :
    (table.set key row).get other = some found ↔
      other = key ∧ found = row ∨ other ≠ key ∧ table.get other = some found := by
  rw [get_set]
  split <;> simp_all [eq_comm]

/-- A property of every row. -/
def Every (table : Table κ ρ) (property : κ → ρ → Prop) : Prop :=
  ∀ key row, table.get key = some row → property key row

theorem every_empty (property : κ → ρ → Prop) : (empty : Table κ ρ).Every property :=
  fun key _ there => nomatch (get_empty key).symm.trans there

theorem Every.set {property : κ → ρ → Prop} (every : table.Every property)
    (here : property key row) : (table.set key row).Every property := by
  intro other found there
  rcases get_set_eq_some.mp there with ⟨rfl, rfl⟩ | ⟨-, there⟩
  · exact here
  · exact every other found there

theorem Every.mono {property weaker : κ → ρ → Prop} (every : table.Every property)
    (weakens : ∀ key row, property key row → weaker key row) : table.Every weaker :=
  fun key row there => weakens key row (every key row there)

end Rows

section Totals

variable {table : Table κ ρ} {key : κ} {row : ρ}

section Monoid

variable [AddCommMonoid M] {quantity other : κ → ρ → M}

omit [DecidableEq κ] in
@[simp] theorem total_empty (quantity : κ → ρ → M) :
    (empty : Table κ ρ).total quantity = 0 := rfl

/-- The total is what one row has and what the rows under other keys have. -/
theorem total_eq_others (table : Table κ ρ) (key : κ) (quantity : κ → ρ → M) :
    table.total quantity = (table.get key).elim 0 (quantity key) +
      ((table.others key).map fun row => quantity row.1 row.2).sum := by
  obtain ⟨rows, nodup⟩ := table
  simp only [total, get, others]
  induction rows with
  | nil => simp
  | cons first rest ih =>
      obtain ⟨fresh, nodup⟩ := List.nodup_cons.mp nodup
      rw [List.map_cons, List.sum_cons, List.find?_cons, List.filter_cons]
      by_cases here : first.1 = key
      · subst here
        have elsewhere : rest.filter (fun row => !decide (row.1 = first.1)) = rest := by
          apply List.filter_eq_self.mpr
          intro row inside
          have different : row.1 ≠ first.1 := fun same =>
            fresh (List.mem_map.mpr ⟨row, inside, same⟩)
          simpa using different
        simp [elsewhere]
      · rw [ih nodup]
        simp [here, add_left_comm]

section Exchange

variable (table : Table κ ρ) (key : κ) (row : ρ) (quantity other : κ → ρ → M)
  (same : ∀ found old, found ≠ key → quantity found old = other found old)

include same

omit [AddCommMonoid M] in
theorem others_congr : (table.others key).map (fun row => quantity row.1 row.2) =
    (table.others key).map fun row => other row.1 row.2 := by
  apply List.map_congr_left
  intro entry inside
  exact same entry.1 entry.2 (by simpa using (List.mem_filter.mp inside).2)

/-- Two quantities that differ at the key alone. -/
theorem total_exchange :
    table.total quantity + (table.get key).elim 0 (other key) =
      table.total other + (table.get key).elim 0 (quantity key) := by
  rw [total_eq_others table key quantity, total_eq_others table key other,
    others_congr table key quantity other same]
  abel

/-- Storing a row while another quantity is counted, which differs at the key alone. -/
theorem total_set_exchange :
    (table.set key row).total quantity + (table.get key).elim 0 (other key) =
      table.total other + quantity key row := by
  rw [total_eq_others table key other, ← others_congr table key quantity other same]
  simp only [total, set, List.map_cons, List.sum_cons]
  abel

end Exchange

/-- Storing a row exchanges what the old one had for what it has. -/
theorem total_set (table : Table κ ρ) (key : κ) (row : ρ) (quantity : κ → ρ → M) :
    (table.set key row).total quantity + (table.get key).elim 0 (quantity key) =
      table.total quantity + quantity key row :=
  total_set_exchange table key row quantity quantity fun _ _ _ => rfl

/-- Storing a row that has as much as the old one. -/
theorem total_set_same [IsCancelAdd M]
    (same : quantity key row = (table.get key).elim 0 (quantity key)) :
    (table.set key row).total quantity = table.total quantity := by
  have exchanged := total_set table key row quantity
  rwa [← same, add_left_inj] at exchanged

theorem total_congr (same : ∀ key row, table.get key = some row →
    quantity key row = other key row) : table.total quantity = table.total other :=
  congrArg List.sum (List.map_congr_left fun row inside =>
    same row.1 row.2 (mem_rows_iff.mp inside))

omit [DecidableEq κ] in
theorem total_add (table : Table κ ρ) (quantity other : κ → ρ → M) :
    table.total (fun key row => quantity key row + other key row) =
      table.total quantity + table.total other :=
  List.sum_map_add

theorem total_eq_zero (zero : ∀ key row, table.get key = some row → quantity key row = 0) :
    table.total quantity = 0 := by
  rw [total_congr zero]
  simp [total]

end Monoid

section Ordered

variable [AddCommMonoid M] [PartialOrder M] [IsOrderedAddMonoid M] {quantity : κ → ρ → M}

theorem total_nonneg (nonneg : ∀ key row, table.get key = some row → 0 ≤ quantity key row) :
    0 ≤ table.total quantity := by
  refine List.sum_nonneg fun value inside => ?_
  obtain ⟨entry, member, rfl⟩ := List.mem_map.mp inside
  exact nonneg entry.1 entry.2 (mem_rows_iff.mp member)

/-- No row has more than the total. -/
theorem le_total (nonneg : ∀ key row, table.get key = some row → 0 ≤ quantity key row)
    (there : table.get key = some row) : quantity key row ≤ table.total quantity := by
  rw [total_eq_others table key, there]
  refine le_add_of_nonneg_right (List.sum_nonneg fun value inside => ?_)
  obtain ⟨other, member, rfl⟩ := List.mem_map.mp inside
  exact nonneg other.1 other.2 (mem_rows_iff.mp (List.mem_filter.mp member).1)

/-- If every entry of one list has at most what an entry of another has, and no entry of the
other answers for two, the sums compare. -/
theorem sum_le_sum_of_matching {α β : Type*} {f : α → M} {g : β → M} (matched : α → β → Prop)
    {as : List α} {bs : List β} (nonneg : ∀ b ∈ bs, 0 ≤ g b)
    (bounded : ∀ a ∈ as, f a ≤ 0 ∨ ∃ b ∈ bs, matched a b ∧ f a ≤ g b)
    (apart : as.Pairwise fun a a' => ∀ b, matched a b → ¬matched a' b) :
    (as.map f).sum ≤ (bs.map g).sum := by
  induction as generalizing bs with
  | nil =>
      refine List.sum_nonneg fun value inside => ?_
      obtain ⟨b, member, rfl⟩ := List.mem_map.mp inside
      exact nonneg b member
  | cons a rest ih =>
      obtain ⟨first, apart⟩ := List.pairwise_cons.mp apart
      have others := fun a' (member : a' ∈ rest) => bounded a' (List.mem_cons_of_mem a member)
      rw [List.map_cons, List.sum_cons]
      rcases bounded a List.mem_cons_self with small | ⟨b, inside, matches_, atMost⟩
      · exact (add_le_add small (ih nonneg others apart)).trans_eq (zero_add _)
      · -- what is matched with the first entry is matched with no other
        obtain ⟨left, right, rfl⟩ := List.append_of_mem inside
        have remaining : ∀ a' ∈ rest, f a' ≤ 0 ∨ ∃ b' ∈ left ++ right, matched a' b' ∧ f a' ≤ g b' := by
          intro a' member
          refine (others a' member).imp_right ?_
          rintro ⟨b', inside', matches', atMost'⟩
          refine ⟨b', ?_, matches', atMost'⟩
          have different : b' ≠ b := fun same => first a' member b matches_ (same ▸ matches')
          simpa [different] using inside'
        have rest_le := ih (fun b' member => nonneg b' (by
          rcases List.mem_append.mp member with before | after
          · exact List.mem_append_left _ before
          · exact List.mem_append_right _ (List.mem_cons_of_mem b after))) remaining apart
        refine (add_le_add atMost rest_le).trans_eq ?_
        simp only [List.map_append, List.map_cons, List.sum_append, List.sum_cons]
        abel

/-- If every row that counts is linked to a row of another table that has at least as much,
and no two rows are linked to the same one, the totals compare. -/
theorem total_le_total {μ σ : Type*} [DecidableEq μ] {other : Table μ σ} {bound : μ → σ → M}
    (link : ρ → Option μ) (nonneg : other.Every fun target row => 0 ≤ bound target row)
    (covered : table.Every fun key row => quantity key row ≤ 0 ∨ ∃ target found,
      link row = some target ∧ other.get target = some found ∧
        quantity key row ≤ bound target found)
    (apart : ∀ key key' row row' target, table.get key = some row → table.get key' = some row' →
      link row = some target → link row' = some target → key = key') :
    table.total quantity ≤ other.total bound := by
  refine sum_le_sum_of_matching (fun row entry => link row.2 = some entry.1) ?_ ?_ ?_
  · intro entry inside
    exact nonneg entry.1 entry.2 (mem_rows_iff.mp inside)
  · intro row inside
    refine (covered row.1 row.2 (mem_rows_iff.mp inside)).imp_right ?_
    rintro ⟨target, found, linked, there, atMost⟩
    exact ⟨(target, found), mem_rows_iff.mpr there, linked, atMost⟩
  · refine (List.pairwise_map.mp table.nodup).imp_of_mem ?_
    intro row row' inside inside' different entry linked linked'
    exact different (apart row.1 row'.1 row.2 row'.2 entry.1 (mem_rows_iff.mp inside)
      (mem_rows_iff.mp inside') linked linked')

end Ordered

end Totals

end Table

end TrustChain.Library
