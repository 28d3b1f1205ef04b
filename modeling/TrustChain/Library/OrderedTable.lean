import Mathlib.Data.List.Induction
import TrustChain.Library.Table

/-!
# Ordered tables

A table that keeps its rows in the order in which their keys came. Storing a row under a key that
is there already replaces the old row where it stands.
-/

namespace TrustChain.Library

/-- Rows under keys, at most one under each, the oldest key first. -/
structure OrderedTable (κ ρ : Type*) where
  rows : List (κ × ρ)
  nodup : (rows.map Prod.fst).Nodup

namespace OrderedTable

variable {κ ρ : Type*}

def empty : OrderedTable κ ρ := ⟨[], List.nodup_nil⟩

instance : Inhabited (OrderedTable κ ρ) := ⟨empty⟩

def keys (table : OrderedTable κ ρ) : List κ := table.rows.map Prod.fst

/-- Change every row, each under its key. -/
def map (table : OrderedTable κ ρ) (change : κ → ρ → ρ) : OrderedTable κ ρ where
  rows := table.rows.map fun row => (row.1, change row.1 row.2)
  nodup := by simpa [Function.comp_def] using table.nodup

variable [DecidableEq κ]

def get (table : OrderedTable κ ρ) (key : κ) : Option ρ :=
  (table.rows.find? fun row => row.1 = key).map Prod.snd

/-- Change the row under a key, if there is one. -/
def modify (table : OrderedTable κ ρ) (key : κ) (change : ρ → ρ) : OrderedTable κ ρ :=
  table.map fun found row => if found = key then change row else row

/-- Append a row under a new key, or replace the row under the key. -/
def set (table : OrderedTable κ ρ) (key : κ) (row : ρ) : OrderedTable κ ρ :=
  if fresh : key ∉ table.keys then
    { rows := table.rows ++ [(key, row)]
      nodup := by
        rw [List.map_append, List.nodup_append]
        refine ⟨table.nodup, List.nodup_singleton _, ?_⟩
        rintro found inside _ last rfl
        obtain rfl := List.mem_singleton.mp last
        exact fresh inside }
  else table.modify key fun _ => row

section Rows

variable {table : OrderedTable κ ρ} {key : κ} {row : ρ}

theorem mem_rows_iff : (key, row) ∈ table.rows ↔ table.get key = some row :=
  @Table.mem_rows_iff κ ρ _ ⟨table.rows, table.nodup⟩ key row

theorem mem_keys_iff : key ∈ table.keys ↔ (table.get key).isSome := by
  rw [Option.isSome_iff_exists]
  constructor
  · intro inside
    obtain ⟨⟨_, row⟩, member, rfl⟩ := List.mem_map.mp inside
    exact ⟨row, mem_rows_iff.mp member⟩
  · rintro ⟨row, there⟩
    exact List.mem_map.mpr ⟨(key, row), mem_rows_iff.mpr there, rfl⟩

theorem not_mem_keys_iff : key ∉ table.keys ↔ table.get key = none := by
  rw [mem_keys_iff, Option.not_isSome_iff_eq_none]

@[simp] theorem get_empty (key : κ) : (empty : OrderedTable κ ρ).get key = none := rfl

omit [DecidableEq κ] in
@[simp] theorem keys_map (table : OrderedTable κ ρ) (change : κ → ρ → ρ) :
    (table.map change).keys = table.keys := by
  simp [keys, map, Function.comp_def]

omit [DecidableEq κ] in
theorem map_map (table : OrderedTable κ ρ) (first second : κ → ρ → ρ) :
    (table.map first).map second = table.map fun key row => second key (first key row) := by
  simp [map, Function.comp_def]

omit [DecidableEq κ] in
@[simp] theorem map_id (table : OrderedTable κ ρ) : (table.map fun _ row => row) = table := by
  simp [map]

/-- Changes that agree on the rows that are there. -/
theorem map_congr {first second : κ → ρ → ρ}
    (same : ∀ key row, table.get key = some row → first key row = second key row) :
    table.map first = table.map second := by
  have rows : table.rows.map (fun row => (row.1, first row.1 row.2)) =
      table.rows.map fun row => (row.1, second row.1 row.2) := by
    refine List.map_congr_left fun row member => ?_
    rw [same row.1 row.2 (mem_rows_iff.mp member)]
  simp [map, rows]

theorem get_map (table : OrderedTable κ ρ) (change : κ → ρ → ρ) (key : κ) :
    (table.map change).get key = (table.get key).map (change key) := by
  ext found
  rw [← mem_rows_iff, Option.map_eq_some_iff]
  simp only [map, List.mem_map, Prod.mk.injEq]
  constructor
  · rintro ⟨⟨_, before⟩, member, rfl, rfl⟩
    exact ⟨before, mem_rows_iff.mp member, rfl⟩
  · rintro ⟨before, there, rfl⟩
    exact ⟨(key, before), mem_rows_iff.mpr there, rfl, rfl⟩

theorem get_modify (table : OrderedTable κ ρ) (key other : κ) (change : ρ → ρ) :
    (table.modify key change).get other =
      (table.get other).map fun row => if other = key then change row else row :=
  get_map table _ other

theorem rows_set_of_fresh (fresh : table.get key = none) :
    (table.set key row).rows = table.rows ++ [(key, row)] := by
  simp [set, not_mem_keys_iff.mpr fresh]

theorem set_of_present {old : ρ} (present : table.get key = some old) :
    table.set key row = table.modify key fun _ => row := by
  have inside : key ∈ table.keys := mem_keys_iff.mpr (present ▸ rfl)
  simp [set, inside]

theorem get_set (table : OrderedTable κ ρ) (key other : κ) (row : ρ) :
    (table.set key row).get other = if other = key then some row else table.get other := by
  cases before : table.get key with
  | some old =>
      rw [set_of_present before, get_modify]
      by_cases same : other = key
      · simp [same, before]
      · simp [same]
  | none =>
      ext found
      rw [← mem_rows_iff, rows_set_of_fresh before, List.mem_append, List.mem_singleton,
        mem_rows_iff, Prod.mk.injEq]
      by_cases same : other = key
      · simp [same, before, eq_comm]
      · simp [same]

theorem get_set_eq_some {table : OrderedTable κ ρ} {key other : κ} {row found : ρ} :
    (table.set key row).get other = some found ↔
      other = key ∧ found = row ∨ other ≠ key ∧ table.get other = some found := by
  rw [get_set]
  split <;> simp_all [eq_comm]

/-- Storing the rows of a table one after the other gives the table. -/
theorem foldl_set (table : OrderedTable κ ρ) :
    table.rows.foldl (fun stored row => stored.set row.1 row.2) empty = table := by
  obtain ⟨rows, nodup⟩ := table
  have stored : (rows.foldl (fun stored row => stored.set row.1 row.2)
      (empty : OrderedTable κ ρ)).rows = rows := by
    induction rows using List.reverseRecOn with
    | nil => rfl
    | append_singleton rows last ih =>
        rw [List.map_append, List.nodup_append] at nodup
        obtain ⟨nodup, -, apart⟩ := nodup
        have earlier := ih nodup
        rw [List.foldl_append, List.foldl_cons, List.foldl_nil, rows_set_of_fresh, earlier]
        rw [← not_mem_keys_iff, keys, earlier]
        intro inside
        exact apart last.1 inside last.1 (List.mem_singleton_self _) rfl
  cases whole : rows.foldl (fun stored row => stored.set row.1 row.2) empty with
  | mk found _ =>
      rw [whole] at stored
      subst stored
      rfl

end Rows

end OrderedTable

end TrustChain.Library
