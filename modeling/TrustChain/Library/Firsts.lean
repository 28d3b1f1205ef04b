import Mathlib.Data.List.Dedup
import Mathlib.Data.List.Perm.Basic

/-!
# The first entry of each key

A loop that keeps an entry of a list if no entry with its key came before it. It keeps the first
entry of each key, and as many entries as the list has with pairwise different keys.
-/

namespace TrustChain.Library

variable {α κ : Type*} [DecidableEq κ] (key : α → κ)

/-- The entries whose key has neither been seen nor come before. -/
def firstsAfter (seen : List κ) : List α → List α
  | [] => []
  | entry :: rest =>
      if key entry ∈ seen then firstsAfter seen rest
      else entry :: firstsAfter (key entry :: seen) rest

def firsts (list : List α) : List α := firstsAfter key [] list

variable {key} {seen : List κ} {list chosen : List α} {entry : α}

theorem mem_firstsAfter : entry ∈ firstsAfter key seen list ↔
    key entry ∉ seen ∧ list.find? (fun other => key other = key entry) = some entry := by
  induction list generalizing seen with
  | nil => simp [firstsAfter]
  | cons head rest ih =>
      rw [firstsAfter, List.find?_cons]
      by_cases same : key head = key entry
      · simp only [same, decide_true, Option.some.injEq]
        split
        case isTrue known =>
          rw [ih]
          exact ⟨fun late => absurd known late.1, fun early => absurd known early.1⟩
        case isFalse unknown =>
          rw [List.mem_cons, ih]
          constructor
          · rintro (rfl | late)
            · exact ⟨unknown, rfl⟩
            · exact absurd List.mem_cons_self late.1
          · rintro ⟨-, rfl⟩
            exact .inl rfl
      · simp only [same, decide_false]
        split
        case isTrue => exact ih
        case isFalse =>
          rw [List.mem_cons, ih, List.mem_cons]
          constructor
          · rintro (rfl | ⟨unknown, found⟩)
            · exact absurd rfl same
            · exact ⟨fun known => unknown (.inr known), found⟩
          · rintro ⟨unknown, found⟩
            exact .inr ⟨not_or.mpr ⟨Ne.symm same, unknown⟩, found⟩

/-- What is kept is the first entry of its key. -/
theorem mem_firsts :
    entry ∈ firsts key list ↔ list.find? (fun other => key other = key entry) = some entry := by
  simp [firsts, mem_firstsAfter]

theorem mem_of_mem_firsts (kept : entry ∈ firsts key list) : entry ∈ list :=
  List.mem_of_find?_eq_some (mem_firsts.mp kept)

theorem nodup_firstsAfter : ((firstsAfter key seen list).map key).Nodup := by
  induction list generalizing seen with
  | nil => exact List.nodup_nil
  | cons head rest ih =>
      rw [firstsAfter]
      split
      case isTrue => exact ih
      case isFalse =>
        refine List.nodup_cons.mpr ⟨fun again => ?_, ih⟩
        obtain ⟨other, kept, same⟩ := List.mem_map.mp again
        exact (mem_firstsAfter.mp kept).1 (same ▸ List.mem_cons_self)

theorem nodup_firsts : ((firsts key list).map key).Nodup := nodup_firstsAfter

theorem firstsAfter_map {image : α → α} (same : ∀ entry, key (image entry) = key entry) :
    firstsAfter key seen (list.map image) = (firstsAfter key seen list).map image := by
  induction list generalizing seen with
  | nil => rfl
  | cons head rest ih =>
      rw [List.map_cons, firstsAfter, firstsAfter, same]
      split
      · exact ih
      · rw [ih, List.map_cons]

/-- A change that leaves the keys alone commutes with keeping the firsts. -/
theorem firsts_map {image : α → α} (same : ∀ entry, key (image entry) = key entry) :
    firsts key (list.map image) = (firsts key list).map image :=
  firstsAfter_map same

variable (key) in
/-- Every key of the list has a first entry. -/
theorem exists_first (member : entry ∈ list) :
    ∃ first ∈ firsts key list, key first = key entry := by
  have some : (list.find? fun other => key other = key entry).isSome :=
    List.find?_isSome.mpr ⟨entry, member, decide_eq_true rfl⟩
  obtain ⟨first, found⟩ := Option.isSome_iff_exists.mp some
  have same : key first = key entry := by simpa using List.find?_some found
  exact ⟨first, mem_firsts.mpr (same ▸ found), same⟩

variable (key) in
theorem exists_first_filter {holds : α → Prop} [DecidablePred holds] (member : entry ∈ list)
    (here : holds entry) :
    ∃ first ∈ firsts key (list.filter fun entry => holds entry), key first = key entry :=
  exists_first key (List.mem_filter.mpr ⟨member, decide_eq_true here⟩)

/-- The firsts are as many as a list can have entries with pairwise different keys. -/
theorem exists_distinct_iff {holds : α → Prop} [DecidablePred holds] {least : Nat} :
    (∃ chosen, chosen ⊆ list ∧ (chosen.map key).Nodup ∧ (∀ entry ∈ chosen, holds entry) ∧
        least ≤ chosen.length) ↔
      least ≤ (firsts key (list.filter fun entry => holds entry)).length := by
  constructor
  · rintro ⟨chosen, contained, distinct, all, enough⟩
    have covered :
        chosen.map key ⊆ (firsts key (list.filter fun entry => holds entry)).map key := by
      intro value inside
      obtain ⟨entry, member, rfl⟩ := List.mem_map.mp inside
      obtain ⟨first, kept, same⟩ := exists_first_filter key (contained member) (all entry member)
      exact List.mem_map.mpr ⟨first, kept, same⟩
    have fewer := (List.subperm_of_subset distinct covered).length_le
    rw [List.length_map, List.length_map] at fewer
    exact Nat.le_trans enough fewer
  · intro enough
    refine ⟨_, fun entry kept => ?_, nodup_firsts, fun entry kept => ?_, enough⟩
    · exact (List.mem_filter.mp (mem_of_mem_firsts kept)).1
    · exact of_decide_eq_true (List.mem_filter.mp (mem_of_mem_firsts kept)).2

/-- Of entries with different keys, those are additional whose keys are not among the others'. -/
theorem length_eq_add_missing {some all : List α} (distinct : (some.map key).Nodup)
    (allDistinct : (all.map key).Nodup) (contained : some.map key ⊆ all.map key) :
    all.length = some.length + (all.filter fun entry => key entry ∉ some.map key).length := by
  have same : ((all.filter fun entry => key entry ∈ some.map key).map key).Perm (some.map key) := by
    refine (List.perm_ext_iff_of_nodup (allDistinct.sublist ?_) distinct).mpr fun value => ?_
    · exact List.filter_sublist.map key
    · constructor
      · intro inside
        obtain ⟨entry, kept, rfl⟩ := List.mem_map.mp inside
        exact of_decide_eq_true (List.mem_filter.mp kept).2
      · intro inside
        obtain ⟨entry, member, rfl⟩ := List.mem_map.mp (contained inside)
        exact List.mem_map.mpr ⟨entry, List.mem_filter.mpr ⟨member, decide_eq_true inside⟩, rfl⟩
  have lengths := same.length_eq
  rw [List.length_map, List.length_map] at lengths
  rw [← lengths, List.length_eq_length_filter_add fun entry => key entry ∈ some.map key]
  simp only [decide_not]

end TrustChain.Library
