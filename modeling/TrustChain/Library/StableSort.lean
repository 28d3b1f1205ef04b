import Mathlib.Data.List.Nodup
import Mathlib.Order.Lattice

/-!
# Sorting by a key, and rankings

A stable sort keeps the order of the elements with one key. So what it gives depends on
nothing but the elements of each key in their order.

A ranking works every candidate over, drops some of them and sorts the others by a key. If the
key tells the candidates apart, the order in which they are listed does not matter. What has been
ranked stays as it is in a second ranking exactly if no candidate changes once it has been worked
over.
-/

namespace TrustChain.Library

section Sorting

variable {α κ : Type*} [LinearOrder κ] (key : α → κ)

/-- Sorted by the key; elements with one key in the order they were in. -/
def sortBy (list : List α) : List α :=
  list.mergeSort fun left right => decide (key left ≤ key right)

/-- The elements with a key, in their order. -/
def withKey (value : κ) (list : List α) : List α := list.filter fun element => key element = value

theorem sortBy_perm (list : List α) : (sortBy key list).Perm list := List.mergeSort_perm _ _

variable {key}

theorem sortBy_sorted (list : List α) :
    (sortBy key list).Pairwise fun left right => key left ≤ key right := by
  have sorted : (sortBy key list).Pairwise fun left right => decide (key left ≤ key right) = true :=
    List.pairwise_mergeSort (fun a b c => by simpa using le_trans)
      (fun a b => by simpa using le_total _ _) list
  exact sorted.imp fun le => decide_eq_true_eq.mp le

/-- Sorting keeps the order among the elements with one key. -/
theorem withKey_sortBy (value : κ) (list : List α) :
    withKey key value (sortBy key list) = withKey key value list := by
  have sorted : (withKey key value list).Pairwise fun left right =>
      decide (key left ≤ key right) = true := by
    refine List.pairwise_of_forall_mem_list fun left leftIn right rightIn => ?_
    simp only [withKey, List.mem_filter, decide_eq_true_eq] at leftIn rightIn
    rw [decide_eq_true_eq, leftIn.2, rightIn.2]
  have kept : (withKey key value list).Sublist (sortBy key list) :=
    List.sublist_mergeSort (fun a b c => by simpa using le_trans)
      (fun a b => by simpa using le_total _ _) sorted List.filter_sublist
  have within := kept.filter fun element => key element = value
  rw [withKey, List.filter_filter] at within
  refine (List.Sublist.eq_of_length ?_ ?_).symm
  · simpa [withKey] using within
  · exact ((sortBy_perm key list).filter _).length_eq.symm

theorem head_le {first element : α} {list : List α}
    (sorted : (first :: list).Pairwise fun left right => key left ≤ key right)
    (present : element ∈ first :: list) : key first ≤ key element := by
  rcases List.mem_cons.mp present with rfl | later
  · exact le_rfl
  · exact List.rel_of_pairwise_cons sorted later

/-- Two sorted lists with the same elements for every key are the same. -/
theorem sorted_ext {list other : List α}
    (sorted : list.Pairwise fun left right => key left ≤ key right)
    (otherSorted : other.Pairwise fun left right => key left ≤ key right)
    (same : ∀ value, withKey key value list = withKey key value other) : list = other := by
  induction list generalizing other with
  | nil =>
      cases other with
      | nil => rfl
      | cons head rest =>
          have found := same (key head)
          simp [withKey] at found
  | cons first list ih =>
      cases other with
      | nil =>
          have found := same (key first)
          simp [withKey] at found
      | cons head rest =>
          have members : ∀ element, element ∈ first :: list ↔ element ∈ head :: rest := by
            intro element
            have found := same (key element)
            simpa [withKey, List.mem_filter] using congrArg (element ∈ ·) found
          have keys : key first = key head := le_antisymm
            (head_le sorted ((members head).mpr List.mem_cons_self))
            (head_le otherSorted ((members first).mp List.mem_cons_self))
          have heads : first = head := by
            have found := same (key first)
            rw [withKey, withKey, List.filter_cons_of_pos (by simp),
              List.filter_cons_of_pos (by simp [keys])] at found
            exact (List.cons.inj found).1
          subst heads
          congr 1
          refine ih sorted.of_cons otherSorted.of_cons fun value => ?_
          have found := same value
          rw [withKey, withKey, List.filter_cons, List.filter_cons] at found
          split at found
          · exact (List.cons.inj found).2
          · exact found

/-- The order in which elements with different keys are listed does not matter. -/
theorem sortBy_eq {list other : List α}
    (same : ∀ value, withKey key value list = withKey key value other) :
    sortBy key list = sortBy key other := by
  refine sorted_ext (sortBy_sorted list) (sortBy_sorted other) fun value => ?_
  rw [withKey_sortBy, withKey_sortBy, same]

end Sorting

/-! ## Elements with different names -/

section Distinct

variable {α κ ν : Type*} {name : α → ν} {list other : List α} {left right : α}

/-- Elements with different names are told apart by them. -/
theorem eq_of_name_eq (distinct : list.Pairwise fun left right => name left ≠ name right)
    (leftIn : left ∈ list) (rightIn : right ∈ list) (same : name left = name right) :
    left = right :=
  List.inj_on_of_nodup_map (List.pairwise_map.2 distinct) leftIn rightIn same

variable [LinearOrder κ] {key : α → κ}

theorem sortBy_eq_self (sorted : list.Pairwise fun left right => key left ≤ key right) :
    sortBy key list = list :=
  List.mergeSort_of_pairwise (sorted.imp fun le => decide_eq_true le)

/-- What is sorted by keys that tell its elements apart does not depend on their order. -/
theorem sortBy_of_perm (perm : list.Perm other)
    (distinct : list.Pairwise fun left right => key left ≠ key right) :
    sortBy key list = sortBy key other := by
  have same : (sortBy key list).Perm (sortBy key other) :=
    (sortBy_perm key list).trans (perm.trans (sortBy_perm key other).symm)
  apply same.eq_of_pairwise _ (sortBy_sorted list) (sortBy_sorted other)
  intro left right leftIn rightIn le ge
  apply eq_of_name_eq distinct ((sortBy_perm key list).mem_iff.1 leftIn) _ (le_antisymm le ge)
  exact perm.mem_iff.2 ((sortBy_perm key other).mem_iff.1 rightIn)

end Distinct

/-! ## Rankings -/

/-- The first elements, as many as the limit allows. -/
def limited {α : Type*} (limit : Option ℕ) (list : List α) : List α := limit.elim list list.take

theorem limited_sublist {α : Type*} (limit : Option ℕ) (list : List α) :
    (limited limit list).Sublist list := by
  cases limit with
  | none => exact .refl _
  | some count => exact List.take_sublist count list

/-- A list that is no longer than what the limit has allowed is not cut. -/
theorem limited_eq_self {α : Type*} {limit : Option ℕ} {list other : List α}
    (short : list.length = (limited limit other).length) : limited limit list = list := by
  cases limit with
  | none => rfl
  | some count =>
      apply List.take_of_length_le
      simp [short, limited]

variable {α κ ν υ : Type*}

/-- Once it has been worked over, a candidate looks the same when it is worked over again. -/
def Settled (enrich : α → Option α) (view : α → υ) (card : α) : Prop :=
  ∀ once, enrich card = some once → ∀ twice, enrich once = some twice → view twice = view once

/-- Candidates keep their names, and a key tells the name, as does what a candidate looks like. -/
structure Named (enrich : α → Option α) (key : α → κ) (view : α → υ) (name : α → ν) : Prop where
  kept : ∀ card once, enrich card = some once → name once = name card
  told : ∀ left right, key left = key right → name left = name right
  shown : ∀ left right, view left = view right → name left = name right

/-- What has been worked over can be worked over again, and has its old key if it looks the
same then. -/
def Resumes (enrich : α → Option α) (key : α → κ) (view : α → υ) : Prop :=
  ∀ card once, enrich card = some once →
    ∃ twice, enrich once = some twice ∧ (view twice = view once → key twice = key once)

theorem Named.distinct {enrich : α → Option α} {key : α → κ} {view : α → υ} {name : α → ν}
    {candidates : List α} (named : Named enrich key view name)
    (distinct : candidates.Pairwise fun left right => name left ≠ name right) :
    (candidates.filterMap enrich).Pairwise fun left right => name left ≠ name right := by
  apply List.pairwise_filterMap.2
  apply distinct.imp
  intro left right differ leftOnce leftEnriched rightOnce rightEnriched same
  rw [named.kept left leftOnce leftEnriched, named.kept right rightOnce rightEnriched] at same
  exact differ same

variable [LinearOrder κ]

/-- The candidates that are kept, worked over and in the order of their keys. -/
def rank (enrich : α → Option α) (key : α → κ) (candidates : List α) : List α :=
  sortBy key (candidates.filterMap enrich)

section Ranking

variable {enrich : α → Option α} {key : α → κ} {view : α → υ} {name : α → ν}
  {candidates others ranked : List α}

theorem mem_rank {once : α} :
    once ∈ rank enrich key candidates ↔ ∃ card ∈ candidates, enrich card = some once := by
  rw [rank, (sortBy_perm key _).mem_iff, List.mem_filterMap]

theorem Named.distinct_rank (named : Named enrich key view name)
    (distinct : candidates.Pairwise fun left right => name left ≠ name right) :
    (rank enrich key candidates).Pairwise fun left right => name left ≠ name right :=
  (named.distinct distinct).perm (sortBy_perm key _).symm fun differ => differ.symm

/-- The order in which the candidates are listed does not matter. -/
theorem rank_of_perm (named : Named enrich key view name)
    (distinct : candidates.Pairwise fun left right => name left ≠ name right)
    (perm : candidates.Perm others) : rank enrich key candidates = rank enrich key others := by
  apply sortBy_of_perm (perm.filterMap enrich)
  apply (named.distinct distinct).imp
  intro left right differ same
  exact differ (named.told left right same)

theorem map_filterMap_self {γ : Type*} {seen : α → γ}
    (again : ∀ once ∈ ranked, ∃ twice, enrich once = some twice ∧ seen twice = seen once) :
    (ranked.filterMap enrich).map seen = ranked.map seen := by
  induction ranked with
  | nil => rfl
  | cons once rest ih =>
      obtain ⟨twice, enriched, same⟩ := again once List.mem_cons_self
      rw [List.filterMap_cons_some enriched, List.map_cons, List.map_cons, same,
        ih fun later member => again later (List.mem_cons_of_mem once member)]

/-- What looks the same after another turn is ranked as it was. -/
theorem rank_again (resumes : Resumes enrich key view)
    (sorted : ranked.Pairwise fun left right => key left ≤ key right)
    (origin : ∀ once ∈ ranked, ∃ card, enrich card = some once)
    (settled : ∀ once ∈ ranked, ∀ twice, enrich once = some twice → view twice = view once) :
    (rank enrich key ranked).map view = ranked.map view := by
  have again : ∀ once ∈ ranked, ∃ twice, enrich once = some twice ∧ view twice = view once ∧
      key twice = key once := by
    intro once member
    obtain ⟨card, enriched⟩ := origin once member
    obtain ⟨twice, enrichedAgain, keyed⟩ := resumes card once enriched
    have same := settled once member twice enrichedAgain
    exact ⟨twice, enrichedAgain, same, keyed same⟩
  have views : (ranked.filterMap enrich).map view = ranked.map view := by
    apply map_filterMap_self
    intro once member
    obtain ⟨twice, enriched, same, _⟩ := again once member
    exact ⟨twice, enriched, same⟩
  have keys : (ranked.filterMap enrich).map key = ranked.map key := by
    apply map_filterMap_self
    intro once member
    obtain ⟨twice, enriched, _, same⟩ := again once member
    exact ⟨twice, enriched, same⟩
  have stillSorted : (ranked.filterMap enrich).Pairwise fun left right => key left ≤ key right := by
    rw [← List.pairwise_map (f := key), keys, List.pairwise_map]
    exact sorted
  rw [rank, sortBy_eq_self stillSorted, views]

/-- Names that are told apart make sure that each candidate is compared with itself. -/
theorem settled_of_rank_again (named : Named enrich key view name)
    (distinct : ranked.Pairwise fun left right => name left ≠ name right)
    (same : (rank enrich key ranked).map view = ranked.map view) {once twice : α}
    (member : once ∈ ranked) (enriched : enrich once = some twice) : view twice = view once := by
  have shown : view twice ∈ ranked.map view := by
    rw [← same]
    exact List.mem_map_of_mem (mem_rank.2 ⟨once, member, enriched⟩)
  obtain ⟨other, inside, looks⟩ := List.mem_map.1 shown
  have names : name other = name once :=
    (named.shown other twice looks).trans (named.kept once twice enriched)
  obtain rfl := eq_of_name_eq distinct inside member names
  exact looks.symm

/-- Rankings of rankings, at every limit, give the same exactly if every candidate is settled. -/
theorem rank_rank_iff (named : Named enrich key view name) (resumes : Resumes enrich key view)
    (distinct : candidates.Pairwise fun left right => name left ≠ name right) :
    (∀ limit, (limited limit (rank enrich key (limited limit (rank enrich key candidates)))).map
      view = (limited limit (rank enrich key candidates)).map view) ↔
      ∀ card ∈ candidates, Settled enrich view card := by
  constructor
  · intro stable card member once enriched twice enrichedAgain
    exact settled_of_rank_again named (named.distinct_rank distinct) (stable none)
      (mem_rank.2 ⟨card, member, enriched⟩) enrichedAgain
  · intro settled limit
    have sublist := limited_sublist limit (rank enrich key candidates)
    have same : (rank enrich key (limited limit (rank enrich key candidates))).map view =
        (limited limit (rank enrich key candidates)).map view := by
      apply rank_again resumes (List.Pairwise.sublist sublist (sortBy_sorted _))
      · intro once member
        obtain ⟨card, _, enriched⟩ := mem_rank.1 (sublist.subset member)
        exact ⟨card, enriched⟩
      · intro once member
        obtain ⟨card, inside, enriched⟩ := mem_rank.1 (sublist.subset member)
        exact settled card inside once enriched
    rw [limited_eq_self, same]
    simpa using congrArg List.length same

end Ranking

end TrustChain.Library
