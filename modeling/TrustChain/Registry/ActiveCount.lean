import Mathlib.Data.Set.Card
import TrustChain.Registry.Effects

/-!
# The count of active verifiers

A removed verifier keeps its entry in the list, and registering it again adds a second one.
The count goes through the list, so from then on it counts this verifier twice while it is
active. It is right along exactly the runs that register nobody again.
-/

namespace TrustChain.Registry

open Library Function

namespace Storage

/-- The wallets for which `isActiveVerifier` answers yes. -/
def activeWallets (storage : Storage) : Set Address :=
  {wallet | storage.isActiveVerifier wallet = true}

/-- The wallets that are registered now. -/
def registeredWallets (storage : Storage) : Set Address :=
  {wallet | (storage.verifiers wallet).wallet ≠ 0}

/-- The entries of the list that are counted. -/
def countedEntries (storage : Storage) : List Address :=
  storage.verifierList.filter fun wallet => (storage.verifiers wallet).active

/-- The count is not that of the distinct active wallets. -/
def Miscounts (storage : Storage) : Prop :=
  storage.activeCount ≠ storage.activeWallets.ncard

/-- A verifier is stored under its own wallet, its wallet is in the list, and nobody else is
active. -/
structure Listed (storage : Storage) : Prop where
  own : ∀ wallet, (storage.verifiers wallet).wallet ≠ 0 →
    (storage.verifiers wallet).wallet = wallet ∧ wallet ∈ storage.verifierList
  registered : ∀ wallet, (storage.verifiers wallet).active = true →
    (storage.verifiers wallet).wallet ≠ 0

namespace Listed

variable {storage : Storage}

theorem activeWallets_eq (listed : storage.Listed) :
    storage.activeWallets = storage.countedEntries.toFinset := by
  ext wallet
  simp only [activeWallets, isActiveVerifier, Set.mem_ofPred_eq, countedEntries,
    SetLike.mem_coe, List.mem_toFinset, List.mem_filter, decide_eq_true_eq]
  constructor
  · intro active
    exact ⟨(listed.own wallet active.1).2, active.2⟩
  · intro counted
    exact ⟨listed.registered wallet counted.2, counted.2⟩

/-- The count is right exactly if no active wallet is in the list twice. -/
theorem miscounts_iff (listed : storage.Listed) :
    storage.Miscounts ↔ ¬storage.countedEntries.Nodup := by
  have counted : storage.activeCount = storage.countedEntries.length :=
    List.countP_eq_length_filter
  rw [Miscounts, counted, listed.activeWallets_eq, Set.ncard_coe_finset, not_iff_not, eq_comm]
  exact Multiset.toFinset_card_eq_card_iff_nodup

theorem registeredWallets_subset (listed : storage.Listed) :
    storage.registeredWallets ⊆ storage.verifierList.toFinset := by
  intro wallet registered
  exact List.mem_toFinset.mpr (listed.own wallet registered).2

/-- An active wallet is registered. -/
theorem active_le_registered (listed : storage.Listed) :
    storage.activeWallets.ncard ≤ storage.registeredWallets.ncard := by
  have finite := storage.verifierList.toFinset.finite_toSet.subset listed.registeredWallets_subset
  refine Set.ncard_le_ncard (fun wallet active => ?_) finite
  rw [listed.activeWallets_eq] at active
  exact listed.registered wallet (List.mem_filter.mp (List.mem_toFinset.mp active)).2

end Listed

end Storage

/-- Nobody is registered who was registered before. -/
def Fresh (world : World) (action : Action) : Prop :=
  ∀ wallet ∈ action.enrols, wallet ∉ world.storage.verifierList

instance (world : World) (action : Action) : Decidable (Fresh world action) :=
  decidable_of_iff (action.enrols.all (· ∉ world.storage.verifierList) = true) <| by
    simp [Fresh, Option.all_eq_true]

/-- A registration raises the expected total above the number of registered wallets. -/
def Overshoots (world : World) (action : Action) (next : World) : Prop :=
  action.enrols.isSome ∧
    world.storage.defaultTotalVerifiers < next.storage.defaultTotalVerifiers ∧
    next.storage.registeredWallets.ncard < next.storage.defaultTotalVerifiers

section Calls

variable {deployment : Deployment} {ext : Externals} {sender : Address} {world next : World}

theorem step_rolled {action : Action} (step : (system deployment).Step world action next) :
    Rolled world.storage next.storage action.enrols := by
  cases action with
  | call sender ext call => exact (dispatch_effect (step_call.mp step).2).1
  | token token operation =>
      obtain ⟨-, ledger, -, rfl⟩ := step_token.mp step
      exact .kept rfl rfl

end Calls

section Lists

variable {storage next : Storage} {enrols : Option Address}

theorem Rolled.listed (rolled : Rolled storage next enrols) (listed : storage.Listed) :
    next.Listed := by
  cases rolled with
  | enrolled wallet info nonzero blank named active records entries bumped =>
      constructor
      · intro other registered
        rw [records] at registered ⊢
        rw [entries, List.mem_append, List.mem_singleton]
        by_cases same : other = wallet
        · subst same
          rw [update_self, named]
          exact ⟨rfl, .inr rfl⟩
        · rw [update_of_ne same] at registered ⊢
          exact ⟨(listed.own other registered).1, .inl (listed.own other registered).2⟩
      · intro other counted
        rw [records] at counted ⊢
        by_cases same : other = wallet
        · rw [same, update_self, named]
          exact nonzero
        · rw [update_of_ne same] at counted ⊢
          exact listed.registered other counted
  | rewritten wallet info records entries registered before =>
      constructor
      · intro other present
        rw [records] at present ⊢
        rw [entries]
        by_cases same : other = wallet
        · subst same
          rw [update_self] at present ⊢
          rcases before with kept | rfl
          · rw [kept]
            exact listed.own other registered
          · exact absurd rfl present
        · rw [update_of_ne same] at present ⊢
          exact listed.own other present
      · intro other counted
        rw [records] at counted ⊢
        by_cases same : other = wallet
        · rw [same, update_self] at counted ⊢
          rcases before with kept | rfl
          · rw [kept]
            exact registered
          · cases counted
        · rw [update_of_ne same] at counted ⊢
          exact listed.registered other counted
  | kept records entries =>
      constructor
      · rw [records, entries]
        exact listed.own
      · rw [records]
        exact listed.registered

/-- Only the registration of a wallet that is in the list makes the list repeat one. -/
theorem Rolled.nodup_iff (rolled : Rolled storage next enrols) (once : storage.verifierList.Nodup) :
    next.verifierList.Nodup ↔ ∀ wallet ∈ enrols, wallet ∉ storage.verifierList := by
  cases rolled with
  | enrolled wallet info nonzero blank named active records entries bumped =>
      rw [entries, ← List.concat_eq_append, List.nodup_concat]
      simp [once]
  | rewritten wallet info records entries registered before => simp [entries, once]
  | kept records entries => simp [entries, once]

/-- A wallet registered again is active, and counted twice. -/
theorem Rolled.counted_twice {wallet : Address} (rolled : Rolled storage next (some wallet))
    (again : wallet ∈ storage.verifierList) : ¬next.countedEntries.Nodup := by
  cases rolled with
  | enrolled _ info nonzero blank named active records entries bumped =>
      have counted : (next.verifiers wallet).active = true := by
        rw [records, update_self, active]
      intro once
      rw [Storage.countedEntries, entries, List.filter_append] at once
      refine List.disjoint_of_nodup_append once (a := wallet) ?_ ?_
      · exact List.mem_filter.mpr ⟨again, counted⟩
      · exact List.mem_filter.mpr ⟨List.mem_singleton_self wallet, counted⟩

end Lists

section Runs

variable {deployment : Deployment} {world start finish : World} {actions : List Action}

theorem listed_init (initial : (system deployment).Init world) : world.storage.Listed := by
  rw [initial.1]
  constructor
  · intro wallet registered
    exact absurd rfl registered
  · intro wallet active
    cases active

theorem reachable_listed (reachable : (system deployment).Reachable world) :
    world.storage.Listed := by
  refine reachable.invariant (fun state initial => ?_) (fun state action next _ inv step => ?_)
  · exact listed_init initial
  · exact (step_rolled step).listed inv

/-- With no wallet twice in the list, the count is right. -/
theorem not_miscounts (reachable : (system deployment).Reachable world)
    (once : world.storage.verifierList.Nodup) : ¬world.storage.Miscounts := by
  rw [(reachable_listed reachable).miscounts_iff, not_not]
  exact once.filter _

/-- A registration bumps the expected total to the count, so while the count is right it does
not pass the number of registered wallets. -/
theorem not_overshoots {next : World} {action : Action}
    (reachable : (system deployment).Reachable world)
    (step : (system deployment).Step world action next)
    (right : ¬next.storage.Miscounts) : ¬Overshoots world action next := by
  intro overshoot
  obtain ⟨registers, raised, above⟩ := overshoot
  have rolled := step_rolled step
  have listed := reachable_listed (reachable.step step)
  cases enrolled : action.enrols with
  | none => simp [enrolled] at registers
  | some wallet =>
      rw [enrolled] at rolled
      cases rolled with
      | enrolled _ info nonzero blank named active records entries bumped =>
          rw [Storage.Miscounts, not_not] at right
          have fewer := listed.active_le_registered
          rw [← right] at fewer
          rw [bumped] at raised above
          rcases max_cases world.storage.defaultTotalVerifiers next.storage.activeCount with
            kept | counted
          · omega
          · omega

/-- A run passes through a miscounting state as soon as the list repeats a wallet. -/
theorem miscounts_onset (initial : (system deployment).Init start)
    (run : (system deployment).Run start actions finish)
    (repeated : ¬finish.storage.verifierList.Nodup) :
    (system deployment).Visits start actions finish fun world => world.storage.Miscounts := by
  have once : start.storage.verifierList.Nodup := by
    rw [initial.1]
    exact List.nodup_nil
  refine .of_onset (fun world : World => ¬world.storage.verifierList.Nodup) ?_ (.init initial)
    (not_not.mpr once) run repeated
  intro state action next reached step repeats
  by_cases before : state.storage.verifierList.Nodup
  · right; right
    have rolled := step_rolled step
    rw [rolled.nodup_iff before] at repeats
    push Not at repeats
    obtain ⟨wallet, enrolled, again⟩ := repeats
    rw [Option.mem_def.mp enrolled] at rolled
    exact (reachable_listed (reached.step step)).miscounts_iff.mpr (rolled.counted_twice again)
  · exact .inl before

/-- The list repeats a wallet somewhere on a run exactly if the count is wrong somewhere. -/
theorem repeats_iff_miscounts (initial : (system deployment).Init start) :
    (system deployment).Visits start actions finish
        (fun world => ¬world.storage.verifierList.Nodup) ↔
      (system deployment).Visits start actions finish (fun world => world.storage.Miscounts) := by
  constructor
  · rintro ⟨before, after, middle, rfl, earlier, later, repeated⟩
    obtain ⟨first, rest, visited, rfl, reaches, leaves, wrong⟩ :=
      miscounts_onset initial earlier repeated
    exact ⟨first, rest ++ after, visited, List.append_assoc _ _ _, reaches,
      leaves.append later, wrong⟩
  · rintro ⟨before, after, middle, rfl, earlier, later, wrong⟩
    refine ⟨before, after, middle, rfl, earlier, later, fun once => ?_⟩
    exact not_miscounts ⟨start, before, initial, earlier⟩ once wrong

/-- The count is right in every state of a run, and no registration raises the expected total
above the number of registered wallets, exactly if nobody is registered twice. -/
theorem run_fresh_iff (initial : (system deployment).Init start)
    (run : (system deployment).Run start actions finish) :
    ((system deployment).restrict Fresh).Run start actions finish ↔
      ¬(system deployment).Visits start actions finish
          (fun world => world.storage.Miscounts) ∧
        ¬(system deployment).Takes start actions finish Overshoots := by
  have once : start.storage.verifierList.Nodup := by
    rw [initial.1]
    exact List.nodup_nil
  have exactly : ((system deployment).restrict Fresh).Run start actions finish ↔
      ¬(system deployment).Visits start actions finish
          (fun world => ¬world.storage.verifierList.Nodup) ∧
        ¬(system deployment).Takes start actions finish Overshoots := by
    refine run.restrict_iff_kept (fun _ _ _ _ => step_unique) ?_ (.init initial) once
    intro state action next reached before step
    have kept := (step_rolled step).nodup_iff before
    constructor
    · intro fresh
      have after := kept.mpr fresh
      exact ⟨after, not_overshoots reached step (not_miscounts (reached.step step) after)⟩
    · intro after
      exact kept.mp after.1
  rw [exactly, not_iff_not.mpr (repeats_iff_miscounts initial)]

end Runs

namespace Demo

/-- A verifier joins and is removed again. -/
def rejoining : List Action :=
  [call admin (.registerVerifier verifier "" 0), call admin (.removeVerifier verifier)]

/-- It has joined and left five times. -/
def gone : Scene (perform deployment) {} where
  actions := (List.replicate 5 rejoining).flatten
  possible := by decide +kernel

/-- It joins for the sixth time. -/
def back : Scene (perform deployment) {} :=
  gone.next (call admin (.registerVerifier verifier "" 0)) (by decide +kernel)

/-- Perform an action that registers nobody again. -/
def performFresh (world : World) (action : Action) : Option World :=
  if Fresh world action then perform deployment world action else none

theorem performFresh_sound (world : World) (action : Action) (next : World)
    (performed : performFresh world action = some next) :
    ((system deployment).restrict Fresh).Step world action next := by
  rw [performFresh, Option.ite_none_right_eq_some] at performed
  exact ⟨performed.2, performed.1⟩

/-- Two verifiers join, and one is suspended. -/
def suspended : Scene performFresh {} where
  actions := [call admin (.registerVerifier verifier "" 0),
    call admin (.registerVerifier other "" 0), call admin (.suspendVerifier verifier)]
  possible := by decide +kernel

end Demo

/-- A single verifier that was removed five times counts for six, and the expected total is
raised to six. -/
theorem rejoined_miscounts :
    (system Demo.deployment).Init {} ∧
    (system Demo.deployment).Run {} Demo.back.actions Demo.back.world ∧
    Demo.back.world.storage.activeCount = 6 ∧
    Demo.back.world.storage.activeWallets.ncard = 1 ∧
    (system Demo.deployment).Takes {} Demo.back.actions Demo.back.world Overshoots := by
  have gone : (system Demo.deployment).Run {} Demo.gone.actions Demo.gone.world :=
    Demo.gone.run fun _ _ _ performed => performed
  have back : (system Demo.deployment).Run {} Demo.back.actions Demo.back.world :=
    Demo.back.run fun _ _ _ performed => performed
  have listed := reachable_listed ⟨{}, Demo.back.actions, Demo.start_init, back⟩
  have one : Demo.back.world.storage.activeWallets.ncard = 1 := by
    rw [listed.activeWallets_eq, Set.ncard_coe_finset]
    decide +kernel
  have registered : Demo.back.world.storage.registeredWallets.ncard ≤ 1 := by
    refine (Set.ncard_le_ncard listed.registeredWallets_subset).trans ?_
    rw [Set.ncard_coe_finset]
    decide +kernel
  have raised : Demo.back.world.storage.defaultTotalVerifiers = 6 := by decide +kernel
  refine ⟨Demo.start_init, back, by decide +kernel, one, ?_⟩
  refine .last gone (Demo.gone.performed _ _) ⟨rfl, ?_, ?_⟩
  · exact raised ▸ (by decide +kernel)
  · exact raised ▸ (by omega)

theorem run_fresh_iff_suspended :
    ¬(system Demo.deployment).Visits {} Demo.suspended.actions Demo.suspended.world
      (fun world => world.storage.Miscounts) := by
  have fresh := Demo.suspended.run Demo.performFresh_sound
  exact ((run_fresh_iff Demo.start_init fresh.of_restrict).mp fresh).1

end TrustChain.Registry
