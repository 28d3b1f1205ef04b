import TrustChain.Registry.Effects

/-!
# Stake solvency

Stakes are recorded by transfers and by registrations, and rewards are paid out of the
tokens that back them. The registry holds what it has recorded in exactly the runs in which
every registration records, and every reward pays, no more than what it holds in excess.
-/

namespace TrustChain.Registry

open Library Function Finset

/-- What the registry owes a verifier; a removed one is owed nothing. -/
def VerifierInfo.staked (v : VerifierInfo) : Nat := if v.wallet ≠ 0 then v.stakeAmount else 0

namespace Storage

/-- The sum of the stakes of all registered verifiers, each counted once however often it
was registered. -/
def totalStake (storage : Storage) : Nat :=
  ∑ wallet ∈ storage.verifierList.toFinset, (storage.verifiers wallet).staked

end Storage

/-- What the registry holds of the staking token. -/
def World.held (deployment : Deployment) (world : World) : Nat :=
  (world.tokens world.storage.stakingToken).balanceOf deployment.self

/-- Once there is a staking token, the registry holds every recorded stake in it. -/
def Solvent (deployment : Deployment) (world : World) : Prop :=
  world.storage.stakingToken ≠ 0 → world.storage.totalStake ≤ world.held deployment

/-- A standard staking token reverts when it declines a transfer. -/
def Standard (world : World) : Action → Prop
  | .call _ ext _ => ext.refusalReverts world.storage.stakingToken = true
  | .token _ _ => True

instance (world : World) : (action : Action) → Decidable (Standard world action)
  | .call _ ext _ => inferInstanceAs (Decidable (ext.refusalReverts world.storage.stakingToken = true))
  | .token _ _ => inferInstanceAs (Decidable True)

/-- The registry with a standard staking token. -/
def standard (deployment : Deployment) : TransitionSystem World Action :=
  (system deployment).restrict Standard

/-- A registration records, and a reward pays, no more than what the registry holds in
excess of the stakes; and it holds the stakes in a token that becomes the staking token. -/
def Covered (deployment : Deployment) (world : World) : Action → Prop
  | .call _ _ (.registerVerifier _ _ stakeAmount) =>
      world.storage.stakingToken ≠ 0 →
        world.storage.totalStake + stakeAmount ≤ world.held deployment
  | .call _ _ (.rewardVerifier verifier amount) =>
      world.storage.stakingToken ≠ 0 → verifier ≠ deployment.self →
        world.storage.totalStake + amount ≤ world.held deployment
  | .call _ _ (.setStakingConfig token _ _) =>
      token ≠ 0 → world.storage.totalStake ≤ (world.tokens token).balanceOf deployment.self
  | _ => True

instance (deployment : Deployment) (world : World) : (action : Action) →
    Decidable (Covered deployment world action)
  | .token _ _ => inferInstanceAs (Decidable True)
  | .call _ _ call =>
      match call with
      | .registerVerifier _ _ stakeAmount =>
          inferInstanceAs (Decidable (world.storage.stakingToken ≠ 0 →
            world.storage.totalStake + stakeAmount ≤ world.held deployment))
      | .rewardVerifier verifier amount =>
          inferInstanceAs (Decidable (world.storage.stakingToken ≠ 0 →
            verifier ≠ deployment.self → world.storage.totalStake + amount ≤ world.held deployment))
      | .setStakingConfig token _ _ =>
          inferInstanceAs (Decidable (token ≠ 0 →
            world.storage.totalStake ≤ (world.tokens token).balanceOf deployment.self))
      | .setAuthorizedCaller .. | .removeVerifier _ | .suspendVerifier _ | .activateVerifier _
      | .setThresholds .. | .recordAttestation .. | .stake _ | .unstake _ | .slash .. =>
          inferInstanceAs (Decidable True)

theorem Call.Plain.covered {deployment : Deployment} {world : World} {sender : Address}
    {ext : Externals} {call : Call} (plain : call.Plain) :
    Covered deployment world (.call sender ext call) := by
  cases call with
  | registerVerifier | rewardVerifier | setStakingConfig => exact plain.elim
  | _ => trivial

section Books

variable {deployment : Deployment} {wallet : Address} {world next : World}

theorem totalStake_setVerifier (info : VerifierInfo) (listed : wallet ∈ world.storage.verifierList) :
    (world.setVerifier wallet info).storage.totalStake + (world.storage.verifiers wallet).staked =
      world.storage.totalStake + info.staked :=
  sum_update_add (List.mem_toFinset.mpr listed) world.storage.verifiers info VerifierInfo.staked

/-- Listing a wallet that is owed nothing changes no total. -/
theorem totalStake_listed (blank : (world.storage.verifiers wallet).wallet = 0) :
    Storage.totalStake { world.storage with verifierList := world.storage.verifierList ++ [wallet] } =
      world.storage.totalStake := by
  unfold Storage.totalStake
  rw [List.toFinset_append, List.toFinset_cons, List.toFinset_nil, insert_empty_eq,
    union_comm, singleton_union]
  exact sum_insert_of_eq_zero_if_notMem fun _ => by simp [VerifierInfo.staked, blank]

/-- Balance and stakes may move together. -/
theorem Solvent.shift (solvent : Solvent deployment world)
    (token : next.storage.stakingToken = world.storage.stakingToken)
    (shifted : next.storage.totalStake + world.held deployment ≤
      world.storage.totalStake + next.held deployment) : Solvent deployment next := by
  intro nonzero
  have covered := solvent (token ▸ nonzero)
  omega

/-- A call that touches no token and records no higher stake. -/
theorem Solvent.lower (solvent : Solvent deployment world)
    (token : next.storage.stakingToken = world.storage.stakingToken)
    (tokens : next.tokens = world.tokens)
    (lower : next.storage.totalStake ≤ world.storage.totalStake) : Solvent deployment next := by
  apply solvent.shift token
  rw [World.held, World.held, tokens, token]
  exact Nat.add_le_add_right lower _

end Books

/-! ## Runs -/

/-- What keeps the books readable: registered verifiers are listed, stakes are words, and
nobody may pull from the registry. -/
structure Consistent (deployment : Deployment) (world : World) : Prop where
  listed : ∀ wallet, (world.storage.verifiers wallet).wallet ≠ 0 →
    wallet ∈ world.storage.verifierList
  stake_lt : ∀ wallet, (world.storage.verifiers wallet).stakeAmount < wordSize
  unapproved : ∀ token, (world.tokens token).Unapproved deployment.self

section Consistency

variable {deployment : Deployment} {sender wallet : Address} {world next : World} {action : Action}
  {call : Call}

/-- A registered verifier's entry is rewritten with a stake that is a word. -/
theorem Consistent.rewrite (consistent : Consistent deployment world) (info : VerifierInfo)
    (registered : (world.storage.verifiers wallet).wallet ≠ 0)
    (fits : info.stakeAmount < wordSize) {tokens : Address → Erc20 Address} {events : List Event}
    (unapproved : ∀ token, (tokens token).Unapproved deployment.self) :
    Consistent deployment ⟨(world.setVerifier wallet info).storage, tokens, events⟩ where
  listed other present := by
    by_cases same : other = wallet
    · exact consistent.listed other (same ▸ registered)
    · apply consistent.listed other
      simpa [World.setVerifier, same] using present
  stake_lt other := by
    by_cases same : other = wallet
    · simpa [World.setVerifier, same] using fits
    · simpa [World.setVerifier, same] using consistent.stake_lt other
  unapproved := unapproved

/-- One token's ledger is replaced by one in which nobody may pull either. -/
theorem Consistent.ledger (consistent : Consistent deployment world) {token : Address}
    {ledger : Erc20 Address} (unapproved : ledger.Unapproved deployment.self) (other : Address) :
    (update world.tokens token ledger other).Unapproved deployment.self := by
  by_cases same : other = token
  · subst same
    rwa [update_self]
  · rw [update_of_ne same]
    exact consistent.unapproved other

theorem Effect.consistent (effect : Effect deployment sender world call next) (typed : call.Typed)
    (consistent : Consistent deployment world) : Consistent deployment next := by
  cases effect with
  | configured => exact ⟨consistent.listed, consistent.stake_lt, consistent.unapproved⟩
  | tokenSet => exact ⟨consistent.listed, consistent.stake_lt, consistent.unapproved⟩
  | registered wallet endpointUrl stakeAmount totalVerifiers events nonzero blank =>
      have fits : stakeAmount < wordSize := typed
      refine ⟨fun other present => ?_, fun other => ?_, consistent.unapproved⟩
      · by_cases same : other = wallet
        · simp [same]
        · refine List.mem_append_left _ (consistent.listed other ?_)
          simpa [same] using present
      · by_cases same : other = wallet
        · simpa [same] using fits
        · simpa [same] using consistent.stake_lt other
  | rewritten _ wallet info events plain registered lower =>
      exact consistent.rewrite info registered (lower.trans_lt (consistent.stake_lt wallet))
        consistent.unapproved
  | staked amount ledger events registered fits moved =>
      have unapproved := (consistent.unapproved world.storage.stakingToken).pull moved
      exact consistent.rewrite _ registered fits (consistent.ledger unapproved)
  | unstaked amount ledger events registered enough moved =>
      have unapproved := (consistent.unapproved world.storage.stakingToken).transfer moved
      exact consistent.rewrite _ registered ((Nat.sub_le _ _).trans_lt (consistent.stake_lt sender))
        (consistent.ledger unapproved)
  | unrewarded => exact ⟨consistent.listed, consistent.stake_lt, consistent.unapproved⟩
  | rewarded verifier amount earned ledger events registered nonzero moved =>
      have unapproved := (consistent.unapproved world.storage.stakingToken).transfer moved
      exact consistent.rewrite { world.storage.verifiers verifier with totalEarnings := earned }
        registered (consistent.stake_lt verifier)
        (consistent.ledger unapproved)

/-- A rewritten entry exchanges the stake owed to its verifier. -/
theorem Consistent.totalStake_rewrite (consistent : Consistent deployment world)
    (info : VerifierInfo) (registered : (world.storage.verifiers wallet).wallet ≠ 0) :
    (world.setVerifier wallet info).storage.totalStake +
        (world.storage.verifiers wallet).stakeAmount =
      world.storage.totalStake + info.staked := by
  have exchanged := totalStake_setVerifier info (consistent.listed wallet registered)
  rwa [VerifierInfo.staked, if_pos registered] at exchanged

/-- A registration adds the stake that it records. -/
theorem totalStake_registered (info : VerifierInfo) (totalVerifiers : Nat)
    (blank : (world.storage.verifiers wallet).wallet = 0) :
    Storage.totalStake { world.storage with
        verifiers := update world.storage.verifiers wallet info
        verifierList := world.storage.verifierList ++ [wallet]
        defaultTotalVerifiers := totalVerifiers } =
      world.storage.totalStake + info.staked := by
  have listing := totalStake_listed blank
  let listed : World :=
    { world with storage.verifierList := world.storage.verifierList ++ [wallet] }
  have member : wallet ∈ listed.storage.verifierList := by simp [listed]
  have exchanged := totalStake_setVerifier info member
  have nothing : (world.storage.verifiers wallet).staked = 0 := by
    simp [VerifierInfo.staked, blank]
  change _ + (world.storage.verifiers wallet).staked = Storage.totalStake _ + _ at exchanged
  rw [nothing, Nat.add_zero, listing] at exchanged
  exact exchanged

/-- What the registry holds once an entry is rewritten and the staking token has moved. -/
theorem held_rewrite (info : VerifierInfo) (ledger : Erc20 Address) (events : List Event) :
    World.held deployment ⟨(world.setVerifier wallet info).storage,
      update world.tokens world.storage.stakingToken ledger, events⟩ =
      ledger.balanceOf deployment.self :=
  congrArg (Erc20.balanceOf · deployment.self) (update_self _ _ _)

/-- The condition on a call is exactly what keeps the registry solvent. -/
theorem Effect.covered_iff {ext : Externals} (effect : Effect deployment sender world call next)
    (foreign : sender ≠ deployment.self) (consistent : Consistent deployment world)
    (solvent : Solvent deployment world) :
    Covered deployment world (.call sender ext call) ↔ Solvent deployment next := by
  cases effect with
  | configured _ callers threshold totalVerifiers events plain =>
      exact iff_of_true plain.covered (solvent.lower rfl rfl le_rfl)
  | tokenSet token minStake reward events => exact Iff.rfl
  | registered wallet endpointUrl stakeAmount totalVerifiers events nonzero blank =>
      have total := totalStake_registered
        { wallet, endpointUrl, active := true, stakeAmount } totalVerifiers blank
      rw [VerifierInfo.staked, if_pos nonzero] at total
      simp only [Solvent, total]
      exact Iff.rfl
  | rewritten _ wallet info events plain registered lower =>
      refine iff_of_true plain.covered (solvent.lower rfl rfl ?_)
      have total := consistent.totalStake_rewrite info registered
      have owed : info.staked ≤ info.stakeAmount := by
        unfold VerifierInfo.staked
        split <;> omega
      change (world.setVerifier wallet info).storage.totalStake ≤ world.storage.totalStake
      omega
  | staked amount ledger events registered fits moved =>
      refine iff_of_true trivial (solvent.shift rfl ?_)
      have total := consistent.totalStake_rewrite { world.storage.verifiers sender with
        stakeAmount := (world.storage.verifiers sender).stakeAmount + amount } registered
      rw [VerifierInfo.staked, if_pos registered] at total
      obtain ⟨_, rfl⟩ := Erc20.transferFrom_eq_some.mp moved
      rw [held_rewrite, Erc20.approve_balanceOf, Erc20.move_balanceOf, if_neg foreign.symm,
        if_pos rfl]
      simp only [World.held] at total ⊢
      omega
  | unstaked amount ledger events registered enough moved =>
      refine iff_of_true trivial (solvent.shift rfl ?_)
      have total := consistent.totalStake_rewrite { world.storage.verifiers sender with
        stakeAmount := (world.storage.verifiers sender).stakeAmount - amount } registered
      rw [VerifierInfo.staked, if_pos registered] at total
      obtain ⟨funded, rfl⟩ := Erc20.transfer_eq_some.mp moved
      rw [held_rewrite, Erc20.move_balanceOf, if_pos rfl, if_neg foreign.symm]
      simp only [World.held] at total ⊢
      omega
  | unrewarded verifier amount events nothing =>
      refine iff_of_true (fun nonzero _ => ?_) solvent
      have none := nothing.resolve_right nonzero
      rw [none, Nat.add_zero]
      exact solvent nonzero
  | rewarded verifier amount earned ledger events registered nonzero moved =>
      have total := consistent.totalStake_rewrite
        { world.storage.verifiers verifier with totalEarnings := earned } registered
      rw [VerifierInfo.staked, if_pos registered] at total
      have unchanged := Nat.add_right_cancel total
      obtain ⟨funded, rfl⟩ := Erc20.transfer_eq_some.mp moved
      simp only [Covered, Solvent]
      rw [held_rewrite, unchanged, Erc20.move_balanceOf, if_pos rfl]
      have covered := solvent nonzero
      by_cases own : verifier = deployment.self
      · -- A reward to the registry itself leaves its balance as it was.
        refine iff_of_true (fun _ foreignVerifier => absurd own foreignVerifier) fun _ => ?_
        rw [if_pos own.symm, Nat.sub_add_cancel funded]
        exact covered
      · rw [if_neg (Ne.symm own), Nat.add_zero]
        constructor
        · intro reserved _
          exact Nat.le_sub_of_add_le (reserved nonzero own)
        · intro left _ _
          exact (Nat.le_sub_iff_add_le funded).mp (left nonzero)

theorem step_consistent (step : (standard deployment).Step world action next)
    (consistent : Consistent deployment world) : Consistent deployment next := by
  cases action with
  | call sender ext call =>
      obtain ⟨taken, reverts⟩ := step
      obtain ⟨⟨foreign, typed⟩, ran⟩ := step_call.mp taken
      exact ((dispatch_effect ran).2 reverts).consistent typed consistent
  | token token operation =>
      obtain ⟨foreign, ledger, ran, rfl⟩ := step_token.mp step.1
      have unapproved := (consistent.unapproved token).run foreign ran
      exact ⟨consistent.listed, consistent.stake_lt, consistent.ledger unapproved⟩

theorem reachable_consistent (reachable : (standard deployment).Reachable world) :
    Consistent deployment world := by
  refine reachable.invariant ?_ ?_
  · rintro world ⟨fresh, unapproved⟩
    refine ⟨?_, ?_, unapproved⟩
    · simp [fresh]
    · simp [fresh, wordSize]
  · intro world action next _ consistent step
    exact step_consistent step consistent

end Consistency

section Runs

variable {deployment : Deployment} {start world next : World} {action : Action}
  {actions : List Action}

/-- The condition on a step is exactly what keeps the registry solvent. -/
theorem step_covered_iff (step : (standard deployment).Step world action next)
    (consistent : Consistent deployment world) (solvent : Solvent deployment world) :
    Covered deployment world action ↔ Solvent deployment next := by
  cases action with
  | call sender ext call =>
      obtain ⟨taken, reverts⟩ := step
      obtain ⟨⟨foreign, -⟩, ran⟩ := step_call.mp taken
      exact ((dispatch_effect ran).2 reverts).covered_iff foreign consistent solvent
  | token token operation =>
      obtain ⟨foreign, ledger, ran, rfl⟩ := step_token.mp step.1
      refine iff_of_true trivial (solvent.shift rfl (Nat.add_le_add_left ?_ _))
      simp only [World.held]
      by_cases same : world.storage.stakingToken = token
      · subst same
        rw [update_self]
        exact (consistent.unapproved _).balanceOf_le foreign ran
      · rw [update_of_ne same]

theorem standard_unique {other : World} (step : (standard deployment).Step world action next)
    (again : (standard deployment).Step world action other) : next = other :=
  step_unique step.1 again.1

/-- A run is covered throughout exactly if the registry is solvent throughout. -/
theorem covered_run_iff (initial : (standard deployment).Init start)
    (run : (standard deployment).Run start actions world) :
    ((standard deployment).restrict (Covered deployment)).Run start actions world ↔
      ((standard deployment).restrict fun world _ => Solvent deployment world).Run
        start actions world ∧ Solvent deployment world := by
  induction run with
  | nil =>
      have solvent : Solvent deployment start := by
        intro nonzero
        rw [initial.1] at nonzero
        exact absurd rfl nonzero
      exact ⟨fun _ => ⟨.nil, solvent⟩, fun _ => .nil⟩
  | @snoc actions middle finish action earlier step ih =>
      have consistent := reachable_consistent ⟨start, actions, initial, earlier⟩
      rw [earlier.restrict_snoc (fun _ _ _ _ => standard_unique) step,
        earlier.restrict_snoc (fun _ _ _ _ => standard_unique) step, ih]
      exact and_congr_right fun before => step_covered_iff step consistent before.2

theorem stakeAmount_le_totalStake (consistent : Consistent deployment world) {wallet : Address}
    (registered : (world.storage.verifiers wallet).wallet ≠ 0) :
    (world.storage.verifiers wallet).stakeAmount ≤ world.storage.totalStake := by
  have owed : (world.storage.verifiers wallet).staked ≤ world.storage.totalStake :=
    single_le_sum (f := fun other => (world.storage.verifiers other).staked)
      (fun _ _ => Nat.zero_le _) (List.mem_toFinset.mpr (consistent.listed wallet registered))
  rwa [VerifierInfo.staked, if_pos registered] at owed

/-- A solvent registry pays every verifier what exceeds the minimum. -/
theorem unstake_enabled (consistent : Consistent deployment world)
    (solvent : Solvent deployment world) (tokened : world.storage.stakingToken ≠ 0)
    {wallet : Address} {amount : Nat} (foreign : wallet ≠ deployment.self)
    (registered : (world.storage.verifiers wallet).wallet ≠ 0)
    (excess : amount + world.storage.minStake ≤ (world.storage.verifiers wallet).stakeAmount) :
    ∃ next, (standard deployment).Step world (.call wallet {} (.unstake amount)) next ∧
      (next.tokens world.storage.stakingToken).balanceOf wallet =
        (world.tokens world.storage.stakingToken).balanceOf wallet + amount := by
  have owed := stakeAmount_le_totalStake consistent registered
  have held : world.storage.totalStake ≤ world.held deployment := solvent tokened
  have fits := consistent.stake_lt wallet
  have typed : amount < wordSize := by omega
  have funded : amount ≤ world.held deployment := by omega
  have ran : ∃ next, dispatch deployment {} wallet world (.unstake amount) = .ok next ∧
      next.tokens = update world.tokens world.storage.stakingToken
        ((world.tokens world.storage.stakingToken).move deployment.self wallet amount) := by
    simp only [dispatch, unstake, requireVerifier_bind_eq_ok, checkedAdd_bind_eq_ok,
      require_bind_eq_ok, checkedSub_bind_eq_ok]
    rw [transfer_ok (by exact tokened) (by exact funded)]
    exact ⟨_, ⟨registered, excess.trans_lt fits, excess, by omega, rfl⟩, rfl⟩
  obtain ⟨next, ran, moved⟩ := ran
  refine ⟨next, ⟨step_call.mpr ⟨⟨foreign, typed⟩, ran⟩, rfl⟩, ?_⟩
  rw [moved, update_self, Erc20.move_balanceOf, if_neg foreign, if_pos rfl, Nat.sub_zero]

/-- In the runs in which registrations and rewards are covered, and in no others, the registry
holds the sum of the stakes of all registered verifiers throughout; and wherever it does,
every verifier can withdraw what exceeds the minimum. -/
theorem stake_solvency_iff (initial : (standard deployment).Init start)
    (run : (standard deployment).Run start actions world) :
    (((standard deployment).restrict (Covered deployment)).Run start actions world ↔
      ((standard deployment).restrict fun world _ => Solvent deployment world).Run
        start actions world ∧ Solvent deployment world) ∧
    (Solvent deployment world → world.storage.stakingToken ≠ 0 →
      ∀ wallet amount, wallet ≠ deployment.self →
        (world.storage.verifiers wallet).wallet ≠ 0 →
        amount + world.storage.minStake ≤ (world.storage.verifiers wallet).stakeAmount →
          ∃ next, (standard deployment).Step world (.call wallet {} (.unstake amount)) next ∧
            (next.tokens world.storage.stakingToken).balanceOf wallet =
              (world.tokens world.storage.stakingToken).balanceOf wallet + amount) := by
  refine ⟨covered_run_iff initial run, fun solvent tokened wallet amount foreign => ?_⟩
  exact unstake_enabled (reachable_consistent ⟨start, actions, initial, run⟩) solvent tokened foreign

end Runs

namespace Demo

/-- Perform an action of the demonstrations, whose token is standard. -/
def performStandard (world : World) (action : Action) : Option World :=
  if Standard world action then perform deployment world action else none

theorem performStandard_sound (world : World) (action : Action) (next : World)
    (performed : performStandard world action = some next) :
    (standard deployment).Step world action next := by
  rw [performStandard, Option.ite_none_right_eq_some] at performed
  exact ⟨performed.2, performed.1⟩

/-- Another verifier is registered with a stake that nobody transferred. -/
def credited : Library.Scene performStandard {} where
  actions := staking ++ [call admin (.registerVerifier other "" 100)]
  possible := by decide +kernel

/-- The other verifier withdraws it. -/
def drained : Library.Scene performStandard {} :=
  credited.next (call other (.unstake 100)) (by decide +kernel)

/-- Perform an action that is covered. -/
def performCovered (world : World) (action : Action) : Option World :=
  if Covered deployment world action then performStandard world action else none

theorem performCovered_sound (world : World) (action : Action) (next : World)
    (performed : performCovered world action = some next) :
    ((standard deployment).restrict (Covered deployment)).Step world action next := by
  rw [performCovered, Option.ite_none_right_eq_some] at performed
  exact ⟨performStandard_sound _ _ _ performed.2, performed.1⟩

/-- The verifier is rewarded from tokens sent to the registry. -/
def rewarded : Library.Scene performCovered {} where
  actions := staking ++ [token (.mint deployment.self 50), call admin (.rewardVerifier verifier 50)]
  possible := by decide +kernel

end Demo

/-- A stake that is recorded at registration without a transfer is withdrawn from what
another verifier has staked, who then cannot withdraw it any more. -/
theorem stake_insolvent :
    (standard Demo.deployment).Init {} ∧
    (standard Demo.deployment).Run {} Demo.credited.actions Demo.credited.world ∧
    Demo.credited.world.storage.stakingToken = Demo.usd ∧
    Demo.credited.world.storage.totalStake = 200 ∧
    Demo.credited.world.held Demo.deployment = 100 ∧
    (standard Demo.deployment).Run {} Demo.drained.actions Demo.drained.world ∧
    (Demo.drained.world.storage.verifiers Demo.verifier).stakeAmount = 100 ∧
    Demo.drained.world.storage.minStake = 0 ∧
    ¬∃ next, (standard Demo.deployment).Step Demo.drained.world
      (Demo.call Demo.verifier (.unstake 100)) next := by
  have stuck : perform Demo.deployment Demo.drained.world
      (Demo.call Demo.verifier (.unstake 100)) = none := by
    rw [← Option.not_isSome_iff_eq_none]
    decide +kernel
  refine ⟨Demo.start_init, Demo.credited.run Demo.performStandard_sound, by decide +kernel,
    by decide +kernel, by decide +kernel, Demo.drained.run Demo.performStandard_sound,
    by decide +kernel, by decide +kernel, ?_⟩
  rintro ⟨next, taken, -⟩
  have performed := stuck.symm.trans taken
  cases performed

theorem stake_solvency_iff_demo : Solvent Demo.deployment Demo.rewarded.world := by
  have covered := Demo.rewarded.run Demo.performCovered_sound
  exact ((stake_solvency_iff Demo.start_init covered.of_restrict).1.mp covered).2

end TrustChain.Registry
