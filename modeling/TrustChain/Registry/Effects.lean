import TrustChain.Registry.System

/-!
# What a call of the registry does

Every successful call under a standard staking token, which reverts when it declines a
transfer, with what it leaves in the storage and in the ledger.
-/

namespace TrustChain.Registry

open Library Function

section Tokens

variable {deployment : Deployment} {ext : Externals} {world next : World}

/-- What a standard token answers. -/
theorem callToken_standard {token source target : Address} {moved : Option (Erc20 Address)}
    (reverts : ext.refusalReverts token = true)
    (called : world.callToken ext token source target moved = .ok next) :
    token ≠ 0 ∧ ∃ ledger, moved = some ledger ∧
      next = { world with tokens := update world.tokens token ledger } := by
  unfold World.callToken at called
  split at called
  · cases called
  · next nonzero =>
      split at called
      · next ledger answered =>
          split at answered
          · cases answered
          · cases called
            exact ⟨nonzero, ledger, answered, rfl⟩
      · cases called

/-- A token cannot change the registry, whatever it answers. -/
theorem callToken_storage {token source target : Address} {moved : Option (Erc20 Address)}
    (called : world.callToken ext token source target moved = .ok next) :
    next.storage = world.storage := by
  rw [World.callToken] at called
  split at called
  · cases called
  · split at called
    · cases called
      rfl
    · split at called <;> cases called
      rfl

/-- A standard token pays what there is. -/
theorem transfer_ok {token target : Address} {amount : Nat} (nonzero : token ≠ 0)
    (funded : amount ≤ (world.tokens token).balanceOf deployment.self) :
    world.transfer deployment {} token target amount =
      .ok { world with
        tokens := update world.tokens token
          ((world.tokens token).move deployment.self target amount) } := by
  rw [World.transfer, World.callToken, if_neg nonzero, Erc20.transfer, if_pos funded]
  rfl

end Tokens

/-- Calls that can neither raise what the registry owes without a transfer, nor pay anything
that was not recorded as a stake, nor change the staking token. -/
def Call.Plain : Call → Prop
  | .registerVerifier .. | .rewardVerifier .. | .setStakingConfig .. => False
  | _ => True

/-- The effect of a successful call when the staking token is standard. -/
inductive Effect (deployment : Deployment) (sender : Address) (world : World) : Call → World → Prop
  | configured (call : Call) (callers : Address → Bool) (threshold totalVerifiers : Nat)
      (events : List Event) : call.Plain →
      Effect deployment sender world call
        ⟨{ world.storage with
          authorizedCallers := callers
          defaultThreshold := threshold
          defaultTotalVerifiers := totalVerifiers }, world.tokens, events⟩
  | tokenSet (token : Address) (minStake reward : Nat) (events : List Event) :
      Effect deployment sender world (.setStakingConfig token minStake reward)
        ⟨{ world.storage with
          stakingToken := token
          minStake := minStake
          verificationReward := reward }, world.tokens, events⟩
  | registered (wallet : Address) (endpointUrl : String) (stakeAmount totalVerifiers : Nat)
      (events : List Event) : wallet ≠ 0 → (world.storage.verifiers wallet).wallet = 0 →
      Effect deployment sender world (.registerVerifier wallet endpointUrl stakeAmount)
        ⟨{ world.storage with
          verifiers := update world.storage.verifiers wallet
            { wallet, endpointUrl, active := true, stakeAmount }
          verifierList := world.storage.verifierList ++ [wallet]
          defaultTotalVerifiers := totalVerifiers }, world.tokens, events⟩
  | rewritten (call : Call) (wallet : Address) (info : VerifierInfo) (events : List Event) :
      call.Plain → (world.storage.verifiers wallet).wallet ≠ 0 →
      info.stakeAmount ≤ (world.storage.verifiers wallet).stakeAmount →
      Effect deployment sender world call
        ⟨(world.setVerifier wallet info).storage, world.tokens, events⟩
  | staked (amount : Nat) (ledger : Erc20 Address) (events : List Event) :
      (world.storage.verifiers sender).wallet ≠ 0 →
      (world.storage.verifiers sender).stakeAmount + amount < wordSize →
      (world.tokens world.storage.stakingToken).transferFrom deployment.self sender
        deployment.self amount = some ledger →
      Effect deployment sender world (.stake amount)
        ⟨(world.setVerifier sender { world.storage.verifiers sender with
            stakeAmount := (world.storage.verifiers sender).stakeAmount + amount }).storage,
          update world.tokens world.storage.stakingToken ledger, events⟩
  | unstaked (amount : Nat) (ledger : Erc20 Address) (events : List Event) :
      (world.storage.verifiers sender).wallet ≠ 0 →
      amount ≤ (world.storage.verifiers sender).stakeAmount →
      (world.tokens world.storage.stakingToken).transfer deployment.self sender amount =
        some ledger →
      Effect deployment sender world (.unstake amount)
        ⟨(world.setVerifier sender { world.storage.verifiers sender with
            stakeAmount := (world.storage.verifiers sender).stakeAmount - amount }).storage,
          update world.tokens world.storage.stakingToken ledger, events⟩
  | unrewarded (verifier : Address) (amount : Nat) (events : List Event) :
      amount = 0 ∨ world.storage.stakingToken = 0 →
      Effect deployment sender world (.rewardVerifier verifier amount)
        { world with events := events }
  | rewarded (verifier : Address) (amount earned : Nat) (ledger : Erc20 Address)
      (events : List Event) : (world.storage.verifiers verifier).wallet ≠ 0 →
      world.storage.stakingToken ≠ 0 →
      (world.tokens world.storage.stakingToken).transfer deployment.self verifier amount =
        some ledger →
      Effect deployment sender world (.rewardVerifier verifier amount)
        ⟨(world.setVerifier verifier
            { world.storage.verifiers verifier with totalEarnings := earned }).storage,
          update world.tokens world.storage.stakingToken ledger, events⟩

/-- The wallet that an action registers. -/
def Action.enrols : Action → Option Address
  | .call _ _ (.registerVerifier wallet _ _) => some wallet
  | _ => none

/-- What an action does to the list and the records: it registers a wallet, rewrites or
deletes one record, or leaves both alone. -/
inductive Rolled (storage next : Storage) : Option Address → Prop
  | enrolled (wallet : Address) (info : VerifierInfo) : wallet ≠ 0 →
      (storage.verifiers wallet).wallet = 0 → info.wallet = wallet → info.active = true →
      next.verifiers = update storage.verifiers wallet info →
      next.verifierList = storage.verifierList ++ [wallet] →
      next.defaultTotalVerifiers = max storage.defaultTotalVerifiers next.activeCount →
      Rolled storage next (some wallet)
  | rewritten (wallet : Address) (info : VerifierInfo) :
      next.verifiers = update storage.verifiers wallet info →
      next.verifierList = storage.verifierList → (storage.verifiers wallet).wallet ≠ 0 →
      info.wallet = (storage.verifiers wallet).wallet ∨ info = {} → Rolled storage next none
  | kept : next.verifiers = storage.verifiers → next.verifierList = storage.verifierList →
      Rolled storage next none

section Effects

variable {deployment : Deployment} {ext : Externals} {sender : Address} {world next : World}

@[simp] theorem requireVerifier_bind_eq_ok {β : Type} {wallet : Address}
    {rest : VerifierInfo → Except Error β} {result : β} :
    (requireVerifier world wallet >>= rest) = .ok result ↔
      (world.storage.verifiers wallet).wallet ≠ 0 ∧
        rest (world.storage.verifiers wallet) = .ok result := by
  simp only [requireVerifier, bind_eq_ok, require_eq_ok, Except.ok.injEq, exists_and_left]
  constructor
  · rintro ⟨_, ⟨registered, -, rfl⟩, ran⟩
    exact ⟨registered, ran⟩
  · rintro ⟨registered, ran⟩
    exact ⟨_, ⟨registered, (), rfl⟩, ran⟩

@[simp] theorem onlyAdmin_bind_eq_ok {β : Type} {rest : Unit → Except Error β} {result : β} :
    (onlyAdmin deployment sender >>= rest) = .ok result ↔
      sender = deployment.admin ∧ rest () = .ok result :=
  require_bind_eq_ok

theorem record_kept {v recorded : VerifierInfo} {success : Bool}
    (ran : v.record success = .ok recorded) :
    recorded.wallet = v.wallet ∧ recorded.stakeAmount = v.stakeAmount := by
  cases success with
  | true =>
      simp only [VerifierInfo.record, if_true, checkedAdd_bind_eq_ok, Except.ok.injEq] at ran
      exact ran.2 ▸ ⟨rfl, rfl⟩
  | false =>
      simp only [VerifierInfo.record, Bool.false_eq_true, if_false, checkedAdd_bind_eq_ok,
        Except.ok.injEq] at ran
      exact ran.2 ▸ ⟨rfl, rfl⟩

/-- Every successful call, whatever the token does, and its effect under a standard one. -/
theorem dispatch_effect {call : Call} (ran : dispatch deployment ext sender world call = .ok next) :
    Rolled world.storage next.storage (Action.call sender ext call).enrols ∧
      (ext.refusalReverts world.storage.stakingToken = true →
        Effect deployment sender world call next) := by
  cases call with
  | setAuthorizedCaller caller allowed =>
      simp only [dispatch, setAuthorizedCaller, onlyAdmin_bind_eq_ok, require_bind_eq_ok,
        Except.ok.injEq] at ran
      obtain ⟨-, -, rfl⟩ := ran
      exact ⟨.kept rfl rfl, fun _ => .configured _ _ _ _ _ trivial⟩
  | registerVerifier wallet endpointUrl stakeAmount =>
      simp only [dispatch, registerVerifier, onlyAdmin_bind_eq_ok, require_bind_eq_ok] at ran
      obtain ⟨-, nonzero, blank, ran⟩ := ran
      split at ran
      · next exceeded =>
          cases ran
          exact ⟨.enrolled wallet _ nonzero blank rfl rfl rfl rfl (max_eq_right exceeded.le).symm,
            fun _ => .registered wallet endpointUrl stakeAmount _ _ nonzero blank⟩
      · next enough =>
          cases ran
          exact ⟨.enrolled wallet _ nonzero blank rfl rfl rfl rfl
              (max_eq_left (not_lt.mp enough)).symm,
            fun _ => .registered wallet endpointUrl stakeAmount _ _ nonzero blank⟩
  | removeVerifier wallet =>
      simp only [dispatch, removeVerifier, onlyAdmin_bind_eq_ok, requireVerifier_bind_eq_ok,
        Except.ok.injEq] at ran
      obtain ⟨-, registered, rfl⟩ := ran
      exact ⟨.rewritten wallet _ rfl rfl registered (.inr rfl),
        fun _ => .rewritten _ wallet {} _ trivial registered (Nat.zero_le _)⟩
  | suspendVerifier wallet | activateVerifier wallet =>
      simp only [dispatch, suspendVerifier, activateVerifier, onlyAdmin_bind_eq_ok,
        requireVerifier_bind_eq_ok, Except.ok.injEq] at ran
      obtain ⟨-, registered, rfl⟩ := ran
      exact ⟨.rewritten wallet _ rfl rfl registered (.inl rfl),
        fun _ => .rewritten _ wallet _ _ trivial registered le_rfl⟩
  | setThresholds threshold totalVerifiers =>
      simp only [dispatch, setThresholds, onlyAdmin_bind_eq_ok, require_bind_eq_ok,
        Except.ok.injEq] at ran
      obtain ⟨-, -, -, rfl⟩ := ran
      exact ⟨.kept rfl rfl, fun _ => .configured _ _ _ _ _ trivial⟩
  | recordAttestation verifier success =>
      simp only [dispatch, recordAttestation, onlyAuthorizedCaller, require_bind_eq_ok,
        requireVerifier_bind_eq_ok] at ran
      obtain ⟨-, registered, ran⟩ := ran
      simp only [bind_eq_ok, Except.ok.injEq] at ran
      obtain ⟨recorded, recording, rfl⟩ := ran
      obtain ⟨wallet, stakeAmount⟩ := record_kept recording
      exact ⟨.rewritten verifier _ rfl rfl registered (.inl wallet),
        fun _ => .rewritten _ verifier _ _ trivial registered stakeAmount.le⟩
  | setStakingConfig token minStake reward =>
      simp only [dispatch, setStakingConfig, onlyAdmin_bind_eq_ok, Except.ok.injEq] at ran
      obtain ⟨-, rfl⟩ := ran
      exact ⟨.kept rfl rfl, fun _ => .tokenSet token minStake reward _⟩
  | stake amount =>
      simp only [dispatch, stake, require_bind_eq_ok, requireVerifier_bind_eq_ok] at ran
      obtain ⟨-, registered, ran⟩ := ran
      simp only [bind_eq_ok, checkedAdd_eq_ok, Except.ok.injEq] at ran
      obtain ⟨paid, transferred, _, ⟨fits, rfl⟩, rfl⟩ := ran
      constructor
      · have same := callToken_storage transferred
        have entries : paid.storage.verifierList = world.storage.verifierList := by rw [same]
        refine .rewritten sender { world.storage.verifiers sender with
          stakeAmount := (world.storage.verifiers sender).stakeAmount + amount } ?_ entries
          registered (.inl rfl)
        exact congrArg (fun storage : Storage => update storage.verifiers sender _) same
      · intro reverts
        obtain ⟨-, ledger, moved, rfl⟩ := callToken_standard reverts transferred
        exact .staked amount ledger _ registered fits moved
  | unstake amount =>
      simp only [dispatch, unstake, requireVerifier_bind_eq_ok, checkedAdd_bind_eq_ok,
        require_bind_eq_ok, checkedSub_bind_eq_ok] at ran
      obtain ⟨registered, -, -, enough, ran⟩ := ran
      simp only [bind_eq_ok, Except.ok.injEq] at ran
      obtain ⟨paid, transferred, rfl⟩ := ran
      constructor
      · have same := callToken_storage transferred
        have entries : paid.storage.verifierList = world.storage.verifierList := by rw [same]; rfl
        refine .rewritten sender { world.storage.verifiers sender with
          stakeAmount := (world.storage.verifiers sender).stakeAmount - amount } ?_ entries
          registered (.inl rfl)
        exact congrArg Storage.verifiers same
      · intro reverts
        obtain ⟨-, ledger, moved, rfl⟩ := callToken_standard reverts transferred
        exact .unstaked amount ledger _ registered enough moved
  | slash verifier amount reason =>
      simp only [dispatch, slash, onlyAdmin_bind_eq_ok, requireVerifier_bind_eq_ok,
        checkedSub_bind_eq_ok, checkedAdd_bind_eq_ok, Except.ok.injEq] at ran
      obtain ⟨-, registered, -, -, rfl⟩ := ran
      exact ⟨.rewritten verifier _ rfl rfl registered (.inl rfl),
        fun _ => .rewritten _ verifier _ _ trivial registered (Nat.sub_le _ _)⟩
  | rewardVerifier verifier amount =>
      simp only [dispatch, rewardVerifier, onlyAuthorizedCaller, require_bind_eq_ok,
        requireVerifier_bind_eq_ok] at ran
      obtain ⟨-, registered, ran⟩ := ran
      simp only [bind_eq_ok, Except.ok.injEq] at ran
      obtain ⟨paid, paying, rfl⟩ := ran
      simp only [payReward] at paying
      split at paying
      · next payable =>
          simp only [bind_eq_ok, checkedAdd_eq_ok, Except.ok.injEq] at paying
          obtain ⟨moved, transferred, totalEarnings, -, rfl⟩ := paying
          constructor
          · have same := callToken_storage transferred
            have entries : moved.storage.verifierList = world.storage.verifierList := by rw [same]
            refine .rewritten verifier { world.storage.verifiers verifier with totalEarnings } ?_
              entries registered (.inl rfl)
            exact congrArg (fun storage : Storage => update storage.verifiers verifier _) same
          · intro reverts
            obtain ⟨nonzero, ledger, moved, rfl⟩ := callToken_standard reverts transferred
            exact .rewarded verifier amount _ ledger _ registered nonzero moved
      · next unpaid =>
          cases paying
          refine ⟨.kept rfl rfl, fun _ => .unrewarded verifier amount _ ?_⟩
          rw [not_and_or, not_lt, Nat.le_zero, not_not] at unpaid
          exact unpaid

end Effects

end TrustChain.Registry
