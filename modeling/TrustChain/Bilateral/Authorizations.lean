import TrustChain.Bilateral.Exits

/-!
# Authorizations

`authorize` takes the amount out of the sender's free balance and then checks that free and
bound balance still make up what was minted for the sender, which they no longer do. So no
authorization is ever created, and there is none to accept or to cancel.
-/

namespace TrustChain.Bilateral

open Library Function

/-- The four counters that are kept for an address. -/
def Storage.counters (storage : Storage) (account : Address) : Nat × Nat × Nat × Nat :=
  (storage.freeBalance account, storage.boundBalance account,
    storage.totalMintedByAddr account, storage.totalLockedByAddr account)

section Authorize

variable (deployment : Deployment) (ext : Externals) (msg : Message deployment)
  (world authorized : World) (authId : Nat)

/-- The sender can cancel an authorization, and every counter is back where it was. -/
def Cancellable : Prop :=
  ∀ cancel : Message deployment, cancel.sender = msg.sender → authorized.now ≤ cancel.timestamp →
    ∃ cancelled,
      exec deployment ext cancel (.cancelAuthorization authId) authorized = .ok cancelled ∧
      ∀ account, cancelled.storage.counters account = world.storage.counters account

/-- The recipient can accept an authorization before it expires, and the counters of both
parties add up afterwards. -/
def Acceptable (recipient : Address) (expiresAt : Nat) : Prop :=
  ∀ accept : Message deployment, accept.sender = recipient → authorized.now ≤ accept.timestamp →
    (expiresAt ≠ 0 → accept.timestamp ≤ expiresAt) →
    ∃ accepted, exec deployment ext accept (.accept authId) authorized = .ok accepted ∧
      ∀ party ∈ [msg.sender, recipient],
        accepted.storage.freeBalance party + accepted.storage.boundBalance party =
          accepted.storage.totalMintedByAddr party

/-- An authorization can be made, and then cancelled or accepted. -/
def Authorizable (token : Address) (amount : Nat) (recipient : Address) (expiresAt : Nat) : Prop :=
  ∃ authId authorized,
    authorize deployment msg { world with now := msg.timestamp } token amount recipient expiresAt =
      .ok (authId, authorized) ∧
    Cancellable deployment ext msg world authorized authId ∧
    Acceptable deployment ext msg authorized authId recipient expiresAt

end Authorize

variable {deployment : Deployment} {ext : Externals} {msg : Message deployment} {world : World}
  {token recipient : Address} {amount expiresAt : Nat}

/-- With enough free balance it is the last check that fails. -/
theorem authorize_reverts (reachable : (system deployment).Reachable world)
    (allowed : world.storage.config.tokenAllowed token = true) (somebody : recipient ≠ 0)
    (positive : 0 < amount) (enough : amount ≤ world.storage.freeBalance msg.sender) :
    authorize deployment msg { world with now := msg.timestamp } token amount recipient expiresAt =
      .error (.perAddressInvariantBroken msg.sender
        (world.storage.freeBalance msg.sender - amount) (world.storage.boundBalance msg.sender)
        (world.storage.totalMintedByAddr msg.sender)) := by
  have unlocked := reachable_unlocked reachable
  have sums := (reachable_valid reachable).perAddress msg.sender
  have fits : world.storage.freeBalance msg.sender - amount +
      world.storage.boundBalance msg.sender < wordSize := by omega
  have short : world.storage.freeBalance msg.sender - amount +
      world.storage.boundBalance msg.sender ≠ world.storage.totalMintedByAddr msg.sender := by
    omega
  have debited : (checkedDebit world.storage.freeBalance msg.sender amount :
      Except Error (Address → Nat)) = .ok (debit world.storage.freeBalance msg.sender amount) :=
    checkedDebit_eq_ok.mpr ⟨enough, rfl⟩
  have named : ¬recipient = 0#160 := somebody
  simp [authorize, World.enter, Storage.checkPerAddressInvariant, require, checkedAdd, debited,
    debit_apply, unlocked, allowed, named, positive.ne', enough, fits, short]

/-- Whatever the state, no authorization succeeds that the sender's free balance, an allowed
token and a recipient would permit. -/
theorem authorize_fails (reachable : (system deployment).Reachable world)
    (allowed : world.storage.config.tokenAllowed token = true) (somebody : recipient ≠ 0)
    (positive : 0 < amount) (enough : amount ≤ world.storage.freeBalance msg.sender) :
    exec deployment ext msg (.authorize token amount recipient expiresAt) world =
      .error (.perAddressInvariantBroken msg.sender
        (world.storage.freeBalance msg.sender - amount) (world.storage.boundBalance msg.sender)
        (world.storage.totalMintedByAddr msg.sender)) ∧
    ¬Authorizable deployment ext msg world token amount recipient expiresAt := by
  constructor
  · rw [exec, dispatch, authorize_reverts reachable allowed somebody positive enough]
    rfl
  · rintro ⟨authId, authorized, ran, -⟩
    cases (authorize_reverts reachable allowed somebody positive enough).symm.trans ran

/-- The buyer, with 50 units free, authorizes the agent for 20 of them. -/
theorem authorize_fails_buyer :
    exec Demo.deployment {} (Demo.message Demo.buyer 2000)
        (.authorize Demo.usd 20 Demo.agent 0) Demo.locked.world =
      .error (.perAddressInvariantBroken Demo.buyer 30 0 50) := by
  have allowed : Demo.locked.world.storage.config.tokenAllowed Demo.usd = true := by
    decide +kernel
  have enough : 20 ≤ Demo.locked.world.storage.freeBalance
      (Demo.message Demo.buyer 2000).sender := by decide +kernel
  exact (authorize_fails Demo.locked.reachable allowed (by decide) (by decide) enough).1

/-- So the buyer has nothing to cancel, and the agent nothing to accept. -/
theorem not_authorizable_buyer :
    (system Demo.deployment).Reachable Demo.locked.world ∧
    Demo.locked.world.storage.config.tokenAllowed Demo.usd = true ∧
    Demo.locked.world.storage.freeBalance Demo.buyer = 50 ∧
    ¬Authorizable Demo.deployment {} (Demo.message Demo.buyer 2000) Demo.locked.world
      Demo.usd 20 Demo.agent 0 := by
  refine ⟨Demo.locked.reachable, by decide +kernel, by decide +kernel, ?_⟩
  rintro ⟨authId, authorized, ran, -⟩
  have allowed : Demo.locked.world.storage.config.tokenAllowed Demo.usd = true := by
    decide +kernel
  have enough : 20 ≤ Demo.locked.world.storage.freeBalance
      (Demo.message Demo.buyer 2000).sender := by decide +kernel
  cases (authorize_reverts Demo.locked.reachable allowed (by decide) (by decide) enough).symm.trans
    ran

end TrustChain.Bilateral
