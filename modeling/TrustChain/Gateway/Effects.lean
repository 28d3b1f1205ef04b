import TrustChain.Gateway.System

/-!
# What a call of the gateway does

`Effect` says once what a successful call required and what it left, and `Seen` what any
step of the three contracts is for the bilateral one.
-/

namespace TrustChain.Gateway

open Library Function

/-- All gates of a settlement pass at `timestamp`. -/
structure Settleable (world : World) (timestamp : Nat) (taskId : Bytes32) (bindingId : Nat)
    (proofHash : Bytes32) : Prop where
  published : world.storage.taskEvidence taskId ≠ 0
  bound : world.bilateral.storage.bindingTaskId bindingId = taskId
  evidence_eq : world.storage.taskEvidence taskId = proofHash
  uncondemned : world.storage.failAttestationCount taskId < world.registry.getRequiredThreshold
  quorum : world.registry.getRequiredThreshold ≤ world.storage.validAttestationCount taskId
  closed : world.storage.challengeEnd taskId ≤ timestamp
  unchallenged : world.storage.challenged taskId = false ∨
    world.storage.challengeResolved taskId = true ∧ world.storage.challengeUpheld taskId = false

/-- What a successful call requires, and the world it leaves. Only a settlement and the
reward of an attestation reach beyond the gateway. -/
inductive Effect (deployment : Deployment) (ext : Externals) (msg : Message) (world : World) :
    Call → World → Prop
  | published (taskId evidenceHash : Bytes32) (cid : String) (events : List Event) :
      world.storage.taskEvidence taskId = 0 →
      Effect deployment ext msg world (.publishEvidence taskId evidenceHash cid)
        { world with
          events
          storage := { world.storage with
            taskEvidence := update world.storage.taskEvidence taskId evidenceHash
            taskEvidenceCid := update world.storage.taskEvidenceCid taskId cid
            challengeEnd := update world.storage.challengeEnd taskId
              (msg.timestamp + world.storage.challengeWindowDuration) } }
  | attested (taskId : Bytes32) (v : UInt8) (r s : Bytes32) (valid : Bool) (storage : Storage)
      (tokens : Address → Erc20 Address) (registry : Registry.Storage)
      (registryEvents : List Registry.Event) (events : List Event) :
      world.storage.taskEvidence taskId ≠ 0 →
      world.registry.isActiveVerifier msg.sender = true →
      world.storage.attestationSubmitted taskId msg.sender = false →
      deployment.ecrecover (deployment.attestationDigest taskId (world.storage.taskEvidence taskId)
        (world.storage.taskEvidenceCid taskId) msg.sender) v r s = msg.sender →
      Storage.count { world.storage with
        attestationSubmitted := update world.storage.attestationSubmitted taskId
          (update (world.storage.attestationSubmitted taskId) msg.sender true) }
        taskId valid = .ok storage →
      Registry.Moves deployment.registry world.bilateral.tokens tokens →
      Effect deployment ext msg world (.submitAttestation taskId v r s valid)
        { world with storage, bilateral.tokens := tokens, registry, registryEvents, events }
  | settled (taskId : Bytes32) (bindingId : Nat) (proofHash : Bytes32) (bilateral : Bilateral.World)
      (events : List Event) :
      Settleable world msg.timestamp taskId bindingId proofHash →
      Bilateral.exec deployment.bilateral ext.bilateral (deployment.forward msg)
        (.settle bindingId proofHash) world.bilateral = .ok bilateral →
      Effect deployment ext msg world (.settleWithAttestation taskId bindingId proofHash)
        { world with bilateral, events }
  | challenged (taskId : Bytes32) (reason evidenceCid : String) (events : List Event) :
      world.storage.taskEvidence taskId ≠ 0 →
      msg.timestamp ≤ world.storage.challengeEnd taskId →
      world.storage.challenged taskId = false →
      Effect deployment ext msg world (.raiseChallenge taskId reason evidenceCid)
        { world with
          events
          storage.challenged := update world.storage.challenged taskId true }
  | resolved (taskId : Bytes32) (upheld : Bool) (events : List Event) :
      msg.sender = deployment.arbitrator →
      world.storage.challenged taskId = true →
      world.storage.challengeResolved taskId = false →
      Effect deployment ext msg world (.resolveChallenge taskId upheld)
        { world with
          events
          storage := { world.storage with
            challengeResolved := update world.storage.challengeResolved taskId true
            challengeUpheld := update world.storage.challengeUpheld taskId upheld } }
  | configured (duration : Nat) (events : List Event) :
      msg.sender = deployment.arbitrator →
      minChallengeWindow ≤ duration →
      Effect deployment ext msg world (.setChallengeWindowDuration duration)
        { world with events, storage.challengeWindowDuration := duration }

section Effects

variable {deployment : Deployment} {ext : Externals} {msg : Message} {world next : World}
  {taskId proofHash : Bytes32} {bindingId : Nat}

theorem requireUnchallenged_eq_ok {storage : Storage} {value : Unit} :
    storage.requireUnchallenged taskId = .ok value ↔
      storage.challenged taskId = false ∨
        storage.challengeResolved taskId = true ∧ storage.challengeUpheld taskId = false := by
  unfold Storage.requireUnchallenged
  cases storage.challenged taskId with
  | false => simp
  | true => simp [require_eq_ok]

theorem requireSettleable_eq_ok {value : Unit} :
    requireSettleable msg world taskId bindingId proofHash = .ok value ↔
      Settleable world msg.timestamp taskId bindingId proofHash ∧
        world.registry.getRequiredThreshold < wordSize := by
  simp only [requireSettleable, failedAttestationBlock, Nat.mul_one, require_bind_eq_ok,
    checkedMul_bind_eq_ok, requireUnchallenged_eq_ok]
  constructor
  · rintro ⟨published, bound, matching, fits, uncondemned, quorum, closed, unchallenged⟩
    exact ⟨⟨published, bound, matching, uncondemned, quorum, closed, unchallenged⟩, fits⟩
  · rintro ⟨⟨published, bound, matching, uncondemned, quorum, closed, unchallenged⟩, fits⟩
    exact ⟨published, bound, matching, fits, uncondemned, quorum, closed, unchallenged⟩

/-- Counting an attestation raises one of the two counts of its task. -/
theorem count_ok {storage counted : Storage} {valid : Bool}
    (ran : storage.count taskId valid = .ok counted) :
    counted = { storage with
      validAttestationCount :=
        if valid then credit storage.validAttestationCount taskId 1
        else storage.validAttestationCount
      failAttestationCount :=
        if valid then storage.failAttestationCount
        else credit storage.failAttestationCount taskId 1 } := by
  cases valid <;>
    simp only [Storage.count, Bool.false_eq_true, if_true, if_false, checkedCredit_bind_eq_ok,
      Except.ok.injEq] at ran ⊢ <;>
    exact ran.2.symm

theorem rewardAttestation_ok {valid : Bool}
    (ran : rewardAttestation deployment ext msg world valid = .ok next) :
    ∃ tokens registry registryEvents,
      next = { world with bilateral.tokens := tokens, registry, registryEvents } ∧
      Registry.Moves deployment.registry world.bilateral.tokens tokens := by
  simp only [rewardAttestation] at ran
  split at ran
  · obtain ⟨called, rewarded, rfl⟩ := callRegistry_ok ran
    exact ⟨_, _, _, rfl, Registry.rewardVerifier_moves rewarded⟩
  · cases ran
    exact ⟨_, _, _, rfl, .none⟩

theorem submitAttestation_effect {v : UInt8} {r s : Bytes32} {valid : Bool}
    (ran : submitAttestation deployment ext msg world taskId v r s valid = .ok next) :
    Effect deployment ext msg world (.submitAttestation taskId v r s valid) next := by
  simp only [submitAttestation, bind_eq_ok, require_eq_ok, Except.ok.injEq] at ran
  obtain ⟨_, published, _, active, _, fresh, _, ⟨recovered, -⟩, counted, counting, recorded,
    recording, rewarded, rewarding, rfl⟩ := ran
  obtain ⟨called, calling, rfl⟩ := callRegistry_ok recording
  obtain ⟨tokens, registry, registryEvents, rfl, moves⟩ := rewardAttestation_ok rewarding
  have tokens_eq : called.tokens = world.bilateral.tokens := Registry.recordAttestation_tokens calling
  rw [tokens_eq] at moves
  exact .attested taskId v r s valid counted tokens registry registryEvents _ published active fresh
    recovered counting moves

/-- Every successful call has one of the effects. -/
theorem dispatch_effect {call : Call} (ran : dispatch deployment ext msg world call = .ok next) :
    Effect deployment ext msg world call next := by
  cases call with
  | publishEvidence taskId evidenceHash cid =>
      simp only [dispatch, publishEvidence, require_bind_eq_ok, checkedAdd_bind_eq_ok,
        Except.ok.injEq] at ran
      obtain ⟨unpublished, -, rfl⟩ := ran
      exact .published taskId evidenceHash cid _ unpublished
  | submitAttestation taskId v r s valid => exact submitAttestation_effect ran
  | settleWithAttestation taskId bindingId proofHash =>
      simp only [dispatch, settleWithAttestation, bind_eq_ok, requireSettleable_eq_ok,
        mapError_eq_ok, Except.ok.injEq] at ran
      obtain ⟨_, ⟨settleable, -⟩, bilateral, settled, rfl⟩ := ran
      exact .settled taskId bindingId proofHash bilateral _ settleable settled
  | raiseChallenge taskId reason evidenceCid =>
      simp only [dispatch, raiseChallenge, require_bind_eq_ok, Except.ok.injEq] at ran
      obtain ⟨published, early, unchallenged, rfl⟩ := ran
      exact .challenged taskId reason evidenceCid _ published early unchallenged
  | resolveChallenge taskId upheld =>
      simp only [dispatch, resolveChallenge, require_bind_eq_ok, Except.ok.injEq] at ran
      obtain ⟨arbitrator, challenged, unresolved, rfl⟩ := ran
      exact .resolved taskId upheld _ arbitrator challenged unresolved
  | setChallengeWindowDuration duration =>
      simp only [dispatch, setChallengeWindowDuration, require_bind_eq_ok, Except.ok.injEq] at ran
      obtain ⟨arbitrator, long, rfl⟩ := ran
      exact .configured duration _ arbitrator long

end Effects

/-! ## The bilateral contract in the composition -/

section Seen

variable {deployment : Deployment} {world next : World} {action : Action deployment}

/-- What a step of the three contracts is: a call of somebody else on the bilateral one, a
call of the registry, or a call of the gateway. -/
inductive Happened (deployment : Deployment) (world : World) : Action deployment → World → Prop
  | bilateral (action : Bilateral.Action deployment.bilateral) (bilateral : Bilateral.World)
      (now : Nat) :
      clock deployment world.now action = some now →
      (Bilateral.system deployment.bilateral).Step world.bilateral action bilateral →
      Happened deployment world (.bilateral action) { world with bilateral, now }
  | registry (msg : Message) (ext : Registry.Externals) (call : Registry.Call)
      (called : Registry.World) :
      world.now ≤ msg.timestamp →
      Registry.dispatch deployment.registry ext msg.sender
        ⟨world.registry, world.bilateral.tokens, world.registryEvents⟩ call = .ok called →
      Happened deployment world (.registry msg ext call)
        { world with
          now := msg.timestamp
          registry := called.storage
          bilateral.tokens := called.tokens
          registryEvents := called.events }
  | gateway (msg : Message) (ext : Externals) (call : Call) (next : World) :
      world.now ≤ msg.timestamp →
      Effect deployment ext msg { world with now := msg.timestamp } call next →
      Happened deployment world (.gateway msg ext call) next

theorem step_happened (step : (system deployment).Step world action next) :
    Happened deployment world action next := by
  cases action with
  | bilateral action =>
      obtain ⟨now, bilateral, clocked, taken, rfl⟩ := step_bilateral.mp step
      exact .bilateral action bilateral now clocked taken
  | registry msg ext call =>
      obtain ⟨later, ran⟩ := step_registry.mp step
      obtain ⟨called, dispatched, rfl⟩ := callRegistry_ok ran
      exact .registry msg ext call called later dispatched
  | gateway msg ext call =>
      obtain ⟨later, ran⟩ := step_gateway.mp step
      exact .gateway msg ext call next later (dispatch_effect ran)

/-- What a step is for the bilateral contract: an action of somebody else, a settlement the
gateway sends on after its gates have passed, or a movement of tokens. -/
inductive Seen (deployment : Deployment) (world : World) :
    Action deployment → Bilateral.World → Prop
  | direct (action : Bilateral.Action deployment.bilateral) (now : Nat) (next : Bilateral.World) :
      clock deployment world.now action = some now →
      (Bilateral.system deployment.bilateral).Step world.bilateral action next →
      Seen deployment world (.bilateral action) next
  | settled (msg : Message) (ext : Externals) (taskId : Bytes32) (bindingId : Nat)
      (proofHash : Bytes32) (next : Bilateral.World) :
      Settleable world msg.timestamp taskId bindingId proofHash →
      (Bilateral.system deployment.bilateral).Step world.bilateral
        (.call (deployment.forward msg) ext.bilateral (.settle bindingId proofHash)) next →
      Seen deployment world (.gateway msg ext (.settleWithAttestation taskId bindingId proofHash)) next
  | aside (action : Action deployment) (tokens : Address → Erc20 Address) :
      Registry.Moves deployment.registry world.bilateral.tokens tokens →
      Seen deployment world action { world.bilateral with tokens }

theorem step_seen (clocked : world.bilateral.now ≤ world.now)
    (step : (system deployment).Step world action next) :
    Seen deployment world action next.bilateral := by
  cases step_happened step with
  | bilateral action bilateral now clock taken => exact .direct action now bilateral clock taken
  | registry msg ext call called later ran => exact .aside _ _ (Registry.dispatch_moves ran)
  | gateway msg ext call next later effect =>
      cases effect with
      | settled taskId bindingId proofHash bilateral events settleable settled =>
          obtain ⟨published, bound, matching, uncondemned, quorum, closed, unchallenged⟩ := settleable
          refine .settled msg ext taskId bindingId proofHash bilateral
            ⟨published, bound, matching, uncondemned, quorum, closed, unchallenged⟩ ?_
          exact Bilateral.step_call.mpr ⟨clocked.trans later, settled⟩
      | attested taskId v r s valid storage tokens registry registryEvents events _ _ _ _ _ moves =>
          exact .aside _ _ moves
      | published | challenged | resolved | configured => exact .aside _ _ .none

/-- Every step is a run of the bilateral contract. -/
theorem Seen.run {bilateral : Bilateral.World} (seen : Seen deployment world action bilateral) :
    ∃ actions, (Bilateral.system deployment.bilateral).Run world.bilateral actions bilateral := by
  cases seen with
  | direct action now next clock taken => exact ⟨_, .single taken⟩
  | settled msg ext taskId bindingId proofHash next settleable taken => exact ⟨_, .single taken⟩
  | aside action tokens moves =>
      cases moves with
      | none => exact ⟨_, .nil⟩
      | call token operation ledger own ran =>
          refine ⟨_, .single (Bilateral.step_token.mpr ⟨?_, ledger, ran, rfl⟩)⟩
          rw [own]
          exact fun same => deployment.registry_ne_bilateral (Option.some.inj same)

/-- A transaction sets the clock of the bilateral contract. -/
theorem call_now {bilateral : Bilateral.World} {msg : Bilateral.Message deployment.bilateral}
    {ext : Bilateral.Externals} {call : Bilateral.Call}
    (reachable : (Bilateral.system deployment.bilateral).Reachable world.bilateral)
    (taken : (Bilateral.system deployment.bilateral).Step world.bilateral (.call msg ext call)
      bilateral) : bilateral.now = msg.timestamp := by
  cases Bilateral.reachable_happened reachable taken with
  | call msg ext call calls next later effect => exact effect.around.now_eq

theorem Happened.clocked
    (reachable : (Bilateral.system deployment.bilateral).Reachable world.bilateral)
    (clocked : world.bilateral.now ≤ world.now) (happened : Happened deployment world action next) :
    next.bilateral.now ≤ next.now := by
  cases happened with
  | bilateral action bilateral now clock_eq taken =>
      cases action with
      | call msg ext call =>
          have now_eq : now = msg.timestamp := by
            simp only [clock, Option.ite_none_right_eq_some, Option.some.injEq] at clock_eq
            exact clock_eq.2.symm
          exact ((call_now reachable taken).trans now_eq.symm).le
      | token token operation =>
          obtain ⟨-, ledger, -, rfl⟩ := Bilateral.step_token.mp taken
          have now_eq : world.now = now := Option.some.inj clock_eq
          exact clocked.trans now_eq.le
  | registry msg ext call called later ran => exact clocked.trans later
  | gateway msg ext call next later effect =>
      cases effect with
      | settled taskId bindingId proofHash bilateral events settleable settled =>
          exact (call_now reachable (Bilateral.step_call.mpr ⟨clocked.trans later, settled⟩)).le
      | _ => exact clocked.trans later

/-- In the composition the bilateral contract only reaches states it reaches alone, and its
clock is never ahead. -/
theorem reachable_bilateral (reachable : (system deployment).Reachable world) :
    (Bilateral.system deployment.bilateral).Reachable world.bilateral ∧
      world.bilateral.now ≤ world.now := by
  refine reachable.invariant (fun state initial => ?_) (fun state action next _ known step => ?_)
  · exact ⟨.init initial.1, initial.2.1⟩
  · obtain ⟨earlier, clocked⟩ := known
    obtain ⟨actions, run⟩ := (step_seen clocked step).run
    exact ⟨earlier.run run, (step_happened step).clocked earlier clocked⟩

theorem reachable_seen (reachable : (system deployment).Reachable world)
    (step : (system deployment).Step world action next) :
    Seen deployment world action next.bilateral :=
  step_seen (reachable_bilateral reachable).2 step

/-- A settlement through the gateway passes all gates and is one in the bilateral contract. -/
theorem step_settlement {msg : Message} {ext : Externals} {taskId proofHash : Bytes32}
    {bindingId : Nat} (reachable : (system deployment).Reachable world)
    (step : (system deployment).Step world
      (.gateway msg ext (.settleWithAttestation taskId bindingId proofHash)) next) :
    Settleable world msg.timestamp taskId bindingId proofHash ∧
      (Bilateral.system deployment.bilateral).Step world.bilateral
        (.call (deployment.forward msg) ext.bilateral (.settle bindingId proofHash))
        next.bilateral := by
  have clocked := (reachable_bilateral reachable).2
  cases step_happened step with
  | gateway _ _ _ next later effect =>
      cases effect with
      | settled _ _ _ bilateral events settleable settled =>
          obtain ⟨published, bound, matching, uncondemned, quorum, closed, unchallenged⟩ := settleable
          refine ⟨⟨published, bound, matching, uncondemned, quorum, closed, unchallenged⟩, ?_⟩
          exact Bilateral.step_call.mpr ⟨clocked.trans later, settled⟩

end Seen

end TrustChain.Gateway
