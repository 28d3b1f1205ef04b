import Mathlib.Data.Set.Card
import TrustChain.Gateway.Challenges

/-!
# Counting attestations

Each attestation is counted once, for a verifier that is active then and has signed the
evidence that the task still has. Whatever happens to the verifier afterwards, the record
of its attestation and both counts stay.
-/

namespace TrustChain.Gateway

open Library Function

section Attestations

variable {deployment : Deployment} {start world next : World} {action : Action deployment}
  {actions : List (Action deployment)} {taskId : Bytes32}

/-- The verifiers whose attestation of a task is on record. -/
def Storage.attesters (storage : Storage) (taskId : Bytes32) : Set Address :=
  {verifier | storage.attestationSubmitted taskId verifier = true}

/-- All attestations counted for a task. -/
def Storage.attestationCount (storage : Storage) (taskId : Bytes32) : Nat :=
  storage.validAttestationCount taskId + storage.failAttestationCount taskId

/-- A verifier may attest the evidence of a task, and has signed it. -/
structure Attests (deployment : Deployment) (world : World) (taskId : Bytes32) (verifier : Address)
    (v : UInt8) (r s : Bytes32) : Prop where
  published : world.storage.taskEvidence taskId ≠ 0
  active : world.registry.isActiveVerifier verifier = true
  recovered : deployment.ecrecover (deployment.attestationDigest taskId
    (world.storage.taskEvidence taskId) (world.storage.taskEvidenceCid taskId) verifier) v r s =
      verifier
  nonzero : verifier ≠ 0

/-- A step that records a new attestation of the task. -/
inductive Attestation (deployment : Deployment) (world : World) (taskId : Bytes32) :
    Action deployment → World → Address → Prop
  | submitted (msg : Message) (ext : Externals) (v : UInt8) (r s : Bytes32) (valid : Bool)
      (next : World) :
      Attests deployment world taskId msg.sender v r s →
      msg.sender ∉ world.storage.attesters taskId →
      next.storage.attesters taskId = insert msg.sender (world.storage.attesters taskId) →
      next.storage.validAttestationCount taskId =
        world.storage.validAttestationCount taskId + (if valid then 1 else 0) →
      next.storage.failAttestationCount taskId =
        world.storage.failAttestationCount taskId + (if valid then 0 else 1) →
      Attestation deployment world taskId
        (.gateway msg ext (.submitAttestation taskId v r s valid)) next msg.sender

/-- The attestations of a task are as they were. -/
structure SameAttestations (world next : World) (taskId : Bytes32) : Prop where
  attesters_eq : next.storage.attesters taskId = world.storage.attesters taskId
  valid_eq : next.storage.validAttestationCount taskId = world.storage.validAttestationCount taskId
  fail_eq : next.storage.failAttestationCount taskId = world.storage.failAttestationCount taskId

/-- The zero address signs nothing. -/
theorem submitAttestation_nonzero {msg : Message} {ext : Externals} {v : UInt8} {r s : Bytes32}
    {valid : Bool}
    (ran : submitAttestation deployment ext msg world taskId v r s valid = .ok next) :
    msg.sender ≠ 0 := by
  simp only [submitAttestation, bind_eq_ok, require_eq_ok] at ran
  obtain ⟨_, -, _, -, _, -, _, ⟨recovered, nonzero⟩, -⟩ := ran
  rwa [recovered] at nonzero

/-- A step leaves the attestations of a task alone, or adds one. -/
theorem step_attestation (step : (system deployment).Step world action next) (taskId : Bytes32) :
    SameAttestations world next taskId ∨
      ∃ verifier, Attestation deployment world taskId action next verifier := by
  cases step_happened step with
  | bilateral => exact .inl ⟨rfl, rfl, rfl⟩
  | registry => exact .inl ⟨rfl, rfl, rfl⟩
  | gateway msg ext call next later effect =>
      cases effect with
      | attested attestedId v r s valid storage tokens registry registryEvents events published
          active fresh recovered counting =>
          have counted := count_ok counting
          by_cases same : taskId = attestedId
          · subst same
            have nonzero := submitAttestation_nonzero (step_gateway.mp step).2
            refine .inr ⟨msg.sender, .submitted msg ext v r s valid _
              ⟨published, active, recovered, nonzero⟩ ?_ ?_ ?_ ?_⟩
            · simpa [Storage.attesters] using fresh
            · apply Set.ext
              intro verifier
              rw [counted]
              by_cases self : verifier = msg.sender <;> simp [Storage.attesters, self]
            · rw [counted]
              cases valid <;> simp [credit_apply]
            · rw [counted]
              cases valid <;> simp [credit_apply]
          · refine .inl ⟨?_, ?_, ?_⟩
            · rw [counted]
              simp [Storage.attesters, same]
            · rw [counted]
              cases valid <;> simp [credit_apply, same]
            · rw [counted]
              cases valid <;> simp [credit_apply, same]
      | published | settled | challenged | resolved | configured => exact .inl ⟨rfl, rfl, rfl⟩

theorem Attestation.counted {verifier : Address}
    (attestation : Attestation deployment world taskId action next verifier) :
    world.storage.validAttestationCount taskId ≤ next.storage.validAttestationCount taskId ∧
      world.storage.failAttestationCount taskId ≤ next.storage.failAttestationCount taskId ∧
      next.storage.attestationCount taskId = world.storage.attestationCount taskId + 1 := by
  cases attestation with
  | submitted msg ext v r s valid next attests fresh attesters_eq valid_eq fail_eq =>
      unfold Storage.attestationCount
      rw [valid_eq, fail_eq]
      cases valid
      · exact ⟨le_rfl, Nat.le_succ _, rfl⟩
      · exact ⟨Nat.le_succ _, le_rfl, Nat.add_right_comm _ _ _⟩

/-- The counts add up to the number of verifiers on record. -/
theorem reachable_counted (reachable : (system deployment).Reachable world) (taskId : Bytes32) :
    (world.storage.attesters taskId).encard = world.storage.attestationCount taskId := by
  refine reachable.invariant (fun state initial => ?_) (fun state action next _ counted step => ?_)
  · obtain ⟨-, -, -, duration, fresh⟩ := initial
    simp [Storage.attesters, Storage.attestationCount, fresh]
  · rcases step_attestation step taskId with same | ⟨verifier, attestation⟩
    · unfold Storage.attestationCount
      rw [same.attesters_eq, same.valid_eq, same.fail_eq]
      exact counted
    · rw [attestation.counted.2.2]
      cases attestation with
      | submitted msg ext v r s valid next attests unattested attesters_eq =>
          rw [attesters_eq, Set.encard_insert_of_notMem unattested, counted, Nat.cast_succ]

/-- Neither count of a task ever falls, and published evidence is never replaced. -/
theorem run_monotone {later : World} (taskId : Bytes32)
    (run : (system deployment).Run world actions later) :
    world.storage.validAttestationCount taskId ≤ later.storage.validAttestationCount taskId ∧
      world.storage.failAttestationCount taskId ≤ later.storage.failAttestationCount taskId ∧
      (world.storage.taskEvidence taskId ≠ 0 → SameEvidence world later taskId) := by
  induction run with
  | nil => exact ⟨le_rfl, le_rfl, fun _ => ⟨rfl, rfl, rfl⟩⟩
  | snoc _ step ih =>
      obtain ⟨valid, fail, evidence⟩ := ih
      refine ⟨?_, ?_, fun published => ?_⟩
      · rcases step_attestation step taskId with same | ⟨verifier, attestation⟩
        · exact valid.trans same.valid_eq.ge
        · exact valid.trans attestation.counted.1
      · rcases step_attestation step taskId with same | ⟨verifier, attestation⟩
        · exact fail.trans same.fail_eq.ge
        · exact fail.trans attestation.counted.2.1
      · obtain ⟨evidence_eq, cid_eq, challengeEnd_eq⟩ := evidence published
        rw [← evidence_eq] at published
        have now := step_published step published
        exact ⟨now.evidence_eq.trans evidence_eq, now.cid_eq.trans cid_eq,
          now.challengeEnd_eq.trans challengeEnd_eq⟩

/-- Every verifier on record has submitted its attestation somewhere in the run. -/
theorem attester_submitted (initial : (system deployment).Init start)
    (run : (system deployment).Run start actions world) {verifier : Address}
    (attested : verifier ∈ world.storage.attesters taskId) :
    (system deployment).Takes start actions world fun state action next =>
      Attestation deployment state taskId action next verifier := by
  refine .of_onset (fun world => verifier ∈ world.storage.attesters taskId)
    (fun state action next _ step attested => ?_) (.init initial) ?_ run attested
  · rcases step_attestation step taskId with same | ⟨attester, attestation⟩
    · exact .inl (same.attesters_eq ▸ attested)
    · by_cases new : verifier = attester
      · exact .inr (new ▸ attestation)
      · cases attestation with
        | submitted msg ext v r s valid next attests unattested attesters_eq =>
            rw [attesters_eq] at attested
            exact .inl (attested.resolve_left new)
  · obtain ⟨-, -, -, duration, fresh⟩ := initial
    simp [Storage.attesters, fresh]

/-- What an attestation on record goes back to: a step of the run in which its verifier was
active and had signed the evidence that the task has. -/
structure Vouched (Signed : Address → Bytes32 → Prop) (deployment : Deployment) (world : World)
    (taskId : Bytes32) (verifier : Address) (state : World) (action : Action deployment) : Prop where
  submits : ∃ msg ext v r s valid,
    action = .gateway msg ext (.submitAttestation taskId v r s valid) ∧ msg.sender = verifier
  active : state.registry.isActiveVerifier verifier = true
  published : state.storage.taskEvidence taskId ≠ 0
  evidence_eq : state.storage.taskEvidence taskId = world.storage.taskEvidence taskId
  cid_eq : state.storage.taskEvidenceCid taskId = world.storage.taskEvidenceCid taskId
  signed : Signed verifier (deployment.attestationDigest taskId (world.storage.taskEvidence taskId)
    (world.storage.taskEvidenceCid taskId) verifier)

/-- The counts of a task add up to the number of verifiers on record, each of which was
active when it submitted and had signed the evidence; neither the counts nor the evidence
ever go back. -/
theorem attestation_counting {Signed : Address → Bytes32 → Prop}
    (genuine : ∀ digest v r s, deployment.ecrecover digest v r s ≠ 0 →
      Signed (deployment.ecrecover digest v r s) digest)
    (initial : (system deployment).Init start) (run : (system deployment).Run start actions world)
    (taskId : Bytes32) :
    (world.storage.attesters taskId).encard =
      (world.storage.validAttestationCount taskId + world.storage.failAttestationCount taskId : Nat) ∧
    (∀ verifier, world.storage.attestationSubmitted taskId verifier = true →
      (system deployment).Takes start actions world fun state action _ =>
        Vouched Signed deployment world taskId verifier state action) ∧
    ∀ more later, (system deployment).Run world more later →
      world.storage.validAttestationCount taskId ≤ later.storage.validAttestationCount taskId ∧
      world.storage.failAttestationCount taskId ≤ later.storage.failAttestationCount taskId ∧
      (world.storage.taskEvidence taskId ≠ 0 →
        later.storage.taskEvidence taskId = world.storage.taskEvidence taskId ∧
        later.storage.taskEvidenceCid taskId = world.storage.taskEvidenceCid taskId) := by
  refine ⟨reachable_counted ⟨start, actions, initial, run⟩ taskId, fun verifier attested => ?_,
    fun more later rest => ?_⟩
  · refine (attester_submitted initial run attested).mono
      fun state action next after step rest attestation => ?_
    cases attestation with
    | submitted msg ext v r s valid next attests =>
        obtain ⟨published, active, recovered, nonzero⟩ := attests
        have kept := (run_monotone taskId (rest.cons step)).2.2 published
        have signed := genuine _ v r s (by rwa [recovered])
        rw [recovered, ← kept.evidence_eq, ← kept.cid_eq] at signed
        exact ⟨⟨msg, ext, v, r, s, valid, rfl, rfl⟩, active, published, kept.evidence_eq.symm,
          kept.cid_eq.symm, signed⟩
  · obtain ⟨valid, fail, evidence⟩ := run_monotone taskId rest
    exact ⟨valid, fail, fun published =>
      ⟨(evidence published).evidence_eq, (evidence published).cid_eq⟩⟩

end Attestations

namespace Demo

/-- A digest of the small deployment is signed by whom it names. -/
def Signed (account : Address) (digest : Bytes32) : Prop := digest.setWidth 160 = account

theorem genuine (digest : Bytes32) (v : UInt8) (r s : Bytes32)
    (_ : deployment.ecrecover digest v r s ≠ 0) :
    Signed (deployment.ecrecover digest v r s) digest := rfl

end Demo

theorem attestation_counting_demo :
    (Demo.attested.world.storage.attesters 77).encard = 1 :=
  (attestation_counting Demo.genuine (Demo.start_init 3600) Demo.attested.run 77).1.trans
    (by decide +kernel)

end TrustChain.Gateway
