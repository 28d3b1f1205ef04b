import TrustChain.Verifier.Aggregator

/-!
# What stands behind a quorum

A positive verdict should rest on a threshold of registered active verifiers that have attested
the task and its evidence. It does as long as no more of the counted attestations are spoilt than
the threshold can spare: those that decide otherwise, name a wallet that is not the registered
one, or were made for another task.
-/

namespace TrustChain.Verifier

open Library

namespace AttestationAggregator

variable (aggregator : AttestationAggregator) (recovery : Recovery)
  (attested : String → List VerifierAttestation) (attestations : List VerifierAttestation)

/-- The wallet has attested what is signed of an attestation, for the task. -/
def AttestedFor (attested : String → List VerifierAttestation) (wallet : String) (taskId : TaskId)
    (attestation : VerifierAttestation) : Prop :=
  ∃ original ∈ attested wallet, buildAttestationEip712Payload original =
    buildAttestationEip712Payload attestation ∧ original.taskId = taskId

instance (wallet : String) (taskId : TaskId) :
    DecidablePred (AttestedFor attested wallet taskId) := fun _ => by
  unfold AttestedFor
  infer_instance

/-- A registered active verifier has signed that the evidence is in order, for the task. -/
def Backs (evidenceHash : String) (taskId : TaskId) (attestation : VerifierAttestation) : Prop :=
  ∃ node ∈ aggregator.activeNode attestation.verifierId,
    recovery.SignedBy node.walletAddress attestation ∧ attestation.decision = "STRUCT_OK" ∧
      attestation.evidenceHash = evidenceHash ∧
      AttestedFor attested node.walletAddress taskId attestation

instance (evidenceHash : String) (taskId : TaskId) :
    DecidablePred (aggregator.Backs recovery attested evidenceHash taskId) := fun _ => by
  unfold Backs
  infer_instance

/-- A threshold of attestations, of different verifiers, stands behind a quorum. -/
def Backed (quorum : AttestationQuorum) : Prop :=
  ∃ chosen, chosen ⊆ attestations ∧ (chosen.map VerifierAttestation.verifierId).Nodup ∧
    (∀ attestation ∈ chosen, aggregator.Backs recovery attested quorum.evidenceHash quorum.taskId
      attestation) ∧ aggregator.threshold ≤ chosen.length

/-! ## Spoilt attestations -/

/-- A counted attestation decides otherwise, names a wallet that is not the registered one, or
was made for another task. -/
def Spoilt (taskId : TaskId) (attestation : VerifierAttestation) : Prop :=
  attestation.decision ≠ "STRUCT_OK" ∨
    ∀ node ∈ aggregator.activeNode attestation.verifierId,
      lower node.walletAddress ≠ lower attestation.verifierWallet ∨
        ¬AttestedFor attested node.walletAddress taskId attestation

instance (taskId : TaskId) : DecidablePred (aggregator.Spoilt attested taskId) := fun _ => by
  unfold Spoilt
  infer_instance

def spoilt : List VerifierAttestation :=
  (aggregator.counted recovery attestations).filter fun attestation =>
    aggregator.Spoilt attested (aggregator.taskNamed recovery attestations) attestation

def unspoilt : List VerifierAttestation :=
  (aggregator.counted recovery attestations).filter fun attestation =>
    ¬aggregator.Spoilt attested (aggregator.taskNamed recovery attestations) attestation

/-- For each verifier an attestation that stands behind the quorum. -/
def backers : List VerifierAttestation :=
  firsts VerifierAttestation.verifierId (attestations.filter fun attestation =>
    aggregator.Backs recovery attested (aggregator.evidenceNamed attestations)
      (aggregator.taskNamed recovery attestations) attestation)

/-- The backers whose attestation is not the one that is counted for them. -/
def shadowed : List VerifierAttestation :=
  (aggregator.backers recovery attested attestations).filter fun attestation =>
    attestation.verifierId ∉
      (aggregator.unspoilt recovery attested attestations).map VerifierAttestation.verifierId

end AttestationAggregator

section Quorum

variable {aggregator : AttestationAggregator} {recovery : Recovery}
  {attested : String → List VerifierAttestation} {quorumId createdAt : String}
  {attestations : List VerifierAttestation} {attestation : VerifierAttestation}
  {quorum : AttestationQuorum}

/-- What is counted stands behind the quorum unless it is spoilt. -/
theorem backs_iff_of_counted (registry : aggregator.verifierRegistry.rows ≠ [])
    (counted : attestation ∈ aggregator.counted recovery attestations) :
    aggregator.Backs recovery attested (aggregator.evidenceNamed attestations)
        (aggregator.taskNamed recovery attestations) attestation ↔
      ¬aggregator.Spoilt attested (aggregator.taskNamed recovery attestations) attestation := by
  obtain ⟨considered, verified⟩ := mem_counted.mp counted
  obtain ⟨admitted, hash⟩ := mem_considered.mp considered
  obtain ⟨node, active⟩ := Option.isSome_iff_exists.mp ((mem_admitted.mp admitted).2 registry)
  have backs : aggregator.Backs recovery attested (aggregator.evidenceNamed attestations)
        (aggregator.taskNamed recovery attestations) attestation ↔
      lower node.walletAddress = lower attestation.verifierWallet ∧
        attestation.decision = "STRUCT_OK" ∧
        AttestationAggregator.AttestedFor attested node.walletAddress
          (aggregator.taskNamed recovery attestations) attestation := by
    simp [AttestationAggregator.Backs, active, Recovery.signedBy_iff verified, hash]
  rw [backs]
  simp only [AttestationAggregator.Spoilt, active, Option.mem_def, Option.some.injEq, forall_eq']
  tauto

theorem backed_iff
    (collected : aggregator.collect recovery quorumId createdAt attestations = some quorum) :
    aggregator.Backed recovery attested attestations quorum ↔
      aggregator.threshold ≤ (aggregator.backers recovery attested attestations).length := by
  rw [collect_ok collected]
  exact exists_distinct_iff

/-- The backers are the unspoilt attestations and the shadowed ones. -/
theorem length_backers (registry : aggregator.verifierRegistry.rows ≠ []) :
    (aggregator.backers recovery attested attestations).length +
        (aggregator.spoilt recovery attested attestations).length =
      (aggregator.counted recovery attestations).length +
        (aggregator.shadowed recovery attested attestations).length := by
  have counted : (aggregator.counted recovery attestations).length =
      (aggregator.spoilt recovery attested attestations).length +
        (aggregator.unspoilt recovery attested attestations).length := by
    rw [List.length_eq_length_filter_add fun attestation => aggregator.Spoilt attested
      (aggregator.taskNamed recovery attestations) attestation]
    simp [AttestationAggregator.spoilt, AttestationAggregator.unspoilt]
  have backers : (aggregator.backers recovery attested attestations).length =
      (aggregator.unspoilt recovery attested attestations).length +
        (aggregator.shadowed recovery attested attestations).length := by
    refine length_eq_add_missing ?_ nodup_firsts fun verifierId inside => ?_
    · exact nodup_counted.sublist (List.filter_sublist.map _)
    · obtain ⟨attestation, member, rfl⟩ := List.mem_map.mp inside
      obtain ⟨counted, unspoilt⟩ := List.mem_filter.mp member
      have backs := (backs_iff_of_counted registry counted).mpr (of_decide_eq_true unspoilt)
      obtain ⟨first, kept, same⟩ := exists_first_filter VerifierAttestation.verifierId
        (mem_of_mem_counted counted) backs
      exact List.mem_map.mpr ⟨first, kept, same⟩
  omega

/-- A quorum with a positive verdict is backed exactly if no more of the counted attestations are
spoilt than are counted beyond the threshold, or shadowed. -/
theorem verdict_backed_iff (registry : aggregator.verifierRegistry.rows ≠ [])
    (collected : aggregator.collect recovery quorumId createdAt attestations = some quorum) :
    (getVerdict quorum = .attestedOk →
        aggregator.Backed recovery attested attestations quorum) ↔
      (aggregator.threshold ≤ (aggregator.counted recovery attestations).length →
        (aggregator.counted recovery attestations).length ≤
          2 * (aggregator.counted recovery attestations).countP
            (fun attestation => attestation.decision = "STRUCT_OK") →
        (aggregator.spoilt recovery attested attestations).length + aggregator.threshold ≤
          (aggregator.counted recovery attestations).length +
            (aggregator.shadowed recovery attested attestations).length) := by
  have backers : (aggregator.backers recovery attested attestations).length +
        (aggregator.spoilt recovery attested attestations).length =
      (aggregator.counted recovery attestations).length +
        (aggregator.shadowed recovery attested attestations).length := length_backers registry
  rw [getVerdict_eq_attestedOk collected, backed_iff collected, and_imp]
  refine imp_congr_right fun _ => imp_congr_right fun _ => ?_
  omega

/-! ## The task that is named -/

section Relabelled

variable {taskId : TaskId}

/-- The same attestations, submitted for a task. -/
def relabel (taskId : TaskId) (attestation : VerifierAttestation) : VerifierAttestation :=
  { attestation with taskId }

theorem admitted_relabel : aggregator.admitted (attestations.map (relabel taskId)) =
    (aggregator.admitted attestations).map (relabel taskId) := by
  have moved : firsts VerifierAttestation.verifierId (attestations.map (relabel taskId)) =
      (firsts VerifierAttestation.verifierId attestations).map (relabel taskId) :=
    firsts_map fun _ => rfl
  unfold AttestationAggregator.admitted
  rw [moved]
  split
  · exact List.filter_map
  · rfl

theorem considered_relabel : aggregator.considered (attestations.map (relabel taskId)) =
    (aggregator.considered attestations).map (relabel taskId) := by
  unfold AttestationAggregator.considered
  rw [admitted_relabel, List.filter_map, List.head?_map, Option.map_map]
  rfl

theorem counted_relabel : aggregator.counted recovery (attestations.map (relabel taskId)) =
    (aggregator.counted recovery attestations).map (relabel taskId) := by
  unfold AttestationAggregator.counted
  rw [considered_relabel, List.filter_map]
  rfl

theorem computeVerdict_relabel (list : List VerifierAttestation) :
    computeVerdict (list.map (relabel taskId)) = computeVerdict list := by
  simp only [computeVerdict, List.map_eq_nil_iff, List.length_map, List.countP_map]
  rfl

theorem quorum_relabel :
    aggregator.quorum recovery quorumId createdAt (attestations.map (relabel taskId)) =
      { aggregator.quorum recovery quorumId createdAt attestations with
        taskId :=
          if (aggregator.counted recovery attestations).length = 0 then "" else taskId } := by
  have ids : (VerifierAttestation.verifierId ∘ relabel taskId) = VerifierAttestation.verifierId :=
    rfl
  have hashes : (VerifierAttestation.evidenceHash ∘ relabel taskId) =
      VerifierAttestation.evidenceHash := rfl
  have task : aggregator.taskNamed recovery (attestations.map (relabel taskId)) =
      if (aggregator.counted recovery attestations).length = 0 then "" else taskId := by
    rw [AttestationAggregator.taskNamed, counted_relabel]
    cases aggregator.counted recovery attestations <;> rfl
  simp only [AttestationAggregator.quorum, task, AttestationAggregator.evidenceNamed,
    counted_relabel, considered_relabel, computeVerdict_relabel, List.length_map, List.map_map,
    List.head?_map, Option.map_map, ids, hashes]

/-- No signature covers the task: the same attestations make the same quorum for any other. -/
theorem collect_relabel :
    aggregator.collect recovery quorumId createdAt (attestations.map (relabel taskId)) =
      (aggregator.collect recovery quorumId createdAt attestations).map fun quorum =>
        { quorum with taskId := if quorum.validSignatures = 0 then "" else taskId } := by
  have verified : (∀ attestation ∈ (aggregator.considered attestations).map (relabel taskId),
        (recovery.verifyAttestation attestation).isSome) ↔
      ∀ attestation ∈ aggregator.considered attestations,
        (recovery.verifyAttestation attestation).isSome :=
    List.forall_mem_map
  rw [collect_eq, collect_eq, considered_relabel, if_congr verified rfl rfl, quorum_relabel]
  split <;> rfl

end Relabelled

end Quorum

/-! ## Scenes -/

namespace Demo

def node (walletAddress : String) : VerifierNodeInfo := { walletAddress, status := .active }

/-- Three of four verifiers have to agree. -/
def aggregator : AttestationAggregator where
  threshold := 3
  totalVerifiers := 4
  verifierRegistry := (((Table.empty.set "v" (node "0xa")).set "w" (node "0xb")).set "x"
    (node "0xc")).set "y" (node "0xd")
  positive := by decide
  enough := by decide

/-- What a wallet has signed, and a short name for the signature's bytes. -/
structure Signing where
  wallet : String
  verifierId : VerifierId
  decision : String
  signature : String

def evidence : String := "ee"

def Signing.attestation (signing : Signing) : VerifierAttestation where
  taskId := "t"
  evidenceHash := evidence
  cid := "c"
  verifierId := signing.verifierId
  verifierWallet := signing.wallet
  decision := signing.decision
  signature := signing.signature

def signings : List Signing :=
  [⟨"0xa", "v", "STRUCT_OK", "0x1"⟩, ⟨"0xb", "w", "STRUCT_OK", "0x2"⟩,
    ⟨"0xc", "x", "STRUCT_OK", "0x3"⟩, ⟨"0xd", "y", "STRUCT_FAIL", "0x4"⟩,
    ⟨"0xc", "x", "STRUCT_FAIL", "0x5"⟩, ⟨"0xe", "v", "STRUCT_OK", "0x6"⟩,
    ⟨"0xe", "w", "STRUCT_OK", "0x7"⟩, ⟨"0xe", "x", "STRUCT_OK", "0x8"⟩]

/-- Recovery of the wallets that have signed. -/
def recovery : Recovery where
  recoverMessage data signature := (signings.find? fun signing =>
    signing.signature = signature ∧
      buildAttestationEip712Payload signing.attestation = some data).map Signing.wallet
  keccak256 := id
  recoverAddress _ _ _ _ := none

/-- Three verifiers agree, and one does not. -/
def honest : List VerifierAttestation := (signings.take 4).map Signing.attestation

/-- Someone signs with an own key, in the names of three verifiers. -/
def posed : List VerifierAttestation := (signings.drop 5).map Signing.attestation

/-- Two verifiers agree, and two do not. -/
def split : List VerifierAttestation :=
  ((signings.take 2) ++ (signings.drop 3).take 2).map Signing.attestation

/-- The attestations of task `t` are submitted for another task. -/
def relabelled : List VerifierAttestation := honest.map (relabel "u")

/-- What the keys of wallets have attested. -/
def history (attestations : List VerifierAttestation) (wallet : String) :
    List VerifierAttestation :=
  attestations.filter fun attestation => attestation.verifierWallet = wallet

def quorum (attestations : List VerifierAttestation) : AttestationQuorum :=
  aggregator.quorum recovery "q" "2026-01-01T00:00:00Z" attestations

end Demo

theorem verdict_backed_iff_honest :
    getVerdict (Demo.quorum Demo.honest) = .attestedOk ∧
      Demo.aggregator.Backed Demo.recovery (Demo.history Demo.honest) Demo.honest
        (Demo.quorum Demo.honest) := by
  have collected : Demo.aggregator.collect Demo.recovery "q" "2026-01-01T00:00:00Z" Demo.honest =
      some (Demo.quorum Demo.honest) := by decide +kernel
  have registry : Demo.aggregator.verifierRegistry.rows ≠ [] := by decide +kernel
  have positive : getVerdict (Demo.quorum Demo.honest) = .attestedOk := by decide +kernel
  refine ⟨positive, (verdict_backed_iff registry collected).mpr ?_ positive⟩
  decide +kernel

/-- A stranger poses as three verifiers, two of four verifiers decide, and attestations are
taken for another task. -/
theorem not_verdict_backed :
    (∀ attestations ∈ [Demo.posed, Demo.split, Demo.relabelled],
        Demo.aggregator.collect Demo.recovery "q" "2026-01-01T00:00:00Z" attestations =
            some (Demo.quorum attestations) ∧
          getVerdict (Demo.quorum attestations) = .attestedOk) ∧
      (Demo.quorum Demo.relabelled).taskId = "u" ∧
      ¬Demo.aggregator.Backed Demo.recovery (Demo.history Demo.posed) Demo.posed
        (Demo.quorum Demo.posed) ∧
      ¬Demo.aggregator.Backed Demo.recovery (Demo.history Demo.split) Demo.split
        (Demo.quorum Demo.split) ∧
      ¬Demo.aggregator.Backed Demo.recovery (Demo.history Demo.honest) Demo.relabelled
        (Demo.quorum Demo.relabelled) := by
  have collected : ∀ attestations ∈ [Demo.posed, Demo.split, Demo.relabelled],
      Demo.aggregator.collect Demo.recovery "q" "2026-01-01T00:00:00Z" attestations =
          some (Demo.quorum attestations) ∧
        getVerdict (Demo.quorum attestations) = .attestedOk := by
    decide +kernel
  have posed := (collected Demo.posed (.head _)).1
  have split := (collected Demo.split (.tail _ (.head _))).1
  have relabelled := (collected Demo.relabelled (.tail _ (.tail _ (.head _)))).1
  refine ⟨collected, ?_, ?_, ?_, ?_⟩
  · decide +kernel
  · rw [backed_iff posed]
    decide +kernel
  · rw [backed_iff split]
    decide +kernel
  · rw [backed_iff relabelled]
    decide +kernel

end TrustChain.Verifier
