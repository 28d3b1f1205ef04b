import TrustChain.Library.Firsts
import TrustChain.Library.Table
import TrustChain.Verifier.Signer

/-!
# The attestation aggregator

Attestations are filtered in turn: the first of each verifier, registered active verifiers, one
evidence hash, verified signatures. Those that are left are counted against the threshold, and
decide by majority.
-/

namespace TrustChain.Verifier

open Library

inductive VerifierStatus where
  | active | suspended | slashed | pending
deriving DecidableEq

structure VerifierNodeInfo where
  walletAddress : String := ""
  status : VerifierStatus := .pending
deriving DecidableEq

inductive QuorumStatus where
  | collecting | attestedOk | attestedFail | insufficientSignatures
deriving DecidableEq

inductive Verdict where
  | attestedOk | attestedFail | insufficient
deriving DecidableEq

structure AttestationQuorum where
  quorumId : String
  taskId : TaskId := ""
  evidenceHash : String := ""
  threshold : Nat
  totalVerifiers : Nat
  validSignatures : Nat
  decision : Verdict
  attestationIds : List VerifierId := []
  verifierIds : List VerifierId := []
  status : QuorumStatus
  createdAt : String
deriving DecidableEq

structure AttestationAggregator where
  threshold : Nat
  totalVerifiers : Nat
  verifierRegistry : Table VerifierId VerifierNodeInfo
  positive : 1 ≤ threshold
  enough : threshold ≤ totalVerifiers

/-- The majority decision, where ties are for the seller. -/
def computeVerdict (validAttestations : List VerifierAttestation) : Verdict :=
  if validAttestations = [] then .attestedFail
  else
    let okCount := validAttestations.countP fun attestation => attestation.decision = "STRUCT_OK"
    let failCount := validAttestations.length - okCount
    if failCount ≤ okCount then .attestedOk else .attestedFail

/-- The attestations whose signatures verify; `none` if a verification raises. -/
def keepVerified (recovery : Recovery) :
    List VerifierAttestation → Option (List VerifierAttestation)
  | [] => some []
  | attestation :: rest => do
      let valid ← recovery.verifyAttestation attestation
      let kept ← keepVerified recovery rest
      some (if valid then attestation :: kept else kept)

namespace AttestationAggregator

/-- `__init__`. -/
def create (threshold totalVerifiers : Int)
    (verifierRegistry : Table VerifierId VerifierNodeInfo) : Except String AttestationAggregator :=
  if positive : threshold < 1 then .error "threshold must be at least 1"
  else if enough : totalVerifiers < threshold then
    .error ("total_verifiers (" ++ toString totalVerifiers ++ ") must be ≥ threshold (" ++
      toString threshold ++ ")")
  else .ok {
    threshold := threshold.toNat
    totalVerifiers := totalVerifiers.toNat
    verifierRegistry
    positive := by omega
    enough := by omega }

variable (aggregator : AttestationAggregator) (recovery : Recovery) (quorumId createdAt : String)

/-- The node of a registered active verifier. -/
def activeNode (verifierId : VerifierId) : Option VerifierNodeInfo :=
  (aggregator.verifierRegistry.get verifierId).filter fun node => node.status = .active

def emptyQuorum : AttestationQuorum where
  quorumId
  threshold := aggregator.threshold
  totalVerifiers := aggregator.totalVerifiers
  validSignatures := 0
  decision := .attestedFail
  status := .insufficientSignatures
  createdAt

/-- The first attestation of each verifier, of registered active ones if there is a registry. -/
def admitted (attestations : List VerifierAttestation) : List VerifierAttestation :=
  let deduped := firsts VerifierAttestation.verifierId attestations
  if aggregator.verifierRegistry.rows ≠ [] then
    deduped.filter fun attestation => (aggregator.activeNode attestation.verifierId).isSome
  else deduped

/-- `collect`; `none` if the verification of an attestation raises. -/
def collect (attestations : List VerifierAttestation) : Option AttestationQuorum :=
  match aggregator.admitted attestations with
  | [] => some (aggregator.emptyQuorum quorumId createdAt)
  | first :: rest =>
      let canonicalHash := first.evidenceHash
      -- the first one names it itself, so these are not empty
      let consistent := (first :: rest).filter fun attestation =>
        attestation.evidenceHash = canonicalHash
      (keepVerified recovery consistent).map fun validAttestations => {
        quorumId
        taskId := (validAttestations.head?.map VerifierAttestation.taskId).getD ""
        evidenceHash := canonicalHash
        threshold := aggregator.threshold
        totalVerifiers := aggregator.totalVerifiers
        validSignatures := validAttestations.length
        decision := computeVerdict validAttestations
        attestationIds := validAttestations.map VerifierAttestation.verifierId
        verifierIds := validAttestations.map VerifierAttestation.verifierId
        status :=
          if aggregator.threshold ≤ validAttestations.length then .attestedOk
          else .insufficientSignatures
        createdAt }

end AttestationAggregator

def isQuorumReached (quorum : AttestationQuorum) : Bool := quorum.status = .attestedOk

def getVerdict (quorum : AttestationQuorum) : Verdict :=
  if isQuorumReached quorum then quorum.decision else .insufficient

/-! ## What is counted -/

namespace AttestationAggregator

variable (aggregator : AttestationAggregator) (recovery : Recovery) (quorumId createdAt : String)
  (attestations : List VerifierAttestation)

/-- The admitted attestations that name the evidence of the first one. -/
def considered : List VerifierAttestation :=
  (aggregator.admitted attestations).filter fun attestation =>
    (aggregator.admitted attestations).head?.map VerifierAttestation.evidenceHash =
      some attestation.evidenceHash

/-- The attestations that are counted. -/
def counted : List VerifierAttestation :=
  (aggregator.considered attestations).filter fun attestation =>
    recovery.verifyAttestation attestation = some true

/-- The evidence that the considered attestations name. -/
def evidenceNamed : String :=
  ((aggregator.considered attestations).head?.map VerifierAttestation.evidenceHash).getD ""

/-- The task that the first counted attestation names. -/
def taskNamed : TaskId :=
  ((aggregator.counted recovery attestations).head?.map VerifierAttestation.taskId).getD ""

/-- What is reported of the counted attestations. -/
def quorum : AttestationQuorum where
  quorumId
  taskId := aggregator.taskNamed recovery attestations
  evidenceHash := aggregator.evidenceNamed attestations
  threshold := aggregator.threshold
  totalVerifiers := aggregator.totalVerifiers
  validSignatures := (aggregator.counted recovery attestations).length
  decision := computeVerdict (aggregator.counted recovery attestations)
  attestationIds := (aggregator.counted recovery attestations).map VerifierAttestation.verifierId
  verifierIds := (aggregator.counted recovery attestations).map VerifierAttestation.verifierId
  status :=
    if aggregator.threshold ≤ (aggregator.counted recovery attestations).length then .attestedOk
    else .insufficientSignatures
  createdAt

end AttestationAggregator

section Collect

variable {aggregator : AttestationAggregator} {recovery : Recovery} {quorumId createdAt : String}
  {attestations : List VerifierAttestation} {attestation : VerifierAttestation}

theorem keepVerified_eq (list : List VerifierAttestation) : keepVerified recovery list =
    if ∀ attestation ∈ list, (recovery.verifyAttestation attestation).isSome then
      some (list.filter fun attestation => recovery.verifyAttestation attestation = some true)
    else none := by
  induction list with
  | nil => rfl
  | cons attestation rest ih =>
      rw [keepVerified, ih]
      cases verified : recovery.verifyAttestation attestation with
      | none => simp [verified]
      | some valid =>
          split
          case isTrue all =>
            rw [if_pos (List.forall_mem_cons.mpr ⟨by rw [verified]; rfl, all⟩)]
            cases valid <;> simp [verified]
          case isFalse raises =>
            rw [if_neg fun every => raises (List.forall_mem_cons.mp every).2]
            rfl

theorem considered_of_cons {first : VerifierAttestation} {rest : List VerifierAttestation}
    (admitted : aggregator.admitted attestations = first :: rest) :
    aggregator.considered attestations = (first :: rest).filter fun attestation =>
      attestation.evidenceHash = first.evidenceHash := by
  rw [AttestationAggregator.considered, admitted]
  apply List.filter_congr
  intro attestation _
  simp [eq_comm]

/-- The aggregator reports what it counts, unless the verification of a considered attestation
raises. -/
theorem collect_eq : aggregator.collect recovery quorumId createdAt attestations =
    if ∀ attestation ∈ aggregator.considered attestations,
        (recovery.verifyAttestation attestation).isSome then
      some (aggregator.quorum recovery quorumId createdAt attestations)
    else none := by
  unfold AttestationAggregator.collect
  cases admitted : aggregator.admitted attestations with
  | nil =>
      have positive := aggregator.positive
      simp [AttestationAggregator.quorum, AttestationAggregator.taskNamed,
        AttestationAggregator.evidenceNamed, AttestationAggregator.counted,
        AttestationAggregator.considered, AttestationAggregator.emptyQuorum, admitted,
        computeVerdict]
      omega
  | cons first rest =>
      have considered := considered_of_cons admitted
      simp only [keepVerified_eq, ← considered]
      have hash : (aggregator.considered attestations).head?.map
          VerifierAttestation.evidenceHash = some first.evidenceHash := by
        simp [considered]
      split
      case isTrue =>
        rw [AttestationAggregator.quorum, AttestationAggregator.evidenceNamed, hash]
        rfl
      case isFalse => rfl

theorem collect_ok {quorum : AttestationQuorum}
    (collected : aggregator.collect recovery quorumId createdAt attestations = some quorum) :
    quorum = aggregator.quorum recovery quorumId createdAt attestations := by
  rw [collect_eq] at collected
  split at collected
  case isTrue => exact (Option.some.inj collected).symm
  case isFalse => cases collected

theorem computeVerdict_eq_attestedOk {list : List VerifierAttestation} :
    computeVerdict list = .attestedOk ↔ list ≠ [] ∧ list.length ≤
      2 * list.countP fun attestation => attestation.decision = "STRUCT_OK" := by
  unfold computeVerdict
  by_cases empty : list = []
  · simp [empty]
  · rw [if_neg empty, and_iff_right empty]
    dsimp only
    split
    case isTrue fewer => exact iff_of_true rfl (by omega)
    case isFalse more => exact iff_of_false nofun (by omega)

/-- An attestation is positive if a threshold of attestations is counted, and as many of them
decide for the seller as otherwise. -/
theorem getVerdict_eq_attestedOk {quorum : AttestationQuorum}
    (collected : aggregator.collect recovery quorumId createdAt attestations = some quorum) :
    getVerdict quorum = .attestedOk ↔
      aggregator.threshold ≤ (aggregator.counted recovery attestations).length ∧
        (aggregator.counted recovery attestations).length ≤
          2 * (aggregator.counted recovery attestations).countP fun attestation =>
            attestation.decision = "STRUCT_OK" := by
  rw [collect_ok collected]
  unfold getVerdict isQuorumReached
  by_cases reached : aggregator.threshold ≤ (aggregator.counted recovery attestations).length
  · have nonempty : aggregator.counted recovery attestations ≠ [] :=
      List.length_pos_iff.mp (aggregator.positive.trans reached)
    simp [AttestationAggregator.quorum, reached, computeVerdict_eq_attestedOk, nonempty]
  · simp [AttestationAggregator.quorum, reached]

/-! ## Where counted attestations come from -/

/-- The verifiers whose attestations are admitted: all, if there is no registry. -/
def AttestationAggregator.Admits (aggregator : AttestationAggregator) (verifierId : VerifierId) :
    Prop :=
  aggregator.verifierRegistry.rows ≠ [] → (aggregator.activeNode verifierId).isSome

instance : DecidablePred aggregator.Admits := fun _ => by
  unfold AttestationAggregator.Admits
  infer_instance

theorem mem_admitted : attestation ∈ aggregator.admitted attestations ↔
    attestation ∈ firsts VerifierAttestation.verifierId attestations ∧
      aggregator.Admits attestation.verifierId := by
  unfold AttestationAggregator.admitted AttestationAggregator.Admits
  split
  case isTrue registry => simp [registry]
  case isFalse none => simp [none]

theorem mem_counted : attestation ∈ aggregator.counted recovery attestations ↔
    attestation ∈ aggregator.considered attestations ∧
      recovery.verifyAttestation attestation = some true := by
  simp [AttestationAggregator.counted]

theorem mem_considered : attestation ∈ aggregator.considered attestations ↔
    attestation ∈ aggregator.admitted attestations ∧
      attestation.evidenceHash = aggregator.evidenceNamed attestations := by
  unfold AttestationAggregator.evidenceNamed
  cases admitted : aggregator.admitted attestations with
  | nil => simp [AttestationAggregator.considered, admitted]
  | cons first rest =>
      have considered := considered_of_cons admitted
      rw [considered, List.mem_filter]
      simp

theorem evidenceNamed_of_cons {first : VerifierAttestation} {rest : List VerifierAttestation}
    (admitted : aggregator.admitted attestations = first :: rest) :
    aggregator.evidenceNamed attestations = first.evidenceHash := by
  rw [AttestationAggregator.evidenceNamed, considered_of_cons admitted]
  simp

theorem mem_of_mem_considered (considered : attestation ∈ aggregator.considered attestations) :
    attestation ∈ attestations :=
  mem_of_mem_firsts (mem_admitted.mp (mem_considered.mp considered).1).1

theorem mem_of_mem_counted (counted : attestation ∈ aggregator.counted recovery attestations) :
    attestation ∈ attestations :=
  mem_of_mem_considered (mem_counted.mp counted).1

theorem nodup_counted : ((aggregator.counted recovery attestations).map
    VerifierAttestation.verifierId).Nodup := by
  have admitted :
      ((aggregator.admitted attestations).map VerifierAttestation.verifierId).Nodup := by
    unfold AttestationAggregator.admitted
    split
    · exact nodup_firsts.sublist (List.filter_sublist.map _)
    · exact nodup_firsts
  exact admitted.sublist ((List.filter_sublist.trans List.filter_sublist).map _)

end Collect

end TrustChain.Verifier
