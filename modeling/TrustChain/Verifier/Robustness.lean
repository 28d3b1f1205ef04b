import TrustChain.Verifier.Quorum

/-!
# Attestations that should not matter

What is not a verified attestation of an admitted verifier should neither block nor change a
quorum. It does neither exactly if no verification raises, each such attestation is the first one
of its verifier in the list, and names the evidence of the first admitted one.
-/

namespace TrustChain.Verifier

open Library

namespace AttestationAggregator

variable (aggregator : AttestationAggregator) (recovery : Recovery)
  (attestations others : List VerifierAttestation)

/-- A verified attestation of a registered active verifier. -/
def Genuine (attestation : VerifierAttestation) : Prop :=
  aggregator.Admits attestation.verifierId ∧ recovery.verifyAttestation attestation = some true

instance : DecidablePred (aggregator.Genuine recovery) := fun _ => by
  unfold Genuine
  infer_instance

def genuine : List VerifierAttestation :=
  attestations.filter fun attestation => aggregator.Genuine recovery attestation

/-- Two lists contain the same genuine attestations, at most one of each verifier, and all of
the same evidence. -/
structure SameGenuine : Prop where
  same : ∀ attestation, aggregator.Genuine recovery attestation →
    (attestation ∈ attestations ↔ attestation ∈ others)
  single : ∀ attestation ∈ attestations, ∀ other ∈ attestations,
    aggregator.Genuine recovery attestation → aggregator.Genuine recovery other →
    attestation.verifierId = other.verifierId → attestation = other
  evidence : ∀ attestation ∈ attestations, ∀ other ∈ attestations,
    aggregator.Genuine recovery attestation → aggregator.Genuine recovery other →
    attestation.evidenceHash = other.evidenceHash

/-- Every genuine attestation of a list is counted, and no verification raises. -/
structure Heard : Prop where
  verifiable : ∀ attestation ∈ aggregator.considered attestations,
    (recovery.verifyAttestation attestation).isSome
  first : ∀ attestation ∈ attestations, aggregator.Genuine recovery attestation →
    attestation ∈ firsts VerifierAttestation.verifierId attestations
  evidence : ∀ attestation ∈ attestations, aggregator.Genuine recovery attestation →
    attestation.evidenceHash = aggregator.evidenceNamed attestations

end AttestationAggregator

/-- Status, valid signatures and decision of a quorum. -/
def reported (quorum : AttestationQuorum) : QuorumStatus × Nat × Verdict :=
  (quorum.status, quorum.validSignatures, quorum.decision)

section Robustness

variable {aggregator : AttestationAggregator} {recovery : Recovery}
  {quorumId createdAt : String}
  {attestations others : List VerifierAttestation} {attestation : VerifierAttestation}

/-! ## Lists with the same genuine attestations -/

namespace AttestationAggregator.SameGenuine

variable (same : aggregator.SameGenuine recovery attestations others)

include same

theorem symm :
    aggregator.SameGenuine recovery others attestations where
  same attestation genuine := (same.same attestation genuine).symm
  single attestation member other otherMember genuine otherGenuine :=
    same.single attestation ((same.same attestation genuine).mpr member) other
      ((same.same other otherGenuine).mpr otherMember) genuine otherGenuine
  evidence attestation member other otherMember genuine otherGenuine :=
    same.evidence attestation ((same.same attestation genuine).mpr member) other
      ((same.same other otherGenuine).mpr otherMember) genuine otherGenuine

theorem trans {third : List VerifierAttestation}
    (next : aggregator.SameGenuine recovery others third) :
    aggregator.SameGenuine recovery attestations third where
  same attestation genuine :=
    (same.same attestation genuine).trans (next.same attestation genuine)
  single := same.single
  evidence := same.evidence

/-- Leaving out the others keeps the genuine attestations. -/
theorem genuine :
    aggregator.SameGenuine recovery attestations (aggregator.genuine recovery attestations) where
  same attestation genuine := by simp [AttestationAggregator.genuine, genuine]
  single := same.single
  evidence := same.evidence

omit same

/-- Lists are compared by what is genuine in them. -/
theorem of_genuine_eq
    (same : aggregator.genuine recovery attestations = aggregator.genuine recovery others)
    (single : ∀ attestation ∈ aggregator.genuine recovery attestations,
      ∀ other ∈ aggregator.genuine recovery attestations,
        attestation.verifierId = other.verifierId → attestation = other)
    (evidence : ∀ attestation ∈ aggregator.genuine recovery attestations,
      ∀ other ∈ aggregator.genuine recovery attestations,
        attestation.evidenceHash = other.evidenceHash) :
    aggregator.SameGenuine recovery attestations others := by
  have mem_iff : ∀ {list attestation}, aggregator.Genuine recovery attestation →
      (attestation ∈ aggregator.genuine recovery list ↔ attestation ∈ list) := by
    intro list attestation genuine
    simp [AttestationAggregator.genuine, genuine]
  constructor
  · intro attestation genuine
    rw [← mem_iff genuine, same, mem_iff genuine]
  · intro attestation member other otherMember genuine otherGenuine
    exact single attestation ((mem_iff genuine).mpr member) other
      ((mem_iff otherGenuine).mpr otherMember)
  · intro attestation member other otherMember genuine otherGenuine
    exact evidence attestation ((mem_iff genuine).mpr member) other
      ((mem_iff otherGenuine).mpr otherMember)

end AttestationAggregator.SameGenuine

/-! ## What is counted of them -/

theorem genuine_of_counted (counted : attestation ∈ aggregator.counted recovery attestations) :
    aggregator.Genuine recovery attestation :=
  ⟨(mem_admitted.mp (mem_considered.mp (mem_counted.mp counted).1).1).2, (mem_counted.mp counted).2⟩

namespace AttestationAggregator.Heard

theorem mem_counted_iff (heard : aggregator.Heard recovery attestations) :
    attestation ∈ aggregator.counted recovery attestations ↔
      attestation ∈ attestations ∧ aggregator.Genuine recovery attestation := by
  constructor
  · intro counted
    exact ⟨mem_of_mem_counted counted, genuine_of_counted counted⟩
  · rintro ⟨member, genuine⟩
    refine mem_counted.mpr ⟨mem_considered.mpr ⟨?_, heard.evidence _ member genuine⟩, genuine.2⟩
    exact mem_admitted.mpr ⟨heard.first _ member genuine, genuine.1⟩

/-- Lists whose genuine attestations are heard count the same ones if they have the same. -/
theorem counted_perm (heard : aggregator.Heard recovery attestations)
    (otherHeard : aggregator.Heard recovery others)
    (same : aggregator.SameGenuine recovery attestations others) :
    (aggregator.counted recovery attestations).Perm (aggregator.counted recovery others) := by
  refine (List.perm_ext_iff_of_nodup nodup_counted.of_map nodup_counted.of_map).mpr ?_
  intro attestation
  rw [heard.mem_counted_iff, otherHeard.mem_counted_iff]
  exact and_congr_left (same.same attestation)

/-- Without anything else, the genuine attestations are heard. -/
theorem genuine (same : aggregator.SameGenuine recovery attestations others) :
    aggregator.Heard recovery (aggregator.genuine recovery attestations) := by
  have within : ∀ attestation ∈ aggregator.genuine recovery attestations,
      attestation ∈ attestations ∧ aggregator.Genuine recovery attestation := by
    simp [AttestationAggregator.genuine]
  have first : ∀ attestation ∈ aggregator.genuine recovery attestations,
      attestation ∈ firsts VerifierAttestation.verifierId
        (aggregator.genuine recovery attestations) := by
    intro attestation member
    obtain ⟨first, kept, sameId⟩ := exists_first VerifierAttestation.verifierId member
    obtain ⟨there, genuine⟩ := within first (mem_of_mem_firsts kept)
    rwa [← same.single first there attestation (within attestation member).1 genuine
      (within attestation member).2 sameId]
  constructor
  · intro attestation considered
    obtain ⟨-, -, verified⟩ := within attestation (mem_of_mem_considered considered)
    rw [verified]
    rfl
  · exact fun attestation member _ => first attestation member
  · intro attestation member genuine
    have admitted := mem_admitted.mpr ⟨first attestation member, genuine.1⟩
    cases all : aggregator.admitted (aggregator.genuine recovery attestations) with
    | nil =>
        rw [all] at admitted
        cases admitted
    | cons head rest =>
        have headAdmitted :
            head ∈ aggregator.admitted (aggregator.genuine recovery attestations) := by
          rw [all]
          exact List.mem_cons_self
        have headMember := mem_of_mem_firsts (mem_admitted.mp headAdmitted).1
        obtain ⟨there, headGenuine⟩ := within head headMember
        rw [evidenceNamed_of_cons all]
        exact same.evidence attestation (within attestation member).1 head there genuine headGenuine

/-- A list that counts as many attestations as one that is heard is heard. -/
theorem of_length_le (heard : aggregator.Heard recovery others)
    (same : aggregator.SameGenuine recovery attestations others)
    (verifiable : ∀ attestation ∈ aggregator.considered attestations,
      (recovery.verifyAttestation attestation).isSome)
    (enough : (aggregator.counted recovery others).length ≤
      (aggregator.counted recovery attestations).length) :
    aggregator.Heard recovery attestations := by
  have contained :
      aggregator.counted recovery attestations ⊆ aggregator.counted recovery others := by
    intro attestation counted
    have genuine := genuine_of_counted counted
    exact heard.mem_counted_iff.mpr
      ⟨(same.same attestation genuine).mp (mem_of_mem_counted counted), genuine⟩
  have perm := (List.subperm_of_subset nodup_counted.of_map contained).perm_of_length_le enough
  have counted : ∀ attestation ∈ attestations, aggregator.Genuine recovery attestation →
      attestation ∈ aggregator.counted recovery attestations := by
    intro attestation member genuine
    exact perm.mem_iff.mpr (heard.mem_counted_iff.mpr
      ⟨(same.same attestation genuine).mp member, genuine⟩)
  constructor
  · exact verifiable
  · intro attestation member genuine
    have considered := (mem_counted.mp (counted attestation member genuine)).1
    exact (mem_admitted.mp (mem_considered.mp considered).1).1
  · intro attestation member genuine
    exact (mem_considered.mp (mem_counted.mp (counted attestation member genuine)).1).2

end AttestationAggregator.Heard

/-! ## What is reported of them -/

theorem collect_reported_iff {report : QuorumStatus × Nat × Verdict} :
    (aggregator.collect recovery quorumId createdAt attestations).map reported = some report ↔
      (∀ attestation ∈ aggregator.considered attestations,
        (recovery.verifyAttestation attestation).isSome) ∧
      (if aggregator.threshold ≤ (aggregator.counted recovery attestations).length then
          QuorumStatus.attestedOk else .insufficientSignatures,
        (aggregator.counted recovery attestations).length,
        computeVerdict (aggregator.counted recovery attestations)) = report := by
  rw [collect_eq]
  split
  case isTrue verifiable =>
    rw [and_iff_right verifiable]
    exact Option.some_inj
  case isFalse raises => exact iff_of_false nofun fun report => raises report.1

theorem computeVerdict_perm {list other : List VerifierAttestation} (perm : list.Perm other) :
    computeVerdict list = computeVerdict other := by
  have empty : list = [] ↔ other = [] := by
    rw [← List.length_eq_zero_iff, perm.length_eq, List.length_eq_zero_iff]
  simp only [computeVerdict, empty, perm.countP_eq, perm.length_eq]

/-- Two lists with the same genuine attestations make the same report, which is that of these
attestations alone, exactly if the genuine attestations of both are heard. -/
theorem reports_agree_iff {otherId otherAt genuineId genuineAt : String}
    (same : aggregator.SameGenuine recovery attestations others) :
    (∃ report,
        (aggregator.collect recovery quorumId createdAt attestations).map reported = some report ∧
        (aggregator.collect recovery otherId otherAt others).map reported = some report ∧
        (aggregator.collect recovery genuineId genuineAt
          (aggregator.genuine recovery attestations)).map reported = some report) ↔
      aggregator.Heard recovery attestations ∧ aggregator.Heard recovery others := by
  have alone : aggregator.Heard recovery (aggregator.genuine recovery attestations) :=
    .genuine same
  simp only [collect_reported_iff]
  constructor
  · rintro ⟨report, ⟨verifiable, one⟩, ⟨otherVerifiable, other⟩, -, both⟩
    have length := congrArg (fun report => report.2.1) (both.trans one.symm)
    have otherLength := congrArg (fun report => report.2.1) (both.trans other.symm)
    exact ⟨alone.of_length_le same.genuine verifiable length.le,
      alone.of_length_le (same.symm.trans same.genuine) otherVerifiable otherLength.le⟩
  · rintro ⟨heard, otherHeard⟩
    have perm := heard.counted_perm otherHeard same
    have alonePerm := heard.counted_perm alone same.genuine
    refine ⟨_, ⟨heard.verifiable, rfl⟩, ⟨otherHeard.verifiable, ?_⟩, alone.verifiable, ?_⟩
    · rw [perm.length_eq, computeVerdict_perm perm]
    · rw [alonePerm.length_eq, computeVerdict_perm alonePerm]

end Robustness

/-! ## Scenes -/

namespace Demo

/-- Three verifiers agree. -/
def agreed : List VerifierAttestation := honest.take 3

/-- An attestation in the name of a verifier that nobody has signed. -/
def forged (verifierId : VerifierId) : VerifierAttestation where
  taskId := "t"
  evidenceHash := evidence
  verifierId
  decision := "STRUCT_FAIL"

/-- A forgery follows, and a stranger's attestation. -/
def followed : List VerifierAttestation :=
  agreed ++ [forged "v", { forged "z" with verifierWallet := "0xe", signature := "0x6" }]

/-- A forgery comes before the attestation of its verifier. -/
def preceded : List VerifierAttestation := forged "v" :: agreed

/-- A forgery names other evidence. -/
def misled : List VerifierAttestation := { forged "y" with evidenceHash := "dd" } :: agreed

/-- A forgery names evidence that is not hexadecimal. -/
def broken : List VerifierAttestation :=
  { forged "y" with evidenceHash := "zz", signature := "0x" } :: agreed

theorem sameGenuine (attestations : List VerifierAttestation)
    (same : aggregator.genuine recovery agreed = aggregator.genuine recovery attestations) :
    aggregator.SameGenuine recovery agreed attestations := by
  refine .of_genuine_eq same ?_ ?_
  · decide +kernel
  · decide +kernel

end Demo

theorem reports_agree_iff_followed : ∃ report,
    (Demo.aggregator.collect Demo.recovery "q" "" Demo.agreed).map reported = some report ∧
      (Demo.aggregator.collect Demo.recovery "r" "" Demo.followed).map reported = some report ∧
      (Demo.aggregator.collect Demo.recovery "s" ""
        (Demo.aggregator.genuine Demo.recovery Demo.agreed)).map reported = some report := by
  have same : Demo.aggregator.SameGenuine Demo.recovery Demo.agreed Demo.followed :=
    Demo.sameGenuine _ (by decide +kernel)
  refine (reports_agree_iff same).mpr ⟨⟨?_, ?_, ?_⟩, ⟨?_, ?_, ?_⟩⟩ <;> decide +kernel

/-- A forgery blocks a quorum: it takes the place of its verifier's attestation, has the others
left out as attestations of other evidence, or makes the aggregator raise. -/
theorem not_reports_agree :
    (∀ attestations ∈ [Demo.preceded, Demo.misled, Demo.broken],
        Demo.aggregator.SameGenuine Demo.recovery Demo.agreed attestations) ∧
      (Demo.aggregator.collect Demo.recovery "q" "" Demo.agreed).map reported =
        some (.attestedOk, 3, .attestedOk) ∧
      (Demo.aggregator.collect Demo.recovery "q" "" Demo.preceded).map reported =
        some (.insufficientSignatures, 2, .attestedOk) ∧
      (Demo.aggregator.collect Demo.recovery "q" "" Demo.misled).map reported =
        some (.insufficientSignatures, 0, .attestedFail) ∧
      Demo.aggregator.collect Demo.recovery "q" "" Demo.broken = none := by
  have same : ∀ attestations ∈ [Demo.preceded, Demo.misled, Demo.broken],
      Demo.aggregator.genuine Demo.recovery Demo.agreed =
        Demo.aggregator.genuine Demo.recovery attestations := by
    decide +kernel
  refine ⟨fun attestations member => Demo.sameGenuine _ (same attestations member), ?_, ?_, ?_, ?_⟩
  · decide +kernel
  · decide +kernel
  · decide +kernel
  · decide +kernel

end TrustChain.Verifier
