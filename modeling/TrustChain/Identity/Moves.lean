import TrustChain.Identity.Effects

/-!
# The steps in the life of a credential

A credential is issued, or goes through a transition, and the ledger gets a record of it. What has
ever been recorded of a credential then leads to its state. The ledger drops its oldest records when
it is full.
-/

namespace TrustChain.Identity

open Library HashChain Function Relation

/-! ## The ledger of a credential -/

/-- What the entries of a ledger say. -/
def records {δ : Type} (ledger : Ledger δ) : List Record := ledger.map (·.content)

/-- The records about a credential, in their order. -/
def recordsOf (credentialId : String) (records : List Record) : List Record :=
  records.filter fun record =>
    record.entityType = "credential" ∧ record.entityId = credentialId

/-- The records lead from one state to another, each from where the one before it ended. -/
def Leads : String → List Record → String → Prop
  | start, [], finish => start = finish
  | start, record :: rest, finish => record.fromState = start ∧ Leads record.toState rest finish

/-- A record of the transition of a credential. -/
structure Record.Tells (record : Record) (credentialId : String) (fromState : Option CredentialState)
    (toState : CredentialState) : Prop where
  entityType : record.entityType = "credential"
  entityId : record.entityId = credentialId
  fromState : record.fromState = stateText fromState
  toState : record.toState = stateText (some toState)

section Ledgers

variable {δ : Type} {scheme : Scheme δ} {ledger : Ledger δ} {record : Record} {start finish : String}
  {credentialId : String} {all more : List Record}

theorem leads_append {later : List Record} :
    Leads start (all ++ later) finish ↔
      ∃ middle, Leads start all middle ∧ Leads middle later finish := by
  induction all generalizing start with
  | nil => simp [Leads]
  | cons record all ih =>
      rw [List.cons_append, Leads, ih]
      constructor
      · rintro ⟨continued, middle, first, second⟩
        exact ⟨middle, ⟨continued, first⟩, second⟩
      · rintro ⟨middle, ⟨continued, first⟩, second⟩
        exact ⟨continued, middle, first, second⟩

theorem recordsOf_append :
    recordsOf credentialId (all ++ more) = recordsOf credentialId all ++ recordsOf credentialId more :=
  List.filter_append ..

/-- A record about something else. -/
theorem recordsOf_snoc_other
    (other : ¬(record.entityType = "credential" ∧ record.entityId = credentialId)) :
    recordsOf credentialId (all ++ [record]) = recordsOf credentialId all := by
  rw [recordsOf_append]
  simp [recordsOf, other]

/-- A transition is told after all that is told of the credential already. -/
theorem leads_snoc {fromState : Option CredentialState} {toState : CredentialState}
    (leads : Leads start (recordsOf credentialId all) (stateText fromState))
    (tells : record.Tells credentialId fromState toState) :
    Leads start (recordsOf credentialId (all ++ [record])) (stateText (some toState)) := by
  have here : recordsOf credentialId [record] = [record] := by
    simp [recordsOf, tells.entityType, tells.entityId]
  rw [recordsOf_append, here, leads_append]
  exact ⟨_, leads, tells.fromState, tells.toState⟩

/-- Appending a record cuts the ledger off at its limit. -/
theorem appendLedger_records :
    records (appendLedger scheme ledger record) =
      (records ledger ++ [record]).drop (ledger.length + 1 - ledgerMax) := by
  have length : (ledger ++ [nextEntry scheme ledger record]).length = ledger.length + 1 := by simp
  have whole : (ledger ++ [nextEntry scheme ledger record]).map (·.content) =
      records ledger ++ [record] := by
    simp [records, nextEntry]
  simp only [appendLedger, length]
  split
  · rw [records, rebased, rehash_contents, List.map_drop, whole, length]
  · next fits =>
      rw [records, whole, Nat.sub_eq_zero_of_le (Nat.not_lt.mp fits), List.drop_zero]

/-- What is cut off comes before what is kept, and is nothing while the ledger is not full. -/
theorem appendLedger_cut (scheme : Scheme δ) (ledger : Ledger δ) (record : Record) :
    ∃ cut, records ledger ++ [record] = cut ++ records (appendLedger scheme ledger record) ∧
      (ledger.length = ledgerMax → (appendLedger scheme ledger record).length = ledgerMax) ∧
      (cut = [] ∨ (appendLedger scheme ledger record).length = ledgerMax) := by
  have kept : (appendLedger scheme ledger record).length =
      ledger.length + 1 - (ledger.length + 1 - ledgerMax) := by
    have lengths := congrArg List.length (@appendLedger_records δ scheme ledger record)
    simpa [records] using lengths
  refine ⟨(records ledger ++ [record]).take (ledger.length + 1 - ledgerMax), ?_, ?_, ?_⟩
  · rw [appendLedger_records, List.take_append_drop]
  · intro full
    rw [kept, full]
    omega
  · by_cases fits : ledger.length + 1 ≤ ledgerMax
    · left
      rw [Nat.sub_eq_zero_of_le fits, List.take_zero]
    · right
      rw [kept]
      omega

end Ledgers

/-! ## Single steps -/

/-- The credentials of an identity and its level. -/
structure Held where
  identityId : String
  credentials : List Credential
  level : VerificationStatus

def KarmaIdentity.held (ident : KarmaIdentity) : Held where
  identityId := ident.identityId
  credentials := ident.credentials
  level := ident.verificationStatus

def Maps.held (maps : Maps) (key : String) : Option Held := (maps.byId.get key).map (·.held)

/-- With other credentials, and the level that follows from them. -/
def Held.withCredentials (held : Held) (credentials : List Credential) : Held :=
  { held with
    credentials
    level := verificationLevel credentials }

/-- No credential of a type is active. -/
def NoneActive (type : CredentialType) (credentials : List Credential) : Prop :=
  ∀ existing ∈ credentials, ¬(existing.type = type ∧ existing.Active)

instance (type : CredentialType) (credentials : List Credential) :
    Decidable (NoneActive type credentials) :=
  inferInstanceAs (Decidable (∀ existing ∈ credentials, ¬(_ ∧ _)))

/-- No credential has an identifier. -/
def Unused (holds : String → Option Held) (credentialId : String) : Prop :=
  ∀ key held, holds key = some held → ∀ credential ∈ held.credentials,
    credential.credentialId ≠ credentialId

/-- One step of a call: nothing happens to the credentials, something else is recorded, a credential
is issued where none of its type is active, or one goes through a legal transition. If the step is
careful, none is brought back where another one of its type is active. -/
inductive Moves {δ : Type} (platform : Platform δ) (careful : Prop) (store : Store δ) :
    Store δ → Prop
  | kept {next : Store δ}
      (maps : ∀ key, next.maps.held key = store.maps.held key ∨
        store.maps.held key = none ∧ next.maps.held key = some ⟨key, [], .unverified⟩)
      (ledger : next.ledger = store.ledger) :
      Moves platform careful store next
  | noted {next : Store δ} (record : Record)
      (other : record.entityType ≠ "credential")
      (maps : next.maps.held = store.maps.held)
      (ledger : next.ledger = appendLedger platform.scheme store.ledger record) :
      Moves platform careful store next
  | issued {next : Store δ} (key : String) (held : Held) (credential : Credential)
      (record : Record)
      (there : store.maps.held key = some held)
      (unused : Unused store.maps.held credential.credentialId)
      (free : NoneActive credential.type held.credentials)
      (pending : credential.status = .pending)
      (tells : record.Tells credential.credentialId none .pending)
      (maps : next.maps.held = update store.maps.held key
        (some (held.withCredentials (held.credentials ++ [credential]))))
      (ledger : next.ledger = appendLedger platform.scheme store.ledger record) :
      Moves platform careful store next
  | changed {next : Store δ} (key : String) (held : Held) (position : Nat)
      (credential mutated : Credential) (action : CredentialAction) (record : Record)
      (there : store.maps.held key = some held)
      (found : held.credentials[position]? = some credential)
      (same : mutated.credentialId = credential.credentialId ∧ mutated.type = credential.type)
      (legal : credentialTransitions (some credential.status) action = some mutated.status)
      (alone : careful → mutated.status = .pending → NoneActive credential.type held.credentials)
      (tells : record.Tells credential.credentialId (some credential.status) mutated.status)
      (maps : next.maps.held = update store.maps.held key
        (some (held.withCredentials (held.credentials.set position mutated))))
      (ledger : next.ledger = appendLedger platform.scheme store.ledger record) :
      Moves platform careful store next

/-- Every level follows from the credentials, no two credentials have one identifier, and all that
has ever been recorded of a credential leads to its state. -/
structure Lifecycle (holds : String → Option Held) (all : List Record) : Prop where
  named : ∀ key held, holds key = some held → held.identityId = key
  level : ∀ key held, holds key = some held → held.level = verificationLevel held.credentials
  distinct : ∀ key held, holds key = some held →
    (held.credentials.map (·.credentialId)).Nodup
  apart : ∀ key held other another, holds key = some held → holds other = some another →
    ∀ credential ∈ held.credentials, ∀ found ∈ another.credentials,
      credential.credentialId = found.credentialId → key = other
  told : ∀ key held, holds key = some held → ∀ credential ∈ held.credentials,
    Leads "" (recordsOf credential.credentialId all) (stateText (some credential.status))
  untold : ∀ credentialId, Unused holds credentialId →
    Leads "" (recordsOf credentialId all) (stateText none)

/-- How many credentials of a type are pending or verified. -/
def activeOf (type : CredentialType) (credentials : List Credential) : Nat :=
  credentials.countP fun credential => credential.type = type ∧ credential.Active

/-- At most one credential of each type is pending or verified. -/
def OneActive (holds : String → Option Held) : Prop :=
  ∀ key held, holds key = some held → ∀ type, activeOf type held.credentials ≤ 1

section Steps

variable {holds later : String → Option Held} {all : List Record} {record : Record} {key : String}
  {held : Held} {credential mutated : Credential} {position : Nat}

variable (lifecycle : Lifecycle holds all) {credentials : List Credential}

include lifecycle

/-- Identities without credentials may come in. -/
theorem Lifecycle.kept (maps : ∀ key, later key = holds key ∨
      holds key = none ∧ later key = some ⟨key, [], .unverified⟩) : Lifecycle later all := by
  have old : ∀ key held, later key = some held →
      holds key = some held ∨ held = ⟨key, [], .unverified⟩ := by
    intro key held there
    rcases maps key with same | ⟨-, new⟩
    · exact .inl (same ▸ there)
    · exact .inr (Option.some.inj (there.symm.trans new))
  have persists : ∀ key held, holds key = some held → later key = some held := by
    intro key held there
    rcases maps key with same | ⟨absent, -⟩
    · exact same.trans there
    · cases absent.symm.trans there
  refine ⟨?_, ?_, ?_, ?_, ?_, ?_⟩
  · intro key held there
    rcases old key held there with was | rfl
    · exact lifecycle.named key held was
    · rfl
  · intro key held there
    rcases old key held there with was | rfl
    · exact lifecycle.level key held was
    · rfl
  · intro key held there
    rcases old key held there with was | rfl
    · exact lifecycle.distinct key held was
    · exact List.nodup_nil
  · intro key held other another there elsewhere credential member found again
    rcases old key held there with was | rfl
    · rcases old other another elsewhere with wasToo | rfl
      · exact lifecycle.apart key held other another was wasToo credential member found again
      · cases again
    · cases member
  · intro key held there
    rcases old key held there with was | rfl
    · exact lifecycle.told key held was
    · intro credential member
      cases member
  · intro credentialId unused
    exact lifecycle.untold credentialId fun key held was => unused key held (persists key held was)

/-- A record about something else changes nothing. -/
theorem Lifecycle.noted (other : record.entityType ≠ "credential") :
    Lifecycle holds (all ++ [record]) := by
  have same : ∀ credentialId,
      recordsOf credentialId (all ++ [record]) = recordsOf credentialId all := fun _ =>
    recordsOf_snoc_other fun both => other both.1
  refine ⟨lifecycle.named, lifecycle.level, lifecycle.distinct, lifecycle.apart, ?_, ?_⟩
  · intro key held there credential member
    rw [same]
    exact lifecycle.told key held there credential member
  · intro credentialId unused
    rw [same]
    exact lifecycle.untold credentialId unused

/-- One credential of an identity is new or has a new state, and the record tells it. -/
theorem Lifecycle.update {credentialId : String} {fromState : Option CredentialState}
    {toState : CredentialState} (there : holds key = some held)
    (tells : record.Tells credentialId fromState toState)
    (before : Leads "" (recordsOf credentialId all) (stateText fromState))
    (nodup : (credentials.map (·.credentialId)).Nodup)
    (present : credentialId ∈ credentials.map (·.credentialId))
    (persist : held.credentials.map (·.credentialId) ⊆ credentials.map (·.credentialId))
    (replaced : ∀ credential ∈ credentials,
      credential.credentialId = credentialId ∧ credential.status = toState ∨
        credential.credentialId ≠ credentialId ∧ credential ∈ held.credentials)
    (own : ∀ other another, holds other = some another → ∀ credential ∈ another.credentials,
      credential.credentialId = credentialId → other = key) :
    Lifecycle (Function.update holds key (some (held.withCredentials credentials)))
      (all ++ [record]) := by
  have otherwise : ∀ found : String, found ≠ credentialId →
      recordsOf found (all ++ [record]) = recordsOf found all := by
    intro found different
    apply recordsOf_snoc_other
    rintro ⟨-, same⟩
    exact different (same.symm.trans tells.entityId)
  have cases_ : ∀ other another,
      Function.update holds key (some (held.withCredentials credentials)) other = some another →
      other = key ∧ another = held.withCredentials credentials ∨
        other ≠ key ∧ holds other = some another := by
    intro other another is
    by_cases same : other = key
    · subst same
      rw [update_self] at is
      exact .inl ⟨rfl, (Option.some.inj is).symm⟩
    · rw [update_of_ne same] at is
      exact .inr ⟨same, is⟩
  -- a credential of the identity that is not the one that is told of was there before
  have apart : ∀ credential ∈ credentials, ∀ other another, other ≠ key →
      holds other = some another → ∀ found ∈ another.credentials,
        credential.credentialId ≠ found.credentialId := by
    intro credential member other another elsewhere is found again same
    rcases replaced credential member with ⟨new, -⟩ | ⟨-, old⟩
    · exact elsewhere (own other another is found again (same.symm.trans new))
    · exact elsewhere
        (lifecycle.apart key held other another there is credential old found again same).symm
  refine ⟨?_, ?_, ?_, ?_, ?_, ?_⟩
  · intro other another is
    rcases cases_ other another is with ⟨rfl, rfl⟩ | ⟨-, was⟩
    · exact lifecycle.named other held there
    · exact lifecycle.named other another was
  · intro other another is
    rcases cases_ other another is with ⟨rfl, rfl⟩ | ⟨-, was⟩
    · rfl
    · exact lifecycle.level other another was
  · intro other another is
    rcases cases_ other another is with ⟨rfl, rfl⟩ | ⟨-, was⟩
    · exact nodup
    · exact lifecycle.distinct other another was
  · intro first held₁ second held₂ is₁ is₂ credential member found again same
    rcases cases_ first held₁ is₁ with ⟨rfl, rfl⟩ | ⟨apart₁, was₁⟩
    · rcases cases_ second held₂ is₂ with ⟨rfl, -⟩ | ⟨apart₂, was₂⟩
      · rfl
      · exact absurd same (apart credential member second held₂ apart₂ was₂ found again)
    · rcases cases_ second held₂ is₂ with ⟨rfl, rfl⟩ | ⟨apart₂, was₂⟩
      · exact absurd same.symm (apart found again first held₁ apart₁ was₁ credential member)
      · exact lifecycle.apart first held₁ second held₂ was₁ was₂ credential member found again same
  · intro other another is credential member
    rcases cases_ other another is with ⟨rfl, rfl⟩ | ⟨elsewhere, was⟩
    · rcases replaced credential member with ⟨rfl, rfl⟩ | ⟨different, old⟩
      · exact leads_snoc before tells
      · rw [otherwise _ different]
        exact lifecycle.told other held there credential old
    · have different : credential.credentialId ≠ credentialId := fun same =>
        elsewhere (own other another was credential member same)
      rw [otherwise _ different]
      exact lifecycle.told other another was credential member
  · intro found unused
    have absent : found ∉ credentials.map (·.credentialId) := by
      intro inside
      obtain ⟨credential, member, same⟩ := List.mem_map.mp inside
      exact unused key _ (update_self _ _ _) credential member same
    have different : found ≠ credentialId := fun same => absent (same ▸ present)
    rw [otherwise _ different]
    refine lifecycle.untold found fun other another was credential member same => ?_
    by_cases here : other = key
    · subst here
      obtain rfl := Option.some.inj (there.symm.trans was)
      exact absent (persist (List.mem_map.mpr ⟨credential, member, same⟩))
    · exact unused other another ((update_of_ne here _ _).trans was) credential member same

theorem Lifecycle.issued (there : holds key = some held)
    (unused : Unused holds credential.credentialId) (pending : credential.status = .pending)
    (tells : record.Tells credential.credentialId none .pending) :
    Lifecycle
      (Function.update holds key
        (some (held.withCredentials (held.credentials ++ [credential])))) (all ++ [record]) := by
  refine lifecycle.update there tells (lifecycle.untold _ unused) ?_ ?_ ?_ ?_ ?_
  · rw [List.map_append, List.nodup_append]
    refine ⟨lifecycle.distinct key held there, List.nodup_singleton _, ?_⟩
    intro found inside last isLast same
    obtain ⟨old, member, rfl⟩ := List.mem_map.mp inside
    exact unused key held there old member (same.trans (List.mem_singleton.mp isLast))
  · simp
  · rw [List.map_append]
    exact List.subset_append_left _ _
  · intro found member
    rcases List.mem_append.mp member with old | new
    · exact .inr ⟨unused key held there found old, old⟩
    · obtain rfl := List.mem_singleton.mp new
      exact .inl ⟨rfl, pending⟩
  · intro other another was found member same
    exact absurd same (unused other another was found member)

theorem Lifecycle.changed (there : holds key = some held)
    (found : held.credentials[position]? = some credential)
    (same : mutated.credentialId = credential.credentialId)
    (tells : record.Tells credential.credentialId (some credential.status) mutated.status) :
    Lifecycle
      (Function.update holds key
        (some (held.withCredentials (held.credentials.set position mutated))))
      (all ++ [record]) := by
  have member := List.mem_of_getElem? found
  obtain ⟨bound, at_position⟩ := List.getElem?_eq_some_iff.mp found
  have ids : (held.credentials.set position mutated).map (·.credentialId) =
      held.credentials.map (·.credentialId) := by
    rw [List.map_set, same]
    apply List.ext_getElem?
    intro index
    rw [List.getElem?_set]
    split
    · next here =>
        subst here
        simp [bound, at_position]
    · rfl
  have nodup := ids.symm ▸ lifecycle.distinct key held there
  have inside : mutated ∈ held.credentials.set position mutated :=
    List.mem_iff_getElem.mpr ⟨position, by simpa using bound, by simp⟩
  refine lifecycle.update there tells (lifecycle.told key held there credential member) nodup ?_ ?_
    ?_ ?_
  · exact ids.symm ▸ List.mem_map_of_mem member
  · exact ids.symm ▸ List.Subset.refl _
  · intro other otherIn
    by_cases is : other.credentialId = credential.credentialId
    · have whole : other = mutated :=
        List.inj_on_of_nodup_map nodup otherIn inside (is.trans same.symm)
      exact .inl ⟨is, congrArg (·.status) whole⟩
    · rcases List.mem_or_eq_of_mem_set otherIn with old | rfl
      · exact .inr ⟨is, old⟩
      · exact absurd same is
  · intro other another was again againIn is
    exact (lifecycle.apart key held other another there was credential member again againIn
      is.symm).symm

omit lifecycle

/-! ### One active credential of each type -/

theorem activeOf_eq_zero {type : CredentialType} :
    activeOf type credentials = 0 ↔ NoneActive type credentials := by
  simp [activeOf, NoneActive]

theorem activeOf_append {type : CredentialType} (free : NoneActive credential.type credentials)
    (few : activeOf type credentials ≤ 1) : activeOf type (credentials ++ [credential]) ≤ 1 := by
  rw [activeOf, List.countP_append, ← activeOf, List.countP_singleton]
  by_cases same : credential.type = type
  · rw [activeOf_eq_zero.mpr (same ▸ free)]
    split
    · exact le_rfl
    · exact Nat.zero_le 1
  · simpa [same] using few

/-- A transition makes a credential active only from another active state or from one in which the
credential is brought back. -/
theorem active_of_legal {fromState toState : CredentialState} {action : CredentialAction}
    (legal : credentialTransitions (some fromState) action = some toState) :
    toState = .pending ∨ toState = .verified ∧ fromState = .pending ∨
      toState ≠ .pending ∧ toState ≠ .verified := by
  cases fromState <;> cases action <;> simp_all [credentialTransitions, eq_comm]

theorem activeOf_set {type : CredentialType} {action : CredentialAction}
    (found : credentials[position]? = some credential) (same : mutated.type = credential.type)
    (legal : credentialTransitions (some credential.status) action = some mutated.status)
    (alone : mutated.status = .pending → NoneActive credential.type credentials)
    (few : activeOf type credentials ≤ 1) :
    activeOf type (credentials.set position mutated) ≤ 1 := by
  obtain ⟨bound, rfl⟩ := List.getElem?_eq_some_iff.mp found
  rw [activeOf, List.countP_set bound, ← activeOf]
  by_cases active : mutated.type = type ∧ mutated.Active
  · obtain ⟨rfl, active⟩ := active
    rcases active_of_legal legal with back | ⟨verified, pending⟩ | ⟨notPending, notVerified⟩
    · rw [same, activeOf_eq_zero.mpr (alone back)]
      simp only [Nat.zero_sub, Nat.zero_add]
      split
      · exact le_rfl
      · exact Nat.zero_le 1
    · have before : credentials[position].type = mutated.type ∧ credentials[position].Active :=
        ⟨same.symm, .inl pending⟩
      rw [decide_eq_true before, if_pos rfl]
      split
      · omega
      · omega
    · rcases active with pending | verified
      · exact absurd pending notPending
      · exact absurd verified notVerified
  · rw [decide_eq_false active, if_neg Bool.false_ne_true]
    omega

end Steps

end TrustChain.Identity
