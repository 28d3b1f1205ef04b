import TrustChain.Identity.Credentials
import TrustChain.Identity.Indexes

/-!
# The life of a credential

The level of an identity is always the one that follows from its credentials, and the ledger tells
the life of every credential, as far back as it reaches. A credential that is brought back is not
checked against the others of its type, and keeps the expiry that it had.
-/

namespace TrustChain.Identity

open Library HashChain Function Relation

/-! ## Runs -/

section Runs

variable {δ : Type} (platform : Platform δ) {store : Store δ}

/-- In every run all that has been recorded tells the life of every credential. -/
theorem told_of_reachable (reached : (identities platform).Reachable store) : store.Told := by
  refine reached.invariant ?_ ?_
  · rintro _ rfl
    refine ⟨[], .inl rfl, ?_, ?_, ?_, ?_, ?_, ?_⟩
    · rintro key held ⟨⟩
    · rintro key held ⟨⟩
    · rintro key held ⟨⟩
    · rintro key held other another ⟨⟩
    · rintro key held ⟨⟩
    · exact fun _ _ => rfl
  · rintro store call _ - told ⟨fresh, rfl⟩
    have named : Named store.maps.held := told.choose_spec.2.named
    have steps := @perform_moves δ platform store False call.2 call.1 fresh named False.elim
    exact moves_preserve (fun _ _ moves => moves.told) steps told

/-- In every run of careful calls at most one credential of each type is active. -/
theorem one_active
    (reached : ((identities platform).restrict fun store call =>
      Careful store call.1).Reachable store) : OneActive store.maps.held := by
  refine reached.invariant ?_ ?_
  · rintro _ rfl key held ⟨⟩
  · rintro store call _ reached one ⟨⟨fresh, rfl⟩, cautious⟩
    have named : Named store.maps.held :=
      (told_of_reachable platform reached.of_restrict).choose_spec.2.named
    have steps := @perform_moves δ platform store True call.2 call.1 fresh named fun _ => cautious
    exact moves_preserve (fun _ _ moves => moves.oneActive) steps one

/-- What `expire_stale_credentials` makes of a credential. -/
def Credential.expired (credential : Credential) (now : Int) : Credential :=
  if credential.Stale now then { credential with status := .expired } else credential

variable {platform}

theorem expireLoop_credentials (draw : Draw) (identityId : String) (credentials : List Credential)
    (ledger : Ledger δ) (expired : Nat) :
    (expireLoop platform draw identityId credentials ledger expired).1 =
      credentials.map (·.expired draw.now) := by
  induction credentials generalizing ledger expired with
  | nil => rfl
  | cons credential rest ih =>
      rw [expireLoop, List.map_cons, Credential.expired]
      by_cases stale : credential.Stale draw.now
      · have legal : credentialTransitions (some credential.status) .expire = some .expired := by
          rw [stale.1]
          rfl
        obtain ⟨record, -, recorded⟩ := transition_tells draw platform ledger identityId
          credential.credentialId credential.type "system" "ttl reached" (draw.entryId expired) legal
        rw [if_pos stale, if_pos stale]
        simp only [recorded, Option.getD_some, ih]
      · rw [if_neg stale, if_neg stale]
        simp only [ih]

/-- Exactly the stale credentials expire. -/
theorem expireStaleCredentials_credentials (draw : Draw) {identityId : String}
    {ident : KarmaIdentity} (there : store.maps.byId.get identityId = some ident) :
    ((expireStaleCredentials platform store draw identityId).2.maps.byId.get identityId).map
      (·.credentials) = some (ident.credentials.map (·.expired draw.now)) := by
  have loop := @expireLoop_credentials δ platform draw identityId ident.credentials store.ledger 0
  simp only [expireStaleCredentials, there]
  rcases @expireLoop_moves δ platform False draw identityId ident store [] ident.credentials 0
    there rfl with none | ⟨later, ledger, count, runs, more, -⟩
  · rw [none] at loop ⊢
    rw [if_pos rfl, there, Option.map_some, ← loop]
  · rw [runs] at loop ⊢
    rw [if_neg (Nat.ne_of_gt more)]
    change (((store.maps.modify identityId fun ident => ident.withCredentials later).byId.get
      identityId).map (·.credentials)) = _
    rw [Maps.modify, OrderedTable.get_modify, there, ← loop]
    simp [KarmaIdentity.withCredentials]

variable (platform)

/-- In every run the level of an identity follows from its credentials, and the records of a
credential lead to its state, each from where the one before it ended and the first of all, which a
full ledger may have dropped, from nothing. Where no credential is brought back beside an active one
of its type, at most one of each type is active. Exactly the stale credentials expire. -/
theorem credential_lifecycle :
    (∀ store, (identities platform).Reachable store → ∀ key ident,
      store.maps.byId.get key = some ident →
        ident.verificationStatus = verificationLevel ident.credentials ∧
        ∀ credential ∈ ident.credentials, ∃ start,
          Leads start (recordsOf credential.credentialId (records store.ledger))
            credential.status.text ∧
          (store.ledger.length < ledgerMax → start = "")) ∧
      (∀ store, ((identities platform).restrict fun store call =>
        Careful store call.1).Reachable store → ∀ key ident,
        store.maps.byId.get key = some ident → ∀ type, activeOf type ident.credentials ≤ 1) ∧
      ∀ (store : Store δ) draw identityId ident, store.maps.byId.get identityId = some ident →
        ((expireStaleCredentials platform store draw identityId).2.maps.byId.get identityId).map
          (·.credentials) = some (ident.credentials.map (·.expired draw.now)) := by
  have holds : ∀ {store : Store δ} {key ident}, store.maps.byId.get key = some ident →
      store.maps.held key = some ident.held := by
    intro store key ident there
    rw [Maps.held, there, Option.map_some]
  refine ⟨fun store reached key ident there => ?_, fun store reached key ident there type => ?_,
    fun store draw identityId ident there => expireStaleCredentials_credentials draw there⟩
  · obtain ⟨dropped, full, lifecycle⟩ := told_of_reachable platform reached
    refine ⟨lifecycle.level key _ (holds there), fun credential member => ?_⟩
    have leads := lifecycle.told key _ (holds there) credential member
    rw [recordsOf_append, leads_append] at leads
    obtain ⟨start, first, rest⟩ := leads
    refine ⟨start, rest, fun room => ?_⟩
    rcases full with rfl | full
    · exact first.symm
    · exact absurd full (Nat.ne_of_lt room)
  · exact one_active platform reached key _ (holds there) type

end Runs

/-! ## A full ledger -/

section Full

variable {δ : Type} (scheme : Scheme δ)

/-- Append records one after the other. -/
def appendAll (ledger : Ledger δ) (more : List Record) : Ledger δ :=
  more.foldl (appendLedger scheme) ledger

/-- A ledger that has taken in many records holds the last of them. -/
theorem records_appendAll {ledger : Ledger δ} (short : ledger.length ≤ ledgerMax)
    (more : List Record) :
    records (appendAll scheme ledger more) =
      (records ledger ++ more).drop (ledger.length + more.length - ledgerMax) := by
  induction more using List.reverseRecOn with
  | nil => simp [appendAll, Nat.sub_eq_zero_of_le short]
  | append_singleton more record ih =>
      have length : (appendAll scheme ledger more).length =
          ledger.length + more.length - (ledger.length + more.length - ledgerMax) := by
        simpa [records] using congrArg List.length ih
      rw [appendAll, List.foldl_append, List.foldl_cons, List.foldl_nil, ← appendAll,
        appendLedger_records, ih, length, List.length_append, List.length_singleton]
      have within : ledger.length + more.length - ledgerMax ≤
          (records ledger ++ more).length := by
        simp only [records, List.length_append, List.length_map]
        omega
      have amount : ledger.length + more.length - ledgerMax +
          (ledger.length + more.length - (ledger.length + more.length - ledgerMax) + 1 -
            ledgerMax) = ledger.length + (more.length + 1) - ledgerMax := by omega
      rw [← List.drop_append_of_le_length within, List.drop_drop, List.append_assoc, amount]

end Full

/-- What is fresh stays so where an identity changes and no code or identifier is new. -/
theorem fresh_modify {δ : Type} {store : Store δ} {draw : Draw} {ledger : Ledger δ} {key : String}
    {change : KarmaIdentity → KarmaIdentity} (fresh : draw.Fresh store)
    (same : ∀ ident, store.maps.byId.get key = some ident →
      (change ident).inviteCode = ident.inviteCode ∧
        ∀ credential ∈ (change ident).credentials, ∃ old ∈ ident.credentials,
          old.credentialId = credential.credentialId) :
    draw.Fresh ({ store with ledger }.modify key change).persist := by
  have before : ∀ other ident, (store.maps.modify key change).byId.get other = some ident →
      ∃ old, store.maps.byId.get other = some old ∧ ident.inviteCode = old.inviteCode ∧
        ∀ credential ∈ ident.credentials, ∃ found ∈ old.credentials,
          found.credentialId = credential.credentialId := by
    intro other ident is
    rw [Maps.modify, OrderedTable.get_modify] at is
    obtain ⟨old, was, rfl⟩ := Option.map_eq_some_iff.mp is
    refine ⟨old, was, ?_⟩
    split
    · next here =>
        subst here
        exact same old was
    · exact ⟨rfl, fun credential member => ⟨credential, member, rfl⟩⟩
  refine ⟨⟨fresh.identity.1, ?_⟩, ⟨fresh.invite.1, ?_⟩, ?_⟩
  · exact (OrderedTable.get_modify ..).trans (by rw [fresh.identity.2, Option.map_none])
  · intro other ident is
    obtain ⟨old, was, code, -⟩ := before other ident is
    rw [code]
    exact fresh.invite.2 other old was
  · intro other ident is credential member
    obtain ⟨old, was, -, ids⟩ := before other ident is
    obtain ⟨found, there, id⟩ := ids credential member
    rw [← id]
    exact fresh.credential other old was found there

namespace Demo

def email : Credential where
  credentialId := "cred_1"
  type := .email
  issuer := "karma"
  issuedAt := 1

def phone (status : CredentialState) : Credential where
  credentialId := "cred_2"
  type := .phone
  status
  issuer := "karma"
  issuedAt := 2

/-- An identity with two credentials. -/
def twoCredentials : Scene call {} where
  actions := [(seeded, draw 0), (.issueCredential "kid_a" "email" "karma" 0 "api" false, draw 1),
    (.issueCredential "kid_a" "phone" "karma" 0 "api" false, draw 2)]
  possible := by decide +kernel

/-- The identity has the two credentials, and what is drawn next is fresh. -/
structure Ready (store : Store (List Record)) (status : CredentialState) : Prop where
  reached : (identities platform).Reachable store
  there : (store.maps.byId.get "kid_a").map (·.credentials) = some [email, phone status]
  fresh : (draw 3).Fresh store

/-- The credential for the phone goes through a transition. -/
theorem Ready.step {store : Store (List Record)} {fromState : CredentialState}
    (action : CredentialAction) (toState : CredentialState) (ready : Ready store fromState)
    (legal : credentialTransitions (some fromState) action = some toState)
    (unverified : action ≠ .verify) :
    ∃ next record, Ready next toState ∧ record.entityId = "cred_2" ∧
      next.ledger = appendLedger platform.scheme store.ledger record := by
  obtain ⟨ident, there, credentials⟩ := Option.map_eq_some_iff.mp ready.there
  have named : ident.identityId = "kid_a" :=
    (told_of_reachable platform ready.reached).choose_spec.2.named "kid_a" ident.held
      (by rw [Maps.held, there, Option.map_some])
  have position : (ident.credentials.findIdx fun found => found.credentialId = "cred_2") = 1 := by
    simp [credentials, email, phone, List.findIdx_cons]
  have found : ident.credentials[1]? = some (phone fromState) := by simp [credentials]
  obtain ⟨record, tells, recorded⟩ := transition_tells (draw 3) platform store.ledger "kid_a"
    "cred_2" .phone "api" "" ((draw 3).entryId 0) legal
  let after := (phone fromState).after action toState (draw 3).now
  have performed : (perform platform store (draw 3)
      (.mutateCredential "kid_a" "cred_2" action "api" "")).2 =
        ({ store with ledger := appendLedger platform.scheme store.ledger record }.modify "kid_a"
          fun ident => ident.withCredentials (ident.credentials.set 1 after)).persist := by
    have transitioned : transition platform (draw 3) store.ledger (transitionArgs "kid_a"
        (phone fromState).credentialId (phone fromState).type (some (phone fromState).status) action
        "api" "") ((draw 3).entryId 0) =
          some (toState, appendLedger platform.scheme store.ledger record) := recorded
    simp only [perform, Outcome.raised, mutateCredential, there, position, found,
      Store.mutateCredential, named, transitioned]
    rfl
  have same : after = phone toState := by simp [after, Credential.after, unverified, phone]
  have step : (identities platform).Step store
      (.mutateCredential "kid_a" "cred_2" action "api" "", draw 3)
      (perform platform store (draw 3) (.mutateCredential "kid_a" "cred_2" action "api" "")).2 :=
    ⟨ready.fresh, rfl⟩
  refine ⟨_, record, ⟨ready.reached.step step, ?_, ?_⟩, tells.entityId, ?_⟩
  · rw [performed]
    change ((store.maps.modify "kid_a" fun ident => ident.withCredentials
      (ident.credentials.set 1 after)).byId.get "kid_a").map (·.credentials) = _
    rw [Maps.modify, OrderedTable.get_modify, there, same]
    simp [KarmaIdentity.withCredentials, credentials]
  · rw [performed]
    refine fresh_modify ready.fresh fun found is => ⟨rfl, ?_⟩
    obtain rfl := Option.some.inj (there.symm.trans is)
    intro credential member
    rcases List.mem_or_eq_of_mem_set member with old | rfl
    · exact ⟨credential, old, rfl⟩
    · exact ⟨phone fromState, List.mem_of_getElem? found, rfl⟩
  · rw [performed]
    rfl

/-- The credential for the phone is rejected and issued anew any number of times. -/
theorem Ready.rounds {store : Store (List Record)} (ready : Ready store .pending) (count : Nat) :
    ∃ next more, Ready next .pending ∧ count ≤ more.length ∧
      (∀ record ∈ more, record.entityId = "cred_2") ∧
      next.ledger = appendAll platform.scheme store.ledger more := by
  induction count with
  | zero => exact ⟨store, [], ready, le_rfl, by simp, rfl⟩
  | succ count ih =>
      obtain ⟨next, more, again, length, about, ledger⟩ := ih
      obtain ⟨rejected, first, failed, aboutFirst, ledgerFirst⟩ :=
        again.step .reject .failed rfl CredentialAction.noConfusion
      obtain ⟨reissued, second, pending, aboutSecond, ledgerSecond⟩ :=
        failed.step .reissue .pending rfl CredentialAction.noConfusion
      refine ⟨reissued, more ++ [first, second], pending, ?_, ?_, ?_⟩
      · rw [List.length_append]
        exact Nat.add_le_add length (Nat.le_add_left 1 1)
      · intro record member
        rcases List.mem_append.mp member with old | new
        · exact about record old
        · rcases List.mem_pair.mp new with rfl | rfl
          · exact aboutFirst
          · exact aboutSecond
      · rw [ledgerSecond, ledgerFirst, ledger, appendAll, appendAll, List.foldl_append]
        rfl

/-- A credential that is good for ten seconds expires and is verified again. -/
def reverified : Scene (fun store made =>
    if Careful store made.1 then call store made else none) {} where
  actions := [(seeded, draw 0), (.issueCredential "kid_a" "email" "karma" 10 "api" false, draw 1),
    (.mutateCredential "kid_a" "cred_1" .verify "api" "", draw 2),
    (.expireStaleCredentials "kid_a", draw 20),
    (.mutateCredential "kid_a" "cred_1" .reverify "api" "", draw 21),
    (.mutateCredential "kid_a" "cred_1" .verify "api" "", draw 22)]
  possible := by decide +kernel

/-- The credential that was verified again. -/
def secondTime : Credential where
  credentialId := "cred_1"
  type := .email
  status := .verified
  issuer := "karma"
  issuedAt := 1
  verifiedAt := some 22
  expiresAt := some 11

theorem reverified_reachable : ((identities platform).restrict fun store call =>
    Careful store call.1).Reachable reverified.world := by
  refine (TransitionSystem.Reachable.init rfl).run (reverified.run fun store made next done => ?_)
  rw [Option.ite_none_right_eq_some] at done
  exact ⟨call_step store made next done.2, done.1⟩

def credentialsAt (store : Store (List Record)) : Option (List Credential) :=
  (store.maps.byId.get "kid_a").map (·.credentials)

end Demo

theorem credential_lifecycle_reverified :
    ∃ ident, Demo.reverified.world.maps.byId.get "kid_a" = some ident ∧
      ident.verificationStatus = .basic ∧ activeOf .email ident.credentials ≤ 1 ∧
      ∃ start, Leads start (recordsOf "cred_1" (records Demo.reverified.world.ledger))
        "verified" := by
  have held : Demo.credentialsAt Demo.reverified.world = some [Demo.secondTime] := by
    decide +kernel
  obtain ⟨ident, there, credentials⟩ := Option.map_eq_some_iff.mp held
  obtain ⟨every, careful, -⟩ := credential_lifecycle Demo.platform
  obtain ⟨level, told⟩ := every _ Demo.reverified_reachable.of_restrict "kid_a" ident there
  obtain ⟨start, leads, -⟩ := told Demo.secondTime (by simp [credentials])
  refine ⟨ident, there, ?_, careful _ Demo.reverified_reachable "kid_a" ident there .email, start,
    leads⟩
  rw [level, credentials]
  rfl

/-- Two credentials of one type are active, the ledger tells nothing of a credential, and one that
was verified again expires at once. -/
theorem not_credential_lifecycle :
    (¬∀ store, (identities Demo.platform).Reachable store → ∀ key ident,
      store.maps.byId.get key = some ident → ∀ type, activeOf type ident.credentials ≤ 1) ∧
    (¬∀ store, (identities Demo.platform).Reachable store → ∀ key ident,
      store.maps.byId.get key = some ident → ∀ credential ∈ ident.credentials,
        Leads "" (recordsOf credential.credentialId (records store.ledger))
          credential.status.text) ∧
    ¬∀ store, (identities Demo.platform).Reachable store → ∀ draw, draw.Fresh store →
      ∀ key ident, store.maps.byId.get key = some ident → ∀ credential ∈ ident.credentials,
        (∃ record ∈ recordsOf credential.credentialId (records store.ledger),
          record.toState = "expired") →
        credential.status = .verified → ∀ since expiry, credential.verifiedAt = some since →
          credential.expiresAt = some expiry → draw.now < since + (expiry - credential.issuedAt) →
          ∃ later, (expireStaleCredentials Demo.platform store draw key).2.maps.byId.get key =
            some later ∧ credential ∈ later.credentials := by
  refine ⟨fun all => ?_, fun all => ?_, fun all => ?_⟩
  · have two : (Demo.credentialsAt Demo.twoActive.world).map (activeOf .telegram) = some 2 := by
      decide +kernel
    obtain ⟨credentials, held, count⟩ := Option.map_eq_some_iff.mp two
    obtain ⟨ident, there, rfl⟩ := Option.map_eq_some_iff.mp held
    have few := all _ (Demo.reachable Demo.twoActive) "kid_a" ident there .telegram
    omega
  · have fresh : Demo.isFresh Demo.twoCredentials.world (Demo.draw 3) = true ∧
        Demo.credentialsAt Demo.twoCredentials.world = some [Demo.email, Demo.phone .pending] ∧
        Demo.twoCredentials.world.ledger.length = 2 := by decide +kernel
    have ready : Demo.Ready Demo.twoCredentials.world .pending :=
      ⟨Demo.reachable Demo.twoCredentials, fresh.2.1, Demo.fresh_of_isFresh fresh.1⟩
    obtain ⟨next, more, again, many, about, ledger⟩ := ready.rounds ledgerMax
    obtain ⟨ident, there, credentials⟩ := Option.map_eq_some_iff.mp again.there
    have leads := all next again.reached "kid_a" ident there Demo.email (by simp [credentials])
    have short : Demo.twoCredentials.world.ledger.length ≤ ledgerMax := by
      rw [fresh.2.2]
      decide
    have untold : recordsOf "cred_1" (records next.ledger) = [] := by
      rw [ledger, records_appendAll _ short, recordsOf, List.filter_eq_nil_iff]
      intro record member told
      have old : (records Demo.twoCredentials.world.ledger).length ≤
          Demo.twoCredentials.world.ledger.length + more.length - ledgerMax := by
        rw [records, List.length_map]
        omega
      rw [List.drop_append, List.drop_eq_nil_of_le old, List.nil_append] at member
      have named := (of_decide_eq_true told).2
      rw [about record (List.mem_of_mem_drop member)] at named
      exact absurd named (by decide : ¬"cred_2" = "cred_1")
    rw [show Demo.email.credentialId = "cred_1" from rfl, untold] at leads
    exact absurd leads (by decide : ¬"" = "pending")
  · have facts : Demo.credentialsAt Demo.reverified.world = some [Demo.secondTime] ∧
        Demo.isFresh Demo.reverified.world (Demo.draw 23) = true ∧
        (∃ record ∈ recordsOf "cred_1" (records Demo.reverified.world.ledger),
          record.toState = "expired") ∧
        Demo.credentialsAt (expireStaleCredentials Demo.platform Demo.reverified.world
          (Demo.draw 23) "kid_a").2 =
            some [{ Demo.secondTime with status := .expired }] := by decide +kernel
    obtain ⟨held, fresh, expired, gone⟩ := facts
    obtain ⟨ident, there, credentials⟩ := Option.map_eq_some_iff.mp held
    obtain ⟨later, is, member⟩ := all _ Demo.reverified_reachable.of_restrict (Demo.draw 23)
      (Demo.fresh_of_isFresh fresh) "kid_a" ident there Demo.secondTime (by simp [credentials])
      expired rfl 22 11 rfl rfl (by decide)
    rw [Demo.credentialsAt, is, Option.map_some, Option.some.injEq] at gone
    rw [gone, List.mem_singleton] at member
    cases congrArg (·.status) member

end TrustChain.Identity
