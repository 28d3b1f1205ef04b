import TrustChain.Identity.Faces

/-!
# What a call does to the identities

A call that is lawful either changes nothing or returns and leaves the maps sound and the file
written.
-/

namespace TrustChain.Identity

open Library Function

/-! ## Calls -/

/-- The maps are sound, and the file holds the identities. -/
structure Store.Sound {δ : Type} (store : Store δ) : Prop where
  maps : store.maps.Sound
  file : store.file = store.maps.byId.rows.map Prod.snd

/-- Nothing has changed, or nothing is raised and the store is sound. -/
def Settled {δ : Type} (store : Store δ) (result : Option Raised × Store δ) : Prop :=
  result.2 = store ∨ result.1 = none ∧ result.2.Sound

/-- An account that is bound goes to an identity without another one, a security code is not used
where two credentials for Telegram are active, and an identity is seeded under a proper identifier
and with a wallet that is not in use. -/
def Lawful {δ : Type} (platform : Platform δ) (store : Store δ) : Call → Prop
  | .bindTelegram identityId telegramUserId _ =>
      (∀ owner, store.maps.byTg.get telegramUserId = some owner → owner = identityId) →
        ∀ ident, store.maps.byId.get identityId = some ident →
          ident.telegramUserId = none ∨ ident.telegramUserId = some telegramUserId
  | .bindBy2fa telegramUserId identityId twofaCode _ =>
      ∀ ident, store.maps.byId.get (platform.strip identityId) = some ident →
        refuseCode platform ident twofaCode = none →
        (ident.telegramUserId = none ∨ ident.telegramUserId = some telegramUserId) ∧
          (ident.credentials.filter fun credential =>
            credential.type = .telegram ∧ credential.Active).length ≤ 1
  | .seedIdentity identityId wallet _ _ _ =>
      store.maps.byId.get identityId = none →
        identityId ≠ "" ∧ store.maps.byWallet.get (platform.lower wallet) = none
  | _ => True

instance {δ : Type} (platform : Platform δ) (store : Store δ) (call : Call) :
    Decidable (Lawful platform store call) :=
  match call with
  | .bindTelegram identityId telegramUserId _ =>
      inferInstanceAs (Decidable ((∀ owner ∈ store.maps.byTg.get telegramUserId,
        owner = identityId) → ∀ ident ∈ store.maps.byId.get identityId, _ ∨ _))
  | .bindBy2fa _ identityId twofaCode _ =>
      inferInstanceAs (Decidable (∀ ident ∈ store.maps.byId.get (platform.strip identityId),
        refuseCode platform ident twofaCode = none → (_ ∨ _) ∧ _ ≤ _))
  | .seedIdentity _ _ _ _ _ => inferInstanceAs (Decidable (_ = none → _ ≠ "" ∧ _ = none))
  | .getOrCreateByWallet .. | .createSubIdentity .. | .updatePolicy .. | .addKarmaPoints ..
  | .issueCredential .. | .mutateCredential .. | .expireStaleCredentials .. =>
      inferInstanceAs (Decidable True)

section Calls

variable {δ : Type} {platform : Platform δ} {store : Store δ} {draw : Draw}

theorem Store.Sound.persist (sound : store.maps.Sound) : store.persist.Sound := ⟨sound, rfl⟩

/-- An identity is changed where it stands, with its face as it was, and written to the file. -/
theorem settled_modify {raised : Option Raised} {ledger : Ledger δ} {key : String}
    {change : KarmaIdentity → KarmaIdentity} (sound : store.Sound) (returns : raised = none)
    (same : ∀ ident, store.maps.byId.get key = some ident → (change ident).face = ident.face) :
    Settled store (raised, ({ store with ledger }.modify key change).persist) :=
  .inr ⟨returns, .persist (sound.maps.quiet (.modify same))⟩

/-- An invitation code that has not been drawn before is not in the index. -/
theorem Draw.Fresh.unused (fresh : draw.Fresh store) (sound : store.Sound) :
    store.maps.byInvite.get draw.inviteCode = none := by
  rw [sound.maps.indexed.invites.get_eq_none]
  intro key carried
  obtain ⟨ident, there, same⟩ := Option.map_eq_some_iff.mp carried
  exact fresh.invite.2 key ident there same

section Entered

variable {ident : KarmaIdentity}

theorem enter_face (other : String) : (store.enter ident).maps.face other =
    if other = ident.identityId then some ident.face else store.maps.face other := by
  rw [Store.enter, face_reindexInvite, face_reindexWallet, face_put]

theorem enter_indexes (store : Store δ) (code : ident.inviteCode ≠ "") :
    (store.enter ident).maps.byWallet = store.maps.byWallet.set ident.wallet ident.identityId ∧
      (store.enter ident).maps.byTg = store.maps.byTg ∧
      (store.enter ident).maps.byInvite =
        store.maps.byInvite.set ident.inviteCode ident.identityId := by
  rw [Store.enter, Maps.reindexInvite, if_pos code]
  exact ⟨rfl, rfl, rfl⟩

/-- A new main identity. -/
theorem Enters.enter (fresh : draw.Fresh store) (sound : store.Sound)
    (absent : store.maps.byId.get ident.identityId = none) (named : ident.identityId ≠ "")
    (wallet : store.maps.byWallet.get ident.wallet = none)
    (invite : ident.inviteCode = draw.inviteCode) (telegram : ident.telegramUserId = none)
    (subs : ident.subIdentityIds = []) (main : ident.parentIdentityId = none) :
    Enters store.maps (store.enter ident).maps ident.identityId ident.face := by
  have code : ident.inviteCode ≠ "" := invite ▸ fresh.invite.1
  obtain ⟨byWallet, byTg, byInvite⟩ := enter_indexes store code
  refine ⟨⟨rfl, named, code⟩, face_eq_none absent, wallet, ?_, telegram, subs, ?_, ?_, byWallet, byTg,
    byInvite⟩
  · exact (congrArg store.maps.byInvite.get invite).trans (fresh.unused sound)
  · intro parent is
    cases main.symm.trans is
  · intro other
    have unlinked : ¬ident.face.parentIdentityId = some other := by
      intro is
      cases main.symm.trans is
    rw [if_neg unlinked, enter_face]

/-- A new sub-identity, which its main identity takes up. -/
theorem Enters.link {parent : String} {above : KarmaIdentity}
    {adopt : KarmaIdentity → KarmaIdentity} (fresh : draw.Fresh store) (sound : store.Sound)
    (own : ident.identityId = draw.identityId)
    (wallet : store.maps.byWallet.get ident.wallet = none)
    (invite : ident.inviteCode = draw.inviteCode) (telegram : ident.telegramUserId = none)
    (subs : ident.subIdentityIds = []) (linked : ident.parentIdentityId = some parent)
    (there : store.maps.byId.get parent = some above) (main : above.parentIdentityId = none)
    (room : above.subIdentityIds.length < 2)
    (adopts : ∀ above, (adopt above).face = above.face.adopt ident.identityId) :
    Enters store.maps ((store.enter ident).modify parent adopt).maps ident.identityId
      ident.face := by
  have code : ident.inviteCode ≠ "" := invite ▸ fresh.invite.1
  obtain ⟨byWallet, byTg, byInvite⟩ := enter_indexes store code
  refine ⟨⟨rfl, own ▸ fresh.identity.1, code⟩,
    face_eq_none (own ▸ fresh.identity.2), wallet, ?_, telegram, subs, ?_, ?_, byWallet, byTg, byInvite⟩
  · exact (congrArg store.maps.byInvite.get invite).trans (fresh.unused sound)
  · intro other is
    obtain rfl := Option.some.inj (linked.symm.trans is)
    exact ⟨above.face, by rw [Maps.face, there, Option.map_some], main, room⟩
  · intro other
    have adopted : ((store.enter ident).maps.byId.get parent).map (fun above => (adopt above).face) =
        ((store.enter ident).maps.face parent).map (·.adopt ident.identityId) := by
      simp only [adopts, Maps.face, Option.map_map, comp_def]
    rw [Store.modify, face_modify, adopted, enter_face, enter_face]
    have same : ident.face.parentIdentityId = some other ↔ other = parent := by
      rw [show ident.face.parentIdentityId = some parent from linked, Option.some.injEq, eq_comm]
    by_cases here : other = ident.identityId
    · have apart : other ≠ parent := by
        rintro rfl
        rw [here, own, fresh.identity.2] at there
        cases there
      rw [if_neg apart, if_pos here, if_pos here]
    · rw [if_neg here, if_congr same rfl rfl]
      split
      · next at_parent =>
          subst at_parent
          rw [if_neg here]
      · rfl

end Entered

theorem getOrCreateByWallet_settled {wallet : String} {metadata : Json.Fields}
    (sound : store.Sound) (fresh : draw.Fresh store) :
    Settled store (getOrCreateByWallet platform store draw wallet metadata).raised := by
  simp only [getOrCreateByWallet]
  split
  · exact .inl rfl
  · next missing =>
      refine .inr ⟨rfl, .persist (sound.maps.enters (.enter fresh sound fresh.identity.2
        fresh.identity.1 ?_ rfl rfl rfl rfl))⟩
      rw [Option.eq_none_iff_forall_ne_some]
      intro key found
      have carried := (sound.maps.indexed.wallets _ key).mp found
      obtain ⟨ident, there, -⟩ := Option.map_eq_some_iff.mp carried
      have named : nonempty (some key) = some key := by
        simp [nonempty, (sound.maps.keyed key ident there).2.1]
      rw [found, named, Option.bind_some, there] at missing
      cases missing

theorem seedIdentity_settled {identityId wallet twofaCode : String} {paymentPolicy : Option Policy}
    {karmaPoints : Double} (sound : store.Sound) (fresh : draw.Fresh store)
    (lawful : Lawful platform store
      (.seedIdentity identityId wallet twofaCode paymentPolicy karmaPoints)) :
    Settled store (seedIdentity platform store draw identityId wallet twofaCode paymentPolicy
      karmaPoints).raised := by
  simp only [seedIdentity]
  split
  · next existing there =>
      refine settled_modify sound rfl fun ident again => ?_
      obtain rfl := Option.some.inj (there.symm.trans again)
      rfl
  · next absent =>
      obtain ⟨named, unused⟩ := lawful absent
      exact .inr ⟨rfl, .persist (sound.maps.enters
        (.enter fresh sound absent named unused rfl rfl rfl rfl))⟩

theorem createSubIdentity_settled {parentIdentityId wallet : String} (sound : store.Sound)
    (fresh : draw.Fresh store) :
    Settled store (createSubIdentity platform store draw parentIdentityId wallet).raised := by
  simp only [createSubIdentity]
  split
  · exact .inl rfl
  next parent there =>
  split
  · exact .inl rfl
  next main =>
  split
  · exact .inl rfl
  next few =>
  split
  · exact .inl rfl
  next unused =>
  have orphan : parent.parentIdentityId = none := by
    cases above : parent.parentIdentityId with
    | none => rfl
    | some grand =>
        -- the identity that the parent names is stored, so its identifier is not empty
        have linked : store.maps.parent parentIdentityId = some grand := by
          simp [Maps.parent, there, above]
        rw [← sound.maps.linked.links, Maps.subs] at linked
        cases upper : store.maps.byId.get grand with
        | none => simp [upper] at linked
        | some ident => simp [nonempty, above, (sound.maps.keyed grand ident upper).2.1] at main
  exact .inr ⟨rfl, .persist (sound.maps.enters (.link fresh sound rfl
    (Option.not_isSome_iff_eq_none.mp unused) rfl rfl rfl rfl there orphan (Nat.not_le.mp few)
    fun _ => rfl))⟩

theorem bindTelegram_settled {identityId : String} {telegramUserId : Int}
    {username : Option String} (sound : store.Sound)
    (lawful : Lawful platform store (.bindTelegram identityId telegramUserId username)) :
    Settled store (bindTelegram store identityId telegramUserId username).raised := by
  simp only [bindTelegram]
  split
  · exact .inl rfl
  next ident there =>
  split
  · exact .inl rfl
  next passes =>
  have owned : ∀ owner, store.maps.byTg.get telegramUserId = some owner → owner = identityId := by
    intro owner found
    have carries := (sound.maps.indexed.telegrams telegramUserId owner).mp found
    obtain ⟨before, was, -⟩ := Option.bind_eq_some_iff.mp carries
    simpa [found, nonempty, (sound.maps.keyed owner before was).2.1] using passes
  have named : (ident.bound telegramUserId username).identityId = identityId :=
    (sound.maps.keyed identityId ident there).1
  refine .inr ⟨rfl, .persist (sound.maps.binds (.of_released there (lawful owned ident there) there
    (fun other apart => face_released fun carries => apart ?_) rfl rfl rfl named rfl))⟩
  exact owned other ((sound.maps.indexed.telegrams telegramUserId other).mpr carries)

theorem updatePolicy_settled {identityId : String} {policy : Policy} (sound : store.Sound) :
    Settled store (updatePolicy store identityId policy).raised := by
  simp only [updatePolicy]
  split
  · exact .inl rfl
  next ident there =>
  split
  · exact .inl rfl
  refine settled_modify sound rfl fun found again => ?_
  obtain rfl := Option.some.inj (there.symm.trans again)
  rfl

theorem addKarmaPoints_settled {identityId : String} {points : Double} (sound : store.Sound) :
    Settled store (addKarmaPoints store identityId points).raised := by
  simp only [addKarmaPoints]
  split
  · exact .inl rfl
  next ident there =>
  refine settled_modify sound rfl fun found again => ?_
  cases main : (nonempty ident.parentIdentityId).filter fun parent =>
      (store.maps.byId.get parent).isSome with
  | none =>
      rw [main, Option.getD_none, there] at again
      obtain rfl := Option.some.inj again
      rfl
  | some parent =>
      rw [main, Option.getD_some] at again
      rw [Option.bind_some, again]
      rfl

/-! ### Credentials -/

/-- Only credentials, the level that follows from them, the file and the ledger differ. -/
structure Mutes (store next : Store δ) : Prop where
  quiet : Quiet store.maps next.maps
  file : next.file = next.maps.byId.rows.map Prod.snd

theorem Mutes.sound {next : Store δ} (mutes : Mutes store next) (sound : store.maps.Sound) :
    next.Sound :=
  ⟨sound.quiet mutes.quiet, mutes.file⟩

theorem Mutes.withCredentials {ledger : Ledger δ} {key : String}
    (change : KarmaIdentity → List Credential) :
    Mutes store ({ store with ledger }.modify key fun ident =>
      ident.withCredentials (change ident)).persist :=
  ⟨.modify fun _ _ => rfl, rfl⟩

/-- A legal transition is recorded. -/
theorem transition_eq (platform : Platform δ) (draw : Draw) (ledger : Ledger δ)
    (args : TransitionArgs) (entryId : String) {toState : CredentialState}
    (legal : credentialTransitions args.fromState args.action = some toState) :
    ∃ event, args.event = some event ∧ transition platform draw ledger args entryId =
      some (toState, appendLedger platform.scheme ledger (event.record entryId draw.now)) := by
  rw [TransitionArgs.event, legal]
  refine ⟨_, rfl, ?_⟩
  simp [transition, TransitionArgs.event, legal]

theorem Mutes.trans {next last : Store δ} (first : Mutes store next) (second : Mutes next last) :
    Mutes store last :=
  ⟨first.quiet.trans second.quiet, second.file⟩

section Mutations

variable (platform : Platform δ) (store : Store δ) (draw : Draw) (ident : KarmaIdentity)
  (position : Nat) (credential : Credential) (action : CredentialAction)
  (actor reason entryId : String)

/-- A legal action replaces the credential by one with the state that the action leads to. -/
theorem mutateCredential_ok {toState : CredentialState}
    (legal : credentialTransitions (some credential.status) action = some toState) :
    ∃ mutated next, store.mutateCredential platform draw ident position credential action actor
        reason entryId = (.ok mutated, next) ∧ Mutes store next ∧ mutated.status = toState ∧
      next.maps = store.maps.modify ident.identityId fun ident =>
        ident.withCredentials (ident.credentials.set position mutated) := by
  obtain ⟨event, -, recorded⟩ := transition_eq platform draw store.ledger
    (transitionArgs ident.identityId credential.credentialId credential.type
      (some credential.status) action actor reason) entryId legal
  simp only [Store.mutateCredential, recorded]
  exact ⟨_, _, rfl, .withCredentials _, rfl, rfl⟩

theorem mutateCredential_mutes :
    (∃ raised, store.mutateCredential platform draw ident position credential action actor reason
      entryId = (.error raised, store)) ∨
    ∃ mutated next, store.mutateCredential platform draw ident position credential action actor
      reason entryId = (.ok mutated, next) ∧ Mutes store next := by
  simp only [Store.mutateCredential]
  split
  · exact .inl ⟨_, rfl⟩
  · exact .inr ⟨_, _, rfl, .withCredentials _⟩

end Mutations

section Issuing

variable (platform : Platform δ) (draw : Draw) {identityId : String} {credType : String}
  (issuer actor : String) {ttlSeconds : Int} (autoVerify : Bool) (first : Nat)

/-- A credential is issued if there is no active one of its type. -/
theorem issueCredential_ok {ident : KarmaIdentity} {type : CredentialType} (typed : CredentialType.ofText credType = some type)
    (range : ¬(ttlSeconds < 0 ∨ 10 * 365 * 86400 < ttlSeconds))
    (there : store.maps.byId.get identityId = some ident)
    (free : ∀ existing ∈ ident.credentials, ¬(existing.type = type ∧ existing.Active)) :
    ∃ credential next, issueCredential platform store draw identityId credType issuer ttlSeconds
      actor autoVerify first = (.ok credential, next) ∧ Mutes store next := by
  have none : ¬(ident.credentials.any fun existing =>
      existing.type = type ∧ existing.Active) = true := by
    rw [List.any_eq_true]
    rintro ⟨existing, member, active⟩
    exact free existing member (of_decide_eq_true active)
  obtain ⟨event, -, recorded⟩ := transition_eq platform draw store.ledger
    (transitionArgs identityId draw.credentialId type .none .issue actor
      ("issue " ++ credType ++ " for " ++ identityId)) (draw.entryId first) rfl
  simp only [issueCredential, typed, if_neg range, there, if_neg none, recorded]
  split
  · obtain ⟨mutated, next, verified, mutes, -⟩ := mutateCredential_ok platform _ draw ident
      ident.credentials.length (draw.credential type .pending issuer ttlSeconds) .verify actor
      "verification passed" (draw.entryId (first + 1)) rfl
    exact ⟨mutated, next, verified, Mutes.trans (.withCredentials _) mutes⟩
  · exact ⟨_, _, rfl, .withCredentials _⟩

theorem issueCredential_settled (sound : store.Sound) :
    Settled store (issueCredential platform store draw identityId credType issuer ttlSeconds actor
      autoVerify first).raised := by
  cases typed : CredentialType.ofText credType with
  | none =>
      left
      simp only [issueCredential, typed, Outcome.raised]
  | some type =>
  by_cases range : ttlSeconds < 0 ∨ 10 * 365 * 86400 < ttlSeconds
  · left
    simp only [issueCredential, typed, if_pos range, Outcome.raised]
  cases there : store.maps.byId.get identityId with
  | none =>
      left
      simp only [issueCredential, typed, if_neg range, there, Outcome.raised]
  | some ident =>
  by_cases taken : (ident.credentials.any fun existing =>
      existing.type = type ∧ existing.Active) = true
  · left
    simp only [issueCredential, typed, if_neg range, there, if_pos taken, Outcome.raised]
  · have free : ∀ existing ∈ ident.credentials, ¬(existing.type = type ∧ existing.Active) := by
      intro existing member active
      exact taken (List.any_eq_true.mpr ⟨existing, member, decide_eq_true active⟩)
    obtain ⟨credential, next, issued, mutes⟩ :=
      issueCredential_ok platform draw issuer actor autoVerify first typed range there free
    rw [issued]
    exact .inr ⟨rfl, mutes.sound sound.maps⟩

end Issuing

theorem mutateCredential_settled {identityId credentialId actor reason : String}
    {action : CredentialAction} (sound : store.Sound) :
    Settled store
      (mutateCredential platform store draw identityId credentialId action actor reason).raised := by
  simp only [mutateCredential]
  split
  · exact .inl rfl
  split
  · exact .inl rfl
  next ident there _ credential found =>
  rcases mutateCredential_mutes platform store draw ident _ credential action actor reason
      (draw.entryId 0) with ⟨raised, failed⟩ | ⟨mutated, next, done, mutes⟩
  · rw [failed]
    exact .inl rfl
  · rw [done]
    exact .inr ⟨rfl, mutes.sound sound.maps⟩

theorem expireStaleCredentials_settled {identityId : String} (sound : store.Sound) :
    Settled store (expireStaleCredentials platform store draw identityId).raised := by
  simp only [expireStaleCredentials]
  split
  · exact .inl rfl
  · split
    · exact .inl rfl
    · exact .inr ⟨rfl, (Mutes.withCredentials _).sound sound.maps⟩

/-! ### Binding with a security code -/

/-- Where at most one element has a property, none has it once the first one is replaced. -/
theorem none_of_set_findIdx {α : Type} {holds : α → Bool} {list : List α} {replacement : α}
    (few : (list.filter holds).length ≤ 1) (not : holds replacement = false) :
    ∀ element ∈ list.set (list.findIdx holds) replacement, holds element = false := by
  induction list with
  | nil => simp
  | cons first rest ih =>
      rw [List.filter_cons] at few
      rw [List.findIdx_cons]
      cases here : holds first with
      | true =>
          rw [here, if_pos rfl, List.length_cons, Nat.succ_le_succ_iff, Nat.le_zero,
            List.length_eq_zero_iff, List.filter_eq_nil_iff] at few
          intro element member
          rcases List.mem_cons.mp member with rfl | later
          · exact not
          · exact Bool.eq_false_of_not_eq_true (few element later)
      | false =>
          rw [here, if_neg Bool.false_ne_true] at few
          intro element member
          rcases List.mem_cons.mp member with rfl | later
          · exact here
          · exact ih few element later

section Codes

variable {ident : KarmaIdentity} {telegramUserId : Int} {username : Option String}

/-- After the binding, the identity has the account and no security code. -/
theorem rebind_get {maps : Maps} (there : maps.byId.get ident.identityId = some ident) :
    (maps.rebind ident telegramUserId username).byId.get ident.identityId =
      some { ident.bound telegramUserId username with twofaCode := "" } := by
  have kept : ∀ released : Maps, (released.byId.get ident.identityId).isSome →
      (released.modify ident.identityId fun _ =>
        { ident.bound telegramUserId username with twofaCode := "" }).byId.get ident.identityId =
        some { ident.bound telegramUserId username with twofaCode := "" } := by
    intro released present
    obtain ⟨found, is⟩ := Option.isSome_iff_exists.mp present
    rw [Maps.modify, OrderedTable.get_modify, is, Option.map_some, if_pos rfl]
  rw [Maps.rebind]
  refine kept _ ?_
  cases nonempty (maps.byTg.get telegramUserId) with
  | none => simp [there]
  | some prev =>
      rw [Option.elim_some]
      split
      · simp [Maps.modify, OrderedTable.get_modify, there]
      · simp [there]

/-- If the identity has at most one active credential for Telegram, it has none any more. -/
theorem revokeTelegram_ok (platform : Platform δ) (store : Store δ) (draw : Draw) (actor : String)
    (ident found : KarmaIdentity) (there : store.maps.byId.get ident.identityId = some found)
    (same : found.credentials = ident.credentials)
    (few : (ident.credentials.filter fun credential =>
      credential.type = .telegram ∧ credential.Active).length ≤ 1) :
    ∃ next later, store.revokeTelegram platform draw ident actor = (none, next) ∧
      Quiet store.maps next.maps ∧ next.maps.byId.get ident.identityId = some later ∧
      ∀ credential ∈ later.credentials, ¬(credential.type = .telegram ∧ credential.Active) := by
  simp only [Store.revokeTelegram]
  cases at_position : ident.credentials[ident.credentials.findIdx fun credential =>
      credential.type = .telegram ∧ credential.Active]? with
  | none =>
      refine ⟨store, found, rfl, .refl _, there, fun credential member active => ?_⟩
      have beyond := List.getElem?_eq_none_iff.mp at_position
      have all := List.findIdx_eq_length.mp (le_antisymm List.findIdx_le_length beyond)
      rw [same] at member
      simpa [active] using all credential member
  | some credential =>
      obtain ⟨bound, rfl⟩ := List.getElem?_eq_some_iff.mp at_position
      have active := of_decide_eq_true (List.findIdx_getElem (w := bound))
      have legal : credentialTransitions (some (ident.credentials[ident.credentials.findIdx
          fun credential => credential.type = .telegram ∧ credential.Active]).status) .revoke =
          some .revoked := by
        rcases active.2 with pending | verified
        · rw [pending]
          rfl
        · rw [verified]
          rfl
      obtain ⟨mutated, next, done, mutes, revoked, maps⟩ := mutateCredential_ok platform store draw
        ident (ident.credentials.findIdx fun credential =>
          credential.type = .telegram ∧ credential.Active) _ .revoke actor
        "re-bind replaces old telegram credential" (draw.entryId 1) legal
      simp only [done]
      have replaced : next.maps.byId.get ident.identityId =
          some (found.withCredentials (found.credentials.set (ident.credentials.findIdx
            fun credential => credential.type = .telegram ∧ credential.Active) mutated)) := by
        rw [maps, Maps.modify, OrderedTable.get_modify, there, Option.map_some, if_pos rfl]
      refine ⟨next, _, rfl, mutes.quiet, replaced, ?_⟩
      · intro credential member
        have inactive : decide (mutated.type = .telegram ∧ mutated.Active) = false := by
          simp [Credential.Active, revoked]
        rw [KarmaIdentity.withCredentials, same] at member
        exact of_decide_eq_false (none_of_set_findIdx few inactive credential member)

theorem bindBy2fa_settled {identityId twofaCode : String} (sound : store.Sound)
    (lawful : Lawful platform store (.bindBy2fa telegramUserId identityId twofaCode username)) :
    Settled store (bindBy2fa platform store draw telegramUserId identityId twofaCode
      username).raised := by
  simp only [bindBy2fa]
  split
  · exact .inl rfl
  next ident there =>
  split
  · exact .inl rfl
  next passes =>
  obtain ⟨free, few⟩ := lawful ident there passes
  have own := there
  rw [← (sound.maps.keyed _ ident there).1] at own
  have bound : (store.maps.rebind ident telegramUserId username).Sound :=
    sound.maps.binds (.rebind sound.maps own free)
  obtain ⟨revoked, later, returned, quiet, again, none⟩ := revokeTelegram_ok platform
    ({ store with maps := store.maps.rebind ident telegramUserId username }.recordEvent platform
      draw (bindEvent ident ("tg:" ++ toString telegramUserId)) (draw.entryId 0)) draw
    ("tg:" ++ toString telegramUserId) ident
    { ident.bound telegramUserId username with twofaCode := "" }
    (rebind_get own) rfl few
  have typed : CredentialType.ofText "telegram" = some .telegram := rfl
  have range : ¬((0 : Int) < 0 ∨ 10 * 365 * 86400 < (0 : Int)) := by decide
  obtain ⟨credential, issued, done, mutes⟩ := issueCredential_ok platform draw "karma"
    ("tg:" ++ toString telegramUserId) true 2 typed range again none
  simp only [returned, done]
  exact .inr ⟨rfl, .persist ((bound.quiet quiet).quiet mutes.quiet)⟩

end Codes

/-- What a call does. -/
theorem perform_settled {call : Call} (sound : store.Sound) (fresh : draw.Fresh store)
    (lawful : Lawful platform store call) : Settled store (perform platform store draw call) := by
  cases call with
  | getOrCreateByWallet => exact getOrCreateByWallet_settled sound fresh
  | createSubIdentity => exact createSubIdentity_settled sound fresh
  | bindTelegram => exact bindTelegram_settled sound lawful
  | bindBy2fa => exact bindBy2fa_settled sound lawful
  | seedIdentity => exact seedIdentity_settled sound fresh lawful
  | updatePolicy => exact updatePolicy_settled sound
  | addKarmaPoints => exact addKarmaPoints_settled sound
  | issueCredential => exact issueCredential_settled platform draw _ _ _ _ sound
  | mutateCredential => exact mutateCredential_settled sound
  | expireStaleCredentials => exact expireStaleCredentials_settled sound

end Calls

end TrustChain.Identity
