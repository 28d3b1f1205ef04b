import TrustChain.Identity.Moves

/-!
# Credentials through the calls of the store

Every call is a number of single steps, some of which concern a credential.
-/

namespace TrustChain.Identity

open Library HashChain Function Relation

/-! ## Calls -/

/-- What has been recorded, with what has been dropped from a full ledger, tells the life of every
credential. -/
def Store.Told {δ : Type} (store : Store δ) : Prop :=
  ∃ dropped, (dropped = [] ∨ store.ledger.length = ledgerMax) ∧
    Lifecycle store.maps.held (dropped ++ records store.ledger)

section Calls

variable {δ : Type} {platform : Platform δ} {store next : Store δ} {careful : Prop}

/-- What is told after a record is appended. -/
theorem Store.Told.append {record : Record}
    (ledger : next.ledger = appendLedger platform.scheme store.ledger record)
    (told : store.Told)
    (lifecycle : ∀ all, Lifecycle store.maps.held all →
      Lifecycle next.maps.held (all ++ [record])) : next.Told := by
  obtain ⟨dropped, full, was⟩ := told
  obtain ⟨cut, whole, stays, cutOff⟩ := appendLedger_cut platform.scheme store.ledger record
  rw [← ledger] at whole stays cutOff
  refine ⟨dropped ++ cut, ?_, ?_⟩
  · rcases full with rfl | full
    · exact cutOff
    · exact .inr (stays full)
  · rw [List.append_assoc, ← whole, ← List.append_assoc]
    exact lifecycle _ was

theorem Moves.told (moves : Moves platform careful store next) (told : store.Told) : next.Told := by
  cases moves with
  | kept maps ledger =>
      obtain ⟨dropped, full, lifecycle⟩ := told
      rw [← ledger] at full lifecycle
      exact ⟨dropped, full, lifecycle.kept maps⟩
  | noted record other maps ledger =>
      refine told.append ledger fun all lifecycle => ?_
      rw [maps]
      exact lifecycle.noted other
  | issued key held credential record there unused free pending tells maps ledger =>
      refine told.append ledger fun all lifecycle => ?_
      rw [maps]
      exact lifecycle.issued there unused pending tells
  | changed key held position credential mutated action record there found same legal alone tells
      maps ledger =>
      refine told.append ledger fun all lifecycle => ?_
      rw [maps]
      exact lifecycle.changed there found same.1 tells

/-- Careful steps keep one active credential of each type. -/
theorem Moves.oneActive (moves : Moves platform True store next)
    (one : OneActive store.maps.held) : OneActive next.maps.held := by
  intro other another is type
  cases moves with
  | kept maps ledger =>
      rcases maps other with same | ⟨-, new⟩
      · exact one other another (same ▸ is) type
      · obtain rfl := Option.some.inj (new.symm.trans is)
        exact Nat.zero_le 1
  | noted record otherwise maps ledger => exact one other another (maps ▸ is) type
  | issued key held credential record there unused free pending tells maps ledger =>
      rw [maps] at is
      by_cases here : other = key
      · subst here
        rw [update_self] at is
        obtain rfl := Option.some.inj is
        exact activeOf_append free (one other held there type)
      · exact one other another ((update_of_ne here _ _).symm.trans is) type
  | changed key held position credential mutated action record there found same legal alone tells
      maps ledger =>
      rw [maps] at is
      by_cases here : other = key
      · subst here
        rw [update_self] at is
        obtain rfl := Option.some.inj is
        exact activeOf_set found same.2 legal (alone trivial) (one other held there type)
      · exact one other another ((update_of_ne here _ _).symm.trans is) type

/-! ### The credentials that identities hold -/

theorem held_modify {maps : Maps} {key other : String} {change : KarmaIdentity → KarmaIdentity} :
    (maps.modify key change).held other =
      if other = key then (maps.byId.get key).map fun ident => (change ident).held
      else maps.held other := by
  rw [Maps.held, Maps.modify, OrderedTable.get_modify, Option.map_map]
  split
  · next same =>
      subst same
      simp [comp_def]
  · simp [comp_def, Maps.held]

/-- A change of an identity that leaves its credentials alone. -/
theorem held_modify_same {maps : Maps} {key : String} {change : KarmaIdentity → KarmaIdentity}
    (same : ∀ ident, maps.byId.get key = some ident → (change ident).held = ident.held) :
    (maps.modify key change).held = maps.held := by
  funext other
  rw [held_modify]
  split
  · next here =>
      subst here
      cases found : maps.byId.get other with
      | none => simp [Maps.held, found]
      | some ident => simp [Maps.held, found, same ident found]
  · rfl

/-- An identity gets other credentials. -/
theorem held_withCredentials {maps : Maps} {key : String} {ident : KarmaIdentity}
    (there : maps.byId.get key = some ident) (change : KarmaIdentity → List Credential) :
    (maps.modify key fun ident => ident.withCredentials (change ident)).held =
      update maps.held key (some (ident.held.withCredentials (change ident))) := by
  funext other
  rw [held_modify]
  by_cases here : other = key
  · subst here
    rw [if_pos rfl, update_self, there]
    rfl
  · rw [if_neg here, update_of_ne here]

theorem held_reindexTg {maps : Maps} {ident : KarmaIdentity} :
    (maps.reindexTg ident).held = maps.held := by
  rw [Maps.reindexTg]
  split <;> rfl

theorem held_enter {ident : KarmaIdentity} (other : String) :
    (store.enter ident).maps.held other =
      if other = ident.identityId then some ident.held else store.maps.held other := by
  have indexed : (store.enter ident).maps.byId = (store.maps.put ident).byId := by
    rw [Store.enter, Maps.reindexInvite]
    split <;> rfl
  rw [Maps.held, indexed, Maps.put, OrderedTable.get_set]
  split
  · rfl
  · rfl

/-- The same credentials and the same ledger, whatever the file. -/
theorem moves_of_same (maps : next.maps.held = store.maps.held)
    (ledger : next.ledger = store.ledger) : Moves platform careful store next :=
  .kept (fun key => .inl (congrFun maps key)) ledger

/-- A new identity has no credentials. -/
theorem moves_enter {ident : KarmaIdentity} (absent : store.maps.byId.get ident.identityId = none)
    (new : ident.held = ⟨ident.identityId, [], .unverified⟩)
    (maps : ∀ other, next.maps.held other =
      if other = ident.identityId then some ident.held else store.maps.held other)
    (ledger : next.ledger = store.ledger) : Moves platform careful store next := by
  refine .kept (fun key => ?_) ledger
  rw [maps]
  split
  · next here =>
      subst here
      exact .inr ⟨by rw [Maps.held, absent, Option.map_none], by rw [new]⟩
  · exact .inl rfl

/-- No credential is brought back where one of its type is active. -/
def Careful (store : Store δ) : Call → Prop
  | .mutateCredential identityId credentialId action _ _ =>
      action = .reissue ∨ action = .reverify →
        ∀ ident, store.maps.byId.get identityId = some ident → ∀ credential ∈ ident.credentials,
          credential.credentialId = credentialId → NoneActive credential.type ident.credentials
  | _ => True

instance (store : Store δ) (call : Call) : Decidable (Careful store call) :=
  match call with
  | .mutateCredential identityId credentialId action _ _ =>
      inferInstanceAs (Decidable (action = .reissue ∨ action = .reverify →
        ∀ ident ∈ store.maps.byId.get identityId, ∀ credential ∈ ident.credentials,
          credential.credentialId = credentialId → NoneActive credential.type ident.credentials))
  | .getOrCreateByWallet .. | .createSubIdentity .. | .bindTelegram .. | .bindBy2fa ..
  | .seedIdentity .. | .updatePolicy .. | .addKarmaPoints .. | .issueCredential ..
  | .expireStaleCredentials .. => inferInstanceAs (Decidable True)

/-! ### Calls for credentials -/

variable (draw : Draw)

/-- A legal transition is told. -/
theorem transition_tells (platform : Platform δ) (ledger : Ledger δ)
    (identityId credentialId : String) (type : CredentialType)
    {fromState : Option CredentialState} {action : CredentialAction} {toState : CredentialState}
    (actor reason entryId : String)
    (legal : credentialTransitions fromState action = some toState) :
    ∃ record : Record, record.Tells credentialId fromState toState ∧
      transition platform draw ledger
        (transitionArgs identityId credentialId type fromState action actor reason) entryId =
        some (toState, appendLedger platform.scheme ledger record) := by
  obtain ⟨event, is, recorded⟩ := transition_eq platform draw ledger
    (transitionArgs identityId credentialId type fromState action actor reason) entryId legal
  refine ⟨_, ?_, recorded⟩
  simp only [TransitionArgs.event, transitionArgs, legal, Option.map_some, Option.some.injEq] at is
  subst is
  exact ⟨rfl, rfl, rfl, rfl⟩

section Mutations

variable {ident found : KarmaIdentity} {position : Nat} {credential : Credential}
  {action : CredentialAction} {actor reason entryId : String}

theorem mutateCredential_moves (there : store.maps.byId.get ident.identityId = some found)
    (at_position : found.credentials[position]? = some credential)
    (alone : careful → credentialTransitions (some credential.status) action = some .pending →
      NoneActive credential.type found.credentials) :
    ReflTransGen (Moves platform careful) store (store.mutateCredential platform draw ident position
      credential action actor reason entryId).2 := by
  have held : store.maps.held ident.identityId = some found.held := by
    rw [Maps.held, there, Option.map_some]
  simp only [Store.mutateCredential]
  cases legal : credentialTransitions (some credential.status) action with
  | none =>
      have refused : transition platform draw store.ledger (transitionArgs ident.identityId
          credential.credentialId credential.type (some credential.status) action actor reason)
          entryId = none := by
        simp [transition, transitionArgs, legal]
      rw [refused]
  | some toState =>
      obtain ⟨record, tells, recorded⟩ := transition_tells draw platform store.ledger
        ident.identityId credential.credentialId credential.type actor reason entryId legal
      rw [recorded]
      exact .single (.changed ident.identityId found.held position credential
        (credential.after action toState draw.now) action record held at_position ⟨rfl, rfl⟩ legal
        (fun cautious back => alone cautious (legal.trans (congrArg some back))) tells
        (held_withCredentials there _) rfl)

/-- No identifier comes into use. -/
theorem mutateCredential_unused {credentialId : String}
    (there : store.maps.byId.get ident.identityId = some found)
    (at_position : found.credentials[position]? = some credential)
    (unused : Unused store.maps.held credentialId) :
    Unused (store.mutateCredential platform draw ident position credential action actor reason
      entryId).2.maps.held credentialId := by
  have held : store.maps.held ident.identityId = some found.held := by
    rw [Maps.held, there, Option.map_some]
  simp only [Store.mutateCredential]
  split
  · exact unused
  next toState ledger transitioned =>
  intro key another is other member
  replace is : (store.maps.modify ident.identityId fun ident => ident.withCredentials
      (ident.credentials.set position (credential.after action toState draw.now))).held key =
        some another := is
  rw [held_withCredentials there fun ident =>
    ident.credentials.set position (credential.after action toState draw.now)] at is
  by_cases here : key = ident.identityId
  · subst here
    rw [update_self] at is
    obtain rfl := Option.some.inj is
    rcases List.mem_or_eq_of_mem_set member with old | rfl
    · exact unused _ _ held other old
    · exact unused _ _ held credential (List.mem_of_getElem? at_position)
  · exact unused key another ((update_of_ne here _ _).symm.trans is) other member

end Mutations

theorem issueCredential_moves {identityId credType issuer actor : String} {ttlSeconds : Int}
    {autoVerify : Bool} {first : Nat}
    (named : ∀ key held, store.maps.held key = some held → held.identityId = key)
    (unused : Unused store.maps.held draw.credentialId) :
    ReflTransGen (Moves platform careful) store (issueCredential platform store draw identityId
      credType issuer ttlSeconds actor autoVerify first).2 := by
  simp only [issueCredential]
  split
  · exact .refl
  next type typed =>
  split
  · exact .refl
  split
  · exact .refl
  next ident there =>
  split
  · exact .refl
  next inactive =>
  have held : store.maps.held identityId = some ident.held := by
    rw [Maps.held, there, Option.map_some]
  have own : ident.identityId = identityId := named identityId ident.held held
  have free : NoneActive type ident.credentials := by
    intro existing member active
    exact inactive (List.any_eq_true.mpr ⟨existing, member, decide_eq_true active⟩)
  have legal : credentialTransitions none .issue = some .pending := rfl
  obtain ⟨record, tells, recorded⟩ := transition_tells draw platform store.ledger identityId
    draw.credentialId type actor ("issue " ++ credType ++ " for " ++ identityId)
    (draw.entryId first) legal
  simp only [recorded]
  have appended : Moves platform careful store (({ store with
      ledger := appendLedger platform.scheme store.ledger record }.modify identityId fun ident =>
        ident.withCredentials
          (ident.credentials ++ [draw.credential type .pending issuer ttlSeconds])).persist) :=
    .issued identityId ident.held (draw.credential type .pending issuer ttlSeconds) record held
      unused free rfl tells (held_withCredentials there _) rfl
  split
  · have now_there : (store.maps.modify identityId fun ident => ident.withCredentials
        (ident.credentials ++ [draw.credential type .pending issuer ttlSeconds])).byId.get
          ident.identityId = some (ident.withCredentials
            (ident.credentials ++ [draw.credential type .pending issuer ttlSeconds])) := by
      rw [own, Maps.modify, OrderedTable.get_modify, there, Option.map_some, if_pos rfl]
    refine .trans (.single appended) (mutateCredential_moves draw now_there ?_ ?_)
    · exact List.getElem?_concat_length ..
    · rintro - ⟨⟩
  · exact .single appended

theorem mutateCredential_call_moves {identityId credentialId actor reason : String}
    {action : CredentialAction}
    (named : ∀ key held, store.maps.held key = some held → held.identityId = key)
    (cautious : careful →
      Careful store (.mutateCredential identityId credentialId action actor reason)) :
    ReflTransGen (Moves platform careful) store
      (mutateCredential platform store draw identityId credentialId action actor reason).2 := by
  simp only [mutateCredential]
  split
  · exact .refl
  next ident there =>
  split
  · exact .refl
  next credential at_position =>
  have held : store.maps.held identityId = some ident.held := by
    rw [Maps.held, there, Option.map_some]
  have own : ident.identityId = identityId := named identityId ident.held held
  refine mutateCredential_moves draw (own.symm ▸ there) at_position fun is back => ?_
  obtain ⟨bound, found⟩ := List.getElem?_eq_some_iff.mp at_position
  have same : credential.credentialId = credentialId := by
    have first := List.findIdx_getElem (w := bound)
    rw [found] at first
    exact of_decide_eq_true first
  have brings : action = .reissue ∨ action = .reverify := by
    revert back
    cases credential.status <;> cases action <;> simp [credentialTransitions]
  exact cautious is brings ident there credential (List.mem_of_getElem? at_position) same

section Expiring

variable {identityId : String} {ident : KarmaIdentity}

/-- With another ledger and other credentials of an identity. -/
def Store.withCredentials (store : Store δ) (ledger : Ledger δ) (identityId : String)
    (credentials : List Credential) : Store δ :=
  { store with ledger }.modify identityId fun ident => ident.withCredentials credentials

theorem withCredentials_get (there : store.maps.byId.get identityId = some ident)
    (ledger : Ledger δ) (credentials : List Credential) :
    (store.withCredentials ledger identityId credentials).maps.byId.get identityId =
      some (ident.withCredentials credentials) := by
  rw [Store.withCredentials, Store.modify, Maps.modify, OrderedTable.get_modify, there,
    Option.map_some, if_pos rfl]

theorem withCredentials_held (there : store.maps.byId.get identityId = some ident)
    (ledger : Ledger δ) (credentials : List Credential) :
    (store.withCredentials ledger identityId credentials).maps.held =
      update store.maps.held identityId (some (ident.held.withCredentials credentials)) :=
  held_withCredentials there fun _ => credentials

/-- A stale credential expires where it stands. -/
theorem expire_one {earlier rest : List Credential} {credential : Credential} (entryId : String)
    (there : store.maps.byId.get identityId = some ident)
    (split_at : ident.credentials = earlier ++ credential :: rest)
    (stale : credential.Stale draw.now) :
    ∃ ledger, transition platform draw store.ledger (transitionArgs identityId
        credential.credentialId credential.type (some credential.status) .expire "system"
        "ttl reached") entryId = some (.expired, ledger) ∧
      Moves platform careful store (store.withCredentials ledger identityId
        (earlier ++ { credential with status := .expired } :: rest)) := by
  have held : store.maps.held identityId = some ident.held := by
    rw [Maps.held, there, Option.map_some]
  have legal : credentialTransitions (some credential.status) .expire = some .expired := by
    rw [stale.1]
    rfl
  obtain ⟨record, tells, recorded⟩ := transition_tells draw platform store.ledger identityId
    credential.credentialId credential.type "system" "ttl reached" entryId legal
  have at_position : ident.held.credentials[earlier.length]? = some credential := by
    simp [KarmaIdentity.held, split_at]
  have replaced : ident.held.credentials.set earlier.length
      { credential with status := .expired } =
        earlier ++ { credential with status := .expired } :: rest := by
    simp [KarmaIdentity.held, split_at]
  refine ⟨_, recorded, .changed identityId ident.held earlier.length credential
    { credential with status := .expired } .expire record held at_position ⟨rfl, rfl⟩ legal ?_ tells
    ?_ rfl⟩
  · rintro - ⟨⟩
  · rw [replaced]
    exact withCredentials_held there _ _

/-- The loop goes through the transitions of the stale credentials one by one, each on the list as
the ones before it have left it. -/
theorem expireLoop_moves (store : Store δ) (earlier rest : List Credential) (expired : Nat)
    (there : store.maps.byId.get identityId = some ident)
    (split_at : ident.credentials = earlier ++ rest) :
    expireLoop platform draw identityId rest store.ledger expired = (rest, store.ledger, expired) ∨
      ∃ later ledger count,
        expireLoop platform draw identityId rest store.ledger expired = (later, ledger, count) ∧
        expired < count ∧ ReflTransGen (Moves platform careful) store
          (store.withCredentials ledger identityId (earlier ++ later)) := by
  induction rest generalizing earlier store expired ident with
  | nil => exact .inl rfl
  | cons credential rest ih =>
      by_cases stale : credential.Stale draw.now
      · right
        obtain ⟨ledger, recorded, step⟩ := @expire_one δ platform store careful draw identityId
          ident earlier rest credential (draw.entryId expired) there split_at stale
        have stepped := withCredentials_get there ledger
          (earlier ++ { credential with status := .expired } :: rest)
        have regrouped : (ident.withCredentials
            (earlier ++ { credential with status := .expired } :: rest)).credentials =
              (earlier ++ [{ credential with status := .expired }]) ++ rest := by
          simp [KarmaIdentity.withCredentials]
        rw [expireLoop, if_pos stale]
        simp only [recorded, Option.getD_some]
        rcases ih _ _ (expired + 1) stepped regrouped with
          none | ⟨later, final, count, runs, more, steps⟩
        · rw [show (store.withCredentials _ _ _).ledger = ledger from rfl] at none
          rw [none]
          exact ⟨_, _, _, rfl, Nat.lt_succ_self expired, .single step⟩
        · rw [show (store.withCredentials _ _ _).ledger = ledger from rfl] at runs
          rw [runs]
          refine ⟨_, _, _, rfl, Nat.lt_of_succ_lt more, .trans (.single step) (.tail steps ?_)⟩
          refine moves_of_same ?_ rfl
          rw [withCredentials_held there, withCredentials_held stepped, withCredentials_held there,
            update_idem, List.append_cons]
          rfl
      · have regrouped : ident.credentials = (earlier ++ [credential]) ++ rest := by
          rw [split_at, List.append_cons]
        rw [expireLoop, if_neg stale]
        rcases ih store (earlier ++ [credential]) expired there regrouped with
          none | ⟨later, final, count, runs, more, steps⟩
        · left
          rw [none]
        · right
          rw [runs]
          refine ⟨_, _, _, rfl, more, ?_⟩
          rw [List.append_cons]
          exact steps

theorem expireStaleCredentials_moves :
    ReflTransGen (Moves platform careful) store
      (expireStaleCredentials platform store draw identityId).2 := by
  simp only [expireStaleCredentials]
  split
  · exact .refl
  next ident there =>
  rcases @expireLoop_moves δ platform careful draw identityId ident store [] ident.credentials 0
    there rfl with none | ⟨later, ledger, count, runs, more, steps⟩
  · rw [none]
    exact .refl
  · rw [runs, if_neg (Nat.ne_of_gt more)]
    exact .tail steps (moves_of_same rfl rfl)

end Expiring

/-! ### Binding with a security code -/

/-- Every identity is stored under its own identifier. -/
def Named (holds : String → Option Held) : Prop :=
  ∀ key held, holds key = some held → held.identityId = key

theorem Named.update {holds : String → Option Held} {key : String} {held : Held}
    (named : Named holds) (there : holds key = some held) (credentials : List Credential) :
    Named (Function.update holds key (some (held.withCredentials credentials))) := by
  intro other another is
  by_cases here : other = key
  · subst here
    rw [update_self] at is
    obtain rfl := Option.some.inj is
    exact named other held there
  · exact named other another ((update_of_ne here _ _).symm.trans is)

theorem Moves.named (moves : Moves platform careful store next) (named : Named store.maps.held) :
    Named next.maps.held := by
  cases moves with
  | kept maps ledger =>
      intro key held there
      rcases maps key with same | ⟨-, new⟩
      · exact named key held (same ▸ there)
      · obtain rfl := Option.some.inj (new.symm.trans there)
        rfl
  | noted record other maps ledger =>
      rw [maps]
      exact named
  | issued key held credential record there unused free pending tells maps ledger =>
      rw [maps]
      exact named.update there _
  | changed key held position credential mutated action record there found same legal alone tells
      maps ledger =>
      rw [maps]
      exact named.update there _

/-- The steps of a call keep what each step keeps. -/
theorem moves_preserve {property : Store δ → Prop}
    (preserved : ∀ store next, Moves platform careful store next → property store → property next)
    (steps : ReflTransGen (Moves platform careful) store next) (initially : property store) :
    property next := by
  induction steps with
  | refl => exact initially
  | tail _ step ih => exact preserved _ _ step ih

section Codes

variable {ident : KarmaIdentity} {telegramUserId : Int} {username : Option String}

theorem held_rebind {maps : Maps} (there : maps.byId.get ident.identityId = some ident) :
    (maps.rebind ident telegramUserId username).held = maps.held := by
  have bound : ∀ released : Maps, released.held = maps.held →
      (released.modify ident.identityId fun _ =>
        { ident.bound telegramUserId username with twofaCode := "" }).held = maps.held := by
    intro released same
    have own : released.held ident.identityId = some ident.held := by
      rw [same, Maps.held, there, Option.map_some]
    refine (held_modify_same fun found is => ?_).trans same
    rw [Maps.held, is, Option.map_some] at own
    exact (Option.some.inj own).symm
  rw [Maps.rebind, held_reindexTg]
  refine bound _ ?_
  cases nonempty (maps.byTg.get telegramUserId) with
  | none => rfl
  | some prev =>
      rw [Option.elim_some]
      split
      · exact held_modify_same fun _ _ => rfl
      · rfl

theorem revokeTelegram_moves {actor : String} {found : KarmaIdentity}
    (there : store.maps.byId.get ident.identityId = some found)
    (same : found.credentials = ident.credentials) :
    ReflTransGen (Moves platform careful) store
        (store.revokeTelegram platform draw ident actor).2 ∧
      ∀ credentialId, Unused store.maps.held credentialId →
        Unused (store.revokeTelegram platform draw ident actor).2.maps.held credentialId := by
  simp only [Store.revokeTelegram]
  split
  · exact ⟨.refl, fun _ unused => unused⟩
  next credential at_position =>
  have alone : careful →
      credentialTransitions (some credential.status) .revoke = some .pending →
      NoneActive credential.type found.credentials := by
    intro _ back
    revert back
    cases credential.status <;> simp [credentialTransitions]
  have at_found : found.credentials[ident.credentials.findIdx fun credential =>
      credential.type = .telegram ∧ credential.Active]? = some credential := by
    rw [same]
    exact at_position
  have steps := @mutateCredential_moves δ platform store careful draw ident found _ credential
    .revoke actor "re-bind replaces old telegram credential" (draw.entryId 1) there at_found alone
  have unused := fun credentialId => @mutateCredential_unused δ platform store draw ident found _
    credential .revoke actor "re-bind replaces old telegram credential" (draw.entryId 1)
    credentialId there at_found
  split
  · next failed =>
      rw [failed] at steps unused
      exact ⟨steps, unused⟩
  · next done =>
      rw [done] at steps unused
      exact ⟨steps, unused⟩

theorem bindBy2fa_moves {identityId twofaCode : String} (named : Named store.maps.held)
    (unused : Unused store.maps.held draw.credentialId) :
    ReflTransGen (Moves platform careful) store
      (bindBy2fa platform store draw telegramUserId identityId twofaCode username).2 := by
  simp only [bindBy2fa]
  split
  · exact .refl
  next ident found =>
  split
  · exact .refl
  have own : store.maps.byId.get ident.identityId = some ident := by
    have key : ident.identityId = platform.strip identityId :=
      named _ ident.held (by rw [Maps.held, found, Option.map_some])
    rw [key]
    exact found
  let actor := "tg:" ++ toString telegramUserId
  let bound : Store δ := { store with maps := store.maps.rebind ident telegramUserId username }
  let recorded := bound.recordEvent platform draw (bindEvent ident actor) (draw.entryId 0)
  have held : recorded.maps.held = store.maps.held := held_rebind own
  have binds : Moves platform careful store bound := moves_of_same (held_rebind own) rfl
  have tells : Moves platform careful bound recorded := by
    refine .noted ((bindEvent ident actor).record (draw.entryId 0) draw.now) ?_ rfl rfl
    change ¬"identity" = "credential"
    decide
  have there : recorded.maps.byId.get ident.identityId =
      some { ident.bound telegramUserId username with twofaCode := "" } := rebind_get own
  obtain ⟨steps, keeps⟩ :=
    @revokeTelegram_moves δ platform recorded careful draw ident actor _ there rfl
  have sofar := ((ReflTransGen.single binds).tail tells).trans steps
  have stillNamed := moves_preserve (fun _ _ moves => moves.named) sofar named
  have stillUnused := keeps draw.credentialId (held ▸ unused)
  split
  · next failed =>
      rw [failed] at sofar
      exact sofar
  next revoked returned =>
  rw [returned] at sofar stillNamed stillUnused
  have issued := @issueCredential_moves δ platform revoked careful draw ident.identityId "telegram"
    "karma" actor 0 true 2 stillNamed stillUnused
  split
  · next failed =>
      rw [failed] at issued
      exact sofar.trans issued
  · next done =>
      rw [done] at issued
      exact .tail (sofar.trans issued) (moves_of_same rfl rfl)

end Codes

/-! ### Every call -/

/-- A call that changes one identity and none of its credentials. -/
theorem moves_modify {key : String} {change : KarmaIdentity → KarmaIdentity}
    (same : ∀ ident, store.maps.byId.get key = some ident → (change ident).held = ident.held) :
    Moves platform careful store (store.modify key change).persist :=
  moves_of_same (held_modify_same same) rfl

/-- A call makes a number of moves, careful ones if the call is careful. -/
theorem perform_moves (call : Call) (fresh : draw.Fresh store) (named : Named store.maps.held)
    (cautious : careful → Careful store call) :
    ReflTransGen (Moves platform careful) store (perform platform store draw call).2 := by
  have unused : Unused store.maps.held draw.credentialId := by
    intro key held is credential member
    obtain ⟨ident, there, rfl⟩ := Option.map_eq_some_iff.mp is
    exact fresh.credential key ident there credential member
  cases call with
  | getOrCreateByWallet wallet metadata =>
      simp only [perform, Outcome.raised, getOrCreateByWallet]
      split
      · exact .refl
      · exact .single (moves_enter fresh.identity.2 rfl held_enter rfl)
  | createSubIdentity parentIdentityId wallet =>
      simp only [perform, Outcome.raised, createSubIdentity]
      split
      · exact .refl
      split
      · exact .refl
      split
      · exact .refl
      split
      · exact .refl
      refine .tail (.single (moves_enter fresh.identity.2 rfl held_enter rfl)) (moves_modify ?_)
      intro ident there
      rfl
  | bindTelegram identityId telegramUserId username =>
      simp only [perform, Outcome.raised, bindTelegram]
      split
      · exact .refl
      next ident there =>
      split
      · exact .refl
      refine .single (moves_of_same (held_reindexTg.trans (held_modify_same ?_)) rfl)
      intro found is
      obtain rfl := Option.some.inj (there.symm.trans is)
      rfl
  | bindBy2fa telegramUserId identityId twofaCode username =>
      exact bindBy2fa_moves draw named unused
  | seedIdentity identityId wallet twofaCode paymentPolicy karmaPoints =>
      simp only [perform, Outcome.raised, seedIdentity]
      split
      · next existing there =>
          refine .single (moves_modify fun found is => ?_)
          obtain rfl := Option.some.inj (there.symm.trans is)
          rfl
      · next absent => exact .single (moves_enter absent rfl held_enter rfl)
  | updatePolicy identityId policy =>
      simp only [perform, Outcome.raised, updatePolicy]
      split
      · exact .refl
      next ident there =>
      split
      · exact .refl
      refine .single (moves_modify fun found is => ?_)
      obtain rfl := Option.some.inj (there.symm.trans is)
      rfl
  | addKarmaPoints identityId points =>
      simp only [perform, Outcome.raised, addKarmaPoints]
      split
      · exact .refl
      next ident there =>
      refine .single (moves_modify fun found is => ?_)
      cases main : (nonempty ident.parentIdentityId).filter fun parent =>
          (store.maps.byId.get parent).isSome with
      | none =>
          rw [main, Option.getD_none, there] at is
          obtain rfl := Option.some.inj is
          rfl
      | some parent =>
          rw [main, Option.getD_some] at is
          rw [Option.bind_some, is]
          rfl
  | issueCredential => exact issueCredential_moves draw named unused
  | mutateCredential => exact mutateCredential_call_moves draw named cautious
  | expireStaleCredentials => exact expireStaleCredentials_moves draw

end Calls

end TrustChain.Identity
