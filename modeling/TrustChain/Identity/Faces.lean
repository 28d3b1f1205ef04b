import TrustChain.Identity.Store

/-!
# Bindings and links of identities

The indexes and the links between identities depend on a few fields of each identity, its face.
Here is what it means that they are sound, and how the maps stay so when an identity is entered,
when an account is bound, and when no face changes.
-/

namespace TrustChain.Identity

open Library Function

/-! ## What the indexes and the links depend on -/

namespace Maps

variable (maps : Maps)

def wallet (key : String) : Option String := (maps.byId.get key).map (·.wallet)

def telegram (key : String) : Option Int := (maps.byId.get key).bind (·.telegramUserId)

def invite (key : String) : Option String := (maps.byId.get key).map (·.inviteCode)

def parent (key : String) : Option String := (maps.byId.get key).bind (·.parentIdentityId)

def subs (key : String) : List String := ((maps.byId.get key).map (·.subIdentityIds)).getD []

/-- The three maps are the inverses of the fields of the identities. -/
structure Indexed : Prop where
  wallets : Inverse maps.wallet maps.byWallet
  telegrams : Inverse maps.telegram maps.byTg
  invites : Inverse maps.invite maps.byInvite

/-- At most two sub-identities, and links that are mutual and of depth one. -/
structure Linked : Prop where
  few : ∀ key, (maps.subs key).length ≤ 2
  links : ∀ parent child, child ∈ maps.subs parent ↔ maps.parent child = some parent
  shallow : ∀ child parent, maps.parent child = some parent → maps.parent parent = none

/-- Every identity is stored under its own identifier, and neither that nor its code is empty. -/
def Keyed : Prop := ∀ key ident, maps.byId.get key = some ident →
  ident.identityId = key ∧ key ≠ "" ∧ ident.inviteCode ≠ ""

/-- Two collections of maps in which every lookup finds the same. -/
structure SameLookups (other : Maps) : Prop where
  byId : ∀ key, other.byId.get key = maps.byId.get key
  byWallet : ∀ key, other.byWallet.get key = maps.byWallet.get key
  byTg : ∀ key, other.byTg.get key = maps.byTg.get key
  byInvite : ∀ key, other.byInvite.get key = maps.byInvite.get key

structure Sound : Prop where
  keyed : maps.Keyed
  indexed : maps.Indexed
  linked : maps.Linked

end Maps

/-- The fields of an identity that its bindings and links are made of. -/
structure Face where
  identityId : String
  wallet : String
  telegramUserId : Option Int
  inviteCode : String
  parentIdentityId : Option String
  subIdentityIds : List String

def KarmaIdentity.face (ident : KarmaIdentity) : Face where
  identityId := ident.identityId
  wallet := ident.wallet
  telegramUserId := ident.telegramUserId
  inviteCode := ident.inviteCode
  parentIdentityId := ident.parentIdentityId
  subIdentityIds := ident.subIdentityIds

def Maps.face (maps : Maps) (key : String) : Option Face := (maps.byId.get key).map (·.face)

section Faces

variable {maps next : Maps} {key other : String} {ident : KarmaIdentity}

theorem wallet_eq : maps.wallet key = (maps.face key).map (·.wallet) := by
  rw [Maps.face, Option.map_map]
  rfl

theorem telegram_eq : maps.telegram key = (maps.face key).bind (·.telegramUserId) := by
  rw [Maps.face, Option.bind_map]
  rfl

theorem invite_eq : maps.invite key = (maps.face key).map (·.inviteCode) := by
  rw [Maps.face, Option.map_map]
  rfl

theorem parent_eq : maps.parent key = (maps.face key).bind (·.parentIdentityId) := by
  rw [Maps.face, Option.bind_map]
  rfl

theorem subs_eq : maps.subs key = ((maps.face key).map (·.subIdentityIds)).getD [] := by
  rw [Maps.face, Option.map_map]
  rfl

theorem keyed_iff :
    maps.Keyed ↔ ∀ key face, maps.face key = some face →
      face.identityId = key ∧ key ≠ "" ∧ face.inviteCode ≠ "" := by
  constructor
  · intro keyed key face there
    obtain ⟨ident, found, rfl⟩ := Option.map_eq_some_iff.mp there
    exact keyed key ident found
  · intro keyed key ident found
    exact keyed key ident.face (Option.map_eq_some_iff.mpr ⟨ident, found, rfl⟩)

theorem face_put :
    (maps.put ident).face other =
      if other = ident.identityId then some ident.face else maps.face other := by
  rw [Maps.face, Maps.put, OrderedTable.get_set]
  split
  · rfl
  · rfl

theorem face_modify {change : KarmaIdentity → KarmaIdentity} :
    (maps.modify key change).face other =
      if other = key then (maps.byId.get key).map fun ident => (change ident).face
      else maps.face other := by
  rw [Maps.face, Maps.modify, OrderedTable.get_modify, Option.map_map]
  split
  · next same =>
      subst same
      simp [comp_def]
  · simp [comp_def, Maps.face]

@[simp] theorem face_reindexTg : (maps.reindexTg ident).face = maps.face := by
  rw [Maps.reindexTg]
  split <;> rfl

@[simp] theorem face_reindexWallet : (maps.reindexWallet ident).face = maps.face := rfl

@[simp] theorem face_reindexInvite : (maps.reindexInvite ident).face = maps.face := by
  rw [Maps.reindexInvite]
  split <;> rfl

/-- The same faces and the same indexes. -/
structure Quiet (maps next : Maps) : Prop where
  face : next.face = maps.face
  byWallet : next.byWallet = maps.byWallet
  byTg : next.byTg = maps.byTg
  byInvite : next.byInvite = maps.byInvite

theorem Quiet.refl (maps : Maps) : Quiet maps maps := ⟨rfl, rfl, rfl, rfl⟩

theorem Quiet.trans {last : Maps} (first : Quiet maps next) (second : Quiet next last) :
    Quiet maps last where
  face := second.face.trans first.face
  byWallet := second.byWallet.trans first.byWallet
  byTg := second.byTg.trans first.byTg
  byInvite := second.byInvite.trans first.byInvite

/-- A change of an identity that leaves its face alone. -/
theorem Quiet.modify {change : KarmaIdentity → KarmaIdentity}
    (same : ∀ ident, maps.byId.get key = some ident → (change ident).face = ident.face) :
    Quiet maps (maps.modify key change) where
  face := by
    funext other
    rw [face_modify]
    split
    · next here =>
        subst here
        cases found : maps.byId.get other with
        | none => simp [Maps.face, found]
        | some ident => simp [Maps.face, found, same ident found]
    · rfl
  byWallet := rfl
  byTg := rfl
  byInvite := rfl

theorem Maps.Sound.quiet (sound : maps.Sound) (quiet : Quiet maps next) : next.Sound := by
  obtain ⟨keyed, ⟨wallets, telegrams, invites⟩, few, links, shallow⟩ := sound
  have wallet : next.wallet = maps.wallet := by
    funext key
    rw [wallet_eq, wallet_eq, quiet.face]
  have telegram : next.telegram = maps.telegram := by
    funext key
    rw [telegram_eq, telegram_eq, quiet.face]
  have invite : next.invite = maps.invite := by
    funext key
    rw [invite_eq, invite_eq, quiet.face]
  have parent : next.parent = maps.parent := by
    funext key
    rw [parent_eq, parent_eq, quiet.face]
  have subs : next.subs = maps.subs := by
    funext key
    rw [subs_eq, subs_eq, quiet.face]
  refine ⟨?_, ⟨?_, ?_, ?_⟩, ?_, ?_, ?_⟩
  · rw [keyed_iff, quiet.face, ← keyed_iff]
    exact keyed
  · rwa [wallet, quiet.byWallet]
  · rwa [telegram, quiet.byTg]
  · rwa [invite, quiet.byInvite]
  · rwa [subs]
  · rwa [subs, parent]
  · rwa [parent]

theorem face_eq_none (absent : maps.byId.get key = none) : maps.face key = none := by
  rw [Maps.face, absent]
  rfl

end Faces

/-! ## Entering an identity -/

/-- With one more sub-identity. -/
def Face.adopt (face : Face) (child : String) : Face :=
  { face with subIdentityIds := face.subIdentityIds ++ [child] }

/-- A new identity is entered, and its main identity, if it has one, takes it for a sub-identity. -/
structure Enters (maps next : Maps) (key : String) (face : Face) : Prop where
  named : face.identityId = key ∧ key ≠ "" ∧ face.inviteCode ≠ ""
  fresh : maps.face key = none
  wallet : maps.byWallet.get face.wallet = none
  invite : maps.byInvite.get face.inviteCode = none
  telegram : face.telegramUserId = none
  subs : face.subIdentityIds = []
  parent : ∀ parent, face.parentIdentityId = some parent → ∃ above, maps.face parent = some above ∧
    above.parentIdentityId = none ∧ above.subIdentityIds.length < 2
  faces : ∀ other, next.face other =
    if other = key then some face
    else if face.parentIdentityId = some other then (maps.face other).map (·.adopt key)
    else maps.face other
  byWallet : next.byWallet = maps.byWallet.set face.wallet key
  byTg : next.byTg = maps.byTg
  byInvite : next.byInvite = maps.byInvite.set face.inviteCode key

section Entering

variable {maps next : Maps} {key : String} {face : Face}

/-- A field that is not the list of sub-identities. -/
theorem Enters.field (enters : Enters maps next key face) {α : Type} (field : Face → Option α)
    (kept : ∀ (face : Face) child, field (face.adopt child) = field face) (other : String) :
    (next.face other).bind field =
      if other = key then field face else (maps.face other).bind field := by
  rw [enters.faces]
  split
  · rfl
  · split
    · rw [Option.bind_map]
      congr 1
      funext face
      exact kept face key
    · rfl

theorem Enters.subs_next (enters : Enters maps next key face) (other : String) :
    next.subs other =
      if other = key then []
      else if face.parentIdentityId = some other then maps.subs other ++ [key]
      else maps.subs other := by
  rw [subs_eq, enters.faces]
  split
  · exact enters.subs
  · split
    · next parent =>
        obtain ⟨above, there, -⟩ := enters.parent other parent
        simp [subs_eq, there, Face.adopt]
    · rw [subs_eq]

theorem Enters.parent_next (enters : Enters maps next key face) (other : String) :
    next.parent other = if other = key then face.parentIdentityId else maps.parent other := by
  rw [parent_eq, parent_eq]
  exact enters.field (·.parentIdentityId) (fun _ _ => rfl) other

theorem Maps.Sound.enters (sound : maps.Sound) (enters : Enters maps next key face) :
    next.Sound := by
  obtain ⟨keyed, ⟨wallets, telegrams, invites⟩, few, links, shallow⟩ := sound
  have noSubs : maps.subs key = [] := by simp [subs_eq, enters.fresh]
  have noParent : maps.parent key = none := by simp [parent_eq, enters.fresh]
  have unlinked : ∀ child, maps.parent child ≠ some key := by
    intro child is
    rw [← links, noSubs] at is
    exact List.not_mem_nil is
  have apart : face.parentIdentityId ≠ some key := by
    intro is
    obtain ⟨above, there, -⟩ := enters.parent key is
    cases enters.fresh.symm.trans there
  refine ⟨?_, ⟨?_, ?_, ?_⟩, ?_, ?_, ?_⟩
  · rw [keyed_iff] at keyed ⊢
    intro other found there
    rw [enters.faces] at there
    split at there
    · next same =>
        obtain rfl := Option.some.inj there
        exact same ▸ enters.named
    · split at there
      · obtain ⟨before, was, rfl⟩ := Option.map_eq_some_iff.mp there
        exact keyed other before was
      · exact keyed other found there
  · rw [enters.byWallet]
    refine wallets.insert ?_ enters.wallet fun other => ?_
    · simp [wallet_eq, enters.fresh]
    · rw [wallet_eq, wallet_eq, Option.map_eq_bind, Option.map_eq_bind]
      exact enters.field (some ∘ fun face => face.wallet) (fun _ _ => rfl) other
  · rw [enters.byTg]
    have same : next.telegram = maps.telegram := by
      funext other
      rw [telegram_eq, telegram_eq, enters.field (·.telegramUserId) (fun _ _ => rfl)]
      split
      · next here => rw [here, enters.fresh, enters.telegram, Option.bind_none]
      · rfl
    rwa [same]
  · rw [enters.byInvite]
    refine invites.insert ?_ enters.invite fun other => ?_
    · simp [invite_eq, enters.fresh]
    · rw [invite_eq, invite_eq, Option.map_eq_bind, Option.map_eq_bind]
      exact enters.field (some ∘ fun face => face.inviteCode) (fun _ _ => rfl) other
  · intro other
    rw [enters.subs_next]
    split
    · exact Nat.zero_le 2
    · split
      · next parent =>
          obtain ⟨above, there, -, room⟩ := enters.parent other parent
          have many : maps.subs other = above.subIdentityIds := by simp [subs_eq, there]
          rw [many, List.length_append, List.length_singleton]
          exact room
      · exact few other
  · intro other child
    rw [enters.subs_next, enters.parent_next]
    by_cases here : other = key
    · subst here
      by_cases self : child = other
      · simp [self, apart]
      · simp [self, unlinked]
    · rw [if_neg here]
      by_cases self : child = key
      · subst self
        have absent : child ∉ maps.subs other := by simp [links, noParent]
        by_cases parent : face.parentIdentityId = some other
        · simp [parent]
        · simp [parent, absent]
      · by_cases parent : face.parentIdentityId = some other
        · simp [parent, self, links]
        · simp [parent, self, links]
  · intro child parent is
    rw [enters.parent_next] at is ⊢
    split at is
    · obtain ⟨above, there, main, -⟩ := enters.parent parent is
      have elsewhere : parent ≠ key := fun same => apart (same ▸ is)
      simp [elsewhere, parent_eq, there, main]
    · have elsewhere : parent ≠ key := fun same => unlinked child (same ▸ is)
      rw [if_neg elsewhere]
      exact shallow child parent is

end Entering

/-! ## Binding an account -/

/-- With a Telegram account or without one. -/
def Face.withTelegram (face : Face) (telegramUserId : Option Int) : Face :=
  { face with telegramUserId }

/-- The identity under a key, which had no other account, takes an account over from whichever
identity had it. -/
structure Binds (maps next : Maps) (key : String) (telegramUserId : Int) : Prop where
  present : (maps.face key).isSome
  free : maps.telegram key = none ∨ maps.telegram key = some telegramUserId
  faces : ∀ other, next.face other =
    if other = key then (maps.face other).map (·.withTelegram (some telegramUserId))
    else (maps.face other).map fun face =>
      face.withTelegram (face.telegramUserId.filter (· ≠ telegramUserId))
  byWallet : next.byWallet = maps.byWallet
  byTg : next.byTg = maps.byTg.set telegramUserId key
  byInvite : next.byInvite = maps.byInvite

section Binding

variable {maps next : Maps} {key : String} {telegramUserId : Int}

/-- What does not depend on the account. -/
theorem Binds.field (binds : Binds maps next key telegramUserId) {α : Type}
    (field : Face → Option α)
    (kept : ∀ (face : Face) account, field (face.withTelegram account) = field face)
    (other : String) : (next.face other).bind field = (maps.face other).bind field := by
  rw [binds.faces]
  split
  · rw [Option.bind_map]
    congr 1
    funext face
    exact kept face _
  · rw [Option.bind_map]
    congr 1
    funext face
    exact kept face _

theorem Maps.Sound.binds (sound : maps.Sound) (binds : Binds maps next key telegramUserId) :
    next.Sound := by
  obtain ⟨keyed, ⟨wallets, telegrams, invites⟩, few, links, shallow⟩ := sound
  have wallet : next.wallet = maps.wallet := by
    funext other
    rw [wallet_eq, wallet_eq, Option.map_eq_bind, Option.map_eq_bind]
    exact binds.field _ (fun _ _ => rfl) other
  have invite : next.invite = maps.invite := by
    funext other
    rw [invite_eq, invite_eq, Option.map_eq_bind, Option.map_eq_bind]
    exact binds.field _ (fun _ _ => rfl) other
  have parent : next.parent = maps.parent := by
    funext other
    rw [parent_eq, parent_eq]
    exact binds.field _ (fun _ _ => rfl) other
  have subs : next.subs = maps.subs := by
    funext other
    rw [subs_eq, subs_eq, Option.map_eq_bind, Option.map_eq_bind]
    exact congrArg (·.getD [])
      (binds.field (some ∘ fun face => face.subIdentityIds) (fun _ _ => rfl) other)
  refine ⟨?_, ⟨?_, ?_, ?_⟩, ?_, ?_, ?_⟩
  · rw [keyed_iff] at keyed ⊢
    intro other face there
    rw [binds.faces] at there
    split at there
    all_goals
      obtain ⟨before, was, rfl⟩ := Option.map_eq_some_iff.mp there
      exact keyed other before was
  · rwa [wallet, binds.byWallet]
  · rw [binds.byTg]
    refine telegrams.claim binds.free fun other => ?_
    rw [telegram_eq, telegram_eq, binds.faces]
    split
    · next same =>
        subst same
        obtain ⟨face, there⟩ := Option.isSome_iff_exists.mp binds.present
        simp [there, Face.withTelegram]
    · cases maps.face other with
      | none => rfl
      | some face => simp [Face.withTelegram]
  · rwa [invite, binds.byInvite]
  · rwa [subs]
  · rwa [subs, parent]
  · rwa [parent]

/-- An identity without the account is as it would be if the account were taken from it. -/
theorem face_released {other : String} (apart : maps.telegram other ≠ some telegramUserId) :
    maps.face other = (maps.face other).map fun face =>
      face.withTelegram (face.telegramUserId.filter (· ≠ telegramUserId)) := by
  rw [telegram_eq] at apart
  cases there : maps.face other with
  | none => rfl
  | some face =>
      rw [there, Option.bind_some] at apart
      have kept : face.telegramUserId.filter (· ≠ telegramUserId) = face.telegramUserId := by
        cases account : face.telegramUserId with
        | none => rfl
        | some found =>
            rw [account, ne_eq, Option.some.injEq] at apart
            simp [Option.filter, apart]
      rw [Option.map_some, kept]
      rfl

/-- Once the account is taken from the others, it is written to the identity and to the index. -/
theorem Binds.of_released {released : Maps} {ident bound : KarmaIdentity}
    (there : maps.byId.get key = some ident)
    (free : ident.telegramUserId = none ∨ ident.telegramUserId = some telegramUserId)
    (own : released.byId.get key = some ident)
    (others : ∀ other, other ≠ key → released.face other = (maps.face other).map fun face =>
      face.withTelegram (face.telegramUserId.filter (· ≠ telegramUserId)))
    (byWallet : released.byWallet = maps.byWallet) (byTg : released.byTg = maps.byTg)
    (byInvite : released.byInvite = maps.byInvite) (named : bound.identityId = key)
    (face : bound.face = ident.face.withTelegram (some telegramUserId)) :
    Binds maps ((released.modify key fun _ => bound).reindexTg bound) key telegramUserId := by
  have account : bound.telegramUserId = some telegramUserId := congrArg (·.telegramUserId) face
  refine ⟨?_, ?_, fun other => ?_, ?_, ?_, ?_⟩
  · simp [Maps.face, there]
  · simpa [Maps.telegram, there] using free
  · rw [face_reindexTg, face_modify]
    split
    · next same =>
        subst same
        simp [own, Maps.face, there, face]
    · next apart => exact others other apart
  · rw [Maps.reindexTg, account]
    exact byWallet
  · rw [Maps.reindexTg, account, named]
    exact congrArg (·.set telegramUserId key) byTg
  · rw [Maps.reindexTg, account]
    exact byInvite

theorem Binds.rebind {ident : KarmaIdentity} {username : Option String} (sound : maps.Sound)
    (there : maps.byId.get ident.identityId = some ident)
    (free : ident.telegramUserId = none ∨ ident.telegramUserId = some telegramUserId) :
    Binds maps (maps.rebind ident telegramUserId username) ident.identityId telegramUserId := by
  have owner := fun key => sound.indexed.telegrams telegramUserId key
  rw [Maps.rebind]
  cases found : maps.byTg.get telegramUserId with
  | none =>
      refine .of_released there free there (fun other _ => face_released ?_) rfl rfl rfl rfl rfl
      exact sound.indexed.telegrams.get_eq_none.mp found other
  | some prev =>
      have carries : maps.telegram prev = some telegramUserId := (owner prev).mp found
      obtain ⟨before, was, account⟩ := Option.bind_eq_some_iff.mp carries
      have named : nonempty (some prev) = some prev := by
        simp [nonempty, (sound.keyed prev before was).2.1]
      have only : ∀ other, other ≠ prev → maps.telegram other ≠ some telegramUserId :=
        fun other apart carried => apart (sound.indexed.telegrams.injective carried carries)
      rw [named, Option.elim_some]
      by_cases self : prev = ident.identityId
      · rw [if_neg (not_not.mpr self)]
        exact .of_released there free there
          (fun other apart => face_released (only other (self ▸ apart))) rfl rfl rfl rfl rfl
      · rw [if_pos self]
        refine .of_released there free ?_ (fun other _ => ?_) rfl rfl rfl rfl rfl
        · rw [Maps.modify, OrderedTable.get_modify, there, Option.map_some, if_neg (Ne.symm self)]
        · rw [face_modify]
          split
          · next same =>
              subst same
              simp [was, Maps.face, KarmaIdentity.face, Face.withTelegram, account, Option.filter]
          · next apart => exact face_released (only other apart)

end Binding

end TrustChain.Identity
