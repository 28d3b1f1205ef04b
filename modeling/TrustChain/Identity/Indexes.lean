import TrustChain.Identity.Effects

/-!
# The indexes of the identity store

The three indexes are exact, and the links between main and sub-identities are mutual, as long as
an identity is bound to one Telegram account only, no identity is seeded with a wallet that is in
use, and no binding by a security code meets two active credentials for Telegram.
-/

namespace TrustChain.Identity

open Library

/-! ## Loading the file -/

section Loading

variable (file : List KarmaIdentity)

/-- The identities under their identifiers. -/
def rowsOf : List (String × KarmaIdentity) := file.map fun ident => (ident.identityId, ident)

/-- A code that is entered into the index. -/
def codeOf (ident : KarmaIdentity) : Option String := nonempty (some ident.inviteCode)

theorem reindexTg_eq (maps : Maps) (ident : KarmaIdentity) : maps.reindexTg ident =
    { maps with
      byTg := ident.telegramUserId.elim maps.byTg fun telegramUserId =>
        maps.byTg.set telegramUserId ident.identityId } := by
  rw [Maps.reindexTg]
  cases ident.telegramUserId with
  | none => rfl
  | some telegramUserId => rfl

theorem reindexInvite_eq (maps : Maps) (ident : KarmaIdentity) : maps.reindexInvite ident =
    { maps with
      byInvite := (codeOf ident).elim maps.byInvite fun code =>
        maps.byInvite.set code ident.identityId } := by
  rw [Maps.reindexInvite]
  by_cases code : ident.inviteCode = ""
  · simp [codeOf, nonempty, Option.filter, code]
  · simp [codeOf, nonempty, Option.filter, code]

/-- The maps that are loaded do not depend on each other. -/
theorem load_maps : Maps.load file =
    { byId := (rowsOf file).foldl (fun stored row => stored.set row.1 row.2) .empty
      byWallet := indexRows (fun ident => some ident.wallet) (rowsOf file)
      byTg := indexRows (·.telegramUserId) (rowsOf file)
      byInvite := indexRows codeOf (rowsOf file) } := by
  rw [Maps.load]
  induction file using List.reverseRecOn with
  | nil => rfl
  | append_singleton file ident ih =>
      have more : rowsOf (file ++ [ident]) = rowsOf file ++ [(ident.identityId, ident)] := by
        simp [rowsOf]
      rw [List.foldl_append, ih, List.foldl_cons, List.foldl_nil, reindexInvite_eq, reindexTg_eq,
        more, indexRows_snoc, indexRows_snoc, indexRows_snoc, List.foldl_append, List.foldl_cons,
        List.foldl_nil]
      rfl

end Loading

/-- The maps that are loaded from the file find what the maps in memory find. -/
theorem Store.Sound.load {δ : Type} {store : Store δ} (sound : store.Sound) :
    store.maps.SameLookups (Maps.load store.file) := by
  obtain ⟨⟨keyed, ⟨wallets, telegrams, invites⟩, -⟩, file⟩ := sound
  have rows : rowsOf store.file = store.maps.byId.rows := by
    rw [rowsOf, file, List.map_map]
    conv_rhs => rw [← List.map_id store.maps.byId.rows]
    apply List.map_congr_left
    rintro ⟨key, ident⟩ member
    exact Prod.ext (keyed key ident (OrderedTable.mem_rows_iff.mp member)).1 rfl
  have found : ∀ {ι : Type} [DecidableEq ι] {field : KarmaIdentity → Option ι}
      {carried : String → Option ι} {index : Table ι String},
      (∀ key, carried key = (store.maps.byId.get key).bind field) → Inverse carried index →
      ∀ value, (indexRows field store.maps.byId.rows).get value = index.get value := by
    intro ι _ field carried index carries inverse value
    apply Option.ext
    intro key
    have own : ∀ row ∈ store.maps.byId.rows, field row.2 = some value →
        carried row.1 = some value := by
      intro row member is
      rw [carries, OrderedTable.mem_rows_iff.mp member, Option.bind_some, is]
    rw [indexRows_get fun first firstIn second secondIn firstIs secondIs =>
      inverse.injective (own first firstIn firstIs) (own second secondIn secondIs), inverse, carries,
      Option.bind_eq_some_iff]
    exact exists_congr fun row => and_congr_left' OrderedTable.mem_rows_iff
  rw [load_maps, rows, OrderedTable.foldl_set]
  refine ⟨fun _ => rfl, found (fun key => ?_) wallets, found (fun key => rfl) telegrams,
    found (fun key => ?_) invites⟩
  · rw [Maps.wallet, Option.map_eq_bind]
    rfl
  · rw [Maps.invite]
    cases there : store.maps.byId.get key with
    | none => rfl
    | some ident => simp [codeOf, nonempty, Option.filter, (keyed key ident there).2.2]

/-! ## Runs -/

section Runs

variable {δ : Type} (platform : Platform δ) {store : Store δ}

/-- In every run of lawful calls the store stays sound. -/
theorem sound_of_lawful
    (reached : ((identities platform).restrict fun store call =>
      Lawful platform store call.1).Reachable store) : store.Sound := by
  refine reached.invariant ?_ ?_
  · rintro _ rfl
    refine ⟨⟨?_, ⟨.empty, .empty, .empty⟩, ?_, ?_, ?_⟩, rfl⟩
    · rintro key ident ⟨⟩
    · exact fun _ => Nat.zero_le 2
    · exact fun _ _ => iff_of_false List.not_mem_nil (Option.some_ne_none _).symm
    · rintro child parent ⟨⟩
  · rintro store call next - sound ⟨⟨fresh, rfl⟩, lawful⟩
    rcases perform_settled sound fresh lawful with same | ⟨-, settled⟩
    · rw [same]
      exact sound
    · exact settled

/-- In every run of lawful calls the indexes are exact, sub-identities are few, mutual and of depth
one, a restart changes no lookup, and a lawful call that raises changes nothing. -/
theorem indexes_exact
    (reached : ((identities platform).restrict fun store call =>
      Lawful platform store call.1).Reachable store) :
    store.maps.Indexed ∧ store.maps.Linked ∧
      store.maps.SameLookups (Maps.load store.file) ∧
      ∀ call draw, draw.Fresh store → Lawful platform store call →
        (perform platform store draw call).1.isSome →
        (perform platform store draw call).2 = store := by
  have sound := sound_of_lawful platform reached
  refine ⟨sound.maps.indexed, sound.maps.linked, sound.load, ?_⟩
  intro call draw fresh lawful raises
  rcases perform_settled sound fresh lawful with same | ⟨returns, -⟩
  · exact same
  · rw [returns] at raises
    cases raises

end Runs

/-! ## A store of identities -/

namespace Demo

/-- The string methods as they are on ASCII text. -/
def platform : Platform (List Record) where
  lower text := .ofList (text.toList.map Char.toLower)
  strip text :=
    let tail := text.toList.dropWhile Char.isWhitespace
    .ofList (tail.reverse.dropWhile Char.isWhitespace).reverse
  scheme :=
    { genesis := []
      entryHash := fun previous record => record :: previous }

/-- What the n-th call draws. -/
def draw (n : Nat) : Draw where
  now := n
  identityId := "kid_" ++ toString n
  inviteCode := "CODE" ++ toString n
  credentialId := "cred_" ++ toString n
  entryId := fun _ => "tle"

def isFresh (store : Store (List Record)) (draw : Draw) : Bool :=
  draw.identityId ≠ "" && (store.maps.byId.get draw.identityId).isNone && draw.inviteCode ≠ "" &&
    store.maps.byId.rows.all fun row => row.2.inviteCode ≠ draw.inviteCode &&
      row.2.credentials.all fun credential => credential.credentialId ≠ draw.credentialId

theorem fresh_of_isFresh {store : Store (List Record)} {draw : Draw}
    (fresh : isFresh store draw = true) : draw.Fresh store := by
  simp only [isFresh, Bool.and_eq_true, decide_eq_true_eq, List.all_eq_true, Prod.forall,
    OrderedTable.mem_rows_iff, Option.isNone_iff_eq_none] at fresh
  obtain ⟨⟨⟨named, absent⟩, code⟩, all⟩ := fresh
  exact ⟨⟨named, absent⟩, ⟨code, fun key ident there => (all key ident there).1⟩,
    fun key ident there => (all key ident there).2⟩

/-- Make a call, with what is drawn for it. -/
def call (store : Store (List Record)) (call : Call × Draw) : Option (Store (List Record)) :=
  if isFresh store call.2 then some (perform platform store call.2 call.1).2 else none

theorem call_step (store : Store (List Record)) (made : Call × Draw) (next : Store (List Record))
    (done : call store made = some next) : (identities platform).Step store made next := by
  rw [call, Option.ite_none_right_eq_some] at done
  exact ⟨fresh_of_isFresh done.1, Option.some.inj done.2⟩

def seeded : Call := .seedIdentity "kid_a" "0xA" "111111" none (.finite 0)

/-- One identity is bound to two accounts, one after the other. -/
def rebound : Scene call {} where
  actions := [(seeded, draw 0), (.bindTelegram "kid_a" 1 none, draw 1),
    (.bindTelegram "kid_a" 2 none, draw 2)]
  possible := by decide +kernel

/-- A wallet that is in use is seeded again. -/
def seededTwice : Scene call {} where
  actions := [(seeded, draw 0), (.seedIdentity "kid_b" "0xa" "222222" none (.finite 0), draw 1)]
  possible := by decide +kernel

/-- A credential for Telegram is rejected, and issued anew after another one was issued. -/
def twoActive : Scene call {} where
  actions := [(seeded, draw 0),
    (.issueCredential "kid_a" "telegram" "karma" 0 "api" false, draw 1),
    (.mutateCredential "kid_a" "cred_1" .reject "api" "", draw 2),
    (.issueCredential "kid_a" "telegram" "karma" 0 "api" false, draw 3),
    (.mutateCredential "kid_a" "cred_1" .reissue "api" "", draw 4)]
  possible := by decide +kernel

def useCode : Call := .bindBy2fa 1 "kid_a" "111111" none

/-- An account goes from one identity, which has a sub-identity, to another one. -/
def moved : Scene (fun store made =>
    if Lawful platform store made.1 then call store made else none) {} where
  actions := [(seeded, draw 0), (.createSubIdentity "kid_a" "0xC", draw 1), (useCode, draw 2),
    (.seedIdentity "kid_b" "0xB" "222222" none (.finite 0), draw 3),
    (.bindBy2fa 1 " kid_b" "222222 " none, draw 4)]
  possible := by decide +kernel

theorem moved_reachable : ((identities platform).restrict fun store call =>
    Lawful platform store call.1).Reachable moved.world := by
  refine (TransitionSystem.Reachable.init rfl).run (moved.run fun store made next done => ?_)
  rw [Option.ite_none_right_eq_some] at done
  exact ⟨call_step store made next done.2, done.1⟩

theorem reachable (scene : Scene call {}) : (identities platform).Reachable scene.world :=
  (TransitionSystem.Reachable.init rfl).run (scene.run call_step)

/-- What the identities carry under a key, and their security code. -/
def codeAt (store : Store (List Record)) (key : String) : Option String :=
  (store.maps.byId.get key).map (·.twofaCode)

end Demo

theorem indexes_exact_moved :
    Demo.moved.world.maps.telegram "kid_b" = some 1 ∧
      Demo.moved.world.maps.subs "kid_a" = ["kid_1"] ∧ Demo.moved.world.maps.Indexed ∧
      Demo.moved.world.maps.SameLookups (Maps.load Demo.moved.world.file) := by
  have exact := indexes_exact Demo.platform Demo.moved_reachable
  exact ⟨by decide +kernel, by decide +kernel, exact.1, exact.2.2.1⟩

/-- An index goes stale and forgets after a restart, a wallet has two identities, and a code is
burnt by a binding that fails. -/
theorem not_indexes_exact :
    (¬∀ store, (identities Demo.platform).Reachable store → store.maps.Indexed) ∧
      (¬∀ store, (identities Demo.platform).Reachable store →
        store.maps.SameLookups (Maps.load store.file)) ∧
      (¬∀ store, (identities Demo.platform).Reachable store →
        ∀ key other wallet, store.maps.wallet key = some wallet →
          store.maps.wallet other = some wallet → key = other) ∧
      ¬∀ store, (identities Demo.platform).Reachable store → ∀ call draw, draw.Fresh store →
        (perform Demo.platform store draw call).1.isSome →
        Demo.codeAt (perform Demo.platform store draw call).2 "kid_a" =
          Demo.codeAt store "kid_a" := by
  have stale : Demo.rebound.world.maps.byTg.get 1 = some "kid_a" ∧
      Demo.rebound.world.maps.telegram "kid_a" = some 2 ∧
      (Maps.load Demo.rebound.world.file).byTg.get 1 = none := by decide +kernel
  have shared : Demo.seededTwice.world.maps.wallet "kid_a" = some "0xa" ∧
      Demo.seededTwice.world.maps.wallet "kid_b" = some "0xa" ∧ "kid_a" ≠ "kid_b" := by
    decide +kernel
  have burnt : Demo.isFresh Demo.twoActive.world (Demo.draw 5) = true ∧
      (perform Demo.platform Demo.twoActive.world (Demo.draw 5) Demo.useCode).1.isSome = true ∧
      Demo.codeAt (perform Demo.platform Demo.twoActive.world (Demo.draw 5) Demo.useCode).2
        "kid_a" ≠ Demo.codeAt Demo.twoActive.world "kid_a" := by decide +kernel
  refine ⟨fun all => ?_, fun all => ?_, fun all => ?_, fun all => ?_⟩
  · have carried := ((all _ (Demo.reachable Demo.rebound)).telegrams 1 "kid_a").mp stale.1
    cases stale.2.1.symm.trans carried
  · have found := (all _ (Demo.reachable Demo.rebound)).byTg 1
    rw [stale.1, stale.2.2] at found
    cases found
  · exact shared.2.2 (all _ (Demo.reachable Demo.seededTwice) _ _ _ shared.1 shared.2.1)
  · exact burnt.2.2 (all _ (Demo.reachable Demo.twoActive) _ _ (Demo.fresh_of_isFresh burnt.1)
      burnt.2.1)

end TrustChain.Identity
