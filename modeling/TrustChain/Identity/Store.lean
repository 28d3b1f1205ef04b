import TrustChain.Identity.Ledger
import TrustChain.Library.Doubles
import TrustChain.Library.Indexes
import TrustChain.Library.Json
import TrustChain.Library.OrderedTable

/-!
# The identity store

Identities, each with a wallet, perhaps a Telegram account, an invitation code, at most two
sub-identities and its credentials. Three maps lead from wallets, accounts and codes to identities.
They are kept by hand beside the identities, and built anew from the file when the service starts.
-/

namespace TrustChain.Identity

open Library

/-! ## Identities -/

/-- `CREDENTIAL_TYPES`. -/
inductive CredentialType where
  | email | phone | wallet | domain | businessReg | telegram | twofa
deriving DecidableEq

namespace CredentialType

def all : List CredentialType := [.email, .phone, .wallet, .domain, .businessReg, .telegram, .twofa]

def text : CredentialType → String
  | .email => "email"
  | .phone => "phone"
  | .wallet => "wallet"
  | .domain => "domain"
  | .businessReg => "business_reg"
  | .telegram => "telegram"
  | .twofa => "twofa"

def ofText (text : String) : Option CredentialType := all.find? fun type => type.text = text

end CredentialType

structure Credential where
  credentialId : String
  type : CredentialType
  status : CredentialState := .pending
  issuer : String
  issuedAt : Int
  verifiedAt : Option Int := none
  expiresAt : Option Int := none
deriving DecidableEq

/-- Pending or verified. -/
def Credential.Active (credential : Credential) : Prop :=
  credential.status = .pending ∨ credential.status = .verified

instance (credential : Credential) : Decidable credential.Active :=
  inferInstanceAs (Decidable (_ ∨ _))

/-- Verified, and its time is up. -/
def Credential.Stale (credential : Credential) (now : Int) : Prop :=
  credential.status = .verified ∧
    ∃ expiry, credential.expiresAt = some expiry ∧ expiry ≠ 0 ∧ expiry ≤ now

instance (credential : Credential) (now : Int) : Decidable (credential.Stale now) :=
  inferInstanceAs (Decidable (_ ∧ _))

inductive VerificationStatus where
  | unverified | basic | enhanced
deriving DecidableEq

/-- `_recompute_verification_status_locked`. -/
def verificationLevel (credentials : List Credential) : VerificationStatus :=
  let verified := credentials.filter fun credential => credential.status = .verified
  let verifiedTypes := (verified.map Credential.type).dedup
  if 3 ≤ verifiedTypes.length ∧ .wallet ∈ verifiedTypes then .enhanced
  else if verifiedTypes ≠ [] then .basic
  else .unverified

/-- A payment policy, its entries in the order in which their keys came. -/
abbrev Policy := OrderedTable String Json

structure KarmaIdentity where
  identityId : String
  wallet : String
  createdAt : Int
  telegramUserId : Option Int := none
  telegramUsername : Option String := none
  paymentPolicy : Policy
  metadata : Json.Fields := []
  parentIdentityId : Option String := none
  subIdentityIds : List String := []
  inviteCode : String
  referredBy : Option String := none
  karmaPoints : Double := .finite 0
  twofaCode : String := ""
  verificationStatus : VerificationStatus := .unverified
  credentials : List Credential := []

/-- A string that Python takes for true. -/
def nonempty (text : Option String) : Option String := text.filter (· ≠ "")

/-- With other credentials, and the level that follows from them. -/
def KarmaIdentity.withCredentials (ident : KarmaIdentity) (credentials : List Credential) :
    KarmaIdentity :=
  { ident with
    credentials
    verificationStatus := verificationLevel credentials }

/-- The policy that a new identity has. -/
def defaultPolicy : Policy where
  rows :=
    [("mode", .string "manual_confirm"), ("single_limit_usdc", .string "500"),
      ("daily_limit_usdc", .string "2000"), ("allowed_categories", .array []),
      ("allowed_agents", .array []), ("emergency_revoke", .bool false)]
  nodup := by decide

/-- `{**policy, **changes}`. -/
def Policy.merge (policy changes : Policy) : Policy :=
  changes.rows.foldl (fun merged entry => merged.set entry.1 entry.2) policy

/-! ## Maps -/

/-- `_BY_ID`, `_BY_WALLET`, `_BY_TG` and `_BY_INVITE`. -/
structure Maps where
  byId : OrderedTable String KarmaIdentity := .empty
  byWallet : Table String String := .empty
  byTg : Table Int String := .empty
  byInvite : Table String String := .empty

namespace Maps

variable (maps : Maps) (ident : KarmaIdentity)

/-- `_BY_ID[identity_id] = ident`. -/
def put : Maps := { maps with byId := maps.byId.set ident.identityId ident }

/-- Change an identity where it stands. -/
def modify (identityId : String) (change : KarmaIdentity → KarmaIdentity) : Maps :=
  { maps with byId := maps.byId.modify identityId change }

/-- `_reindex_tg`. -/
def reindexTg : Maps :=
  match ident.telegramUserId with
  | some telegramUserId => { maps with byTg := maps.byTg.set telegramUserId ident.identityId }
  | none => maps

/-- `_reindex_wallet`. -/
def reindexWallet : Maps :=
  { maps with byWallet := maps.byWallet.set ident.wallet ident.identityId }

/-- `_reindex_invite`. -/
def reindexInvite : Maps :=
  if ident.inviteCode ≠ "" then
    { maps with byInvite := maps.byInvite.set ident.inviteCode ident.identityId }
  else maps

/-- `_load`: the maps that a file gives. -/
def load (file : List KarmaIdentity) : Maps :=
  file.foldl
    (fun maps ident =>
      (((maps.put ident).reindexWallet ident).reindexTg ident).reindexInvite ident) {}

end Maps

/-- The string methods of Python that the store calls, and the hashes of the ledger. -/
structure Platform (δ : Type) where
  lower : String → String
  strip : String → String
  scheme : Scheme δ

/-- The maps, the file they are written to, and the ledger. -/
structure Store (δ : Type) where
  maps : Maps := {}
  file : List KarmaIdentity := []
  ledger : Ledger δ := []

inductive Exception where
  | keyError | valueError | typeError | illegalTransition
deriving DecidableEq

/-- An exception with its text. -/
structure Raised where
  exception : Exception
  text : String
deriving DecidableEq

/-- What a call reads from the clock and draws at random. A ledger entry has an identifier of its
own, by its place among those of the call. -/
structure Draw where
  now : Int
  identityId : String
  inviteCode : String
  credentialId : String
  entryId : Nat → String

/-- The value that is returned or the exception that is raised, and the store afterwards. -/
abbrev Outcome (δ α : Type) := Except Raised α × Store δ

section Operations

variable {δ : Type} (platform : Platform δ) (store : Store δ) (draw : Draw)

/-- `_persist`. -/
def Store.persist : Store δ := { store with file := store.maps.byId.rows.map Prod.snd }

/-- Change an identity where it stands. -/
def Store.modify (identityId : String) (change : KarmaIdentity → KarmaIdentity) : Store δ :=
  { store with maps := store.maps.modify identityId change }

/-- Enter a new identity into the maps. -/
def Store.enter (ident : KarmaIdentity) : Store δ :=
  { store with maps := ((store.maps.put ident).reindexWallet ident).reindexInvite ident }

/-! ## Identities and their bindings -/

/-- `get_or_create_by_wallet`. -/
def getOrCreateByWallet (wallet : String) (metadata : Json.Fields) : Outcome δ KarmaIdentity :=
  let w := platform.lower wallet
  match (nonempty (store.maps.byWallet.get w)).bind store.maps.byId.get with
  | some existing => (.ok existing, store)
  | none =>
      let ident : KarmaIdentity :=
        { identityId := draw.identityId
          wallet := w
          createdAt := draw.now
          metadata
          inviteCode := draw.inviteCode
          paymentPolicy := defaultPolicy }
      (.ok ident, (store.enter ident).persist)

/-- `create_sub_identity`. -/
def createSubIdentity (parentIdentityId wallet : String) : Outcome δ KarmaIdentity :=
  let w := platform.lower wallet
  match store.maps.byId.get parentIdentityId with
  | none => (.error ⟨.keyError, "parent identity not found"⟩, store)
  | some parent =>
      if (nonempty parent.parentIdentityId).isSome then
        (.error ⟨.valueError, "sub-identity cannot create sub-identities"⟩, store)
      else if 2 ≤ parent.subIdentityIds.length then
        (.error ⟨.valueError, "max 2 sub-identities allowed"⟩, store)
      else if (store.maps.byWallet.get w).isSome then
        (.error ⟨.valueError, "wallet already bound to another identity"⟩, store)
      else
        let ident : KarmaIdentity :=
          { identityId := draw.identityId
            wallet := w
            createdAt := draw.now
            parentIdentityId := some parentIdentityId
            inviteCode := draw.inviteCode
            referredBy := nonempty (some parent.inviteCode)
            paymentPolicy := parent.paymentPolicy
            metadata := [("role", .string "sub"), ("parent", .string parentIdentityId)] }
        let linked := (store.enter ident).modify parentIdentityId fun parent =>
          { parent with subIdentityIds := parent.subIdentityIds ++ [draw.identityId] }
        (.ok ident, linked.persist)

/-- With a Telegram account. -/
def KarmaIdentity.bound (ident : KarmaIdentity) (telegramUserId : Int) (username : Option String) :
    KarmaIdentity :=
  { ident with
    telegramUserId := some telegramUserId
    telegramUsername := username }

/-- `bind_telegram`. -/
def bindTelegram (identityId : String) (telegramUserId : Int) (username : Option String) :
    Outcome δ KarmaIdentity :=
  match store.maps.byId.get identityId with
  | none => (.error ⟨.keyError, "identity not found"⟩, store)
  | some ident =>
      if (nonempty (store.maps.byTg.get telegramUserId)).any (· ≠ identityId) then
        (.error ⟨.valueError, "telegram already bound to another identity"⟩, store)
      else
        let ident := ident.bound telegramUserId username
        let maps := (store.maps.modify identityId fun _ => ident).reindexTg ident
        (.ok ident, { store with maps }.persist)

/-- `seed_identity`. -/
def seedIdentity (identityId wallet twofaCode : String) (paymentPolicy : Option Policy)
    (karmaPoints : Double) : Outcome δ KarmaIdentity :=
  match store.maps.byId.get identityId with
  | some existing =>
      let existing := { existing with twofaCode }
      (.ok existing, (store.modify identityId fun _ => existing).persist)
  | none =>
      let ident : KarmaIdentity :=
        { identityId
          wallet := platform.lower wallet
          createdAt := draw.now
          inviteCode := draw.inviteCode
          twofaCode
          karmaPoints
          paymentPolicy := (paymentPolicy.filter fun policy => policy.rows ≠ []).getD defaultPolicy }
      (.ok ident, (store.enter ident).persist)

/-- `update_policy`. -/
def updatePolicy (identityId : String) (policy : Policy) : Outcome δ KarmaIdentity :=
  match store.maps.byId.get identityId with
  | none => (.error ⟨.keyError, "identity not found"⟩, store)
  | some ident =>
      match policy.get "infinite_approve" with
      | some (.bool true) => (.error ⟨.valueError, "infinite USDC approve is forbidden"⟩, store)
      | _ =>
          let merged := (ident.paymentPolicy.merge policy).set "infinite_approve" (.bool false)
          let ident := { ident with paymentPolicy := merged }
          (.ok ident, (store.modify identityId fun _ => ident).persist)

/-- `round(points, 2)`. -/
def roundPoints : Double → Double
  | .finite points => .round (roundTo 2 points)
  | points => points

/-- `add_karma_points`; the points of a sub-identity go to the main identity. -/
def addKarmaPoints (identityId : String) (points : Double) : Outcome δ (Option KarmaIdentity) :=
  match store.maps.byId.get identityId with
  | none => (.ok none, store)
  | some ident =>
      let main := (nonempty ident.parentIdentityId).filter fun parent =>
        (store.maps.byId.get parent).isSome
      let targetId := main.getD identityId
      let target := ((main.bind store.maps.byId.get).getD ident)
      let target := { target with karmaPoints := roundPoints (target.karmaPoints.add points) }
      (.ok (some target), (store.modify targetId fun _ => target).persist)

/-! ## Credentials -/

/-- `record_event`. -/
def Store.recordEvent (event : EventArgs) (entryId : String) : Store δ :=
  { store with
    ledger := appendLedger platform.scheme store.ledger (event.record entryId draw.now) }

/-- The arguments with which the store calls `transition`. -/
def transitionArgs (identityId credentialId : String) (type : CredentialType)
    (fromState : Option CredentialState) (action : CredentialAction) (actor reason : String) :
    TransitionArgs where
  entityType := "credential"
  entityId := credentialId
  fromState
  action
  actor
  reason
  extra := .credential identityId type.text

/-- `transition`: the new state and the ledger with its entry, unless the transition is illegal. -/
def transition (ledger : Ledger δ) (args : TransitionArgs) (entryId : String) :
    Option (CredentialState × Ledger δ) := do
  let toState ← credentialTransitions args.fromState args.action
  let event ← args.event
  some (toState, appendLedger platform.scheme ledger (event.record entryId draw.now))

/-- `IllegalTransitionError`. -/
def illegal (fromState : Option CredentialState) (action : CredentialAction) : Raised :=
  ⟨.illegalTransition, "illegal transition: " ++ stateText fromState ++ " --" ++ action.text ++
    "--> is not allowed"⟩

/-- A credential after a transition. -/
def Credential.after (credential : Credential) (action : CredentialAction)
    (toState : CredentialState) (now : Int) : Credential :=
  { credential with
    status := toState
    verifiedAt := if action = .verify then some now else credential.verifiedAt }

/-- `_mutate_credential_locked`, of the credential at a position in the list of an identity. -/
def Store.mutateCredential (ident : KarmaIdentity) (position : Nat) (credential : Credential)
    (action : CredentialAction) (actor reason entryId : String) : Outcome δ Credential :=
  let args := transitionArgs ident.identityId credential.credentialId credential.type
    (some credential.status) action actor reason
  match transition platform draw store.ledger args entryId with
  | none => (.error (illegal (some credential.status) action), store)
  | some (toState, ledger) =>
      let mutated := credential.after action toState draw.now
      let recomputed := { store with ledger }.modify ident.identityId fun ident =>
        ident.withCredentials (ident.credentials.set position mutated)
      (.ok mutated, recomputed.persist)

/-- The credential that is issued. -/
def Draw.credential (type : CredentialType) (status : CredentialState) (issuer : String)
    (ttlSeconds : Int) : Credential where
  credentialId := draw.credentialId
  type
  status
  issuer := truncate 64 issuer
  issuedAt := draw.now
  expiresAt := if 0 < ttlSeconds then some (draw.now + ttlSeconds) else none

/-- `issue_credential`; its ledger entries are the ones from `first` on. -/
def issueCredential (identityId credType issuer : String) (ttlSeconds : Int) (actor : String)
    (autoVerify : Bool) (first : Nat) : Outcome δ Credential :=
  match CredentialType.ofText credType with
  | none => (.error ⟨.valueError, "unsupported credential type: " ++ credType⟩, store)
  | some type =>
      if ttlSeconds < 0 ∨ 10 * 365 * 86400 < ttlSeconds then
        (.error ⟨.valueError, "ttl_seconds out of range"⟩, store)
      else
        match store.maps.byId.get identityId with
        | none => (.error ⟨.keyError, "identity not found"⟩, store)
        | some ident =>
            if ident.credentials.any fun existing => existing.type = type ∧ existing.Active then
              let text := "credential of type " ++ credType ++ " already exists and is active"
              (.error ⟨.valueError, text⟩, store)
            else
              let reason := "issue " ++ credType ++ " for " ++ identityId
              let args := transitionArgs identityId draw.credentialId type none .issue actor reason
              match transition platform draw store.ledger args (draw.entryId first) with
              | none => (.error (illegal none .issue), store)
              | some (toState, ledger) =>
                  let issued := draw.credential type toState issuer ttlSeconds
                  let appended := ({ store with ledger }.modify identityId fun ident =>
                    ident.withCredentials (ident.credentials ++ [issued])).persist
                  if autoVerify then
                    appended.mutateCredential platform draw ident ident.credentials.length issued
                      .verify actor "verification passed" (draw.entryId (first + 1))
                  else (.ok issued, appended)

/-- `_mutate_credential`. -/
def mutateCredential (identityId credentialId : String) (action : CredentialAction)
    (actor reason : String) : Outcome δ Credential :=
  match store.maps.byId.get identityId with
  | none => (.error ⟨.keyError, "identity not found"⟩, store)
  | some ident =>
      let position := ident.credentials.findIdx fun found => found.credentialId = credentialId
      match ident.credentials[position]? with
      | none => (.error ⟨.keyError, "credential not found"⟩, store)
      | some credential =>
          store.mutateCredential platform draw ident position credential action actor reason
            (draw.entryId 0)

/-- The loop of `expire_stale_credentials`: the credentials, the ledger and the number of those that
have expired. The transition from verified to expired is always legal. -/
def expireLoop (identityId : String) :
    List Credential → Ledger δ → Nat → List Credential × Ledger δ × Nat
  | [], ledger, expired => ([], ledger, expired)
  | credential :: rest, ledger, expired =>
      if credential.Stale draw.now then
        let args := transitionArgs identityId credential.credentialId credential.type
          (some credential.status) .expire "system" "ttl reached"
        let (toState, ledger) := (transition platform draw ledger args (draw.entryId expired)).getD
          (credential.status, ledger)
        let (rest, ledger, expired) := expireLoop identityId rest ledger (expired + 1)
        ({ credential with status := toState } :: rest, ledger, expired)
      else
        let (rest, ledger, expired) := expireLoop identityId rest ledger expired
        (credential :: rest, ledger, expired)

/-- `expire_stale_credentials`. -/
def expireStaleCredentials (identityId : String) : Outcome δ Nat :=
  match store.maps.byId.get identityId with
  | none => (.ok 0, store)
  | some ident =>
      let (credentials, ledger, expired) :=
        expireLoop platform draw identityId ident.credentials store.ledger 0
      if expired = 0 then (.ok 0, store)
      else
        let recomputed := { store with ledger }.modify identityId fun ident =>
          ident.withCredentials credentials
        (.ok expired, recomputed.persist)

/-! ## Binding with a security code -/

/-- Only ASCII characters, as `compare_digest` wants it. -/
def ascii (text : String) : Bool := text.toList.all fun char => char.toNat < 128

/-- Why a security code is refused, if it is. -/
def refuseCode (ident : KarmaIdentity) (twofaCode : String) : Option Raised :=
  if ident.twofaCode = "" then some ⟨.valueError, "2FA 安全码已焚毁，请重新获取"⟩
  else if ¬(ascii ident.twofaCode ∧ ascii (platform.strip twofaCode)) then
    some ⟨.typeError, "comparing strings with non-ASCII characters is not supported"⟩
  else if ident.twofaCode ≠ platform.strip twofaCode then some ⟨.valueError, "2FA 安全码错误"⟩
  else none

/-- The account is taken from the identity that had it and bound to another one, whose security
code is burnt. -/
def Maps.rebind (maps : Maps) (ident : KarmaIdentity) (telegramUserId : Int)
    (username : Option String) : Maps :=
  let released := (nonempty (maps.byTg.get telegramUserId)).elim maps fun prev =>
    if prev ≠ ident.identityId then
      maps.modify prev fun prev =>
        { prev with
          telegramUserId := none
          telegramUsername := none }
    else maps
  let bound := { ident.bound telegramUserId username with twofaCode := "" }
  (released.modify ident.identityId fun _ => bound).reindexTg bound

/-- The event of a binding. -/
def bindEvent (ident : KarmaIdentity) (actor : String) : EventArgs where
  entityType := "identity"
  entityId := ident.identityId
  event := "telegram_bind"
  fromState := "unbound"
  toState := "telegram_bound"
  actor
  reason := "2fa bind success"

/-- Revoke the first active credential for Telegram. -/
def Store.revokeTelegram (ident : KarmaIdentity) (actor : String) : Option Raised × Store δ :=
  let position := ident.credentials.findIdx fun credential =>
    credential.type = .telegram ∧ credential.Active
  match ident.credentials[position]? with
  | none => (none, store)
  | some credential =>
      match store.mutateCredential platform draw ident position credential .revoke actor
        "re-bind replaces old telegram credential" (draw.entryId 1) with
      | (.error raised, store) => (some raised, store)
      | (.ok _, store) => (none, store)

/-- `bind_by_2fa`. -/
def bindBy2fa (telegramUserId : Int) (identityId twofaCode : String) (username : Option String) :
    Outcome δ KarmaIdentity :=
  match store.maps.byId.get (platform.strip identityId) with
  | none => (.error ⟨.keyError, "身份ID不存在"⟩, store)
  | some ident =>
      match refuseCode platform ident twofaCode with
      | some raised => (.error raised, store)
      | none =>
          let actor := "tg:" ++ toString telegramUserId
          let maps := store.maps.rebind ident telegramUserId username
          let recorded := { store with maps }.recordEvent platform draw (bindEvent ident actor)
            (draw.entryId 0)
          match recorded.revokeTelegram platform draw ident actor with
          | (some raised, store) => (.error raised, store)
          | (none, store) =>
              match issueCredential platform store draw ident.identityId "telegram" "karma" 0 actor
                true 2 with
              | (.error raised, store) => (.error raised, store)
              | (.ok _, store) =>
                  (.ok ((store.maps.byId.get ident.identityId).getD ident), store.persist)

/-! ## Runs -/

/-- The calls, with their arguments. -/
inductive Call where
  | getOrCreateByWallet (wallet : String) (metadata : Json.Fields)
  | createSubIdentity (parentIdentityId wallet : String)
  | bindTelegram (identityId : String) (telegramUserId : Int) (username : Option String)
  | bindBy2fa (telegramUserId : Int) (identityId twofaCode : String) (username : Option String)
  | seedIdentity (identityId wallet twofaCode : String) (paymentPolicy : Option Policy)
      (karmaPoints : Double)
  | updatePolicy (identityId : String) (policy : Policy)
  | addKarmaPoints (identityId : String) (points : Double)
  | issueCredential (identityId credType issuer : String) (ttlSeconds : Int) (actor : String)
      (autoVerify : Bool)
  | mutateCredential (identityId credentialId : String) (action : CredentialAction)
      (actor reason : String)
  | expireStaleCredentials (identityId : String)

/-- The exception that an outcome has. -/
def Outcome.raised {α : Type} (outcome : Outcome δ α) : Option Raised × Store δ :=
  (match outcome.1 with
    | .error raised => some raised
    | .ok _ => none, outcome.2)

/-- What a call raises, and the store afterwards. -/
def perform : Call → Option Raised × Store δ
  | .getOrCreateByWallet wallet metadata =>
      (getOrCreateByWallet platform store draw wallet metadata).raised
  | .createSubIdentity parentIdentityId wallet =>
      (createSubIdentity platform store draw parentIdentityId wallet).raised
  | .bindTelegram identityId telegramUserId username =>
      (bindTelegram store identityId telegramUserId username).raised
  | .bindBy2fa telegramUserId identityId twofaCode username =>
      (bindBy2fa platform store draw telegramUserId identityId twofaCode username).raised
  | .seedIdentity identityId wallet twofaCode paymentPolicy karmaPoints =>
      (seedIdentity platform store draw identityId wallet twofaCode paymentPolicy karmaPoints).raised
  | .updatePolicy identityId policy => (updatePolicy store identityId policy).raised
  | .addKarmaPoints identityId points => (addKarmaPoints store identityId points).raised
  | .issueCredential identityId credType issuer ttlSeconds actor autoVerify =>
      (issueCredential platform store draw identityId credType issuer ttlSeconds actor autoVerify
        0).raised
  | .mutateCredential identityId credentialId action actor reason =>
      (mutateCredential platform store draw identityId credentialId action actor reason).raised
  | .expireStaleCredentials identityId =>
      (expireStaleCredentials platform store draw identityId).raised

/-- What is drawn at random has not been drawn before. -/
structure Draw.Fresh (store : Store δ) (draw : Draw) : Prop where
  identity : draw.identityId ≠ "" ∧ store.maps.byId.get draw.identityId = none
  invite : draw.inviteCode ≠ "" ∧ ∀ key ident, store.maps.byId.get key = some ident →
    ident.inviteCode ≠ draw.inviteCode
  credential : ∀ key ident, store.maps.byId.get key = some ident →
    ∀ credential ∈ ident.credentials, credential.credentialId ≠ draw.credentialId

/-- The calls come one after the other, whether they return or raise. -/
def identities : TransitionSystem (Store δ) (Call × Draw) where
  Init store := store = {}
  Step store call next :=
    call.2.Fresh store ∧ (perform platform store call.2 call.1).2 = next

end Operations

end TrustChain.Identity
