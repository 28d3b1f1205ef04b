import Mathlib.Data.List.Sort
import TrustChain.Service.System

/-!
# Runtime keys

An agent acts under a runtime key, which bounds what a single voucher and the vouchers of a day
may amount to. A request for a voucher reads what the key has used today, checks the limits,
creates the voucher and records its amount, and can be suspended between any two of these.
-/

namespace TrustChain.Runtime

open Library Service

abbrev KeyId := String

/-- The number of a day. -/
abbrev Day := Nat

/-! ## Keys -/

/-- A row of `runtime_keys`, without its secret. -/
structure RuntimeKey where
  karmaIdentityId : IdentityId
  profileId : Option ProfileId
  permissions : List String
  singleLimit : ℚ
  dailyLimit : ℚ
  expireAt : ℚ
  status : String := "active"
  positive : 0 < singleLimit ∧ 0 < dailyLimit
  ordered : singleLimit ≤ dailyLimit + epsilon

def allowedPermissions : List String :=
  ["request_voucher", "verify_voucher", "submit_receipt", "update_progress",
    "request_settlement", "sync_task_status"]

/-- White space, as `str.strip` takes it off. -/
def isSpace (char : Char) : Bool :=
  char.toNat ∈ [9, 10, 11, 12, 13, 28, 29, 30, 31, 32, 133, 160, 5760, 8232, 8233, 8239, 8287,
    12288] ∨ 8192 ≤ char.toNat ∧ char.toNat ≤ 8202

def strip (text : String) : String :=
  .ofList (((text.toList.dropWhile isSpace).reverse.dropWhile isSpace).reverse)

def normalizePermissions (perms : List String) : Except HttpError (List String) := do
  let named := (perms.map strip).filter (· ≠ "")
  let out := named.dedup.insertionSort (· ≤ ·)
  match out.find? (· ∉ allowedPermissions) with
  | some perm => .error ⟨400, "unknown or disallowed permission: " ++ perm⟩
  | none => .ok ()
  require (out ≠ []) ⟨400, "permissions must be a non-empty subset of allowed scopes"⟩
  .ok out

def createRuntimeKeyRecord (karmaIdentityId : IdentityId) (profileId : Option ProfileId)
    (permissions : List String) (singleLimit dailyLimit expireAt : ℚ) :
    Except HttpError RuntimeKey :=
  if positive : 0 < singleLimit ∧ 0 < dailyLimit then
    if ordered : singleLimit ≤ dailyLimit + epsilon then do
      let permissions ← normalizePermissions permissions
      .ok { karmaIdentityId, profileId, permissions, singleLimit, dailyLimit, expireAt,
            positive, ordered }
    else .error ⟨400, "daily_limit must be >= single_limit"⟩
  else .error ⟨400, "single_limit and daily_limit must be > 0"⟩

/-- The key of a token whose secret has been verified. -/
def loadActiveContext (keys : Table KeyId RuntimeKey) (keyId : KeyId) (now : ℚ) :
    Except HttpError RuntimeKey :=
  match keys.get keyId with
  | none => .error ⟨401, "invalid or revoked runtime key"⟩
  | some row => do
      require (row.status = "active") ⟨401, "invalid or revoked runtime key"⟩
      require (now ≤ row.expireAt + 30) ⟨401, "runtime key expired"⟩
      .ok row

/-! ## Replay and spending -/

/-- `check_replay_nonce`: the bucket of a key after a nonce that is not in it. -/
def checkReplayNonce (bucket : List (String × ℚ)) (endpoint nonce : String) (now : ℚ) :
    Except HttpError (List (String × ℚ)) := do
  require (nonce ≠ "" ∧ nonce.length ≤ 128) ⟨400, "client_nonce is required (max 128 chars)"⟩
  let kept := bucket.dropWhile fun seen => 600 < now - seen.2
  let tag := endpoint ++ ":" ++ nonce
  require (∀ seen ∈ kept, seen.1 ≠ tag)
    ⟨409, "duplicate client_nonce (replay protection)"⟩
  let appended := kept ++ [(tag, now)]
  .ok (appended.drop (appended.length - 2000))

def checkSingleAndDailyLimits (amount singleLimit dailyLimit dailyUsed : ℚ) :
    Except HttpError Unit := do
  require (0 < amount) ⟨400, "amount must be positive"⟩
  require (amount ≤ singleLimit + epsilon) ⟨403, "amount exceeds runtime key single_limit"⟩
  require (dailyUsed + amount ≤ dailyLimit + epsilon)
    ⟨403, "amount exceeds runtime key daily_limit"⟩

/-- A row of `runtime_key_daily_spend` that a session has written. -/
structure DailySpend where
  day : Day
  amountUsed : ℚ
  /-- There was no row. -/
  inserted : Bool

/-- The row that recording an amount writes, over the one that is there. -/
def recordedSpend (day : Day) (row : Option ℚ) (amount : ℚ) : DailySpend where
  day
  amountUsed := row.getD 0 + amount
  inserted := row.isNone

/-! ## Requests for vouchers -/

/-- A voucher that a session has written, with the day and the quota that it has taken. -/
structure NewVoucher where
  voucherId : VoucherId
  day : Day
  quota : Option (ProfileId × ProfileCapacity)

/-- How far a request has come. -/
inductive Phase where
  | begun
  /-- The row of the key's spending has been read. -/
  | fetched (row : Option ℚ)
  | checked
  | created (voucher : NewVoucher)
  | recorded (voucher : NewVoucher) (spend : Option DailySpend)
  | ended

/-- A request, with the key as it was loaded and the day whose spending it reads. -/
structure Session where
  keyId : KeyId
  ctx : RuntimeKey
  body : CreateVoucherRequest
  day : Day
  phase : Phase := .begun

/-- A voucher that has been created through a key. -/
structure Issued where
  keyId : KeyId
  day : Day
  voucherId : VoucherId
  body : CreateVoucherRequest

structure RuntimeWorld where
  service : World := {}
  today : Day := 0
  keys : Table KeyId RuntimeKey := .empty
  /-- `_replay`. -/
  replay : KeyId → List (String × ℚ) := fun _ => []
  /-- `_DAILY`. -/
  memory : KeyId → Day → ℚ := fun _ _ => 0
  /-- `runtime_key_daily_spend`. -/
  dailySpend : Table (KeyId × Day) ℚ := .empty
  sessions : Table Nat Session := .empty
  issued : List Issued := []

inductive RuntimeAction where
  | service (action : Action)
  | midnight
  | createKey (keyId : KeyId) (karmaIdentityId : IdentityId) (profileId : Option ProfileId)
      (permissions : List String) (singleLimit dailyLimit expireAt : ℚ)
  | revokeKey (keyId : KeyId)
  | begin (session : Nat) (keyId : KeyId) (clientNonce : String) (now : ℚ)
      (body : CreateVoucherRequest)
  | fetch (session : Nat)
  | check (session : Nat)
  | create (session : Nat) (request : Request) (voucherId : VoucherId)
  | record (session : Nat)
  | commit (session : Nat)
  | fail (session : Nat)

/-- The beginning of `runtime_request_voucher`, with the bucket of nonces that it leaves. -/
def beginRequest (world : RuntimeWorld) (keyId : KeyId) (clientNonce : String) (now : ℚ)
    (body : CreateVoucherRequest) : Except HttpError (Session × List (String × ℚ)) := do
  let ctx ← loadActiveContext world.keys keyId now
  require (8 ≤ clientNonce.length ∧ clientNonce.length ≤ 128)
    ⟨422, "client_nonce must have 8 to 128 characters"⟩
  require ("request_voucher" ∈ ctx.permissions)
    ⟨403, "runtime key missing permission: request_voucher"⟩
  require (body.buyerIdentityId = ctx.karmaIdentityId)
    ⟨403, "voucher buyer_identity_id must match runtime key identity"⟩
  let bucket ← checkReplayNonce (world.replay keyId) "request-voucher" clientNonce now
  .ok ({
    keyId, ctx, day := world.today
    body := { body with profileId := body.profileId <|> ctx.profileId } }, bucket)

namespace RuntimeWorld

variable (world : RuntimeWorld)

def setSession (session : Nat) (state : Session) : RuntimeWorld :=
  { world with sessions := world.sessions.set session state }

/-- `get_daily_used_async` up to its read: the stored row, if the spending is stored. -/
def spendRow (persist : Bool) (keyId : KeyId) (day : Day) : Option ℚ :=
  if persist then world.dailySpend.get (keyId, day) else none

/-- The rest of `get_daily_used_async`: what is not stored is in memory. -/
def dailyUsed (keyId : KeyId) (row : Option ℚ) : ℚ := row.getD (world.memory keyId world.today)

/-- The voucher is written in the session; others see it when the session commits. -/
def createVoucher (config : Config) (state : Session) (request : Request) (voucherId : VoucherId) :
    Except HttpError NewVoucher := do
  let delegate := { request with actor := some state.ctx.karmaIdentityId }
  let written ← Service.createVoucher (delegate.within config world.service.pauses)
    world.service.db voucherId state.body
  .ok {
    voucherId
    day := world.today
    quota := state.body.profileId.bind fun profileId =>
      (written.profiles.get profileId).map fun row => (profileId, row) }

/-- `record_daily_spend_async`: in memory at once, and in the session if it is stored. -/
def recordSpend (persist : Bool) (state : Session) : RuntimeWorld × Option DailySpend :=
  ({ world with
      memory := Function.update world.memory state.keyId
        (Function.update (world.memory state.keyId) world.today
          (world.memory state.keyId world.today + state.body.amount)) },
    if persist then
      some (recordedSpend world.today (world.dailySpend.get (state.keyId, world.today))
        state.body.amount)
    else none)

/-- What a session has written is stored, unless a row that it inserts is there already. -/
def commit (state : Session) (voucher : NewVoucher) (spend : Option DailySpend) :
    Option RuntimeWorld :=
  let db := world.service.db
  let duplicate := db.vouchers.get voucher.voucherId ≠ none ∨ ∃ row ∈ db.vouchers.rows,
    row.2.buyerIdentityId = state.body.buyerIdentityId ∧ row.2.nonce = state.body.nonce
  let clash := ∃ row ∈ spend, row.inserted = true ∧
    world.dailySpend.get (state.keyId, row.day) ≠ none
  if duplicate ∨ clash then none
  else some { world with
    service.db := { db with
      profiles := voucher.quota.elim db.profiles fun quota => db.profiles.set quota.1 quota.2
      vouchers := db.vouchers.set voucher.voucherId state.body.voucher }
    dailySpend := spend.elim world.dailySpend fun row =>
      world.dailySpend.set (state.keyId, row.day) row.amountUsed
    issued := world.issued ++ [⟨state.keyId, voucher.day, voucher.voucherId, state.body⟩] }

end RuntimeWorld

/-- A session takes its next step. -/
def Session.step (persist : Bool) (config : Config) (world : RuntimeWorld) (state : Session) :
    RuntimeAction → Option (RuntimeWorld × Session)
  | .fetch _ =>
      match state.phase with
      | .begun => some (world, { state with
          phase := .fetched (world.spendRow persist state.keyId state.day) })
      | _ => none
  | .check _ =>
      match state.phase with
      | .fetched row =>
          (checkSingleAndDailyLimits state.body.amount state.ctx.singleLimit state.ctx.dailyLimit
            (world.dailyUsed state.keyId row)).toOption.map fun _ =>
              (world, { state with phase := .checked })
      | _ => none
  | .create _ request voucherId =>
      match state.phase with
      | .checked =>
          (world.createVoucher config state request voucherId).toOption.map fun voucher =>
            (world, { state with phase := .created voucher })
      | _ => none
  | .record _ =>
      match state.phase with
      | .created voucher =>
          let (after, spend) := world.recordSpend persist state
          some (after, { state with phase := .recorded voucher spend })
      | _ => none
  | .commit _ =>
      match state.phase with
      | .recorded voucher spend =>
          (world.commit state voucher spend).map fun after =>
            (after, { state with phase := .ended })
      | _ => none
  | .fail _ => some (world, { state with phase := .ended })
  | _ => none

/-- The session that an action moves on. -/
def RuntimeAction.session : RuntimeAction → Option Nat
  | .fetch session | .check session | .create session _ _ | .record session | .commit session
  | .fail session => some session
  | _ => none

def performRuntime (persist : Bool) (config : Config) (world : RuntimeWorld) :
    RuntimeAction → Option RuntimeWorld
  | .service action =>
      (perform config world.service action).map fun service => { world with service }
  | .midnight => some { world with today := world.today + 1 }
  | .createKey keyId karmaIdentityId profileId permissions singleLimit dailyLimit expireAt =>
      match world.keys.get keyId with
      | some _ => none
      | none => (createRuntimeKeyRecord karmaIdentityId profileId permissions singleLimit
          dailyLimit expireAt).toOption.map fun row =>
            { world with keys := world.keys.set keyId row }
  | .revokeKey keyId => (world.keys.get keyId).map fun row =>
      { world with keys := world.keys.set keyId { row with status := "revoked" } }
  | .begin session keyId clientNonce now body =>
      match world.sessions.get session with
      | some _ => none
      | none => (beginRequest world keyId clientNonce now body).toOption.map fun (state, bucket) =>
          { world.setSession session state with
            replay := Function.update world.replay keyId bucket }
  | action => action.session.bind fun session =>
      (world.sessions.get session).bind fun state =>
        (state.step persist config world action).map fun (after, moved) =>
          after.setSession session moved

/-- The runtime gateway, from an empty database. -/
def runtimeSystem (persist : Bool) (config : Config) :
    TransitionSystem RuntimeWorld RuntimeAction where
  Init world := world = {}
  Step world action next := performRuntime persist config world action = some next

end TrustChain.Runtime
