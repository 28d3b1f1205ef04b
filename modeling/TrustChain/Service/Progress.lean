import TrustChain.Service.Settlement

/-!
# Progress receipts

The seller submits progress with a claimed value, which a curve bounds, and the buyer confirms
it, one receipt at a time or all that have waited long enough.
-/

namespace TrustChain.Service

open Library

/-! ## The progress curve -/

/-- The value of a point, or of the segment that contains `progress`. -/
def segmentValue (progress : ℚ) : List (ℚ × ℚ) → Option ℚ
  | (p0, v0) :: (p1, v1) :: rest =>
      if (p0 ≤ progress ∧ progress ≤ p1) ∨ (rest = [] ∧ |progress - p1| < epsilon) then
        if |p1 - p0| < 1 / 10 ^ 12 then some (max v0 v1)
        else some (v0 + (progress - p0) / (p1 - p0) * (v1 - v0))
      else segmentValue progress ((p1, v1) :: rest)
  | _ => none

/-- The points of a piecewise rule, as pairs. -/
def curvePoints (points : List (List ℚ)) : Except String (List (ℚ × ℚ)) :=
  points.mapM fun
    | [progress, value] => .ok (progress, value)
    | _ => .error "each piecewise point must be [progress_percent, value_percent]"

/-- The highest value that may be claimed at a progress. -/
def maxAllowedClaimedValuePercent (progressPercent : ℚ) (spec : Option ProgressRuleSpec) :
    Except String ℚ :=
  match spec.bind ProgressRuleSpec.type with
  | none | some "linear" => .ok progressPercent
  | some "piecewise" =>
      match spec.bind ProgressRuleSpec.points with
      | none => .error "piecewise progress_rule_spec requires points: list of [progress, value] pairs"
      | some raw => do
          require (2 ≤ raw.length)
            "piecewise progress_rule_spec requires points: list of [progress, value] pairs"
          let points ← curvePoints raw
          let sorted := points.mergeSort fun left right => left.1 ≤ right.1
          require ((sorted.head?.map Prod.fst).getD 0 ≤ epsilon ∧
              100 - epsilon ≤ (sorted.getLast?.map Prod.fst).getD 0)
            "piecewise points must cover 0..100 on progress axis"
          let progress := max 0 (min 100 progressPercent)
          .ok ((segmentValue progress sorted).getD ((sorted.getLast?.map Prod.snd).getD 0))
  | some _ => .error "unsupported progress_rule_spec.type"

def validateClaimedAgainstCurve (progressPercent claimedValuePercent : ℚ)
    (spec : Option ProgressRuleSpec) : Except String Unit := do
  let ceiling ← maxAllowedClaimedValuePercent progressPercent spec
  require (claimedValuePercent - 1 / 10 ^ 6 ≤ ceiling) "claimed_value_percent exceeds curve ceiling"

/-! ## Submission -/

/-- `_is_hex_64`: the check lowers the case first. -/
def isHex64 (value : String) : Bool :=
  let lowered := value.toList.map Char.toLower
  lowered.length = 64 && lowered.all fun character =>
    character.isDigit || ('a' ≤ character && character ≤ 'f')

/-- The bounds of the schema. -/
def ProgressReceipt.WellFormed (progress : ProgressReceipt) : Prop :=
  (0 ≤ progress.progressPercent ∧ progress.progressPercent ≤ 100) ∧
    0 ≤ progress.claimedValuePercent ∧ progress.claimedValuePercent ≤ 100

instance : DecidablePred ProgressReceipt.WellFormed := fun _ => inferInstanceAs (Decidable (_ ∧ _))

section Submission

variable (request : Request) (db : Db)

def validateProgressReceiptStatic (progress : ProgressReceipt) : Except HttpError Unit := do
  require (isHex64 progress.evidenceHash = true)
    ⟨400, "progress evidence_hash must be 64-char lowercase hex"⟩
  require (isHex64 progress.runtimeLogHash = true)
    ⟨400, "progress runtime_log_hash must be 64-char lowercase hex"⟩
  require (request.config.progressRequireSignature = false ∨
      progress.sellerSignature.toList.all Char.isWhitespace = false)
    ⟨400, "progress seller_signature is required"⟩
  require (progress.timestamp ≤ request.now + max 0 request.config.receiptMaxFutureSkewSeconds)
    ⟨400, "progress timestamp is too far in the future"⟩
  require (request.now - max 1 request.config.receiptMaxPastHours * 3600 ≤ progress.timestamp)
    ⟨400, "progress timestamp is too far in the past"⟩

/-- The receipts of a task. -/
def Db.progressOf (taskId : TaskId) : List ProgressReceipt :=
  (db.progress.rows.map Prod.snd).filter fun row => row.taskId = taskId

/-- The receipt with the greatest timestamp. Which one of several is not specified. -/
def latestProgress (receipts : List ProgressReceipt) : Option ProgressReceipt :=
  receipts.find? fun row => receipts.all fun other => other.timestamp ≤ row.timestamp

def assertNoRollback (latest : Option ProgressReceipt) (progress : ProgressReceipt) :
    Except HttpError Unit :=
  match latest with
  | none => .ok ()
  | some latest => do
      require (latest.timestamp ≤ progress.timestamp)
        ⟨409, "progress timestamp is older than latest receipt"⟩
      require (latest.progressPercent ≤ progress.progressPercent + epsilon)
        ⟨409, "progress_percent rollback is not allowed"⟩
      require (latest.claimedValuePercent ≤ progress.claimedValuePercent + epsilon)
        ⟨409, "claimed_value_percent rollback is not allowed"⟩

def requireActorMatchesIdentity (identityId : IdentityId) : Except HttpError Unit :=
  if request.config.partyBinding then do
    let actor ← requireActor request
    require (actor = identityId)
      ⟨403, "authenticated actor must match the asserted identity for this operation"⟩
  else .ok ()

def Db.setProgress (row : ProgressReceipt) : Db :=
  { db with progress := db.progress.set row.progressReceiptId row }

/-- A task has no two receipts over the same evidence and the same log. -/
def assertFreshHashes (receipts : List ProgressReceipt) (progress : ProgressReceipt) :
    Except HttpError Unit :=
  match receipts.find? fun row =>
    row.evidenceHash = progress.evidenceHash ∧ row.runtimeLogHash = progress.runtimeLogHash with
  | none => .ok ()
  | some row =>
      .error ⟨409, "duplicate progress evidence/runtime hash pair already submitted: " ++
        row.progressReceiptId⟩

def getTaskSettlement (taskId : TaskId) : Except HttpError SettlementState :=
  findSettlement db taskId ("Settlement for task " ++ taskId ++ " not found")

/-- Submit progress. The row takes the confirmation status from the body. -/
def submitProgressReceipt (progress : ProgressReceipt) : Except HttpError Db := do
  require progress.WellFormed ⟨422, "percentages must be in [0, 100]"⟩
  validateProgressReceiptStatic request progress
  require (db.progress.get progress.progressReceiptId = none)
    ⟨409, "Progress receipt " ++ progress.progressReceiptId ++ " already exists"⟩
  assertNoRollback (latestProgress (db.progressOf progress.taskId)) progress
  assertFreshHashes (db.progressOf progress.taskId) progress
  let settlement ← getTaskSettlement db progress.taskId
  requireActorMatchesIdentity request progress.sellerIdentityId
  (validateClaimedAgainstCurve progress.progressPercent progress.claimedValuePercent
    settlement.progressRuleSpec).mapError fun detail => ⟨400, detail⟩
  require (settlement.workerAgentId = none ∨
      settlement.workerAgentId = some progress.sellerIdentityId)
    ⟨409, "seller_identity_id does not match settlement worker_agent_id"⟩
  require (canTransition settlement.status .progressSubmitted = true)
    ⟨409, "invalid status transition: " ++ settlement.status.value ++ " -> progress_submitted"⟩
  saveSettlement 500 (db.setProgress progress) { settlement with status := .progressSubmitted }

/-- `/runtime/update-progress`: the runtime key's identity submits, under the key's signature. -/
def runtimeUpdateProgress (progress : ProgressReceipt) (keyIdentityId : IdentityId)
    (signature : String) : Except HttpError Db := do
  require (progress.sellerIdentityId = keyIdentityId)
    ⟨403, "seller_identity_id must match runtime key identity"⟩
  submitProgressReceipt { request with actor := some keyIdentityId } db
    { progress with sellerSignature := "runtime:" ++ signature }

end Submission

/-! ## Confirmation -/

section Confirmation

variable (request : Request) (db : Db)

/-- The buyer's binding for a confirmation: by the party binding, or by the setting for
confirmations alone. -/
def requireConfirmingBuyer (settlement : SettlementState) : Except HttpError Unit :=
  if request.config.partyBinding then requireBuyer request settlement
  else if request.config.progressConfirmRequireBuyerActor then
    require (request.actor = some settlement.clientAgentId)
      ⟨403, "progress confirmation must be performed by the settlement buyer when " ++
        "progress_confirm_require_buyer_actor is enabled"⟩
  else .ok ()

def ProgressReceipt.confirm (row : ProgressReceipt) (now : ℚ) : ProgressReceipt :=
  { row with confirmationStatus := .confirmed, confirmedAt := some now }

def confirmProgressReceipt (progressReceiptId : ReceiptId) : Except HttpError Db :=
  match db.progress.get progressReceiptId with
  | none => .error ⟨404, "Progress receipt " ++ progressReceiptId ++ " not found"⟩
  | some row =>
      if row.confirmationStatus = .confirmed then .ok db
      else do
        let settlement ← getTaskSettlement db row.taskId
        requireConfirmingBuyer request settlement
        require (canTransition settlement.status .progressConfirmed = true)
          ⟨409, "invalid status transition: " ++ settlement.status.value ++
            " -> progress_confirmed"⟩
        saveSettlement 500
          { db with progress := db.progress.set progressReceiptId (row.confirm request.now) }
          { settlement with status := .progressConfirmed }

/-- The receipts of a task that have been pending for long enough. -/
def overdueProgress (taskId : TaskId) (maxPendingHours : ℚ) : List (ReceiptId × ProgressReceipt) :=
  db.progress.rows.filter fun row =>
    row.2.taskId = taskId ∧ row.2.confirmationStatus = .pending ∧
      row.2.timestamp ≤ request.now - maxPendingHours * 3600

def timeoutConfirmProgress (taskId : TaskId) (maxPendingHours : ℚ) : Except HttpError Db := do
  require (1 / 4 ≤ maxPendingHours ∧ maxPendingHours ≤ 24 * 90)
    ⟨422, "max_pending_hours must be in [0.25, 2160]"⟩
  let settlement ← getTaskSettlement db taskId
  requireBuyer request settlement
  let rows := overdueProgress request db taskId maxPendingHours
  if rows.isEmpty then .ok db
  else do
    require (canTransition settlement.status .progressConfirmed = true)
      ⟨409, "cannot timeout-confirm from settlement status " ++ settlement.status.value⟩
    let confirmed := rows.foldl
      (fun table row => table.set row.1 (row.2.confirm request.now)) db.progress
    saveSettlement 500 { db with progress := confirmed }
      { settlement with status := .progressConfirmed }

end Confirmation

end TrustChain.Service
