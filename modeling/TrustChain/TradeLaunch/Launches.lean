import TrustChain.Runtime.Keys

/-!
# Launching a trade order: what is asked and what is checked

The requirement of a buyer becomes a specification of the task, which the automation policies of
both parties clamp. The fingerprint of a requirement decides whether a launch repeats an earlier
one, and the budget of the day whether there is money left for it.
-/

namespace TrustChain.TradeLaunch

open Library Service

abbrev OrderId := String

/-- What the launches call and leave open. -/
structure Platform where
  /-- `hashlib.sha256(text.encode("utf-8")).hexdigest()`. -/
  sha256 : String → String
  /-- `str` of a float. -/
  str : ℚ → String
  /-- The amount and the task type that `parse_intent_for_discovery` finds in a text. -/
  discover : String → Option ℚ≥0 × String
  /-- The precision that a text names, or one. -/
  precision : String → ℚ

structure Settings where
  config : Config := {}
  settlementMode : String := "offchain"

/-- The arguments of a launch. The routes let no amount through that is not positive. -/
structure Launch where
  buyerIdentityId : IdentityId
  sellerIdentityId : IdentityId
  requirementText : String
  amount : Option ℚ := none
  taskPrecision : Option ℚ := none
  taskType : Option String := none
  chainAnchorHash : Option String := none
  launchIdempotencyKey : Option String := none
  positive : ∀ asked ∈ amount, 0 < asked

/-! ## Validation -/

def validateLaunchParties (buyerIdentityId sellerIdentityId : IdentityId) :
    Except HttpError Unit := do
  require (buyerIdentityId ≠ sellerIdentityId)
    ⟨400, "buyer and seller must be different identities"⟩
  require (buyerIdentityId.length ≤ 128 ∧ sellerIdentityId.length ≤ 128)
    ⟨400, "identity id too long"⟩

def requirementMaxLen : Nat := 32000

def validateRequirementText (text : String) : Except HttpError String := do
  let cleaned := Runtime.strip text
  require (cleaned ≠ "") ⟨400, "requirement_text is required"⟩
  require (cleaned.length ≤ requirementMaxLen)
    ⟨400, "requirement_text exceeds 32000 characters"⟩
  .ok cleaned

/-- `[a-fA-F0-9]`. -/
def isHexDigit (char : Char) : Bool :=
  ('0' ≤ char ∧ char ≤ '9') ∨ ('a' ≤ char ∧ char ≤ 'f') ∨ ('A' ≤ char ∧ char ≤ 'F')

/-- `CHAIN_ANCHOR_RE`. -/
def isChainAnchor (text : String) : Bool :=
  match text.toList with
  | '0' :: 'x' :: digits => digits.length = 64 && digits.all isHexDigit
  | _ => false

def validateChainAnchorForMode (settings : Settings) (chainAnchorHash : Option String) :
    Except HttpError (Option String) := do
  let raw := (chainAnchorHash.map Runtime.strip).filter (· ≠ "")
  let mode := if settings.settlementMode = "" then "offchain" else settings.settlementMode.toLower
  require (¬((mode = "testnet" ∨ mode = "hybrid") ∧ raw = none))
    ⟨400, "chain_anchor_hash required when SETTLEMENT_MODE is testnet or hybrid"⟩
  require (∀ anchor ∈ raw, isChainAnchor anchor = true)
    ⟨400, "chain_anchor_hash must be 32-byte hex (0x + 64 hex chars)"⟩
  .ok raw

/-- `(task_type or "").strip()`. -/
def Launch.trimmedTaskType (launch : Launch) : String := Runtime.strip (launch.taskType.getD "")

/-- `str(amount if amount is not None else "")`. -/
def amountText (platform : Platform) (amount : Option ℚ) : String := amount.elim "" platform.str

/-- `requirement_fingerprint`, of a text that has been stripped. -/
def requirementFingerprint (platform : Platform) (launch : Launch) (text : String) : String :=
  platform.sha256 (String.intercalate "|" [launch.buyerIdentityId, launch.sellerIdentityId,
    platform.sha256 text, amountText platform launch.amount, launch.trimmedTaskType])

/-! ## The automation policies -/

structure AutomationPolicy where
  preauthEnabled : Bool := true
  responsibilityAcknowledged : Bool := true
  autoEnabled : Bool := true
  autoExecutePipeline : Bool := true
  autoAcceptIncoming : Bool := true
  humanNotPresentAllowed : Bool := false
  singleLimit : ℚ
  dailyLimit : ℚ
  allowedTaskTypes : List String := []
  taskPrecisionMin : Option ℚ := none
  taskPrecisionMax : Option ℚ := none
  trustedCounterpartyIds : List IdentityId := []
  responsibilityBoundaryId : Option String := none
  paymentCodeTtlSeconds : Option Nat := none
  deriving DecidableEq

structure RuntimeKey where
  karmaIdentityId : IdentityId
  status : String
  expireAt : ℚ
  deriving DecidableEq

/-- `_assert_pipeline_preauth`. -/
def assertPipelinePreauth (policy : Option AutomationPolicy) (keys : List RuntimeKey)
    (identityId : IdentityId) (role : String) (now : ℚ) : Except HttpError AutomationPolicy :=
  match policy with
  | none => .error ⟨400, role ++ " preauth_enabled required on automation-policy"⟩
  | some policy => do
      require (policy.preauthEnabled = true)
        ⟨400, role ++ " preauth_enabled required on automation-policy"⟩
      require (policy.responsibilityAcknowledged = true)
        ⟨400, role ++ " must acknowledge responsibility boundary"⟩
      require (policy.autoEnabled = true)
        ⟨400, role ++ " auto_enabled required for auto-execute pipeline"⟩
      require (policy.autoExecutePipeline = true)
        ⟨400, role ++ " auto_execute_pipeline must be true (enable in trade preauth save)"⟩
      require (∃ key ∈ keys,
          key.karmaIdentityId = identityId ∧ key.status = "active" ∧ now < key.expireAt)
        ⟨400, role ++ " needs active Runtime Key before launch (Settings → 铸造 Runtime Key)"⟩
      .ok policy

/-! ## The specification of a task -/

structure Spec where
  taskId : TaskId
  amount : ℚ
  billCreditAmount : ℚ
  currency : String := "USDC"
  taskType : String
  taskPrecision : ℚ
  requirementHash : String
  requirementFingerprint : String
  deriving DecidableEq

section Decomposition

variable (platform : Platform) (launch : Launch) (text : String)

/-- The amount that was asked for, else the one in the text, else ten. -/
def parsedAmount : ℚ :=
  launch.amount.getD ((platform.discover text).1.elim 10 fun found => (found : ℚ))

def parsedType : String :=
  if launch.trimmedTaskType = "" then (platform.discover text).2 else launch.trimmedTaskType

/-- `decompose_buyer_requirement`, with the fingerprint that the launch adds. -/
def decomposeBuyerRequirement (taskId : TaskId) : Spec where
  taskId := taskId
  amount := parsedAmount platform launch text
  billCreditAmount := parsedAmount platform launch text
  taskType := parsedType platform launch text
  taskPrecision := launch.taskPrecision.getD (platform.precision text)
  requirementHash := platform.sha256 text
  requirementFingerprint := TradeLaunch.requirementFingerprint platform launch text

end Decomposition

/-- `if policy.single_limit and amount > float(policy.single_limit)`. -/
def assertSingleLimit (role : String) (policy : AutomationPolicy) (amount : ℚ) :
    Except HttpError Unit :=
  require (policy.singleLimit = 0 ∨ amount ≤ policy.singleLimit)
    ⟨400, "amount exceeds " ++ role ++ " automation-policy single_limit"⟩

def clampSpecToPolicies (settings : Settings) (spec : Spec)
    (buyerPolicy sellerPolicy : AutomationPolicy) : Except HttpError Spec := do
  assertSingleLimit "buyer" buyerPolicy spec.amount
  assertSingleLimit "seller" sellerPolicy spec.amount
  require (buyerPolicy.allowedTaskTypes = [] ∨ spec.taskType ∈ buyerPolicy.allowedTaskTypes)
    ⟨400, "task_type " ++ spec.taskType ++ " not in buyer allowed_task_types"⟩
  require (∀ least ∈ buyerPolicy.taskPrecisionMin, least ≤ spec.taskPrecision)
    ⟨400, "task_precision below buyer minimum"⟩
  require (∀ most ∈ buyerPolicy.taskPrecisionMax, spec.taskPrecision ≤ most)
    ⟨400, "task_precision above buyer maximum"⟩
  require (settings.config.escrowMinAmount ≤ spec.amount ∧
      spec.amount ≤ settings.config.escrowMaxAmount)
    ⟨400, "amount must be between the escrow limits"⟩
  .ok { spec with billCreditAmount := spec.amount }

/-! ## The budget of the day -/

def hnpMaxSingleLimit : ℚ := 50

def hnpMaxDailyLimit : ℚ := 200

def hnpSpendMultiplier : ℚ := 1 / 2

/-- The single and the daily limit, tightened where no human is present. -/
def effectiveSpendingLimits (policy : AutomationPolicy) : ℚ × ℚ :=
  if policy.humanNotPresentAllowed then
    (min policy.singleLimit hnpMaxSingleLimit * hnpSpendMultiplier,
      min policy.dailyLimit hnpMaxDailyLimit * hnpSpendMultiplier)
  else (policy.singleLimit, policy.dailyLimit)

/-- The UTC day of a time. -/
def day (time : ℚ) : ℤ := ⌊time / 86400⌋

/-- The midnight that a UTC day begins with. -/
def midnight (day : ℤ) : ℚ := day * 86400

/-- The end of `assert_pre_launch_spending_policy`. -/
def assertWithinDailyLimit (daily used additionalAmount : ℚ) : Except HttpError Unit :=
  require (used + additionalAmount ≤ daily + epsilon)
    ⟨409, "trade launch would exceed buyer daily_limit"⟩

/-! ## The answer of the seller -/

structure PreauthEvaluation where
  accept : Bool
  reason : String
  code : String
  deriving DecidableEq

/-- `_precision_in_range`. -/
def precisionInRange (value : ℚ) (least most : Option ℚ) : Bool :=
  (∀ bound ∈ least, bound ≤ value + epsilon) ∧ ∀ bound ∈ most, value ≤ bound + epsilon

/-- `evaluate_seller_preauth`, of a voucher for a specification. -/
def evaluateSellerPreauth (sellerPolicy buyerPolicy : Option AutomationPolicy) (voucher : Voucher)
    (spec : Spec) (now : ℚ) : PreauthEvaluation :=
  match sellerPolicy with
  | none => ⟨false, "seller preauth auto-accept not enabled", "preauth_disabled"⟩
  | some policy =>
      if ¬(policy.preauthEnabled ∧ policy.autoAcceptIncoming) then
        ⟨false, "seller preauth auto-accept not enabled", "preauth_disabled"⟩
      else if ¬policy.responsibilityAcknowledged then
        ⟨false, "seller responsibility boundary not acknowledged", "no_responsibility_ack"⟩
      else if voucher.expiryTime ≤ now then ⟨false, "payment code expired", "expired"⟩
      else if policy.allowedTaskTypes ≠ [] ∧ spec.taskType ∉ policy.allowedTaskTypes then
        ⟨false, "task_type '" ++ spec.taskType ++ "' not allowed", "task_type_mismatch"⟩
      else if ¬precisionInRange spec.taskPrecision policy.taskPrecisionMin
          policy.taskPrecisionMax then
        ⟨false, "task_precision out of seller preauth range", "precision_mismatch"⟩
      else if policy.singleLimit + epsilon < voucher.amount then
        ⟨false, "amount exceeds seller single_limit", "amount_over_limit"⟩
      else if policy.singleLimit + epsilon < voucher.billCreditAmount then
        ⟨false, "bill_credit exceeds seller single_limit", "bill_credit_over_limit"⟩
      else if policy.trustedCounterpartyIds ≠ [] ∧
          voucher.buyerIdentityId ∉ policy.trustedCounterpartyIds then
        ⟨false, "buyer not in seller trusted list", "buyer_not_trusted"⟩
      else
        let boundary := Runtime.strip (policy.responsibilityBoundaryId.getD "")
        let buyerBoundary := Runtime.strip
          ((buyerPolicy.bind AutomationPolicy.responsibilityBoundaryId).getD "")
        if boundary ≠ "" ∧ buyerBoundary ≠ "" ∧ buyerBoundary ≠ boundary then
          ⟨false, "responsibility_boundary_id mismatch", "boundary_mismatch"⟩
        else ⟨true, "preauth rules satisfied", "accepted"⟩

end TrustChain.TradeLaunch
