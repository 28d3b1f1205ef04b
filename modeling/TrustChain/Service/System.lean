import TrustChain.Library.Transition
import TrustChain.Service.Arbitration
import TrustChain.Service.Progress

/-!
# The service as a transition system

Requests are transactions, one after the other. A request that fails is rolled back, so it is
no step. The pauses of the safety mode can change at any time.
-/

namespace TrustChain.Service

open Library

/-- The routes, and what other parts of the service store. -/
inductive Call where
  | lockUsdc (identityId : IdentityId) (amount : ℚ)
  | releaseUnused (identityId : IdentityId) (amount : ℚ)
  | allocate (identityId : IdentityId) (allocations : List (ProfileId × ℚ))
  | createVoucher (voucherId : VoucherId) (body : CreateVoucherRequest)
  | acceptVoucher (voucherId : VoucherId) (sellerIdentityId : IdentityId)
  | acceptPaymentCode (voucherId : VoucherId) (sellerIdentityId : IdentityId)
  | rejectPaymentCode (voucherId : VoucherId) (sellerIdentityId : IdentityId)
  | createSettlement (body : CreateSettlementRequest)
  | markSettlementPending (taskId : TaskId)
  | lockSettlement (taskId : TaskId) (workerAgentId : IdentityId)
  | startSettlement (taskId : TaskId)
  | submitSettlement (taskId : TaskId)
  | failSettlement (taskId : TaskId)
  | partialSettlement (taskId : TaskId) (settledValuePercent : ℚ)
  | regretSettlement (taskId : TaskId) (buyerIdentityId : Option IdentityId)
  | openDispute (taskId : TaskId)
  | buyerAcceptSettlement (taskId : TaskId) (sceneId : Option String)
  | autoConfirmSettlement (taskId : TaskId)
  | buyerRejectSettlement (taskId : TaskId)
  | autoArbitrate (taskId : TaskId) (bundle : Option BundleVerdict)
  | submitProgressReceipt (progress : ProgressReceipt)
  | runtimeUpdateProgress (progress : ProgressReceipt) (keyIdentityId : IdentityId)
      (signature : String)
  | confirmProgressReceipt (progressReceiptId : ReceiptId)
  | timeoutConfirmProgress (taskId : TaskId) (maxPendingHours : ℚ)
  | joinArbitrationPool (arbitratorIdentityId : IdentityId)
  | createArbitrationCase (caseId : CaseId) (body : CreateArbitrationCaseRequest)
  | assignArbitrators (caseId : CaseId) (count : Nat)
  | castVote (vote : ArbitrationVote)
  | executeArbitrationCase (caseId : CaseId)
  | storeContract (taskId : TaskId)
  | storeReceipt (taskId : TaskId) (status : ToolStatus)
  | storeRoleProfile (profileId : ProfileId) (identityId : IdentityId)

def dispatch (request : Request) (db : Db) : Call → Except HttpError Db
  | .lockUsdc identityId amount => lockUsdc request db identityId amount
  | .releaseUnused identityId amount => releaseUnused request db identityId amount
  | .allocate identityId allocations => allocate request db identityId allocations
  | .createVoucher voucherId body => createVoucher request db voucherId body
  | .acceptVoucher voucherId seller => acceptVoucher request db voucherId seller
  | .acceptPaymentCode voucherId seller => acceptPaymentCode request db voucherId seller
  | .rejectPaymentCode voucherId seller => rejectPaymentCode request db voucherId seller
  | .createSettlement body => createSettlement request db body
  | .markSettlementPending taskId => markSettlementPending request db taskId
  | .lockSettlement taskId worker => lockSettlement request db taskId worker
  | .startSettlement taskId => startSettlement request db taskId
  | .submitSettlement taskId => submitSettlement request db taskId
  | .failSettlement taskId => failSettlement request db taskId
  | .partialSettlement taskId percent => partialSettlement request db taskId percent
  | .regretSettlement taskId buyer => regretSettlement request db taskId buyer
  | .openDispute taskId => openDispute request db taskId
  | .buyerAcceptSettlement taskId sceneId => buyerAcceptSettlement request db taskId sceneId
  | .autoConfirmSettlement taskId => autoConfirmSettlement request db taskId
  | .buyerRejectSettlement taskId => buyerRejectSettlement request db taskId
  | .autoArbitrate taskId bundle => autoArbitrate request db taskId bundle
  | .submitProgressReceipt progress => submitProgressReceipt request db progress
  | .runtimeUpdateProgress progress keyIdentityId signature =>
      runtimeUpdateProgress request db progress keyIdentityId signature
  | .confirmProgressReceipt id => confirmProgressReceipt request db id
  | .timeoutConfirmProgress taskId hours => timeoutConfirmProgress request db taskId hours
  | .joinArbitrationPool arbitrator => joinArbitrationPool db arbitrator
  | .createArbitrationCase caseId body => createArbitrationCase db request caseId body
  | .assignArbitrators caseId count => assignArbitrators db caseId count
  | .castVote vote => castVote db vote
  | .executeArbitrationCase caseId => executeArbitrationCase db request caseId
  | .storeContract taskId => .ok { db with contracts := taskId :: db.contracts }
  | .storeReceipt taskId status =>
      .ok { db with
        receipts := Function.update db.receipts taskId (db.receipts taskId ++ [status]) }
  | .storeRoleProfile profileId identityId =>
      .ok { db with roleProfiles := Function.update db.roleProfiles profileId (some identityId) }

structure World where
  db : Db := {}
  pauses : Pauses := {}

/-- What can happen next. The configuration and the pauses of a request are the service's. -/
inductive Action where
  | request (request : Request) (call : Call)
  | setPauses (pauses : Pauses)

/-- A request as the service sees it. -/
def Request.within (request : Request) (config : Config) (pauses : Pauses) : Request :=
  { request with config, pauses }

/-- The settlement that an action asks for. -/
def Action.creates : Action → Option CreateSettlementRequest
  | .request _ (.createSettlement body) => some body
  | _ => none

/-- The settlement that an action cancels. -/
def Action.fails : Action → Option TaskId
  | .request _ (.failSettlement taskId) => some taskId
  | _ => none

def perform (config : Config) (world : World) : Action → Option World
  | .request request call =>
      (dispatch (request.within config world.pauses) world.db call).toOption.map fun db =>
        { world with db }
  | .setPauses pauses => some { world with pauses }

/-- The service, from an empty database. -/
def system (config : Config) : TransitionSystem World Action where
  Init world := world.db = {}
  Step world action next := perform config world action = some next

theorem init_empty (config : Config) : (system config).Init {} := rfl

section Steps

variable {config : Config} {world next : World} {action : Action}

theorem step_request {request : Request} {call : Call} :
    (system config).Step world (.request request call) next ↔
      ∃ db, dispatch (request.within config world.pauses) world.db call = .ok db ∧
        next = { world with db } := by
  change perform config world (.request request call) = some next ↔ _
  rw [perform, Option.map_eq_some_iff]
  simp only [toOption_eq_some]
  exact exists_congr fun db => and_congr_right fun _ => eq_comm

theorem step_unique {other : World} (step : (system config).Step world action next)
    (again : (system config).Step world action other) : next = other :=
  Option.some.inj (Eq.trans (Eq.symm step) again)

/-- What every successful request keeps, and the pauses do not matter for, every step keeps. -/
theorem step_db {property : Db → Prop} (before : property world.db)
    (kept : ∀ request call db, action = .request request call →
      dispatch (request.within config world.pauses) world.db call = .ok db → property db)
    (step : (system config).Step world action next) : property next.db := by
  cases action with
  | request request call =>
      obtain ⟨db, ran, rfl⟩ := step_request.mp step
      exact kept request call db rfl ran
  | setPauses pauses =>
      obtain rfl := Option.some.inj step
      exact before

end Steps

/-! ## Scenes -/

/-- The service, as far as it takes only admitted actions. -/
def performIf (allowed : World → Action → Prop) [∀ world action, Decidable (allowed world action)]
    (config : Config) (world : World) (action : Action) : Option World :=
  if allowed world action then perform config world action else none

section Scenes

variable {allowed : World → Action → Prop} [∀ world action, Decidable (allowed world action)]
  {config : Config} {start : World}

theorem scene_run (scene : Scene (perform config) start) :
    (system config).Run start scene.actions scene.world :=
  scene.run fun _ _ _ performed => performed

theorem scene_run_restricted (scene : Scene (performIf allowed config) start) :
    ((system config).restrict allowed).Run start scene.actions scene.world := by
  apply scene.run
  intro world action next performed
  unfold performIf at performed
  split at performed
  case isTrue admitted => exact ⟨performed, admitted⟩
  case isFalse => cases performed

end Scenes

/-- The error of a call that is refused. -/
def refusal : Except HttpError Db → Option HttpError
  | .error error => some error
  | .ok _ => none

namespace Demo

def buyer : IdentityId := "buyer"
def seller : IdentityId := "seller"

/-- A call that needs no authentication. -/
def call (call : Call) : Action := .request {} call

/-- A voucher over `bill` is created and accepted. -/
def pledge (voucherId : VoucherId) (bill : ℚ) : List Action :=
  [call (.createVoucher voucherId {
      buyerIdentityId := buyer, sellerIdentityId := seller, amount := bill
      billCreditAmount := bill, expiryTime := 1, nonce := voucherId }),
    call (.acceptVoucher voucherId seller)]

/-- A settlement over `escrow` is created on a voucher, and work on it starts. -/
def hire (taskId : TaskId) (voucherId : Option VoucherId) (escrow : ℚ) : List Action :=
  [call (.storeContract taskId),
    call (.createSettlement { taskId, clientAgentId := buyer, escrowAmount := escrow, voucherId }),
    call (.lockSettlement taskId seller), call (.startSettlement taskId)]

end Demo

end TrustChain.Service
