import TrustChain.TradeLaunch.Pipeline

/-!
# What a step of a launch does

A step moves one request to another stage, answers a replay, or stores a transaction. The parts of
the pipeline keep what an order was made with: they change its status, its voucher, and the rows
beside it.
-/

namespace TrustChain.TradeLaunch

open Library Service

variable {platform : Platform} {settings : Settings} {world next : World} {action : Action}

/-! ## The parts of the pipeline -/

/-- The order of the voucher is the one that names it. -/
def Held.Linked (held : Held) : Prop := ∀ entry ∈ held.voucher, held.order.voucherId = some entry.1

/-- The two orders were made alike; their status and their voucher may differ. -/
structure Order.MadeAs (order made : Order) : Prop where
  orderId : order.orderId = made.orderId
  buyerIdentityId : order.buyerIdentityId = made.buyerIdentityId
  sellerIdentityId : order.sellerIdentityId = made.sellerIdentityId
  requirementText : order.requirementText = made.requirementText
  decomposedSpec : order.decomposedSpec = made.decomposedSpec
  launchIdempotencyKey : order.launchIdempotencyKey = made.launchIdempotencyKey
  createdAt : order.createdAt = made.createdAt

theorem Order.MadeAs.refl (order : Order) : order.MadeAs order := ⟨rfl, rfl, rfl, rfl, rfl, rfl, rfl⟩

/-- A later state of a transaction. -/
structure Held.Continues (held earlier : Held) : Prop where
  madeAs : held.order.MadeAs earlier.order
  counted : held.counted = earlier.counted
  linked : held.Linked

variable {held : Held}

theorem Held.Linked.continues (linked : held.Linked) : held.Continues held :=
  ⟨.refl _, rfl, linked⟩

theorem Held.Continues.mark {earlier : Held} (continues : held.Continues earlier)
    (status : OrderStatus) : (held.mark status).Continues earlier where
  madeAs := { continues.madeAs with }
  counted := continues.counted
  linked := continues.linked

theorem Held.Continues.breakOff {earlier : Held} (continues : held.Continues earlier)
    (detail : String) : (held.breakOff detail).Continues earlier where
  madeAs := { continues.madeAs with }
  counted := continues.counted
  linked := continues.linked

theorem Held.Continues.abort {earlier : Held} (continues : held.Continues earlier) :
    held.abort.Continues earlier := by
  unfold Held.abort
  split
  · exact continues
  · exact continues.breakOff "pipeline aborted"

/-- A stage that a part of the pipeline leads to: the transaction goes on, and the order of a
launch that returns is rejected or executed. -/
def Stage.Continues (stage : Stage) (earlier : Held) : Prop :=
  match stage with
  | .running held | .failing held => held.Continues earlier
  | .answered held =>
      held.Continues earlier ∧ held.order.status ∈ [OrderStatus.rejected, .executionStarted]
  | _ => False

section Parts

variable (linked : held.Linked) (voucherId : VoucherId) (nonce : String) (now : ℚ)

include linked

theorem checkCapacity_continues : (checkCapacity world held).Continues held := by
  have broken := (linked.continues.breakOff "insufficient buyer capacity").abort
  unfold checkCapacity
  split
  · split
    · exact ⟨.refl _, rfl, linked⟩
    · exact broken
  · exact broken

theorem createContract_continues : (createContract world held).Continues held := by
  unfold createContract
  split
  · exact linked.continues.breakOff _
  · refine Held.Continues.mark ?_ .contractCreated
    exact ⟨.refl _, rfl, linked⟩

theorem createVoucher_continues : (createVoucher world held voucherId nonce now).Continues held := by
  unfold createVoucher
  dsimp only
  split
  · exact linked.continues.breakOff _
  · refine ⟨⟨rfl, rfl, rfl, rfl, rfl, rfl, rfl⟩, rfl, ?_⟩
    intro entry there
    obtain rfl := Option.some.inj there
    rfl

theorem answerVoucher_continues {row : Voucher} (there : held.voucher = some (voucherId, row)) :
    (answerVoucher world held voucherId row now).Continues held := by
  have named : held.order.voucherId = some voucherId := linked _ there
  have kept : ∀ (found : Option Voucher), ∀ entry ∈ found.map fun row => (voucherId, row),
      held.order.voucherId = some entry.1 := by
    intro found entry inside
    obtain ⟨row, -, rfl⟩ := Option.mem_map.mp inside
    exact named
  unfold answerVoucher
  dsimp only
  split
  · split
    · refine Held.Continues.mark ?_ .accepted
      exact ⟨.refl _, rfl, kept _⟩
    · exact linked.continues.abort
  · split
    · exact ⟨⟨⟨rfl, rfl, rfl, rfl, rfl, rfl, rfl⟩, rfl, kept _⟩, by simp [Held.mark]⟩
    · exact linked.continues.abort

theorem createSettlement_continues : (createSettlement world held now).Continues held := by
  unfold createSettlement
  dsimp only
  split
  · refine Held.Continues.mark ?_ .settlementCreated
    exact ⟨.refl _, rfl, linked⟩
  · exact linked.continues.breakOff _

theorem lockSettlement_continues (row : SettlementState) :
    (lockSettlement settings world held row now).Continues held := by
  unfold lockSettlement
  split
  · refine Held.Continues.mark ?_ .settlementLocked
    exact ⟨.refl _, rfl, linked⟩
  · exact linked.continues.abort

theorem startState_continues (row : SettlementState) :
    (startState world held row now).Continues held := by
  unfold startState
  dsimp only
  split
  · split
    · refine ⟨Held.Continues.mark ?_ .executionStarted, by simp [Held.mark]⟩
      exact ⟨.refl _, rfl, linked⟩
    · exact linked.continues.abort
  · exact ⟨linked.continues.mark .executionStarted, by simp [Held.mark]⟩

theorem advance_continues {stage : Stage}
    (advanced : advance settings world held voucherId nonce now = some stage) :
    stage.Continues held := by
  unfold advance at advanced
  split at advanced
  case h_1 =>
    obtain rfl := Option.some.inj advanced
    split
    · exact checkCapacity_continues linked
    · exact createContract_continues linked
  case h_2 =>
    obtain rfl := Option.some.inj advanced
    exact createVoucher_continues linked voucherId nonce now
  case h_3 there _ =>
    obtain rfl := Option.some.inj advanced
    exact answerVoucher_continues linked _ now ‹_›
  case h_4 =>
    obtain rfl := Option.some.inj advanced
    exact createSettlement_continues linked now
  case h_5 =>
    obtain rfl := Option.some.inj advanced
    exact lockSettlement_continues linked now _
  case h_6 =>
    obtain rfl := Option.some.inj advanced
    exact linked.continues.mark .handoffConfirmed
  case h_7 =>
    obtain rfl := Option.some.inj advanced
    exact startState_continues linked now _
  case h_8 => cases advanced

end Parts

/-! ## Steps -/

/-- The stage that a request moves to. -/
inductive Follows (platform : Platform) (settings : Settings) (world : World)
    (request : RequestNo) : Stage → Prop
  | received {launch : Launch} {text : String} (validated : validateLaunch settings launch = .ok text) :
      Follows platform settings world request (.received launch text)
  | unknown {launch : Launch} {text : String}
      (here : world.requests.get request = some (.received launch text)) :
      Follows platform settings world request (.unknown launch text)
  | specified {launch : Launch} {text : String} {taskId : TaskId} {now : ℚ} {spec : Spec}
      (here : world.requests.get request = some (.unknown launch text))
      (made : specify platform settings world launch text taskId now = .ok spec) :
      Follows platform settings world request (.specified launch text spec)
  | affordable {launch : Launch} {text : String} {spec : Spec} {policy : AutomationPolicy} {now : ℚ}
      {counted : Option (List Order)}
      (here : world.requests.get request = some (.specified launch text spec))
      (policed : world.policies launch.buyerIdentityId = some policy)
      (within : assertPreLaunchSpendingPolicy world.orders policy launch.buyerIdentityId
        spec.amount now = .ok counted) :
      Follows platform settings world request (.affordable launch text spec counted)
  | adding {launch : Launch} {text : String} {spec : Spec} {counted : Option (List Order)}
      {orderId : OrderId} {now : ℚ}
      (here : world.requests.get request = some (.affordable launch text spec counted)) :
      Follows platform settings world request
        (.adding { order := newOrder orderId launch text spec now, counted })
  | inserted {held : Held} (here : world.requests.get request = some (.adding held))
      (free : ¬world.Taken held.order) (alone : ¬world.Waits request (.running held)) :
      Follows platform settings world request (.running held)
  | advanced {held : Held} {voucherId : VoucherId} {nonce : String} {now : ℚ} {stage : Stage}
      (here : world.requests.get request = some (.running held))
      (part : advance settings world held voucherId nonce now = some stage) :
      Follows platform settings world request stage
  | aborted {held : Held} (here : world.requests.get request = some (.running held)) :
      Follows platform settings world request (.failing held.abort)
  | broken {held : Held} (here : world.requests.get request = some (.running held))
      (detail : String) :
      Follows platform settings world request (.failing (held.breakOff detail))
  | ended : Follows platform settings world request .ended

/-- What a step does. -/
inductive Effect (platform : Platform) (settings : Settings) (world : World) : Action → World → Prop
  | moved {action : Action} {request : RequestNo} {stage : Stage}
      (follows : Follows platform settings world request stage) :
      Effect platform settings world action (world.suspend request stage)
  | replayed {request : RequestNo} {launch : Launch} {text key : String} {existing : Order}
      (here : world.requests.get request = some (.received launch text))
      (keyed : launch.launchIdempotencyKey = some key)
      (known : findOrderByIdempotencyKey world.orders key = some existing)
      (same : assertIdempotentLaunchMatches existing launch
        (requirementFingerprint platform launch text) = .ok ()) :
      Effect platform settings world (.lookUp request)
        { world.suspend request .ended with
          replays := (launch, existing.orderId) :: world.replays }
  | committed {request : RequestNo} {held : Held}
      (here : world.requests.get request = some (.answered held)) :
      Effect platform settings world (.commit request)
        ((world.suspend request .ended).commit held)

/-- Nothing but the end of its transaction is left for a request. -/
def Stage.Over : Stage → Prop
  | .failing _ | .ended => True
  | _ => False

/-- The request that acts. -/
def Action.request : Action → RequestNo
  | .launch request _ | .lookUp request | .specify request .. | .sum request _
  | .sign request .. | .insert request | .advance request .. | .commit request
  | .raise request _ | .rollBack request => request

/-- A step that moves a request, one that is over only to a stage where it stays so. -/
def World.Moves (world : World) (request : RequestNo) (next : World) : Prop :=
  ∃ stage, next.requests = world.requests.set request stage ∧
    (stage.Over ∨ ∀ before, world.requests.get request = some before → ¬before.Over)

section Moves

variable {request : RequestNo}

theorem not_over {stage : Stage} (here : world.requests.get request = some stage)
    (going : ¬stage.Over) :
    ∀ before, world.requests.get request = some before → ¬before.Over := by
  intro before is
  obtain rfl := Option.some.inj (here.symm.trans is)
  exact going

theorem World.Moves.from {stage : Stage} (here : world.requests.get request = some stage)
    (going : ¬stage.Over) (next : Stage) : world.Moves request (world.suspend request next) :=
  ⟨next, rfl, .inr (not_over here going)⟩

theorem continue_effect {stage : Stage} {outcome : Except HttpError Stage}
    (here : world.requests.get request = some stage) (going : ¬stage.Over)
    (follows : ∀ stage, outcome = .ok stage → Follows platform settings world request stage) :
    Effect platform settings world action (world.continue request outcome) ∧
      world.Moves request (world.continue request outcome) := by
  cases outcome with
  | error error => exact ⟨.moved .ended, .from here going .ended⟩
  | ok stage => exact ⟨.moved (follows stage rfl), .from here going stage⟩

theorem lookUp_effect {launch : Launch} {text : String}
    (here : world.requests.get request = some (.received launch text)) :
    Effect platform settings world (.lookUp request) (lookUp platform world request launch text) ∧
      world.Moves request (lookUp platform world request launch text) := by
  unfold lookUp
  dsimp only
  split
  case h_1 => exact ⟨.moved (.unknown here), .from here id _⟩
  case h_2 existing known =>
      obtain ⟨key, named, known⟩ := Option.bind_eq_some_iff.mp known
      have keyed : launch.launchIdempotencyKey = some key := (Option.filter_eq_some_iff.mp named).1
      split
      case h_1 same => exact ⟨.replayed here keyed known same, .from here id .ended⟩
      case h_2 => exact ⟨.moved .ended, .from here id .ended⟩

theorem write_eq_some {stage : Stage} (written : world.write request stage = some next) :
    ¬world.Waits request stage ∧ next = world.suspend request stage := by
  unfold World.write at written
  split at written
  case isTrue => cases written
  case isFalse alone => exact ⟨alone, (Option.some.inj written).symm⟩

theorem raise_effect {stage raised : Stage} {failure : Failure}
    (here : world.requests.get request = some stage) (raises : stage.raise failure = some raised) :
    Follows platform settings world request raised ∧
      world.Moves request (world.suspend request raised) := by
  unfold Stage.raise at raises
  split at raises <;> cases raises
  case h_1 => exact ⟨.aborted here, .from here id _⟩
  case h_2 => exact ⟨.broken here _, .from here id _⟩
  all_goals exact ⟨.ended, .ended, rfl, .inl trivial⟩

end Moves

theorem perform_effect (taken : perform platform settings world action = some next) :
    Effect platform settings world action next ∧ world.Moves action.request next := by
  cases action with
  | launch request launch =>
      simp only [perform] at taken
      split at taken <;> cases taken
      case h_1 free validated =>
        refine ⟨.moved (.received validated), _, rfl, .inr ?_⟩
        intro before is
        cases free.symm.trans is
      case h_2 => exact ⟨.moved .ended, _, rfl, .inl trivial⟩
  | lookUp request =>
      simp only [perform] at taken
      split at taken <;> cases taken
      case h_1 here => exact lookUp_effect here
  | specify request taskId now =>
      simp only [perform] at taken
      split at taken <;> cases taken
      case h_1 here =>
        apply continue_effect here id
        intro stage outcome
        obtain ⟨spec, made, rfl⟩ := map_eq_ok.mp outcome
        exact .specified here made
  | sum request now =>
      simp only [perform] at taken
      split at taken
      case h_1 here =>
        split at taken <;> cases taken
        case h_1 policed =>
          apply continue_effect here id
          intro stage outcome
          obtain ⟨counted, within, rfl⟩ := map_eq_ok.mp outcome
          exact .affordable here policed within
      case h_2 => cases taken
  | sign request orderId now =>
      simp only [perform] at taken
      split at taken <;> cases taken
      case h_1 here => exact ⟨.moved (.adding here), .from here id _⟩
  | insert request =>
      simp only [perform] at taken
      split at taken
      case h_1 here =>
        split at taken
        case isTrue =>
          cases taken
          exact ⟨.moved .ended, _, rfl, .inl trivial⟩
        case isFalse free =>
          obtain ⟨alone, rfl⟩ := write_eq_some taken
          exact ⟨.moved (.inserted here free alone), .from here id _⟩
      case h_2 => cases taken
  | advance request voucherId nonce now =>
      simp only [perform] at taken
      split at taken
      case h_1 here =>
        split at taken
        case h_1 part =>
          obtain ⟨-, rfl⟩ := write_eq_some taken
          exact ⟨.moved (.advanced here part), .from here id _⟩
        case h_2 => cases taken
      case h_2 => cases taken
  | commit request =>
      simp only [perform] at taken
      split at taken <;> cases taken
      case h_1 here => exact ⟨.committed here, .ended, rfl, .inl trivial⟩
  | raise request failure =>
      simp only [perform] at taken
      split at taken
      case h_1 here =>
        obtain ⟨raised, raises, rfl⟩ := Option.map_eq_some_iff.mp taken
        exact (raise_effect here raises).imp_left .moved
      case h_2 => cases taken
  | rollBack request =>
      simp only [perform] at taken
      split at taken <;> cases taken
      case h_1 => exact ⟨.moved .ended, .ended, rfl, .inl trivial⟩

end TrustChain.TradeLaunch
