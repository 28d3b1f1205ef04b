import TrustChain.TradeLaunch.Steps

/-!
# One order for a key

A fingerprint stands for the requirement it was made of, so a replay is answered only with an order
of the same terms. No two orders have one key: while a transaction holds an order, no other inserts
one with its key.
-/

namespace TrustChain.TradeLaunch

open Library Service

/-- Digests and numbers are told apart by their texts, and none has a bar in it. -/
structure Platform.Sound (platform : Platform) : Prop where
  sha256_injective : Function.Injective platform.sha256
  sha256_plain : ∀ text, '|' ∉ (platform.sha256 text).toList
  sha256_ne_empty : ∀ text, platform.sha256 text ≠ ""
  str_injective : Function.Injective platform.str
  str_plain : ∀ amount, '|' ∉ (platform.str amount).toList
  str_ne_empty : ∀ amount, platform.str amount ≠ ""

variable {platform : Platform} {settings : Settings} {world next : World} {action : Action}

/-! ## Fingerprints -/

theorem cut_inj {α : Type*} {separator : α} {first other rest more : List α}
    (plain : separator ∉ first) (otherPlain : separator ∉ other)
    (same : first ++ separator :: rest = other ++ separator :: more) :
    first = other ∧ rest = more := by
  induction first generalizing other with
  | nil =>
      cases other with
      | nil => exact ⟨rfl, (List.cons.inj same).2⟩
      | cons head tail =>
          obtain rfl := (List.cons.inj same).1
          exact absurd List.mem_cons_self otherPlain
  | cons head tail ih =>
      cases other with
      | nil =>
          obtain rfl := (List.cons.inj same).1
          exact absurd List.mem_cons_self plain
      | cons head' tail' =>
          obtain ⟨rfl, later⟩ := List.cons.inj same
          obtain ⟨rfl, rests⟩ := ih (List.not_mem_of_not_mem_cons plain)
            (List.not_mem_of_not_mem_cons otherPlain) later
          exact ⟨rfl, rests⟩

/-- What stands before the first bar. -/
theorem bar_inj {first other rest more : String} (plain : '|' ∉ first.toList)
    (otherPlain : '|' ∉ other.toList) (same : first ++ "|" ++ rest = other ++ "|" ++ more) :
    first = other ∧ rest = more := by
  have chars : first.toList ++ '|' :: rest.toList = other.toList ++ '|' :: more.toList := by
    simpa using congrArg String.toList same
  obtain ⟨firsts, rests⟩ := cut_inj plain otherPlain chars
  exact ⟨String.toList_injective firsts, String.toList_injective rests⟩

theorem amountText_plain (sound : platform.Sound) (amount : Option ℚ) :
    '|' ∉ (amountText platform amount).toList := by
  cases amount with
  | none => simp [amountText]
  | some amount => exact sound.str_plain amount

theorem amountText_injective (sound : platform.Sound) :
    Function.Injective (amountText platform) := by
  intro amount other same
  cases amount with
  | none =>
      cases other with
      | none => rfl
      | some other => exact absurd same.symm (sound.str_ne_empty other)
  | some amount =>
      cases other with
      | none => exact absurd same (sound.str_ne_empty amount)
      | some other => exact congrArg some (sound.str_injective same)

/-- Between the same parties, a fingerprint stands for the text, the amount and the task type. -/
theorem requirementFingerprint_inj (sound : platform.Sound) {launch other : Launch}
    {text another : String} (buyer : launch.buyerIdentityId = other.buyerIdentityId)
    (seller : launch.sellerIdentityId = other.sellerIdentityId)
    (same : requirementFingerprint platform launch text =
      requirementFingerprint platform other another) :
    text = another ∧ launch.amount = other.amount ∧
      launch.trimmedTaskType = other.trimmedTaskType := by
  have joined := sound.sha256_injective same
  simp only [String.intercalate_cons_cons, String.intercalate_singleton, buyer, seller,
    String.append_right_inj] at joined
  obtain ⟨digests, rest⟩ := bar_inj (sound.sha256_plain text) (sound.sha256_plain another) joined
  obtain ⟨amounts, types⟩ := bar_inj (amountText_plain sound _) (amountText_plain sound _) rest
  exact ⟨sound.sha256_injective digests, amountText_injective sound amounts, types⟩

/-! ## What an order was asked for -/

/-- The specification of a launch, up to its identifier and its precision. -/
structure Spec.Of (platform : Platform) (launch : Launch) (text : String) (spec : Spec) : Prop where
  amount : spec.amount = parsedAmount platform launch text
  taskType : spec.taskType = parsedType platform launch text
  requirementFingerprint :
    spec.requirementFingerprint = TradeLaunch.requirementFingerprint platform launch text

/-- The order has the parties, the requirement, the amount, the task type and the key of a launch. -/
structure Order.AskedBy (platform : Platform) (launch : Launch) (order : Order) : Prop where
  buyerIdentityId : order.buyerIdentityId = launch.buyerIdentityId
  sellerIdentityId : order.sellerIdentityId = launch.sellerIdentityId
  requirementText : order.requirementText = Runtime.strip launch.requirementText
  decomposedSpec : order.decomposedSpec.Of platform launch order.requirementText
  launchIdempotencyKey : order.launchIdempotencyKey = launch.launchIdempotencyKey

theorem specify_of {launch : Launch} {text : String} {taskId : TaskId} {now : ℚ} {spec : Spec}
    (made : specify platform settings world launch text taskId now = .ok spec) :
    spec.Of platform launch text := by
  unfold specify clampSpecToPolicies assertSingleLimit at made
  simp only [bind_eq_ok, require_eq_ok] at made
  obtain ⟨_, _, _, _, _, _, _, _, _, _, _, _, _, _, _, _, made⟩ := made
  obtain rfl := Except.ok.inj made
  exact ⟨rfl, rfl, rfl⟩

theorem validateLaunch_text {launch : Launch} {text : String}
    (validated : validateLaunch settings launch = .ok text) :
    text = Runtime.strip launch.requirementText := by
  unfold validateLaunch validateRequirementText at validated
  simp only [bind_eq_ok, require_eq_ok] at validated
  obtain ⟨_, _, found, ⟨_, _, _, _, stripped⟩, _, _, same⟩ := validated
  exact (Except.ok.inj same).symm.trans (Except.ok.inj stripped).symm

/-- An order that a launch matches is what the launch asks for. -/
theorem askedBy_of_matches (sound : platform.Sound) {launch asked : Launch} {text : String}
    {order : Order} (stripped : text = Runtime.strip launch.requirementText)
    (genuine : order.AskedBy platform asked)
    (keyed : order.launchIdempotencyKey = launch.launchIdempotencyKey)
    (same : assertIdempotentLaunchMatches order launch
      (requirementFingerprint platform launch text) = .ok ()) :
    order.AskedBy platform launch := by
  have held := require_eq_ok.mp same
  obtain ⟨buyer, seller, fingerprint⟩ := held
  rw [genuine.decomposedSpec.requirementFingerprint] at fingerprint
  have fingerprints := fingerprint.resolve_left (sound.sha256_ne_empty _)
  obtain ⟨texts, amounts, types⟩ := requirementFingerprint_inj sound
    (genuine.buyerIdentityId.symm.trans buyer) (genuine.sellerIdentityId.symm.trans seller)
    fingerprints
  have amount : parsedAmount platform asked order.requirementText =
      parsedAmount platform launch order.requirementText := by
    rw [parsedAmount, parsedAmount, amounts]
  have type : parsedType platform asked order.requirementText =
      parsedType platform launch order.requirementText := by
    rw [parsedType, parsedType, types]
  exact {
    buyerIdentityId := buyer
    sellerIdentityId := seller
    requirementText := texts.trans stripped
    decomposedSpec :=
      { amount := genuine.decomposedSpec.amount.trans amount
        taskType := genuine.decomposedSpec.taskType.trans type
        requirementFingerprint := by
          rw [genuine.decomposedSpec.requirementFingerprint, fingerprints, texts] }
    launchIdempotencyKey := keyed }

theorem Order.MadeAs.askedBy {order made : Order} (same : order.MadeAs made) {launch : Launch}
    (asked : made.AskedBy platform launch) : order.AskedBy platform launch where
  buyerIdentityId := same.buyerIdentityId.trans asked.buyerIdentityId
  sellerIdentityId := same.sellerIdentityId.trans asked.sellerIdentityId
  requirementText := same.requirementText.trans asked.requirementText
  decomposedSpec := by
    rw [same.decomposedSpec, same.requirementText]
    exact asked.decomposedSpec
  launchIdempotencyKey := same.launchIdempotencyKey.trans asked.launchIdempotencyKey

/-! ## What a request holds is genuine -/

def Order.Genuine (platform : Platform) (order : Order) : Prop :=
  ∃ launch, order.AskedBy platform launch

structure Held.Sound (platform : Platform) (held : Held) : Prop where
  linked : held.Linked
  genuine : held.order.Genuine platform

theorem Held.Continues.sound {held earlier : Held} (continues : held.Continues earlier)
    (before : earlier.Sound platform) : held.Sound platform where
  linked := continues.linked
  genuine := before.genuine.imp fun _ asked => continues.madeAs.askedBy asked

def Stage.Sound (platform : Platform) : Stage → Prop
  | .received launch text | .unknown launch text => text = Runtime.strip launch.requirementText
  | .specified launch text spec | .affordable launch text spec _ =>
      text = Runtime.strip launch.requirementText ∧ spec.Of platform launch text
  | .adding held | .running held | .failing held => held.Sound platform
  | .answered held =>
      held.Sound platform ∧ held.order.status ∈ [OrderStatus.rejected, .executionStarted]
  | .ended => True

theorem Stage.Continues.sound {stage : Stage} {earlier : Held} (continues : stage.Continues earlier)
    (before : earlier.Sound platform) : stage.Sound platform := by
  cases stage with
  | running held => exact Held.Continues.sound continues before
  | failing held => exact Held.Continues.sound continues before
  | answered held => exact ⟨continues.1.sound before, continues.2⟩
  | _ => cases continues

/-- Every request is at a sound stage, and every order is stored under its identifier, is what some
launch asked for, and has been rejected or executed. -/
structure World.Sound (platform : Platform) (world : World) : Prop where
  stages : world.requests.Every fun _ stage => stage.Sound platform
  orders : world.orders.Every fun orderId order => order.orderId = orderId ∧
    order.Genuine platform ∧ order.status ∈ [OrderStatus.rejected, .executionStarted]

theorem Follows.sound {request : RequestNo} {stage : Stage} (inv : world.Sound platform)
    (follows : Follows platform settings world request stage) : stage.Sound platform := by
  cases follows with
  | received validated => exact validateLaunch_text validated
  | unknown here => exact (inv.stages _ _ here : Stage.Sound platform (.received ..))
  | specified here made => exact ⟨inv.stages _ _ here, specify_of made⟩
  | affordable here => exact (inv.stages _ _ here : Stage.Sound platform (.specified ..))
  | @adding launch text spec counted orderId now here =>
      obtain ⟨stripped, specified⟩ : Stage.Sound platform (.affordable ..) := inv.stages _ _ here
      exact ⟨fun _ none => (by cases none), launch, rfl, rfl, stripped, specified, rfl⟩
  | inserted here => exact (inv.stages _ _ here : Stage.Sound platform (.adding _))
  | advanced here part =>
      have before : Held.Sound platform _ := inv.stages _ _ here
      exact (advance_continues before.linked _ _ _ part).sound before
  | aborted here =>
      have before : Held.Sound platform _ := inv.stages _ _ here
      exact before.linked.continues.abort.sound before
  | broken here detail =>
      have before : Held.Sound platform _ := inv.stages _ _ here
      exact (before.linked.continues.breakOff detail).sound before
  | ended => trivial

theorem World.Sound.step (inv : world.Sound platform)
    (effect : Effect platform settings world action next) : next.Sound platform := by
  cases effect with
  | moved follows => exact ⟨inv.stages.set (follows.sound inv), inv.orders⟩
  | replayed => exact ⟨inv.stages.set trivial, inv.orders⟩
  | committed here =>
      obtain ⟨sound, status⟩ : Stage.Sound platform (.answered _) := inv.stages _ _ here
      exact ⟨inv.stages.set trivial, inv.orders.set ⟨rfl, sound.genuine, status⟩⟩

theorem sound_of_reachable (reachable : (system platform settings).Reachable world) :
    world.Sound platform := by
  refine reachable.invariant (fun state initial => ?_) (fun state action next _ inv step => ?_)
  · obtain ⟨db, policies, runtimeKeys, rfl⟩ := initial
    exact ⟨Table.every_empty _, Table.every_empty _⟩
  · exact inv.step (perform_effect step).1

end TrustChain.TradeLaunch
