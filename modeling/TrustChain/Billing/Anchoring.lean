import Mathlib.Algebra.Order.Field.Rat
import Mathlib.Data.Finset.Basic
import TrustChain.Library.Transition

/-!
# The anchoring bridge

The bridge between the receipts of a task and the Merkle anchor. Its coroutines are
suspended at their awaits: fetching the receipts, appending a batch and marking it are
three steps, and anything can happen between them. The calls to `append_batch` succeed.
-/

namespace TrustChain.Billing

open Library Function

abbrev TaskId := String

/-- A receipt, as far as the bridge reads it. -/
structure Receipt where
  id : Option String
deriving DecidableEq, Repr

/-- `receipt.get("id", f"rec-{index}")`. -/
def Receipt.key (receipt : Receipt) (index : Nat) : String :=
  receipt.id.getD ("rec-" ++ toString index)

/-- The slice `list[:limit]`: a negative limit leaves the last elements out. -/
def sliceTo {α : Type*} (limit : Int) (list : List α) : List α :=
  list.take (if 0 ≤ limit then limit.toNat else list.length - limit.natAbs)

/-! ## The receipts in memory -/

structure SimpleMemReceiptSync where
  receipts : TaskId → List Receipt := fun _ => []
  states : TaskId → Option String := fun _ => none
  anchored : TaskId → Finset String := fun _ => ∅

/-- Receipts with their positions among the receipts of their task. -/
abbrev Batch := List (Receipt × Nat)

def Batch.positions (batch : Batch) : List Nat := batch.map Prod.snd

def Batch.keys (batch : Batch) : List String := batch.map fun entry => entry.1.key entry.2

namespace SimpleMemReceiptSync

variable (sync : SimpleMemReceiptSync)

def addReceipt (task : TaskId) (receipt : Receipt) : SimpleMemReceiptSync :=
  { sync with receipts := update sync.receipts task (sync.receipts task ++ [receipt]) }

def setState (task : TaskId) (state : String) : SimpleMemReceiptSync :=
  { sync with states := update sync.states task (some state) }

def entries (task : TaskId) : Batch := (sync.receipts task).zipIdx

/-- The receipts that have not been anchored yet. -/
def unanchored (task : TaskId) : Batch :=
  (sync.entries task).filter fun entry => entry.1.key entry.2 ∉ sync.anchored task

def getUnanchoredReceipts (task : TaskId) (limit : Int) : Batch :=
  sliceTo limit (sync.unanchored task)

def getTaskState (task : TaskId) : String := (sync.states task).getD "unknown"

def markAnchored (task : TaskId) (receiptIds : List String) : SimpleMemReceiptSync :=
  { sync with
    anchored := update sync.anchored task (sync.anchored task ∪ receiptIds.toFinset) }

end SimpleMemReceiptSync

/-! ## The bridge -/

structure AnchoringPolicy where
  anchorEveryNReceipts : Int := 3
  anchorEveryNSeconds : Int := 30
  anchorOnStateChange : Bool := true
  anchorOnMilestone : Bool := true
  forceAnchorStates : List String :=
    ["funded", "delivered", "verified", "settled", "disputed", "frozen"]
  maxBatchSize : Int := 10
  minBatchSize : Int := 1

/-- The tracking state of a task. The bridge shares these objects among its coroutines. -/
structure AnchoringState where
  unanchoredCount : Nat := 0
  lastAnchorTime : ℚ := 0
  lastState : String := ""
  totalAnchored : Nat := 0

/-- Where a coroutine is suspended, with its local variables. -/
inductive Coroutine where
  /-- `check_and_anchor`, awaiting the task's state. -/
  | readState (task : TaskId) (object : Nat)
  /-- `check_and_anchor`, awaiting the receipts. -/
  | fetchChecked (task : TaskId) (object : Nat) (currentState : String) (stateChanged : Bool)
  /-- `force_anchor`, awaiting the receipts. -/
  | fetchForced (task : TaskId)
  /-- `_do_anchor`, having passed a batch to `append_batch`. -/
  | append (task : TaskId) (batch : Batch)
  /-- `_do_anchor`, awaiting `mark_anchored`. -/
  | mark (task : TaskId) (batch : Batch) (object : Nat)
  | returned

/-- The receipts store, the state objects, and the bridge's references to them. -/
structure AnchoringBridge where
  sync : SimpleMemReceiptSync := {}
  objects : List AnchoringState := []
  states : TaskId → Option Nat := fun _ => none

/-- `check_and_anchor` forces the anchoring on entering some states: a first check by the
state itself, and a second one, of milestones, by the same states. -/
def AnchoringPolicy.forces (policy : AnchoringPolicy) (currentState : String)
    (stateChanged : Bool) : Bool :=
  (stateChanged && policy.forceAnchorStates.contains currentState) ||
    (policy.anchorOnMilestone && stateChanged && policy.forceAnchorStates.contains currentState)

/-- Whether `check_and_anchor` anchors what it has fetched: by count, by time, or because
the state has changed. -/
def AnchoringPolicy.due (policy : AnchoringPolicy) (count : Nat) (lastAnchorTime now : ℚ)
    (stateChanged : Bool) : Bool :=
  (0 < policy.anchorEveryNReceipts && policy.anchorEveryNReceipts ≤ count) ||
  (0 < policy.anchorEveryNSeconds && 0 < lastAnchorTime &&
    policy.anchorEveryNSeconds ≤ now - lastAnchorTime && policy.minBatchSize ≤ count) ||
  (policy.anchorOnStateChange && stateChanged)

/-- The start of `_do_anchor`, up to the call of `append_batch`. -/
def doAnchor (task : TaskId) (receipts : Batch) : Coroutine :=
  if receipts.isEmpty then .returned else .append task receipts

namespace AnchoringBridge

variable (policy : AnchoringPolicy) (now : ℚ) (bridge : AnchoringBridge)

def object (index : Nat) : AnchoringState := bridge.objects.getD index {}

/-- A reference to the task's state object, or to a new one that is not stored yet. -/
def stateOf (task : TaskId) : AnchoringBridge × Nat :=
  match bridge.states task with
  | some index => (bridge, index)
  | none => ({ bridge with objects := bridge.objects ++ [{}] }, bridge.objects.length)

def checkAndAnchor (task : TaskId) : AnchoringBridge × Coroutine :=
  let (bridge, index) := bridge.stateOf task
  ({ bridge with states := update bridge.states task (some index) }, .readState task index)

/-- The batch that a coroutine would fetch now. -/
def fetch (task : TaskId) : Batch :=
  bridge.sync.getUnanchoredReceipts task policy.maxBatchSize

/-- Run a coroutine from one await to the next: the awaited call, and what follows it. -/
def resume : Coroutine → AnchoringBridge × Coroutine
  | .readState task index =>
      let currentState := bridge.sync.getTaskState task
      let stateChanged := currentState ≠ (bridge.object index).lastState
      if policy.forces currentState stateChanged then (bridge, .fetchForced task)
      else (bridge, .fetchChecked task index currentState stateChanged)
  | .fetchChecked task index currentState stateChanged =>
      let receipts := bridge.fetch policy task
      let state := { bridge.object index with
        unanchoredCount := receipts.length, lastState := currentState }
      let fetched := { bridge with objects := bridge.objects.set index state }
      if policy.due state.unanchoredCount state.lastAnchorTime now stateChanged then
        (fetched, doAnchor task receipts)
      else (fetched, .returned)
  | .fetchForced task => (bridge, doAnchor task (bridge.fetch policy task))
  | .append task batch =>
      let (bridge, index) := bridge.stateOf task
      (bridge, .mark task batch index)
  | .mark task batch index =>
      let receiptIds := batch.map fun entry => entry.1.id.getD ""
      let state := { bridge.object index with
        lastAnchorTime := now
        totalAnchored := (bridge.object index).totalAnchored + batch.length
        unanchoredCount := 0 }
      ({ sync := bridge.sync.markAnchored task receiptIds
         objects := bridge.objects.set index state
         states := update bridge.states task (some index) }, .returned)
  | .returned => (bridge, .returned)

end AnchoringBridge

/-! ## Interleavings -/

/-- The bridge, its coroutines, and the batches that `append_batch` has been passed. -/
structure World where
  bridge : AnchoringBridge := {}
  coroutines : List Coroutine := []
  batches : List (TaskId × Batch) := []

inductive Action where
  | addReceipt (task : TaskId) (receipt : Receipt)
  | setState (task : TaskId) (state : String)
  | checkAndAnchor (task : TaskId)
  | forceAnchor (task : TaskId)
  | resume (index : Nat) (now : ℚ)

/-- The call of `append_batch` that a coroutine has just made. -/
def Coroutine.call : Coroutine → List (TaskId × Batch)
  | .append task batch => [(task, batch)]
  | _ => []

namespace World

variable (world : World)

/-- Start a coroutine. -/
def start (bridge : AnchoringBridge) (coroutine : Coroutine) : World :=
  { world with bridge, coroutines := world.coroutines ++ [coroutine] }

/-- A coroutine has been run to its next await. -/
def advance (index : Nat) (bridge : AnchoringBridge) (coroutine : Coroutine) : World where
  bridge
  coroutines := world.coroutines.set index coroutine
  batches := world.batches ++ coroutine.call

/-- The positions that `append_batch` has been passed for a task. -/
def passed (task : TaskId) : List Nat :=
  (world.batches.filter fun call => call.1 = task).flatMap fun call => Batch.positions call.2

end World

/-- Perform an action, if it is possible now. -/
def perform (policy : AnchoringPolicy) (world : World) : Action → Option World
  | .addReceipt task receipt =>
      some { world with
        bridge := { world.bridge with sync := world.bridge.sync.addReceipt task receipt } }
  | .setState task state =>
      some { world with
        bridge := { world.bridge with sync := world.bridge.sync.setState task state } }
  | .checkAndAnchor task =>
      let (bridge, coroutine) := world.bridge.checkAndAnchor task
      some (world.start bridge coroutine)
  | .forceAnchor task => some (world.start world.bridge (.fetchForced task))
  | .resume index now =>
      match world.coroutines[index]? with
      | none | some .returned => none
      | some coroutine =>
          let (bridge, coroutine) := world.bridge.resume policy now coroutine
          some (world.advance index bridge coroutine)

/-- Any interleaving of the callers and of the coroutines, from an empty bridge. -/
def anchoring (policy : AnchoringPolicy) : TransitionSystem World Action where
  Init world := world = {}
  Step world action next := perform policy world action = some next

end TrustChain.Billing
