import TrustChain.Library.Transition
import TrustChain.Registry.Operations

/-!
# The registry as a transition system

Successful calls of the registry, by anybody but itself, interleaved with the token
operations of everybody else. A call that reverts leaves no trace, so it is no step.
-/

namespace TrustChain.Registry

open Library Function

/-- The arguments of type `uint256` are words. -/
def Call.Typed : Call → Prop
  | .registerVerifier _ _ stakeAmount => stakeAmount < wordSize
  | .setThresholds threshold totalVerifiers => threshold < wordSize ∧ totalVerifiers < wordSize
  | .setStakingConfig _ minStake reward => minStake < wordSize ∧ reward < wordSize
  | .stake amount | .unstake amount | .slash _ amount _ | .rewardVerifier _ amount =>
      amount < wordSize
  | .setAuthorizedCaller .. | .removeVerifier _ | .suspendVerifier _ | .activateVerifier _
  | .recordAttestation .. => True

instance : DecidablePred Call.Typed
  | .registerVerifier _ _ stakeAmount => inferInstanceAs (Decidable (stakeAmount < wordSize))
  | .setThresholds threshold totalVerifiers =>
      inferInstanceAs (Decidable (threshold < wordSize ∧ totalVerifiers < wordSize))
  | .setStakingConfig _ minStake reward =>
      inferInstanceAs (Decidable (minStake < wordSize ∧ reward < wordSize))
  | .stake amount | .unstake amount | .slash _ amount _ | .rewardVerifier _ amount =>
      inferInstanceAs (Decidable (amount < wordSize))
  | .setAuthorizedCaller .. | .removeVerifier _ | .suspendVerifier _ | .activateVerifier _
  | .recordAttestation .. => inferInstanceAs (Decidable True)

/-- What can happen next: a call of the registry, or a token operation of somebody else. -/
inductive Action where
  | call (sender : Address) (ext : Externals) (call : Call)
  | token (token : Address) (operation : Erc20.Operation Address)

/-- Perform an action, if it is possible now. -/
def perform (deployment : Deployment) (world : World) : Action → Option World
  | .call sender ext call =>
      if sender ≠ deployment.self ∧ call.Typed then
        (dispatch deployment ext sender world call).toOption
      else none
  | .token token operation =>
      if operation.caller = some deployment.self then none
      else ((world.tokens token).run operation).map fun ledger =>
        { world with tokens := update world.tokens token ledger }

/-- The registry and the tokens. Before deployment it has approved nobody. -/
def system (deployment : Deployment) : TransitionSystem World Action where
  Init world := world.storage = {} ∧
    ∀ token, (world.tokens token).Unapproved deployment.self
  Step world action next := perform deployment world action = some next

section Steps

variable {deployment : Deployment} {world next : World} {action : Action}

theorem step_call {sender : Address} {ext : Externals} {call : Call} :
    (system deployment).Step world (.call sender ext call) next ↔
      (sender ≠ deployment.self ∧ call.Typed) ∧
        dispatch deployment ext sender world call = .ok next := by
  change perform deployment world (.call sender ext call) = some next ↔ _
  by_cases possible : sender ≠ deployment.self ∧ call.Typed
  · rw [perform, if_pos possible, toOption_eq_some]
    exact (and_iff_right possible).symm
  · rw [perform, if_neg possible]
    exact ⟨nofun, fun taken => absurd taken.1 possible⟩

theorem step_token {token : Address} {operation : Erc20.Operation Address} :
    (system deployment).Step world (.token token operation) next ↔
      operation.caller ≠ some deployment.self ∧
      ∃ ledger, (world.tokens token).run operation = some ledger ∧
        next = { world with tokens := update world.tokens token ledger } := by
  change perform deployment world (.token token operation) = some next ↔ _
  by_cases own : operation.caller = some deployment.self
  · simp [perform, own]
  · simp [perform, own, eq_comm]

theorem step_unique {other : World} (step : (system deployment).Step world action next)
    (again : (system deployment).Step world action other) : next = other :=
  Option.some.inj (step.symm.trans again)

end Steps

/-! ## A small deployment to run the registry on -/

namespace Demo

def admin : Address := 2
def usd : Address := 5
def verifier : Address := 10
def other : Address := 11

theorem admin_ne_zero : admin ≠ 0 := by decide

def deployment : Deployment := ⟨8, admin, admin_ne_zero⟩

theorem start_init : (system deployment).Init {} :=
  ⟨rfl, fun _ _ => rfl⟩

def call (sender : Address) (call : Call) : Action := .call sender {} call

def token (operation : Erc20.Operation Address) : Action := .token usd operation

/-- A verifier is registered, and stakes 100 units. -/
def staking : List Action :=
  [token (.mint verifier 100), token (.approve verifier deployment.self 100),
    call admin (.setStakingConfig usd 0 0), call admin (.registerVerifier verifier "" 0),
    call verifier (.stake 100)]

end Demo

end TrustChain.Registry
