import TrustChain.Bilateral.Attested
import TrustChain.Gateway.Effects

/-!
# Settlement by attestation

The guarantee is spread over two contracts: the bilateral one lets only its gateway settle
an attested binding, and the gateway settles only behind its gates. It takes a run in
which no other gateway is ever set.
-/

namespace TrustChain.Gateway

open Library Function Bilateral.Storage

section Actions

variable {deployment : Deployment}

/-- The action of the bilateral contract that an action amounts to. -/
def Action.made : Action deployment → Option (Bilateral.Action deployment.bilateral)
  | .bilateral action => some action
  | .gateway msg ext (.settleWithAttestation _ bindingId proofHash) =>
      some (.call (deployment.forward msg) ext.bilateral (.settle bindingId proofHash))
  | _ => none

/-- The bilateral contract is not given another gateway. -/
def KeepsGateway (action : Action deployment) : Prop :=
  ∀ made, action.made = some made →
    ∀ gateway, made.Sets (.setAttestationGateway gateway) → gateway = deployment.self

end Actions

section Protocol

variable {deployment : Deployment} {start world next : World} {action : Action deployment}
  {actions : List (Action deployment)} {bindingId : Nat}

/-- A step leaves the storage of the bilateral contract alone, or is a step of that
contract, in which the gateway deposits nothing. -/
theorem Seen.storage {bilateral : Bilateral.World} (seen : Seen deployment world action bilateral) :
    bilateral.storage = world.bilateral.storage ∨
      ∃ made, action.made = some made ∧
        (Bilateral.system deployment.bilateral).Step world.bilateral made bilateral ∧
        ∀ msg ext call, made = .call msg ext call → msg.sender = deployment.self →
          ∀ token amount, call ≠ .lock token amount := by
  cases seen with
  | direct action now next clocked taken =>
      refine .inr ⟨action, rfl, taken, ?_⟩
      rintro msg ext call rfl isGateway
      simp only [clock, Option.ite_none_right_eq_some] at clocked
      exact absurd isGateway clocked.1.1
  | settled msg ext taskId bindingId proofHash next settleable taken =>
      refine .inr ⟨_, rfl, taken, ?_⟩
      rintro _ _ _ ⟨⟩ - token amount
      simp
  | aside action tokens moves => exact .inl rfl

/-- The gateway never owns a bill of the bilateral contract. -/
theorem reachable_noBill (reachable : (system deployment).Reachable world) :
    Bilateral.NoBill deployment.self world.bilateral.storage := by
  refine reachable.invariant (fun state initial => ?_) (fun state action next earlier noBill step => ?_)
  · rw [initial.1.1]
    exact fun billId issued => absurd rfl issued
  · rcases (reachable_seen earlier step).storage with same | ⟨made, -, taken, idle⟩
    · rwa [same]
    · cases made with
      | token token operation =>
          obtain ⟨-, ledger, -, rest⟩ := Bilateral.step_token.mp taken
          rw [rest]
          exact noBill
      | call msg ext call =>
          exact Bilateral.step_noBill (reachable_bilateral earlier).1 taken (idle msg ext call rfl)
            noBill

/-- The bilateral contract has no gateway yet, or this one. -/
def Guarded (deployment : Deployment) (storage : Bilateral.Storage) : Prop :=
  storage.config.attestationGateway = 0 ∨ storage.config.attestationGateway = deployment.self

theorem run_guarded (initial : (system deployment).Init start)
    (run : ((system deployment).restrict fun _ action => KeepsGateway action).Run start actions
      world) : Guarded deployment world.bilateral.storage := by
  have guarded : Guarded deployment start.bilateral.storage := .inl (by rw [initial.1.1])
  refine run.preserves_restricted (fun state action next earlier guarded step keeps => ?_)
    (.init initial) guarded
  rcases (reachable_seen earlier step).storage with same | ⟨made, made_eq, taken, -⟩
  · rwa [same]
  · rcases (Bilateral.step_writes (reachable_bilateral earlier).1 taken).2 with same | sets
    · unfold Guarded
      rwa [same]
    · exact .inr (keeps made made_eq _ sets)

/-- How a binding that requires an attestation leaves its first states. -/
inductive Exit (deployment : Deployment) (world : World) (bindingId : Nat) :
    Action deployment → World → Prop
  | settled (msg : Message) (ext : Externals) (taskId proofHash : Bytes32) (next : World) :
      Settleable world msg.timestamp taskId bindingId proofHash →
      (next.bilateral.storage.bindings bindingId).state = .settled →
      (next.bilateral.storage.bindings bindingId).proofHash = world.storage.taskEvidence taskId →
      Exit deployment world bindingId
        (.gateway msg ext (.settleWithAttestation taskId bindingId proofHash)) next
  | refunded (msg : Bilateral.Message deployment.bilateral) (ext : Bilateral.Externals)
      (next : World) :
      msg.sender = world.bilateral.storage.buyerOwner bindingId →
      (next.bilateral.storage.bindings bindingId).state = .refunded →
      Exit deployment world bindingId (.bilateral (.call msg ext (.refundOnTimeout bindingId))) next

theorem step_exit (reachable : (system deployment).Reachable world)
    (guarded : Guarded deployment world.bilateral.storage)
    (step : (system deployment).Step world action next)
    (attested : world.bilateral.storage.requiresAttestation bindingId = true)
    (waiting : (world.bilateral.storage.bindings bindingId).state.Waiting)
    (moved : ¬(next.bilateral.storage.bindings bindingId).state.Waiting) :
    Exit deployment world bindingId action next := by
  have earlier := (reachable_bilateral reachable).1
  have seen := reachable_seen reachable step
  generalize here : next.bilateral = bilateral at seen
  cases seen with
  | direct action now bilateral clocked taken =>
      rw [← here] at taken
      cases Bilateral.step_attested_exit earlier taken attested waiting moved with
      | settled msg ext proofHash bilateral isGateway settled proofHash_eq =>
          simp only [clock, Option.ite_none_right_eq_some] at clocked
          rw [isGateway] at clocked
          rcases guarded with none | own
          · exact absurd (isGateway.trans none) msg.sender_ne_zero
          · exact absurd own clocked.1.1
      | refunded msg ext bilateral buyer refunded => exact .refunded msg ext next buyer refunded
  | settled msg ext taskId settledId proofHash bilateral settleable taken =>
      rw [← here] at taken
      cases Bilateral.step_attested_exit earlier taken attested waiting moved with
      | settled _ _ _ _ isGateway settled proofHash_eq =>
          exact .settled msg ext taskId proofHash next settleable settled
            (proofHash_eq.trans settleable.evidence_eq.symm)
  | aside action tokens moves =>
      rw [here] at moved
      exact absurd waiting moved

/-- What a settlement through the gateway is for the bilateral contract. -/
theorem settlement_settles {msg : Message} {ext : Externals} {taskId proofHash : Bytes32}
    (reachable : (system deployment).Reachable world)
    (step : (system deployment).Step world
      (.gateway msg ext (.settleWithAttestation taskId bindingId proofHash)) next) :
    Settleable world msg.timestamp taskId bindingId proofHash ∧
      Bilateral.SettledAtOnce world.bilateral bindingId proofHash next.bilateral := by
  obtain ⟨settleable, taken⟩ := step_settlement reachable step
  exact ⟨settleable, Bilateral.settle_noBill (reachable_bilateral reachable).1 taken
    (reachable_noBill reachable)⟩

/-- A binding without attestation that is settled was submitted before. -/
theorem settled_visits (initial : (system deployment).Init start)
    (run : (system deployment).Run start actions world)
    (unattested : world.bilateral.storage.requiresAttestation bindingId = false)
    (settled : (world.bilateral.storage.bindings bindingId).state = .settled) :
    (system deployment).Visits start actions world fun visited =>
      (visited.bilateral.storage.bindings bindingId).state = .finalizing := by
  let submitted := fun visited : World => (visited.bilateral.storage.dossier bindingId).Submitted
  have initially : ¬submitted start := by
    simp only [submitted, initial.1.1]
    exact Bilateral.not_submitted_fresh bindingId
  have afterwards : submitted world := ⟨unattested, .inr (.inr settled)⟩
  refine .of_onset submitted (fun state action next reachable step now => ?_) (.init initial) initially run
    afterwards
  rcases (reachable_seen reachable step).storage with same | ⟨made, -, taken, -⟩
  · have before : submitted state := by simpa only [submitted, same] using now
    exact .inl before
  · exact (Bilateral.step_submitted_before (reachable_bilateral reachable).1 taken now).imp_right .inr

/-- As long as the bilateral contract is given no other gateway: a binding that requires an
attestation is never finalizing or disputed, and leaves its first states only by a refund of
its buyer or by a settlement behind all the gates; one that requires none is never settled
through the gateway, and is settled only after it was finalizing. -/
theorem attested_protocol (initial : (system deployment).Init start)
    (run : ((system deployment).restrict fun _ action => KeepsGateway action).Run start actions
      world) (bindingId : Nat) :
    (world.bilateral.storage.requiresAttestation bindingId = true →
      (world.bilateral.storage.bindings bindingId).state ≠ .finalizing ∧
      (world.bilateral.storage.bindings bindingId).state ≠ .disputed ∧
      ∀ action next, (system deployment).Step world action next →
        (world.bilateral.storage.bindings bindingId).state.Waiting →
        ¬(next.bilateral.storage.bindings bindingId).state.Waiting →
        Exit deployment world bindingId action next) ∧
    (world.bilateral.storage.requiresAttestation bindingId = false →
      ((world.bilateral.storage.bindings bindingId).state = .settled →
        (system deployment).Visits start actions world fun visited =>
          (visited.bilateral.storage.bindings bindingId).state = .finalizing) ∧
      ∀ msg ext taskId proofHash next, ¬(system deployment).Step world
        (.gateway msg ext (.settleWithAttestation taskId bindingId proofHash)) next) := by
  have guarded := run_guarded initial run
  have free := run.of_restrict
  have reachable : (system deployment).Reachable world := ⟨start, actions, initial, free⟩
  constructor
  · intro attested
    have direct := Bilateral.reachable_direct (reachable_bilateral reachable).1 bindingId
    obtain ⟨unfinalized, undisputed⟩ := direct attested
    refine ⟨unfinalized, undisputed, fun action next step waiting moved => ?_⟩
    exact step_exit reachable guarded step attested waiting moved
  · intro unattested
    refine ⟨settled_visits initial free unattested, ?_⟩
    intro msg ext taskId proofHash next step
    have attested := (settlement_settles reachable step).2.attested
    rw [unattested] at attested
    cases attested

end Protocol

namespace Demo

theorem bilateral_keeps {sender : Address} {timestamp : Nat} {call : Bilateral.Call}
    (keeps : ∀ gateway, call = .setter (.setAttestationGateway gateway) → gateway = deployment.self) :
    KeepsGateway (bilateral sender timestamp call) := by
  rintro made ⟨⟩ gateway (sets | reentered)
  · exact keeps gateway sets
  · exact absurd reentered List.not_mem_nil

theorem registry_keeps {call : Registry.Call} : KeepsGateway (registry call) := by
  rintro made ⟨⟩

theorem gateway_keeps {sender : Address} {timestamp : Nat} {call : Call} :
    KeepsGateway (gateway sender timestamp call) := by
  cases call with
  | settleWithAttestation taskId bindingId proofHash =>
      rintro made ⟨⟩ gateway (sets | reentered)
      · cases sets
      · exact absurd reentered List.not_mem_nil
  | _ => rintro made ⟨⟩

theorem attested_keeps :
    ((system deployment).restrict fun _ action => KeepsGateway action).Run (start 3600)
      attested.actions attested.world := by
  refine attested.run.restrict fun action member _ => ?_
  simp only [attested, published, bound, Library.Scene.next, List.cons_append, List.nil_append,
    List.mem_cons, List.not_mem_nil, or_false] at member
  rcases member with rfl | rfl | rfl | rfl | rfl | rfl | rfl | rfl | rfl | rfl | rfl | rfl | rfl <;>
    first
      | exact bilateral_keeps (by simp)
      | exact registry_keeps
      | exact gateway_keeps

end Demo

theorem attested_protocol_demo :
    Exit Demo.deployment Demo.attested.world 1
      (Demo.gateway Bilateral.Demo.agent 4600 (.settleWithAttestation 77 1 99))
      Demo.settled.world :=
  ((attested_protocol (Demo.start_init 3600) Demo.attested_keeps 1).1 (by decide +kernel)).2.2 _ _
    (Demo.attested.step _ _) (by decide +kernel) (by decide +kernel)

end TrustChain.Gateway
