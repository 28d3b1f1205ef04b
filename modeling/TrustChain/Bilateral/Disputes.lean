import TrustChain.Bilateral.Lifecycle
import TrustChain.Bilateral.Accounting

/-!
# Disputes and their outcomes

The arbitration record of a binding and its state determine each other: `Arbitrated` is
the invariant. Of the four rows of the outcome table only two can be reached, because
raising a dispute already records the buyer's evidence.
-/

namespace TrustChain.Bilateral

open Library Function Storage

/-- What is on record while a binding is disputed. -/
structure InDispute (dossier : Dossier) (buyerOwner : Address) : Prop where
  started : dossier.arbitration.startedAt ≠ 0
  startedAt_eq : dossier.arbitration.startedAt = dossier.binding.disputedAt
  buyerSubmitted : dossier.arbitration.buyerSubmittedAt ≠ 0
  unresolved : dossier.arbitration.resolved = false
  initiator_eq : dossier.binding.disputeInitiator = buyerOwner

/-- How the arbitration record of a binding relates to its state. -/
structure Arbitrated (dossier : Dossier) (buyerOwner : Address) : Prop where
  untouched : dossier.arbitration.startedAt = 0 → dossier.arbitration = {}
  started : dossier.arbitration.startedAt ≠ 0 →
    dossier.binding.state = .disputed ∨
      (dossier.binding.state = .settled ∧ dossier.arbitration.resolved = true)
  disputed : dossier.binding.state = .disputed → InDispute dossier buyerOwner

section Fates

variable {deployment : Deployment} {ext : Externals} {msg : Message deployment} {storage : Storage}
  {bindingId : Nat} {call : Call} {dossier : Dossier} {calls : List TokenCall} {payout : Payout}

/-- With the buyer's evidence on record, two of the four rows remain. -/
theorem autoPayout_of_buyer {proofHash : Bytes32} {arb : ArbitrationRecord}
    (buyerSubmitted : arb.buyerSubmittedAt ≠ 0) :
    autoPayout proofHash arb = .split (if arb.agentSubmittedAt = 0 then 10000 else 5000) := by
  unfold autoPayout
  by_cases agent : arb.agentSubmittedAt = 0 <;> simp [buyerSubmitted, agent]

/-- Out of a dispute the pool is only ever split. -/
theorem Entitled.split_of_disputed
    (entitled : Entitled deployment msg storage call bindingId payout)
    (disputed : (storage.bindings bindingId).state = .disputed)
    (buyerSubmitted : (storage.arbitrations bindingId).buyerSubmittedAt ≠ 0) :
    ∃ buyerShareBps, payout = .split buyerShareBps := by
  cases entitled with
  | attested _ _ started =>
      rcases started with state | state <;> rw [state] at disputed <;> cases disputed
  | finalized _ finalizing => rw [finalizing] at disputed; cases disputed
  | autoResolved => exact ⟨_, autoPayout_of_buyer buyerSubmitted⟩
  | adminResolved _ buyerShareBps => exact ⟨buyerShareBps, rfl⟩
  | timedOut _ started =>
      rcases started with state | state <;> rw [state] at disputed <;> cases disputed

theorem Arbitrated.blank_of_undisputed {buyerOwner : Address} (arbitrated : Arbitrated dossier buyerOwner)
    (undisputed : dossier.binding.state ≠ .disputed) (unsettled : dossier.binding.state ≠ .settled) :
    dossier.arbitration = {} := by
  apply arbitrated.untouched
  by_contra started
  rcases arbitrated.started started with disputed | ⟨settled, -⟩
  · exact undisputed disputed
  · exact unsettled settled

/-- A binding whose arbitration never started and that is in no dispute. -/
theorem Arbitrated.of_blank {buyerOwner : Address} (blank : dossier.arbitration = {})
    (undisputed : dossier.binding.state ≠ .disputed) : Arbitrated dossier buyerOwner where
  untouched _ := blank
  started started := absurd (by rw [blank]) started
  disputed disputed := absurd disputed undisputed

theorem conclude_arbitration (disputed : (storage.bindings bindingId).state = .disputed)
    (started : (storage.arbitrations bindingId).startedAt ≠ 0) :
    (storage.conclude bindingId).arbitrations bindingId =
      { storage.arbitrations bindingId with resolved := true } := by
  rw [conclude_of_disputed disputed, Storage.resolve, if_pos started]
  exact update_self _ _ _

/-- Concluding a dispute changes nothing on record but that it is resolved. -/
theorem conclude_record (storage : Storage) (bindingId : Nat) :
    ∃ resolved, (storage.conclude bindingId).arbitrations bindingId =
      { storage.arbitrations bindingId with resolved := resolved } := by
  unfold Storage.conclude Storage.resolve
  split
  · split
    · exact ⟨true, update_self _ _ _⟩
    · exact ⟨_, rfl⟩
  · exact ⟨_, rfl⟩

theorem Fate.arbitrated (fate : Fate deployment ext msg storage bindingId call dossier calls)
    (arbitrated : Arbitrated (storage.dossier bindingId) (storage.buyerOwner bindingId)) :
    Arbitrated dossier (storage.buyerOwner bindingId) := by
  cases fate with
  | kept call unnamed => exact arbitrated
  | opened call terms state unopened binds bindable started =>
      refine .of_blank rfl ?_
      rcases started with rfl | rfl <;> simp
  | submitted proofHash opened started unattested party fits =>
      refine .of_blank (arbitrated.blank_of_undisputed ?_ ?_) (by simp)
      · rcases started with state | state <;> simp [Storage.dossier, state]
      · rcases started with state | state <;> simp [Storage.dossier, state]
  | disputed evidenceHash opened finalizing early buyer =>
      have timestamp := Nat.pos_iff_ne_zero.mp msg.timestamp_pos
      exact ⟨fun unstarted => absurd unstarted timestamp, fun _ => .inl rfl,
        fun _ => ⟨timestamp, rfl, timestamp, rfl, buyer⟩⟩
  | evidence evidenceHash byBuyer opened disputed party =>
      have timestamp := Nat.pos_iff_ne_zero.mp msg.timestamp_pos
      obtain ⟨started, startedAt, buyerSubmitted, unresolved, initiator⟩ :=
        arbitrated.disputed disputed
      cases byBuyer with
      | true =>
          exact ⟨fun unstarted => absurd unstarted started, fun _ => .inl disputed,
            fun _ => ⟨started, startedAt, timestamp, unresolved, initiator⟩⟩
      | false =>
          exact ⟨fun unstarted => absurd unstarted started, fun _ => .inl disputed,
            fun _ => ⟨started, startedAt, buyerSubmitted, unresolved, initiator⟩⟩
  | paid call payout calls opened entitled disbursed =>
      by_cases disputed : (storage.bindings bindingId).state = .disputed
      · have record := arbitrated.disputed disputed
        obtain ⟨buyerShareBps, rfl⟩ := entitled.split_of_disputed disputed record.buyerSubmitted
        rw [conclude_arbitration disputed record.started]
        exact ⟨fun unstarted => absurd unstarted record.started, fun _ => .inr ⟨rfl, rfl⟩,
          fun unsettled => by cases unsettled⟩
      · rw [conclude_of_ne disputed]
        have live := entitled.live
        refine .of_blank (arbitrated.blank_of_undisputed disputed ?_) ?_
        · intro settled
          change (storage.bindings bindingId).state = .settled at settled
          rw [settled] at live
          cases live
        · cases payout <;> simp [Payout.mark]

end Fates

/-! ## Reachable worlds -/

section Runs

variable {deployment : Deployment} {start world next : World} {action : Action deployment}
  {actions : List (Action deployment)} {bindingId : Nat}

theorem StepFate.arbitrated (fate : StepFate deployment world bindingId action next)
    (arbitrated : Arbitrated (world.storage.dossier bindingId) (world.storage.buyerOwner bindingId)) :
    Arbitrated (next.storage.dossier bindingId) (world.storage.buyerOwner bindingId) := by
  cases fate with
  | token token operation ledger => exact arbitrated
  | call msg ext call calls own dossier next later now_eq tokenCalls_eq owned dossier_eq fate =>
      rw [dossier_eq]
      exact fate.arbitrated arbitrated

/-- A binding that is not open before a step is in no dispute after it. -/
theorem StepFate.of_unopened (fate : StepFate deployment world bindingId action next)
    (valid : Valid world.storage) (unopened : ¬world.storage.Opened bindingId) :
    (next.storage.dossier bindingId).arbitration = {} ∧
      (next.storage.dossier bindingId).binding.state ≠ .disputed := by
  have fresh := unopened ∘ (opened_iff valid.wellFormed).mpr
  have blank : (world.storage.dossier bindingId).arbitration = {} ∧
      (world.storage.dossier bindingId).binding.state ≠ .disputed := by
    refine ⟨valid.wellFormed.arbitrations.outside _ fresh, ?_⟩
    change (world.storage.bindings bindingId).state ≠ .disputed
    rw [valid.wellFormed.bindings.outside _ fresh]
    simp
  cases fate with
  | token token operation ledger => exact blank
  | call msg ext call calls own dossier next later now_eq tokenCalls_eq owned dossier_eq fate =>
      rw [dossier_eq]
      cases fate with
      | kept call unnamed => exact blank
      | opened call terms state _ binds bindable started =>
          refine ⟨rfl, ?_⟩
          rcases started with rfl | rfl <;> simp
      | submitted proofHash opened => exact absurd opened unopened
      | disputed evidenceHash opened => exact absurd opened unopened
      | evidence evidenceHash byBuyer opened => exact absurd opened unopened
      | paid call payout calls opened => exact absurd opened unopened

/-- In every reachable world arbitration records and states agree. -/
theorem reachable_arbitrated (reachable : (system deployment).Reachable world) (bindingId : Nat) :
    Arbitrated (world.storage.dossier bindingId) (world.storage.buyerOwner bindingId) := by
  refine reachable.invariant (fun state initial => ?_) (fun state action next earlier arbitrated step => ?_)
  · rw [initial.1]
    exact .of_blank rfl (by simp [Storage.dossier])
  · have after := (step_fate earlier step bindingId).arbitrated arbitrated
    by_cases opened : state.storage.Opened bindingId
    · rwa [(step_binding earlier step opened).buyerOwner_eq]
    · obtain ⟨blank, undisputed⟩ :=
        (step_fate earlier step bindingId).of_unopened (reachable_valid earlier) opened
      exact .of_blank blank undisputed

/-- Whether an action submits arbitration evidence of `party` on the binding. -/
def Action.SubmitsEvidence (bindingId : Nat) (party : Address) (action : Action deployment) : Prop :=
  ∃ msg ext evidenceHash,
    action = .call msg ext (.submitArbitrationEvidence bindingId evidenceHash) ∧ msg.sender = party

/-- Somewhere in the run `party` submitted evidence on the binding. -/
def Submitted (actions : List (Action deployment)) (bindingId : Nat) (party : Address) : Prop :=
  ∃ action ∈ actions, action.SubmitsEvidence bindingId party

/-- Somewhere in the run the binding was disputed. -/
def EverDisputed (deployment : Deployment) (start : World) (actions : List (Action deployment))
    (world : World) (bindingId : Nat) : Prop :=
  (system deployment).Visits start actions world fun visited =>
    (visited.storage.bindings bindingId).state = .disputed

theorem Valid.opened_of_started {storage : Storage} (valid : Valid storage)
    (started : (storage.arbitrations bindingId).startedAt ≠ 0) : storage.Opened bindingId := by
  apply (opened_iff valid.wellFormed).mpr
  by_contra fresh
  exact started (by rw [valid.wellFormed.arbitrations.outside _ fresh])

/-- An arbitration that has started stays started. -/
theorem step_started (reachable : (system deployment).Reachable world)
    (step : (system deployment).Step world action next)
    (started : (world.storage.arbitrations bindingId).startedAt ≠ 0) :
    (next.storage.arbitrations bindingId).startedAt ≠ 0 := by
  have opened := (reachable_valid reachable).opened_of_started started
  cases step_fate reachable step bindingId with
  | token token operation ledger => exact started
  | call msg ext call calls own dossier next later now_eq tokenCalls_eq owned dossier_eq fate =>
      change (next.storage.dossier bindingId).arbitration.startedAt ≠ 0
      rw [dossier_eq]
      cases fate with
      | kept call unnamed => exact started
      | opened call terms state unopened => exact absurd opened unopened
      | submitted proofHash => exact started
      | disputed evidenceHash => exact Nat.pos_iff_ne_zero.mp msg.timestamp_pos
      | evidence evidenceHash byBuyer => cases byBuyer <;> exact started
      | paid call payout calls =>
          obtain ⟨resolved, record⟩ := conclude_record world.storage bindingId
          rw [record]
          exact started

/-- A step that starts an arbitration leaves its binding disputed. -/
theorem step_starts (reachable : (system deployment).Reachable world)
    (step : (system deployment).Step world action next)
    (unstarted : (world.storage.arbitrations bindingId).startedAt = 0)
    (started : (next.storage.arbitrations bindingId).startedAt ≠ 0) :
    (next.storage.bindings bindingId).state = .disputed := by
  cases step_fate reachable step bindingId with
  | token token operation ledger => exact absurd unstarted started
  | call msg ext call calls own dossier next later now_eq tokenCalls_eq owned dossier_eq fate =>
      change (next.storage.dossier bindingId).arbitration.startedAt ≠ 0 at started
      change (next.storage.dossier bindingId).binding.state = .disputed
      rw [dossier_eq] at started ⊢
      cases fate with
      | kept call unnamed => exact absurd unstarted started
      | opened call terms state => exact absurd rfl started
      | submitted proofHash => exact absurd unstarted started
      | disputed evidenceHash => rfl
      | evidence evidenceHash byBuyer => cases byBuyer <;> exact absurd unstarted started
      | paid call payout calls =>
          obtain ⟨resolved, record⟩ := conclude_record world.storage bindingId
          rw [record] at started
          exact absurd unstarted started

/-- A binding was ever disputed exactly if its arbitration has started. -/
theorem everDisputed_iff (initial : (system deployment).Init start)
    (run : (system deployment).Run start actions world) :
    EverDisputed deployment start actions world bindingId ↔
      (world.storage.arbitrations bindingId).startedAt ≠ 0 := by
  constructor
  · rintro ⟨before, after, visited, -, first, second, disputed⟩
    have reachable : (system deployment).Reachable visited := ⟨start, before, initial, first⟩
    have started := ((reachable_arbitrated reachable bindingId).disputed disputed).started
    refine second.preserves_reachable (fun state action next earlier started step => ?_)
      reachable started
    exact step_started earlier step started
  · intro started
    have initially : ¬(start.storage.arbitrations bindingId).startedAt ≠ 0 := by
      rw [initial.1]
      exact not_not.mpr rfl
    refine .of_onset (fun world => (world.storage.arbitrations bindingId).startedAt ≠ 0)
      (fun state action next reachable step started => ?_) (.init initial) initially run started
    by_cases before : (state.storage.arbitrations bindingId).startedAt = 0
    · exact .inr (.inr (step_starts reachable step before started))
    · exact .inl before

theorem submitted_snoc {party : Address} :
    Submitted (actions ++ [action]) bindingId party ↔
      Submitted actions bindingId party ∨ action.SubmitsEvidence bindingId party := by
  simp only [Submitted, List.mem_append, List.mem_singleton, or_and_right, exists_or,
    exists_eq_left]

theorem submitsEvidence_call {msg : Message deployment} {ext : Externals} {call : Call}
    {party : Address} :
    (Action.call msg ext call).SubmitsEvidence bindingId party ↔
      (∃ evidenceHash, call = .submitArbitrationEvidence bindingId evidenceHash) ∧
        msg.sender = party := by
  constructor
  · rintro ⟨_, _, evidenceHash, same, sender⟩
    cases same
    exact ⟨⟨evidenceHash, rfl⟩, sender⟩
  · rintro ⟨⟨evidenceHash, rfl⟩, sender⟩
    exact ⟨msg, ext, evidenceHash, rfl, sender⟩

theorem not_submitsEvidence_token {token : Address} {operation : Erc20.Operation Address}
    {party : Address} :
    ¬(Action.token token operation : Action deployment).SubmitsEvidence bindingId party := by
  rintro ⟨msg, ext, evidenceHash, same, -⟩
  cases same

/-- One step records evidence of the agent exactly if it submits some. -/
theorem step_submitted (reachable : (system deployment).Reachable world)
    (step : (system deployment).Step world action next) (opened : world.storage.Opened bindingId) :
    (next.storage.arbitrations bindingId).agentSubmittedAt ≠ 0 ↔
      (world.storage.arbitrations bindingId).agentSubmittedAt ≠ 0 ∨
        action.SubmitsEvidence bindingId (world.storage.agentOwner bindingId) := by
  have valid := reachable_valid reachable
  have arbitrated := reachable_arbitrated reachable bindingId
  cases step_fate reachable step bindingId with
  | token token operation ledger => simp [not_submitsEvidence_token]
  | call msg ext call calls own dossier next later now_eq tokenCalls_eq owned dossier_eq fate =>
      change (next.storage.dossier bindingId).arbitration.agentSubmittedAt ≠ 0 ↔ _
      rw [dossier_eq, submitsEvidence_call]
      cases fate with
      | kept call unnamed =>
          have other : ¬∃ evidenceHash, call = .submitArbitrationEvidence bindingId evidenceHash := by
            rintro ⟨evidenceHash, rfl⟩
            exact unnamed rfl
          simp [other, Storage.dossier]
      | opened call terms state unopened => exact absurd opened unopened
      | submitted proofHash _ started => simp [Storage.dossier]
      | disputed evidenceHash _ finalizing =>
          change (world.storage.dossier bindingId).binding.state = .finalizing at finalizing
          have blank : world.storage.arbitrations bindingId = {} :=
            arbitrated.blank_of_undisputed (by simp [finalizing]) (by simp [finalizing])
          simp [blank]
      | evidence evidenceHash byBuyer _ disputed party =>
          cases byBuyer with
          | true =>
              have owners_ne : msg.sender ≠ world.storage.agentOwner bindingId := by
                rw [if_pos rfl] at party
                rw [party]
                exact valid.books.owners_ne bindingId opened
              simp [owners_ne]
          | false =>
              have agent : msg.sender = world.storage.agentOwner bindingId := by
                rwa [if_neg Bool.false_ne_true] at party
              simp [agent, Nat.pos_iff_ne_zero.mp msg.timestamp_pos]
      | paid call payout calls _ entitled =>
          obtain ⟨resolved, record⟩ := conclude_record world.storage bindingId
          have other : ¬∃ evidenceHash, call = .submitArbitrationEvidence bindingId evidenceHash := by
            rintro ⟨evidenceHash, rfl⟩
            cases entitled
          simp [record, other]

/-- A step that opens a binding or leaves it unopened neither submits evidence on it nor
finds any on record. -/
theorem step_unopened (reachable : (system deployment).Reachable world)
    (step : (system deployment).Step world action next) (unopened : ¬world.storage.Opened bindingId)
    (party : Address) :
    (next.storage.arbitrations bindingId).agentSubmittedAt = 0 ∧
      ¬action.SubmitsEvidence bindingId party := by
  have fate := step_fate reachable step bindingId
  have blank := (fate.of_unopened (reachable_valid reachable) unopened).1
  refine ⟨by rw [show next.storage.arbitrations bindingId = _ from blank], ?_⟩
  cases fate with
  | token token operation ledger => exact not_submitsEvidence_token
  | call msg ext call calls own dossier next later now_eq tokenCalls_eq owned dossier_eq fate =>
      rw [submitsEvidence_call]
      rintro ⟨⟨evidenceHash, rfl⟩, -⟩
      cases fate with
      | kept call unnamed => exact unnamed rfl
      | opened call terms state _ binds => cases binds
      | evidence evidenceHash byBuyer opened => exact unopened opened
      | paid call payout calls opened => exact unopened opened

/-- The time of the agent's evidence is on record exactly if the agent submitted some. -/
theorem submitted_iff (initial : (system deployment).Init start)
    (run : (system deployment).Run start actions world) :
    (world.storage.Opened bindingId →
      (Submitted actions bindingId (world.storage.agentOwner bindingId) ↔
        (world.storage.arbitrations bindingId).agentSubmittedAt ≠ 0)) ∧
    (¬world.storage.Opened bindingId → ∀ party, ¬Submitted actions bindingId party) := by
  induction run with
  | nil =>
      refine ⟨fun opened => absurd (by rw [initial.1]) opened, ?_⟩
      rintro - party ⟨action, member, -⟩
      cases member
  | @snoc actions middle finish action earlier step ih =>
      have reachable : (system deployment).Reachable middle := ⟨start, actions, initial, earlier⟩
      simp only [submitted_snoc]
      by_cases opened : middle.storage.Opened bindingId
      · have binding := step_binding reachable step opened
        refine ⟨fun _ => ?_, fun unopened => absurd binding.opened unopened⟩
        rw [binding.agentOwner_eq, ih.1 opened, step_submitted reachable step opened]
      · have none := ih.2 opened
        refine ⟨fun _ => ?_, fun _ party => ?_⟩
        · obtain ⟨blank, other⟩ :=
            step_unopened reachable step opened (finish.storage.agentOwner bindingId)
          simp [none, other, blank]
        · have other := (step_unopened reachable step opened party).2
          simp [none, other]

/-- What the calls of a payout give to the buyer, to the agent and to the fee bridge. -/
theorem Shared.amounts {ext : Externals} {config : Config} {buyerBill agentBill : BillToken}
    {payout : Payout} {calls : List TokenCall} {fee buyerPart agentPart : Nat}
    (shared : Shared ext config bindingId buyerBill agentBill payout calls fee buyerPart agentPart)
    (owners_ne : buyerBill.owner ≠ agentBill.owner) :
    Erc20.paidTo buyerBill.token buyerBill.owner calls = buyerPart ∧
      Erc20.paidTo buyerBill.token agentBill.owner calls = agentPart ∧
      Erc20.approvedIn buyerBill.token calls = fee := by
  refine ⟨?_, ?_, ?_⟩
  · rw [Erc20.paidTo, shared.total_eq _ fun _ _ => ⟨ite_self 0, rfl⟩]
    simp [Erc20.OwnCall.paid, owners_ne.symm]
  · rw [Erc20.paidTo, shared.total_eq _ fun _ _ => ⟨ite_self 0, rfl⟩]
    simp [Erc20.OwnCall.paid, owners_ne]
  · rw [Erc20.approvedIn, shared.total_eq _ fun _ _ => ⟨rfl, ite_self 0⟩]
    simp [Erc20.OwnCall.approved]

/-- The auto-resolution of a dispute gives the buyer the whole pool, or half of it if the
agent's evidence is on record. -/
theorem autoResolve_pays {msg : Message deployment} {ext : Externals}
    (reachable : (system deployment).Reachable world)
    (step : (system deployment).Step world (.call msg ext (.autoResolveArbitration bindingId)) next) :
    world.storage.Opened bindingId ∧ ∃ calls, next.tokenCalls = world.tokenCalls ++ calls ∧
      Erc20.paidTo (world.storage.tokenOf bindingId) (world.storage.buyerOwner bindingId) calls =
        (if (world.storage.arbitrations bindingId).agentSubmittedAt = 0 then
          world.storage.pool bindingId else world.storage.pool bindingId / 2) ∧
      Erc20.paidTo (world.storage.tokenOf bindingId) (world.storage.buyerOwner bindingId) calls +
        Erc20.paidTo (world.storage.tokenOf bindingId) (world.storage.agentOwner bindingId) calls =
          world.storage.pool bindingId := by
  have valid := reachable_valid reachable
  cases step_fate reachable step bindingId with
  | call _ _ _ calls own dossier next later now_eq tokenCalls_eq owned dossier_eq fate =>
      obtain rfl := owned rfl
      cases fate with
      | kept _ unnamed => exact absurd rfl unnamed
      | opened _ terms state _ binds => cases binds
      | paid _ payout _ opened entitled disbursed =>
          have owners_ne := valid.books.owners_ne bindingId opened
          obtain ⟨fee, buyerPart, agentPart, shared⟩ := disbursed.shared
          obtain ⟨toBuyer, toAgent, -⟩ := shared.amounts owners_ne
          obtain ⟨fee_eq, share⟩ : fee = 0 ∧ buyerPart = buyerShare (world.storage.pool bindingId)
              (if (world.storage.arbitrations bindingId).agentSubmittedAt = 0 then 10000 else 5000) := by
            cases entitled with
            | autoResolved _ disputed =>
                have record := (reachable_arbitrated reachable bindingId).disputed disputed
                have buyerSubmitted : (world.storage.arbitrations bindingId).buyerSubmittedAt ≠ 0 :=
                  record.buyerSubmitted
                have parts := shared.parts
                rwa [autoPayout_of_buyer buyerSubmitted] at parts
          have whole := shared.sum_eq
          refine ⟨opened, own, tokenCalls_eq, ?_⟩
          unfold Storage.tokenOf Storage.buyerOwner Storage.agentOwner
          rw [toBuyer, toAgent]
          constructor
          · rw [share]
            unfold buyerShare
            split <;> omega
          · unfold Storage.pool
            omega

/-- On behalf of a binding whose arbitration has started nothing is ever approved, and the
binding is not refunded. -/
theorem started_feeless (reachable : (system deployment).Reachable world)
    (started : (world.storage.arbitrations bindingId).startedAt ≠ 0) :
    (world.storage.bindings bindingId).state ≠ .refunded ∧
      ∀ action next, action.names bindingId → (system deployment).Step world action next →
        ∃ calls, next.tokenCalls = world.tokenCalls ++ calls ∧
          ∀ token, Erc20.approvedIn token calls = 0 := by
  have valid := reachable_valid reachable
  have opened := valid.opened_of_started started
  have arbitrated := reachable_arbitrated reachable bindingId
  have state := arbitrated.started started
  constructor
  · intro refunded
    rcases state with disputed | ⟨settled, -⟩
    · rw [show (world.storage.dossier bindingId).binding.state = _ from refunded] at disputed
      cases disputed
    · rw [show (world.storage.dossier bindingId).binding.state = _ from refunded] at settled
      cases settled
  · intro action next names step
    cases step_fate reachable step bindingId with
    | token token operation ledger => exact names.elim
    | call _ _ _ calls own dossier next later now_eq tokenCalls_eq owned dossier_eq fate =>
        refine ⟨calls, tokenCalls_eq, ?_⟩
        obtain rfl := owned names
        cases fate with
        | kept => exact fun _ => rfl
        | opened => exact fun _ => rfl
        | submitted => exact fun _ => rfl
        | disputed => exact fun _ => rfl
        | evidence => exact fun _ => rfl
        | paid _ payout _ _ entitled disbursed =>
            have disputed : (world.storage.bindings bindingId).state = .disputed := by
              rcases state with disputed | ⟨settled, -⟩
              · exact disputed
              · have live := entitled.live
                rw [show (world.storage.bindings bindingId).state = _ from settled] at live
                cases live
            obtain ⟨bps, rfl⟩ := entitled.split_of_disputed disputed
              (arbitrated.disputed disputed).buyerSubmitted
            obtain ⟨fee, buyerPart, agentPart, shared⟩ := disbursed.shared
            intro token
            rw [Erc20.approvedIn, shared.total_eq _ fun _ _ => ⟨rfl, ite_self 0⟩, shared.parts.1]
            simp [Erc20.OwnCall.approved]

/-- What a run can make of a dispute. A disputed binding has the buyer's evidence, the time
of the dispute and its initiator on record and is unresolved; its auto-resolution gives the
buyer the whole pool, or half of it if the agent ever submitted evidence; a binding that was
ever disputed is never refunded and never charged a fee; and its arbitration is resolved
exactly when the binding has left the dispute. -/
theorem dispute_outcomes (initial : (system deployment).Init start)
    (run : (system deployment).Run start actions world) (bindingId : Nat) :
    ((world.storage.bindings bindingId).state = .disputed →
      InDispute (world.storage.dossier bindingId) (world.storage.buyerOwner bindingId)) ∧
    (∀ msg ext next,
      (system deployment).Step world (.call msg ext (.autoResolveArbitration bindingId)) next →
      ∃ calls, next.tokenCalls = world.tokenCalls ++ calls ∧
        (¬Submitted actions bindingId (world.storage.agentOwner bindingId) →
          Erc20.paidTo (world.storage.tokenOf bindingId) (world.storage.buyerOwner bindingId) calls =
            world.storage.pool bindingId) ∧
        (Submitted actions bindingId (world.storage.agentOwner bindingId) →
          Erc20.paidTo (world.storage.tokenOf bindingId) (world.storage.buyerOwner bindingId) calls =
            world.storage.pool bindingId / 2) ∧
        Erc20.paidTo (world.storage.tokenOf bindingId) (world.storage.buyerOwner bindingId) calls +
          Erc20.paidTo (world.storage.tokenOf bindingId) (world.storage.agentOwner bindingId) calls =
            world.storage.pool bindingId) ∧
    (EverDisputed deployment start actions world bindingId →
      (world.storage.bindings bindingId).state ≠ .refunded ∧
      ∀ action next, action.names bindingId → (system deployment).Step world action next →
        ∃ calls, next.tokenCalls = world.tokenCalls ++ calls ∧
          ∀ token, Erc20.approvedIn token calls = 0) ∧
    ((world.storage.arbitrations bindingId).resolved = true ↔
      EverDisputed deployment start actions world bindingId ∧
        (world.storage.bindings bindingId).state ≠ .disputed) := by
  have reachable : (system deployment).Reachable world := ⟨start, actions, initial, run⟩
  have arbitrated := reachable_arbitrated reachable bindingId
  rw [everDisputed_iff initial run]
  refine ⟨arbitrated.disputed, ?_, started_feeless reachable, ?_⟩
  · intro msg ext next step
    obtain ⟨opened, calls, tokenCalls_eq, toBuyer, whole⟩ := autoResolve_pays reachable step
    have evidence := (submitted_iff initial run).1 opened
    refine ⟨calls, tokenCalls_eq, fun none => ?_, fun some => ?_, whole⟩
    · rw [toBuyer, if_pos (by_contra fun recorded => none (evidence.mpr recorded))]
    · rw [toBuyer, if_neg (evidence.mp some)]
  · constructor
    · intro resolved
      refine ⟨fun unstarted => ?_, fun disputed => ?_⟩
      · have blank : world.storage.arbitrations bindingId = {} := arbitrated.untouched unstarted
        rw [blank] at resolved
        cases resolved
      · have unresolved : (world.storage.arbitrations bindingId).resolved = false :=
          (arbitrated.disputed disputed).unresolved
        rw [unresolved] at resolved
        cases resolved
    · rintro ⟨started, undisputed⟩
      exact ((arbitrated.started started).resolve_left undisputed).2

theorem dispute_outcomes_demo :
    InDispute (Demo.disputed.world.storage.dossier 1) (Demo.disputed.world.storage.buyerOwner 1) :=
  (dispute_outcomes Demo.start_init Demo.disputed.run 1).1 (by decide +kernel)

end Runs

end TrustChain.Bilateral
