import TrustChain.Service.Effects

/-!
# What holds of the books in every run

The rows of the capacity ledger add up, and a settlement's voucher is accepted until the
settlement is resolved and used from then on.
-/

namespace TrustChain.Service

open Library

/-- The escrow has been paid out. -/
def TaskStatus.Resolved (status : TaskStatus) : Prop := status = .settled ∨ status = .refunded

instance : DecidablePred TaskStatus.Resolved := fun _ => inferInstanceAs (Decidable (_ ∨ _))

/-! ## Statuses -/

section Statuses

variable {status target : TaskStatus}

theorem TaskStatus.Resolved.terminal (resolved : status.Resolved) : status.Terminal := by
  rcases resolved with settled | refunded
  · exact .inl settled
  · exact .inr (.inl refunded)

theorem TaskStatus.Resolved.not_cancelled (resolved : status.Resolved) : status ≠ .cancelled := by
  rintro rfl
  revert resolved
  decide

/-- A settlement that is over can only be frozen. -/
theorem not_terminal_of_canTransition (allowed : canTransition status target = true)
    (thaws : canonicalTaskStatus target ≠ .frozen) : ¬status.Terminal := by
  intro terminal
  have only : canonicalTaskStatus target = .frozen := by
    rcases terminal with rfl | rfl | rfl <;>
      exact List.mem_singleton.mp (List.contains_iff_mem.mp allowed)
  exact thaws only

/-- A settlement that is resolved was not over. -/
theorem not_terminal_of_resolved (ended : target.Resolved)
    (before : canTransition status target = true ∨ status = .disputed) : ¬status.Terminal := by
  rcases before with allowed | rfl
  · refine not_terminal_of_canTransition allowed ?_
    rcases ended with rfl | rfl <;> decide
  · decide

theorem TaskStatus.Working.not_terminal (working : status.Working) : ¬status.Terminal := by
  revert status
  unfold TaskStatus.Working
  decide

theorem TaskStatus.Working.thaws (working : status.Working) :
    canonicalTaskStatus status ≠ .frozen := by
  revert status
  unfold TaskStatus.Working
  decide

end Statuses

/-! ## Rows of the capacity ledger -/

/-- No route fills the other buckets, and the totals are what the three buckets hold. -/
structure Capacity.Balanced (cap : Capacity) : Prop where
  inProgress : cap.inProgressCredits = 0
  confirmed : cap.confirmedProgressCredits = 0
  pending : cap.pendingSettlementCredits = 0
  locked : cap.totalLockedUsdc = cap.totalBillCredits
  sum : cap.totalBillCredits = cap.availableCredits + cap.reservedCredits + cap.disputedCredits
  available : -epsilon ≤ cap.availableCredits

namespace Capacity.Balanced

variable {cap : Capacity} {amount : ℚ}

theorem empty : ({} : Capacity).Balanced :=
  ⟨rfl, rfl, rfl, rfl, by norm_num, neg_nonpos.mpr epsilon_nonneg⟩

theorem lock (balanced : cap.Balanced) (positive : 0 < amount) : (cap.lock amount).Balanced where
  inProgress := balanced.inProgress
  confirmed := balanced.confirmed
  pending := balanced.pending
  locked := congrArg (· + amount) balanced.locked
  sum := by
    simp only [Capacity.lock, balanced.sum]
    ring
  available := balanced.available.trans (le_add_of_nonneg_right positive.le)

theorem release (balanced : cap.Balanced) (available : amount ≤ cap.availableCredits + epsilon) :
    (cap.release amount).Balanced where
  inProgress := balanced.inProgress
  confirmed := balanced.confirmed
  pending := balanced.pending
  locked := congrArg (· - amount) balanced.locked
  sum := by
    simp only [Capacity.release, balanced.sum]
    ring
  available := by
    simp only [Capacity.release]
    linarith

theorem reserve (balanced : cap.Balanced) (available : amount ≤ cap.availableCredits) :
    (cap.reserve amount).Balanced where
  inProgress := balanced.inProgress
  confirmed := balanced.confirmed
  pending := balanced.pending
  locked := balanced.locked
  sum := by
    simp only [Capacity.reserve, balanced.sum]
    ring
  available := by
    simp only [Capacity.reserve]
    linarith [epsilon_nonneg]

theorem freeze (balanced : cap.Balanced) : (cap.freeze amount).Balanced where
  inProgress := balanced.inProgress
  confirmed := balanced.confirmed
  pending := balanced.pending
  locked := balanced.locked
  sum := by
    simp only [Capacity.freeze, balanced.sum]
    ring
  available := balanced.available

theorem resolve (balanced : cap.Balanced) {taken : Capacity} {settled refunded : ℚ}
    (took : cap.takeEscrow amount = .ok taken) :
    (taken.resolve amount settled refunded).Balanced := by
  rcases takeEscrow_ok took with ⟨-, rfl⟩ | ⟨-, rfl⟩
  all_goals exact {
    inProgress := balanced.inProgress
    confirmed := balanced.confirmed
    pending := balanced.pending
    locked := congrArg (· - amount) balanced.locked
    sum := by
      simp only [Capacity.resolve, balanced.sum]
      ring
    available := balanced.available }

end Capacity.Balanced

/-! ## Vouchers and settlements -/

/-- The vouchers after `useVoucher`, read one by one. -/
theorem useVoucher_get (vouchers : Table VoucherId Voucher) (named : Option VoucherId)
    (voucherId : VoucherId) :
    (useVoucher vouchers named).get voucherId = (vouchers.get voucherId).map fun row =>
      if named = some voucherId ∧ row.status = .accepted then { row with status := .used }
      else row := by
  cases named with
  | none => simp [useVoucher]
  | some used =>
      simp only [useVoucher, Option.some.injEq]
      by_cases same : used = voucherId
      · subst same
        cases there : vouchers.get used with
        | none => simp [there]
        | some row => by_cases accepted : row.status = .accepted <;> simp [there, accepted]
      · cases there : vouchers.get used with
        | none => simp [same]
        | some row => by_cases accepted : row.status = .accepted <;> simp [accepted, same, Ne.symm same]

theorem every_useVoucher {vouchers : Table VoucherId Voucher} {named : Option VoucherId}
    {property : VoucherId → Voucher → Prop} (every : vouchers.Every property)
    (used : ∀ voucherId row, property voucherId row →
      property voucherId { row with status := .used }) :
    (useVoucher vouchers named).Every property := by
  intro voucherId row there
  rw [useVoucher_get, Option.map_eq_some_iff] at there
  obtain ⟨old, there, rfl⟩ := there
  have before := every voucherId old there
  split
  · exact used voucherId old before
  · exact before

/-- A settlement names a voucher of its buyer, which has been used if the settlement has been
resolved. -/
def SettlementState.Linked (row : SettlementState) (vouchers : Table VoucherId Voucher) : Prop :=
  ∀ voucherId, row.voucherId = some voucherId →
    ∃ voucher, vouchers.get voucherId = some voucher ∧
      voucher.buyerIdentityId = row.clientAgentId ∧
      (voucher.status = .used ∨ voucher.status = .accepted ∧ ¬row.status.Resolved)

/-- The books of a database in which every step has been one of the service's. -/
structure Core.Sound (core : Core) : Prop where
  balanced : core.capacity.Every fun _ cap => cap.Balanced
  /-- What has been reserved has been locked. -/
  funded : core.vouchers.Every fun _ row => row.status = .accepted →
    ∃ cap, core.capacity.get row.buyerIdentityId = some cap
  billed : core.vouchers.Every fun _ row => 0 < row.billCreditAmount
  linked : core.settlements.Every fun _ row => row.Linked core.vouchers
  /-- A used voucher has been used by a resolved settlement. -/
  spent : core.vouchers.Every fun voucherId row => row.status = .used →
    ∃ taskId settlement, core.settlements.get taskId = some settlement ∧
      settlement.voucherId = some voucherId ∧ settlement.status.Resolved

section Effects

variable {db : Db} {call : Call} {core : Core}

theorem Effect.balanced (effect : Effect db call core) (sound : db.core.Sound) :
    core.capacity.Every fun _ cap => cap.Balanced := by
  have balanced := sound.balanced
  cases effect with
  | locked identityId amount positive =>
      refine balanced.set (Capacity.Balanced.lock ?_ positive)
      unfold Db.credits
      cases there : db.capacity.get identityId with
      | none => exact .empty
      | some cap => exact balanced identityId cap there
  | released identityId amount cap there _ available =>
      exact balanced.set ((balanced identityId cap there).release available)
  | voucherAccepted _ _ row cap _ _ _ funded available =>
      exact balanced.set ((balanced _ cap funded).reserve available)
  | disputed _ _ row _ cap _ _ _ _ _ funded =>
      exact balanced.set (balanced _ cap funded).freeze
  | resolved _ _ _ _ _ _ _ _ _ _ _ _ _ taken =>
      obtain ⟨-, rfl⟩ | ⟨cap, after, funded, took, rfl⟩ := taken
      · exact balanced
      · exact balanced.set ((balanced _ cap funded).resolve took)
  | _ => exact balanced

/-- A row of the capacity ledger never goes away. -/
theorem Effect.keeps_capacity (effect : Effect db call core) {identityId : IdentityId}
    (there : ∃ cap, db.capacity.get identityId = some cap) :
    ∃ cap, core.capacity.get identityId = some cap := by
  have kept (owner : IdentityId) (after : Capacity) :
      ∃ cap, (db.capacity.set owner after).get identityId = some cap := by
    rw [Table.get_set]
    split
    · exact ⟨after, rfl⟩
    · exact there
  cases effect with
  | locked | released | voucherAccepted | disputed => exact kept _ _
  | resolved _ _ _ _ _ _ _ _ _ _ _ _ _ taken =>
      obtain ⟨-, rfl⟩ | ⟨_, _, _, _, rfl⟩ := taken
      · exact there
      · exact kept _ _
  | _ => exact there

theorem Effect.funded (effect : Effect db call core) (sound : db.core.Sound) :
    core.vouchers.Every fun _ row => row.status = .accepted →
      ∃ cap, core.capacity.get row.buyerIdentityId = some cap := by
  have before : db.vouchers.Every fun _ row => row.status = .accepted →
      ∃ cap, core.capacity.get row.buyerIdentityId = some cap :=
    fun voucherId row there accepted =>
      effect.keeps_capacity (sound.funded voucherId row there accepted)
  cases effect with
  | voucherCreated voucherId body => exact before.set nofun
  | voucherAccepted _ voucherId row cap =>
      exact before.set fun _ => ⟨_, Table.get_set_self _ _ _⟩
  | voucherRejected => exact before.set nofun
  | resolved => exact every_useVoucher before fun _ _ _ => nofun
  | _ => exact before

theorem Effect.billed (effect : Effect db call core) (sound : db.core.Sound) :
    core.vouchers.Every fun _ row => 0 < row.billCreditAmount := by
  have billed := sound.billed
  cases effect with
  | voucherCreated voucherId body _ positive => exact billed.set positive
  | voucherAccepted _ voucherId row _ _ there => exact billed.set (billed voucherId row there)
  | voucherRejected _ voucherId row _ there => exact billed.set (billed voucherId row there)
  | resolved => exact every_useVoucher billed fun _ _ positive => positive
  | _ => exact billed

end Effects

namespace SettlementState.Linked

variable {row next : SettlementState} {vouchers : Table VoucherId Voucher}

theorem moved (linked : row.Linked vouchers) (same : row.SameTerms next)
    (unresolved : ¬next.status.Resolved) : next.Linked vouchers := by
  intro voucherId names
  obtain ⟨voucher, there, buyer, status⟩ := linked voucherId (same.voucherId ▸ names)
  exact ⟨voucher, there, buyer.trans same.clientAgentId.symm, status.imp_right fun accepted =>
    ⟨accepted.1, unresolved⟩⟩

/-- A voucher that no settlement can name yet may change. -/
theorem set (linked : row.Linked vouchers) {voucherId : VoucherId} {voucher : Voucher}
    (unbound : ∀ old, vouchers.get voucherId = some old → old.status = .created) :
    row.Linked (vouchers.set voucherId voucher) := by
  intro named names
  obtain ⟨bound, there, buyer, status⟩ := linked named names
  have different : named ≠ voucherId := by
    rintro rfl
    rw [unbound bound there] at status
    simp at status
  exact ⟨bound, by rwa [Table.get_set_of_ne different], buyer, status⟩

/-- Some voucher is used. -/
theorem use (linked : row.Linked vouchers) (used : Option VoucherId) :
    row.Linked (useVoucher vouchers used) := by
  intro voucherId names
  obtain ⟨voucher, there, buyer, status⟩ := linked voucherId names
  rw [useVoucher_get, there, Option.map_some]
  refine ⟨_, rfl, ?_⟩
  split
  · exact ⟨buyer, .inl rfl⟩
  · exact ⟨buyer, status⟩

/-- The settlement's own voucher is used. -/
theorem resolve (linked : row.Linked vouchers) (same : row.SameTerms next) :
    next.Linked (useVoucher vouchers row.voucherId) := by
  intro voucherId names
  rw [same.voucherId] at names
  obtain ⟨voucher, there, buyer, status⟩ := linked voucherId names
  rw [useVoucher_get, there, Option.map_some]
  refine ⟨_, rfl, ?_⟩
  split
  case isTrue => exact ⟨buyer.trans same.clientAgentId.symm, .inl rfl⟩
  case isFalse unused =>
    have used : voucher.status = .used :=
      status.resolve_right fun accepted => unused ⟨names, accepted.1⟩
    exact ⟨buyer.trans same.clientAgentId.symm, .inl used⟩

end SettlementState.Linked

section Effects

variable {db : Db} {call : Call} {core : Core}

theorem Effect.linked (effect : Effect db call core) (sound : db.core.Sound) :
    core.settlements.Every fun _ row => row.Linked core.vouchers := by
  have linked := sound.linked
  cases effect with
  | voucherCreated voucherId body fresh =>
      exact linked.mono fun _ _ before => before.set fun old there => nomatch fresh.symm.trans there
  | voucherAccepted _ voucherId row _ _ there created
  | voucherRejected _ voucherId row _ there created =>
      exact linked.mono fun _ _ before =>
        before.set fun old found => Option.some.inj (there.symm.trans found) ▸ created
  | settlementCreated body row _ _ _ client named draft bound =>
      refine linked.set fun voucherId names => ?_
      obtain ⟨voucher, checked⟩ := bound voucherId (named ▸ names)
      obtain ⟨there, accepted, buyer⟩ := boundVoucher_ok checked
      exact ⟨voucher, there, buyer.trans client.symm, .inr ⟨accepted, by rw [draft]; decide⟩⟩
  | moved _ taskId row next _ there same working =>
      exact linked.set ((linked taskId row there).moved same
        fun resolved => working.not_terminal resolved.terminal)
  | cancelled taskId row next there same cancelled =>
      exact linked.set ((linked taskId row there).moved same (by rw [cancelled]; decide))
  | disputed _ taskId row next _ _ there same disputed =>
      exact linked.set ((linked taskId row there).moved same (by rw [disputed]; decide))
  | arbitrated _ taskId row next _ there same arbitrated =>
      exact linked.set ((linked taskId row there).moved same (by rw [arbitrated]; decide))
  | resolved _ taskId row next _ _ _ there _ same =>
      have others : db.settlements.Every fun _ settlement =>
          settlement.Linked (useVoucher db.vouchers row.voucherId) :=
        linked.mono fun _ _ before => before.use row.voucherId
      exact others.set ((linked taskId row there).resolve same)
  | _ => exact linked

/-- A settlement that is over stays as it is. -/
theorem Effect.keeps_terminal (effect : Effect db call core) {taskId : TaskId}
    {row : SettlementState} (there : db.settlements.get taskId = some row)
    (terminal : row.status.Terminal) : core.settlements.get taskId = some row := by
  have kept {other : TaskId} {old : SettlementState} (next : SettlementState)
      (found : db.settlements.get other = some old) (live : ¬old.status.Terminal) :
      (db.settlements.set other next).get taskId = some row := by
    rw [Table.get_set_of_ne, there]
    rintro rfl
    obtain rfl := Option.some.inj (found.symm.trans there)
    exact live terminal
  cases effect with
  | settlementCreated body new fresh =>
      have different : taskId ≠ body.taskId := by
        rintro rfl
        cases fresh.symm.trans there
      exact (Table.get_set_of_ne different).trans there
  | moved _ _ _ next _ found _ working allowed =>
      exact kept next found (not_terminal_of_canTransition allowed working.thaws)
  | cancelled _ _ next found _ _ allowed
  | disputed _ _ _ next _ _ found _ _ allowed =>
      exact kept next found (not_terminal_of_canTransition allowed (by decide))
  | arbitrated _ _ _ next _ found _ _ disputed =>
      exact kept next found (by rw [disputed]; decide)
  | resolved _ _ _ next _ _ _ found _ _ ended before =>
      exact kept next found (not_terminal_of_resolved ended before)
  | _ => exact there

/-- Where the row of a settlement comes from. -/
inductive Origin (db : Db) (call : Call) (taskId : TaskId) (next : SettlementState) : Prop
  | kept : db.settlements.get taskId = some next → Origin db call taskId next
  | moved (row : SettlementState) : db.settlements.get taskId = some row →
      ¬row.status.Terminal → row.SameTerms next → Origin db call taskId next
  | created (body : CreateSettlementRequest) : call = .createSettlement body →
      db.settlements.get taskId = none → taskId = body.taskId →
      next.escrowAmount = body.escrowAmount → next.clientAgentId = body.clientAgentId →
      next.voucherId = body.voucherId → next.status = .draft →
      (∀ voucherId, body.voucherId = some voucherId →
        ∃ voucher, boundVoucher db body voucherId = .ok voucher) →
      Origin db call taskId next

theorem Effect.origin (effect : Effect db call core) {taskId : TaskId} {next : SettlementState}
    (there : core.settlements.get taskId = some next) : Origin db call taskId next := by
  have moves {other : TaskId} {row new : SettlementState}
      (found : db.settlements.get other = some row) (live : ¬row.status.Terminal)
      (same : row.SameTerms new)
      (there : (db.settlements.set other new).get taskId = some next) :
      Origin db call taskId next := by
    rcases Table.get_set_eq_some.mp there with ⟨here, rfl⟩ | ⟨-, there⟩
    · exact .moved row (here ▸ found) live same
    · exact .kept there
  cases effect with
  | settlementCreated body row fresh _ escrow client named draft bound =>
      rcases Table.get_set_eq_some.mp there with ⟨here, rfl⟩ | ⟨-, there⟩
      · exact .created body rfl (here ▸ fresh) here escrow client named draft bound
      · exact .kept there
  | moved _ _ _ _ _ found same working allowed =>
      exact moves found (not_terminal_of_canTransition allowed working.thaws) same there
  | cancelled _ _ _ found same _ allowed
  | disputed _ _ _ _ _ _ found same _ allowed =>
      exact moves found (not_terminal_of_canTransition allowed (by decide)) same there
  | arbitrated _ _ _ _ _ found same _ disputed =>
      exact moves found (by rw [disputed]; decide) same there
  | resolved _ _ _ _ _ _ _ found _ same ended before =>
      exact moves found (not_terminal_of_resolved ended before) same there
  | _ => exact .kept there

/-- If settlements are created on vouchers, every settlement names one. -/
theorem Effect.named (effect : Effect db call core)
    (before : db.settlements.Every fun _ row => ∃ voucherId, row.voucherId = some voucherId)
    (onVoucher : ∀ body, call = .createSettlement body → body.voucherId ≠ none) :
    core.settlements.Every fun _ row => ∃ voucherId, row.voucherId = some voucherId := by
  intro taskId row there
  cases effect.origin there with
  | kept there => exact before taskId row there
  | moved old there _ same =>
      obtain ⟨voucherId, names⟩ := before taskId old there
      exact ⟨voucherId, same.voucherId.trans names⟩
  | created body called _ _ _ _ named =>
      exact Option.ne_none_iff_exists'.mp (named ▸ onVoucher body called)

/-- A settlement on a voucher was on it before, or has just been created on it. -/
theorem Effect.namer (effect : Effect db call core) {taskId : TaskId} {row : SettlementState}
    {voucherId : VoucherId} (there : core.settlements.get taskId = some row)
    (names : row.voucherId = some voucherId) :
    (∃ old, db.settlements.get taskId = some old ∧ old.voucherId = some voucherId ∧
        (old = row ∨ ¬old.status.Terminal)) ∨
      ∃ body voucher, call = .createSettlement body ∧ taskId = body.taskId ∧
        body.voucherId = some voucherId ∧ boundVoucher db body voucherId = .ok voucher := by
  cases effect.origin there with
  | kept there => exact .inl ⟨row, there, names, .inl rfl⟩
  | moved old there live same =>
      exact .inl ⟨old, there, same.voucherId.symm.trans names, .inr live⟩
  | created body called _ here _ _ named _ bound =>
      rw [named] at names
      obtain ⟨voucher, bound⟩ := bound voucherId names
      exact .inr ⟨body, voucher, called, here, names, bound⟩

/-- What at most one task had, and a task gets only when it is created and none has it, at most
one task has. -/
theorem unique_holder {old new : TaskId → Prop}
    (before : ∀ first second, old first → old second → first = second)
    (origin : ∀ taskId, new taskId → old taskId ∨
      (∃ body, call = .createSettlement body ∧ taskId = body.taskId) ∧ ∀ other, ¬old other)
    {first second : TaskId} (one : new first) (also : new second) : first = second := by
  rcases origin first one with held | ⟨⟨body, rfl, here⟩, none⟩
  · rcases origin second also with alsoHeld | ⟨-, none⟩
    · exact before first second held alsoHeld
    · exact absurd held (none first)
  · rcases origin second also with held | ⟨⟨again, same, alsoHere⟩, -⟩
    · exact absurd held (none second)
    · cases same
      exact here.trans alsoHere.symm

/-- The terms of a voucher do not change. -/
theorem Effect.keeps_bill (effect : Effect db call core) {voucherId : VoucherId} {row : Voucher}
    (there : db.vouchers.get voucherId = some row) :
    ∃ next, core.vouchers.get voucherId = some next ∧
      next.billCreditAmount = row.billCreditAmount := by
  have kept {other : VoucherId} {old new : Voucher} (found : db.vouchers.get other = some old)
      (same : new.billCreditAmount = old.billCreditAmount) :
      ∃ next, (db.vouchers.set other new).get voucherId = some next ∧
        next.billCreditAmount = row.billCreditAmount := by
    rw [Table.get_set]
    split
    case isTrue here =>
      subst here
      obtain rfl := Option.some.inj (there.symm.trans found)
      exact ⟨new, rfl, same⟩
    case isFalse => exact ⟨row, there, rfl⟩
  cases effect with
  | voucherCreated other body fresh =>
      have different : voucherId ≠ other := by
        rintro rfl
        cases fresh.symm.trans there
      exact ⟨row, (Table.get_set_of_ne different).trans there, rfl⟩
  | voucherAccepted _ _ old _ _ found => exact kept found rfl
  | voucherRejected _ _ old _ found => exact kept found rfl
  | resolved =>
      rw [useVoucher_get, there, Option.map_some]
      refine ⟨_, rfl, ?_⟩
      split <;> rfl
  | _ => exact ⟨row, there, rfl⟩

/-- What becomes of a settlement under way: it stays under way, is cancelled, or is resolved. -/
theorem Effect.fate (effect : Effect db call core) {taskId : TaskId} {row : SettlementState}
    (there : db.settlements.get taskId = some row) (live : ¬row.status.Terminal) :
    (∃ next, core.settlements.get taskId = some next ∧ row.SameTerms next ∧
        ¬next.status.Terminal) ∨
      call = .failSettlement taskId ∨
      call.resolves db = some taskId ∧ core.vouchers = useVoucher db.vouchers row.voucherId := by
  have same := SettlementState.SameTerms.refl row
  have moves {other : TaskId} {old next : SettlementState}
      (found : db.settlements.get other = some old) (terms : old.SameTerms next)
      (still : ¬next.status.Terminal) :
      ∃ next', (db.settlements.set other next).get taskId = some next' ∧ row.SameTerms next' ∧
        ¬next'.status.Terminal := by
    rw [Table.get_set]
    split
    case isTrue here =>
      subst here
      obtain rfl := Option.some.inj (there.symm.trans found)
      exact ⟨next, rfl, terms, still⟩
    case isFalse => exact ⟨row, there, same, live⟩
  cases effect with
  | settlementCreated body new fresh =>
      have different : taskId ≠ body.taskId := by
        rintro rfl
        cases fresh.symm.trans there
      exact .inl ⟨row, (Table.get_set_of_ne different).trans there, same, live⟩
  | moved _ _ _ _ _ found terms working => exact .inl (moves found terms working.not_terminal)
  | disputed _ _ _ _ _ _ found terms disputed =>
      exact .inl (moves found terms (by rw [disputed]; decide))
  | arbitrated _ _ _ _ _ found terms arbitrated =>
      exact .inl (moves found terms (by rw [arbitrated]; decide))
  | cancelled other old next =>
      by_cases here : taskId = other
      · exact .inr (.inl (here ▸ rfl))
      · exact .inl ⟨row, (Table.get_set_of_ne here).trans there, same, live⟩
  | resolved _ other old next _ _ _ found resolving =>
      by_cases here : taskId = other
      · subst here
        obtain rfl := Option.some.inj (there.symm.trans found)
        exact .inr (.inr ⟨resolving, rfl⟩)
      · exact .inl ⟨row, (Table.get_set_of_ne here).trans there, same, live⟩
  | _ => exact .inl ⟨row, there, same, live⟩

/-- A used voucher stays as it is. -/
theorem Effect.keeps_used (effect : Effect db call core) {voucherId : VoucherId} {row : Voucher}
    (there : db.vouchers.get voucherId = some row) (used : row.status = .used) :
    core.vouchers.get voucherId = some row := by
  have kept {other : VoucherId} (new : Voucher)
      (unbound : ∀ old, db.vouchers.get other = some old → old.status = .created) :
      (db.vouchers.set other new).get voucherId = some row := by
    rw [Table.get_set_of_ne, there]
    rintro rfl
    cases (unbound row there).symm.trans used
  cases effect with
  | voucherCreated voucherId body fresh => exact kept _ fun old found => nomatch fresh.symm.trans found
  | voucherAccepted _ _ old _ _ found created
  | voucherRejected _ _ old _ found created =>
      exact kept _ fun other also => Option.some.inj (found.symm.trans also) ▸ created
  | resolved =>
      rw [useVoucher_get, there, Option.map_some, if_neg]
      simp [used]
  | _ => exact there

theorem Effect.spent (effect : Effect db call core) (sound : db.core.Sound) :
    core.vouchers.Every fun voucherId row => row.status = .used →
      ∃ taskId settlement, core.settlements.get taskId = some settlement ∧
        settlement.voucherId = some voucherId ∧ settlement.status.Resolved := by
  have kept : db.vouchers.Every fun voucherId row => row.status = .used →
      ∃ taskId settlement, core.settlements.get taskId = some settlement ∧
        settlement.voucherId = some voucherId ∧ settlement.status.Resolved := by
    intro voucherId row there used
    obtain ⟨taskId, settlement, stored, names, resolved⟩ := sound.spent voucherId row there used
    exact ⟨taskId, settlement, effect.keeps_terminal stored resolved.terminal, names, resolved⟩
  cases effect with
  | voucherCreated => exact kept.set nofun
  | voucherAccepted => exact kept.set nofun
  | voucherRejected => exact kept.set nofun
  | resolved _ taskId row next _ _ _ there _ same ended =>
      intro voucherId voucher found used
      rw [useVoucher_get, Option.map_eq_some_iff] at found
      obtain ⟨old, found, rfl⟩ := found
      split at used
      case isTrue own =>
        exact ⟨taskId, next, Table.get_set_self _ _ _, same.voucherId.trans own.1, ended⟩
      case isFalse => exact kept voucherId old found used
  | _ => exact kept

theorem sound_empty : ({} : Db).core.Sound where
  balanced := Table.every_empty _
  funded := Table.every_empty _
  billed := Table.every_empty _
  linked := Table.every_empty _
  spent := Table.every_empty _

theorem Effect.sound (effect : Effect db call core) (sound : db.core.Sound) : core.Sound where
  balanced := effect.balanced sound
  funded := effect.funded sound
  billed := effect.billed sound
  linked := effect.linked sound
  spent := effect.spent sound

end Effects

/-! ## Checks that pass -/

section Checks

variable {db : Db} {cap : Capacity}

theorem Capacity.Balanced.checked (balanced : cap.Balanced) :
    assertCapacityInvariants cap = .ok () := by
  have active : cap.activeCredits = cap.totalBillCredits := by
    rw [Capacity.activeCredits, balanced.inProgress, balanced.confirmed, balanced.pending,
      balanced.sum]
    ring
  have anchored : cap.activeCredits ≤ cap.totalLockedUsdc + epsilon := by
    rw [active, balanced.locked]
    exact le_add_of_nonneg_right epsilon_nonneg
  rw [assertCapacityInvariants, require_ok, ok_bind, require_ok anchored]
  rw [active, sub_self, abs_zero]
  exact epsilon_nonneg

theorem auditCapacityAnchor_passes (balanced : db.capacity.Every fun _ cap => cap.Balanced) :
    auditCapacityAnchor db = .ok () := by
  have same : db.totalBillCredits = db.totalLockedUsdc :=
    Table.total_congr fun identityId cap there => (balanced identityId cap there).locked.symm
  exact require_ok (same ▸ le_add_of_nonneg_right epsilon_nonneg)

/-- A row that adds up is stored. -/
theorem storeCapacity_passes {identityId : IdentityId} (balanced : cap.Balanced)
    (others : db.capacity.Every fun _ cap => cap.Balanced) :
    storeCapacity db identityId cap = .ok (db.setCapacity identityId cap) :=
  storeCapacity_eq_ok.mpr ⟨⟨balanced.checked, auditCapacityAnchor_passes (others.set balanced)⟩, rfl⟩

end Checks

/-! ## Runs -/

section Runs

variable {config : Config} {world : World}

theorem reachable_sound (reachable : (system config).Reachable world) : world.db.core.Sound := by
  refine reachable.invariant (fun world initial => ?_) fun world action next reachable sound step => ?_
  · have empty : world.db = {} := initial
    exact empty ▸ sound_empty
  · exact step_core Core.Sound (reachable_wellFormed reachable) sound
      (fun request call core _ effect => effect.sound sound) step

end Runs

end TrustChain.Service
