import TrustChain.Service.Reservations

/-!
# Dispute funds belong to their task

A resolution takes the escrow from the disputed bucket whenever that bucket is large enough,
also for a task without a dispute. In the runs in which it is not, the disputed bucket is what
the disputed tasks have at stake and the reserved one covers the other tasks under way.
-/

namespace TrustChain.Service

open Library

/-- A dispute is open or has been decided but not executed. -/
def TaskStatus.Contested (status : TaskStatus) : Prop := status = .disputed ∨ status = .arbitrated

instance : DecidablePred TaskStatus.Contested := fun _ => inferInstanceAs (Decidable (_ ∨ _))

namespace SettlementState

variable (buyerIdentityId : IdentityId) (row : SettlementState)

/-- What a settlement has at stake in the disputed bucket of a buyer. -/
def contestedEscrow : ℚ :=
  if row.status.Contested ∧ row.clientAgentId = buyerIdentityId then row.escrowAmount else 0

/-- What a settlement under way without a dispute has at stake in the reserved bucket. -/
def openEscrow : ℚ :=
  if (¬row.status.Terminal ∧ ¬row.status.Contested) ∧ row.clientAgentId = buyerIdentityId then
    row.escrowAmount
  else 0

end SettlementState

namespace Core

variable (core : Core) (buyerIdentityId : IdentityId)

def contestedEscrow : ℚ := core.settlements.total fun _ row => row.contestedEscrow buyerIdentityId

def openEscrow : ℚ := core.settlements.total fun _ row => row.openEscrow buyerIdentityId

end Core

/-- A settlement is created on a voucher that no settlement has named. -/
def Action.OwnVoucher (world : World) (action : Action) : Prop :=
  ∀ body ∈ action.creates, ∃ voucherId ∈ body.voucherId,
    ∀ entry ∈ world.db.settlements.rows, entry.2.voucherId ≠ some voucherId

/-- An escrow is between nothing and what its voucher stands for, and a task without a dispute
is resolved only while the disputed bucket does not cover its escrow. -/
def Action.KeepsApart (world : World) (action : Action) : Prop :=
  (∀ body ∈ action.creates, 0 ≤ body.escrowAmount ∧ ∀ voucherId ∈ body.voucherId,
    ∀ voucher ∈ world.db.vouchers.get voucherId, body.escrowAmount ≤ voucher.billCreditAmount) ∧
  ∀ taskId ∈ action.resolves world, ∀ row ∈ world.db.settlements.get taskId,
    ¬row.status.Contested → row.escrowAmount = 0 ∨
      (world.db.credits row.clientAgentId).disputedCredits + epsilon < row.escrowAmount

/-- Every settlement has its own voucher, which covers it; what is held covers the accepted
vouchers; and the disputed bucket is what the disputed tasks have at stake. -/
structure Core.Apart (core : Core) : Prop where
  named : core.settlements.Every fun _ row => ∃ voucherId, row.voucherId = some voucherId
  distinct : ∀ first second one other voucherId, core.settlements.get first = some one →
    core.settlements.get second = some other → one.voucherId = some voucherId →
    other.voucherId = some voucherId → first = second
  nonneg : core.settlements.Every fun _ row => 0 ≤ row.escrowAmount
  covered : core.settlements.Every fun _ row => ∀ voucherId voucher,
    row.voucherId = some voucherId → core.vouchers.get voucherId = some voucher →
      row.escrowAmount ≤ voucher.billCreditAmount
  slack : ∀ buyer, 0 ≤ core.slack buyer
  contested : ∀ buyer, (core.credits buyer).disputedCredits = core.contestedEscrow buyer

/-! ## What the invariant gives -/

section Apart

variable {db : Db} {taskId : TaskId} {row : SettlementState} {buyer : IdentityId}

theorem TaskStatus.Contested.not_terminal {status : TaskStatus} (contested : status.Contested) :
    ¬status.Terminal := by
  rcases contested with rfl | rfl <;> decide

/-- The voucher of a settlement under way is accepted. -/
theorem Core.Apart.accepted (apart : db.core.Apart) (sound : db.core.Sound)
    (there : db.settlements.get taskId = some row) (live : ¬row.status.Terminal) :
    ∃ voucherId voucher, row.voucherId = some voucherId ∧
      db.vouchers.get voucherId = some voucher ∧ voucher.status = .accepted ∧
      voucher.buyerIdentityId = row.clientAgentId ∧
      row.escrowAmount ≤ voucher.billCreditAmount := by
  obtain ⟨voucherId, names⟩ := apart.named taskId row there
  obtain ⟨voucher, found, client, status⟩ := sound.linked taskId row there voucherId names
  have covered := apart.covered taskId row there voucherId voucher names found
  refine ⟨voucherId, voucher, names, found, ?_, client, covered⟩
  rcases status with used | accepted
  · obtain ⟨other, spender, stored, alsoNames, resolved⟩ := sound.spent voucherId voucher found used
    obtain rfl := apart.distinct taskId other row spender voucherId there stored names alsoNames
    obtain rfl := Option.some.inj (there.symm.trans stored)
    exact absurd resolved.terminal live
  · exact accepted.1

theorem contestedEscrow_nonneg (apart : db.core.Apart) (buyer : IdentityId) :
    db.settlements.Every fun _ row => 0 ≤ row.contestedEscrow buyer := by
  intro taskId row there
  unfold SettlementState.contestedEscrow
  split
  · exact apart.nonneg taskId row there
  · exact le_rfl

theorem openEscrow_nonneg (apart : db.core.Apart) (buyer : IdentityId) :
    db.settlements.Every fun _ row => 0 ≤ row.openEscrow buyer := by
  intro taskId row there
  unfold SettlementState.openEscrow
  split
  · exact apart.nonneg taskId row there
  · exact le_rfl

theorem claim_nonneg (sound : db.core.Sound) (buyer : IdentityId) :
    db.vouchers.Every fun _ row => 0 ≤ row.claim buyer := by
  intro voucherId row there
  unfold Voucher.claim
  split
  · exact (sound.billed voucherId row there).le
  · exact le_rfl

theorem contestedEscrow_of_contested (contested : row.status.Contested) :
    row.contestedEscrow buyer = if row.clientAgentId = buyer then row.escrowAmount else 0 := by
  rw [SettlementState.contestedEscrow]
  exact if_congr (and_iff_right contested) rfl rfl

theorem contestedEscrow_of_not_contested (quiet : ¬row.status.Contested) :
    row.contestedEscrow buyer = 0 :=
  if_neg fun both => quiet both.1

/-- The buyer of a settlement under way has a row in the capacity ledger. -/
theorem Core.Apart.funded (apart : db.core.Apart) (sound : db.core.Sound)
    (there : db.settlements.get taskId = some row) (live : ¬row.status.Terminal) :
    ∃ cap, db.capacity.get row.clientAgentId = some cap := by
  obtain ⟨voucherId, voucher, -, found, accepted, client, -⟩ := apart.accepted sound there live
  exact client ▸ sound.funded voucherId voucher found accepted

/-- The disputed bucket covers every disputed task. -/
theorem Core.Apart.contested_le (apart : db.core.Apart)
    (there : db.settlements.get taskId = some row) (contested : row.status.Contested) :
    row.escrowAmount ≤ (db.credits row.clientAgentId).disputedCredits := by
  have stake := Table.le_total (contestedEscrow_nonneg apart row.clientAgentId) there
  rw [contestedEscrow_of_contested contested, if_pos rfl] at stake
  exact stake.trans_eq (apart.contested row.clientAgentId).symm

/-- What a settlement has at stake, in either bucket. -/
theorem stake_eq (row : SettlementState) (buyer : IdentityId) :
    row.openEscrow buyer + row.contestedEscrow buyer =
      if ¬row.status.Terminal ∧ row.clientAgentId = buyer then row.escrowAmount else 0 := by
  unfold SettlementState.openEscrow SettlementState.contestedEscrow
  by_cases contested : row.status.Contested
  · simp [contested, contested.not_terminal]
  · simp [contested]

/-- What the settlements under way have at stake is covered by their vouchers. -/
theorem Core.Apart.stakes_le (apart : db.core.Apart) (sound : db.core.Sound) (buyer : IdentityId) :
    db.core.openEscrow buyer + db.core.contestedEscrow buyer ≤ db.core.acceptedCredits buyer := by
  rw [Core.openEscrow, Core.contestedEscrow, ← Table.total_add]
  refine Table.total_le_total SettlementState.voucherId (claim_nonneg sound buyer) ?_ ?_
  · intro taskId row there
    rw [stake_eq]
    split
    case isTrue own =>
      obtain ⟨voucherId, voucher, names, found, accepted, client, covered⟩ :=
        apart.accepted sound there own.1
      refine .inr ⟨voucherId, voucher, names, found, ?_⟩
      rwa [Voucher.claim, if_pos ⟨accepted, client.trans own.2⟩]
    case isFalse => exact .inl le_rfl
  · intro first second one other voucherId there also names alsoNames
    exact apart.distinct first second one other voucherId there also names alsoNames

theorem Core.Apart.open_le (apart : db.core.Apart) (sound : db.core.Sound) (buyer : IdentityId) :
    db.core.openEscrow buyer ≤ (db.credits buyer).reservedCredits := by
  have stakes := apart.stakes_le sound buyer
  have held : 0 ≤ (db.credits buyer).held - db.core.acceptedCredits buyer := apart.slack buyer
  have contested : (db.credits buyer).disputedCredits = db.core.contestedEscrow buyer :=
    apart.contested buyer
  simp only [Capacity.held] at held
  linarith

end Apart

/-! ## Every request -/

section Effects

variable {world : World} {request : Request} {call : Call} {core : Core}

/-- Work does not go on, and no dispute opens, on a contested settlement. -/
theorem not_contested_of_canTransition {status target : TaskStatus}
    (allowed : canTransition status target = true)
    (elsewhere : canonicalTaskStatus target ∉
      [TaskStatus.arbitrated, .settled, .refunded, .partiallySettled, .frozen]) :
    ¬status.Contested := by
  intro contested
  have next := List.contains_iff_mem.mp allowed
  rcases contested with rfl | rfl
  · exact elsewhere (List.Sublist.subset (by decide) next)
  · exact elsewhere (List.mem_cons_of_mem _ next)

theorem TaskStatus.Working.not_contested {status : TaskStatus} (working : status.Working) :
    ¬status.Contested := by
  revert status
  unfold TaskStatus.Working
  decide

theorem TaskStatus.Working.elsewhere {status : TaskStatus} (working : status.Working) :
    canonicalTaskStatus status ∉
      [TaskStatus.arbitrated, .settled, .refunded, .partiallySettled, .frozen] := by
  revert status
  unfold TaskStatus.Working
  decide

/-- A settlement names the voucher. -/
def Core.Names (core : Core) (voucherId : VoucherId) (taskId : TaskId) : Prop :=
  ∃ row, core.settlements.get taskId = some row ∧ row.voucherId = some voucherId

variable (effect : Effect world.db call core)

include effect

theorem Effect.distinct (before : world.db.core.Apart)
    (own : (Action.request request call).OwnVoucher world) {first second : TaskId}
    {one other : SettlementState} {voucherId : VoucherId}
    (there : core.settlements.get first = some one)
    (also : core.settlements.get second = some other) (names : one.voucherId = some voucherId)
    (alsoNames : other.voucherId = some voucherId) : first = second := by
  have origin : ∀ taskId, core.Names voucherId taskId → world.db.core.Names voucherId taskId ∨
      (∃ body, call = .createSettlement body ∧ taskId = body.taskId) ∧
        ∀ other, ¬world.db.core.Names voucherId other := by
    rintro taskId ⟨row, there, names⟩
    rcases effect.namer there names with
      ⟨old, was, named, -⟩ | ⟨body, voucher, rfl, here, named, -⟩
    · exact .inl ⟨old, was, named⟩
    · obtain ⟨fresh, bodyNames, unused⟩ := own body rfl
      obtain rfl : fresh = voucherId := Option.some.inj (bodyNames.symm.trans named)
      refine .inr ⟨⟨body, rfl, here⟩, ?_⟩
      rintro other ⟨row, there, names⟩
      exact unused (other, row) (Table.mem_rows_iff.mpr there) names
  refine unique_holder ?_ origin ⟨one, there, names⟩ ⟨other, also, alsoNames⟩
  rintro first second ⟨one, there, names⟩ ⟨other, also, alsoNames⟩
  exact before.distinct first second one other voucherId there also names alsoNames

theorem Effect.nonneg (before : world.db.core.Apart)
    (keeps : (Action.request request call).KeepsApart world) :
    core.settlements.Every fun _ row => 0 ≤ row.escrowAmount := by
  intro taskId row there
  cases effect.origin there with
  | kept there => exact before.nonneg taskId row there
  | moved old there _ same => exact same.escrowAmount ▸ before.nonneg taskId old there
  | created body called _ _ escrow =>
      subst called
      exact escrow ▸ (keeps.1 body rfl).1

theorem Effect.covered (sound : world.db.core.Sound) (before : world.db.core.Apart)
    (keeps : (Action.request request call).KeepsApart world) :
    core.settlements.Every fun _ row => ∀ voucherId voucher, row.voucherId = some voucherId →
      core.vouchers.get voucherId = some voucher → row.escrowAmount ≤ voucher.billCreditAmount := by
  intro taskId row there voucherId voucher names found
  have bill {prior : Voucher} (was : world.db.vouchers.get voucherId = some prior) :
      voucher.billCreditAmount = prior.billCreditAmount := by
    obtain ⟨next, again, same⟩ := effect.keeps_bill was
    obtain rfl := Option.some.inj (found.symm.trans again)
    exact same
  have old {prior : SettlementState} (there : world.db.settlements.get taskId = some prior)
      (names : prior.voucherId = some voucherId) :
      prior.escrowAmount ≤ voucher.billCreditAmount := by
    obtain ⟨linked, was, -⟩ := sound.linked taskId prior there voucherId names
    exact bill was ▸ before.covered taskId prior there voucherId linked names was
  cases effect.origin there with
  | kept there => exact old there names
  | moved prior there _ same =>
      exact same.escrowAmount ▸ old there (same.voucherId.symm.trans names)
  | created body called _ _ escrow _ named _ bound =>
      subst called
      rw [named] at names
      obtain ⟨linked, checked⟩ := bound voucherId names
      have was := (boundVoucher_ok checked).1
      rw [escrow, bill was]
      exact (keeps.1 body rfl).2 voucherId names linked was

theorem Effect.slack_nonneg (sound : world.db.core.Sound) (before : world.db.core.Apart)
    (buyer : IdentityId) : 0 ≤ core.slack buyer := by
  have slack := before.slack buyer
  have backed : ∀ taskId ∈ call.resolves world.db, ∀ row ∈ world.db.settlements.get taskId,
      ¬row.status.Terminal → ∃ voucherId ∈ row.voucherId,
        ∃ voucher ∈ world.db.vouchers.get voucherId, voucher.status = .accepted := by
    intro taskId _ row there live
    obtain ⟨voucherId, voucher, names, found, accepted, -⟩ := before.accepted sound there live
    exact ⟨voucherId, names, voucher, found, accepted⟩
  rcases effect.slack sound backed buyer with same |
    ⟨taskId, row, voucherId, voucher, -, there, names, found, -, changed⟩
  · exact same ▸ slack
  · have covered := before.covered taskId row there voucherId voucher names found
    rw [changed]
    split
    · exact add_nonneg slack (sub_nonneg.mpr covered)
    · exact add_nonneg slack le_rfl

omit effect in
/-- Storing a settlement over another one exchanges what they have at stake. -/
theorem contestedEscrow_set {db : Db} {taskId : TaskId} {row : SettlementState}
    (there : db.settlements.get taskId = some row) (next : SettlementState) (buyer : IdentityId) :
    (db.settlements.set taskId next).total (fun _ row => row.contestedEscrow buyer) =
      db.core.contestedEscrow buyer + next.contestedEscrow buyer - row.contestedEscrow buyer := by
  have exchanged := db.settlements.total_set taskId next fun _ row => row.contestedEscrow buyer
  rw [there, Option.elim_some] at exchanged
  exact eq_sub_of_add_eq exchanged

omit effect in
theorem contestedEscrow_set_same {db : Db} {taskId : TaskId} {row next : SettlementState}
    (there : db.settlements.get taskId = some row) (same : row.SameTerms next)
    (status : next.status.Contested ↔ row.status.Contested) (buyer : IdentityId) :
    (db.settlements.set taskId next).total (fun _ row => row.contestedEscrow buyer) =
      db.core.contestedEscrow buyer := by
  have stake : next.contestedEscrow buyer = row.contestedEscrow buyer := by
    rw [SettlementState.contestedEscrow, SettlementState.contestedEscrow, same.clientAgentId,
      same.escrowAmount]
    exact if_congr (and_congr_left fun _ => status) rfl rfl
  rw [contestedEscrow_set there, stake, add_sub_cancel_right]

omit effect in
/-- A resolution that the disputed bucket does not cover leaves it alone. -/
theorem disputed_spared {db : Db} {owner : IdentityId} {cap taken : Capacity}
    {amount settled refunded : ℚ} (funded : db.capacity.get owner = some cap)
    (took : cap.takeEscrow amount = .ok taken)
    (spared : amount = 0 ∨ cap.disputedCredits + epsilon < amount) (buyer : IdentityId) :
    (((db.capacity.set owner (taken.resolve amount settled refunded)).get buyer).getD
      {}).disputedCredits = (db.credits buyer).disputedCredits := by
  refine bucket_set_same Capacity.disputedCredits buyer funded ?_
  rcases takeEscrow_ok took with ⟨covered, rfl⟩ | ⟨-, rfl⟩
  · have zero : amount = 0 := spared.resolve_right fun short => absurd covered (not_le.mpr short)
    simp only [Capacity.resolve, zero, sub_zero]
  · rfl

theorem Effect.contested (sound : world.db.core.Sound) (before : world.db.core.Apart)
    (keeps : (Action.request request call).KeepsApart world) (buyer : IdentityId) :
    (core.credits buyer).disputedCredits = core.contestedEscrow buyer := by
  have contested : (world.db.credits buyer).disputedCredits =
      world.db.core.contestedEscrow buyer := before.contested buyer
  cases effect with
  | locked owner amount =>
      refine Eq.trans ?_ contested
      exact bucket_lock Capacity.disputedCredits buyer owner rfl
  | released owner amount cap there =>
      refine Eq.trans ?_ contested
      exact bucket_set_same Capacity.disputedCredits buyer there rfl
  | voucherAccepted _ _ row cap _ _ _ funded =>
      refine Eq.trans ?_ contested
      exact bucket_set_same Capacity.disputedCredits buyer funded rfl
  | settlementCreated body row fresh _ _ _ _ draft =>
      refine contested.trans (Table.total_set_same ?_).symm
      rw [show world.db.core.settlements.get body.taskId = none from fresh]
      exact contestedEscrow_of_not_contested (by rw [draft]; decide)
  | moved _ taskId row next _ there same working allowed =>
      refine contested.trans (contestedEscrow_set_same there same ?_ buyer).symm
      exact iff_of_false working.not_contested
        (not_contested_of_canTransition allowed working.elsewhere)
  | cancelled taskId row next there same cancelled allowed =>
      refine contested.trans (contestedEscrow_set_same there same ?_ buyer).symm
      exact iff_of_false (by rw [cancelled]; decide)
        (not_contested_of_canTransition allowed (by decide))
  | disputed _ taskId row next cap _ there same disputed allowed funded =>
      have quiet := not_contested_of_canTransition allowed (by decide)
      have total := contestedEscrow_set there next buyer
      rw [contestedEscrow_of_not_contested quiet, contestedEscrow_of_contested (.inl disputed),
        same.clientAgentId, same.escrowAmount, sub_zero] at total
      refine Eq.trans ?_ total.symm
      rw [← contested]
      exact bucket_set Capacity.disputedCredits buyer funded rfl
  | arbitrated _ taskId row next _ there same arbitrated disputed =>
      refine contested.trans (contestedEscrow_set_same there same ?_ buyer).symm
      exact iff_of_true (.inr arbitrated) (.inl disputed)
  | resolved _ taskId row next settled refunded _ there resolving same ended prior _ taken =>
      have live := not_terminal_of_resolved ended prior
      have resolved : ¬next.status.Contested := by
        rcases ended with settled | refunded
        · rw [settled]
          decide
        · rw [refunded]
          decide
      have total := contestedEscrow_set there next buyer
      rw [contestedEscrow_of_not_contested resolved, add_zero] at total
      refine Eq.trans ?_ total.symm
      obtain ⟨nobody, -⟩ | ⟨cap, after, funded, took, rfl⟩ := taken
      · obtain ⟨cap, funded⟩ := before.funded sound there live
        cases nobody.symm.trans funded
      · have row_eq : world.db.credits row.clientAgentId = cap := credits_of_get funded
        by_cases disputed : row.status.Contested
        · have enough := before.contested_le there disputed
          rw [row_eq] at enough
          rcases takeEscrow_ok took with ⟨-, rfl⟩ | ⟨short, -⟩
          · rw [contestedEscrow_of_contested disputed, ← contested]
            refine (bucket_set Capacity.disputedCredits buyer funded (sub_eq_add_neg _ _)).trans ?_
            split_ifs
            · exact (sub_eq_add_neg _ _).symm
            · rw [add_zero, sub_zero]
          · exact absurd short (not_lt.mpr (enough.trans (le_add_of_nonneg_right epsilon_nonneg)))
        · have spared := keeps.2 taskId resolving row there disputed
          rw [row_eq] at spared
          rw [contestedEscrow_of_not_contested disputed, sub_zero, ← contested]
          exact disputed_spared funded took spared buyer
  | _ => exact contested

/-- The resolution of a task without a dispute leaves the disputed buckets alone. -/
theorem Effect.spares (keeps : (Action.request request call).KeepsApart world) {taskId : TaskId}
    {row : SettlementState} (resolves : call.resolves world.db = some taskId)
    (there : world.db.settlements.get taskId = some row) (quiet : ¬row.status.Contested)
    (buyer : IdentityId) :
    (core.credits buyer).disputedCredits = (world.db.credits buyer).disputedCredits := by
  cases effect with
  | locked => cases resolves
  | released => cases resolves
  | voucherAccepted _ _ _ _ _ _ _ funded =>
      exact bucket_set_same Capacity.disputedCredits buyer funded rfl
  | disputed _ _ _ _ _ _ _ _ _ _ _ _ opens => cases opens.symm.trans resolves
  | resolved _ other old _ _ _ _ found resolving _ _ _ _ taken =>
      obtain rfl := Option.some.inj (resolving.symm.trans resolves)
      obtain rfl := Option.some.inj (found.symm.trans there)
      obtain ⟨-, rfl⟩ | ⟨cap, after, funded, took, rfl⟩ := taken
      · rfl
      · have spared := keeps.2 other resolving old found quiet
        rw [credits_of_get funded] at spared
        exact disputed_spared funded took spared buyer
  | _ => rfl

theorem Effect.apart (sound : world.db.core.Sound) (before : world.db.core.Apart)
    (own : (Action.request request call).OwnVoucher world)
    (keeps : (Action.request request call).KeepsApart world) : core.Apart where
  named := effect.named before.named fun body called none => by
    subst called
    obtain ⟨voucherId, names, -⟩ := own body rfl
    cases none.symm.trans names
  distinct _ _ _ _ _ there also names alsoNames :=
    effect.distinct before own there also names alsoNames
  nonneg := effect.nonneg before keeps
  covered := effect.covered sound before keeps
  slack := effect.slack_nonneg sound before
  contested := effect.contested sound before keeps

omit effect

theorem apart_empty : ({} : Db).core.Apart where
  named := Table.every_empty _
  distinct _ _ _ _ _ there := nomatch there
  nonneg := Table.every_empty _
  covered := Table.every_empty _
  slack buyer := by
    simp [Core.slack, Core.credits, Core.acceptedCredits, Capacity.held, Db.core]
  contested buyer := by simp [Core.credits, Core.contestedEscrow, Db.core]

end Effects

/-! ## What never fails -/

section Passes

variable {db : Db} {taskId : TaskId} {row : SettlementState}

theorem Core.Apart.open_covered (apart : db.core.Apart) (sound : db.core.Sound)
    (there : db.settlements.get taskId = some row) (live : ¬row.status.Terminal)
    (quiet : ¬row.status.Contested) :
    row.escrowAmount ≤ (db.credits row.clientAgentId).reservedCredits := by
  have stake := Table.le_total (openEscrow_nonneg apart row.clientAgentId) there
  rw [SettlementState.openEscrow, if_pos ⟨⟨live, quiet⟩, rfl⟩] at stake
  exact stake.trans (apart.open_le sound row.clientAgentId)

/-- A dispute finds the escrow in the reserved bucket. -/
theorem moveReservedToDisputed_passes (apart : db.core.Apart) (sound : db.core.Sound)
    (there : db.settlements.get taskId = some row) (live : ¬row.status.Terminal)
    (quiet : ¬row.status.Contested) :
    ∃ next, moveReservedToDisputed db row.clientAgentId row.escrowAmount = .ok next := by
  obtain ⟨cap, funded⟩ := apart.funded sound there live
  have enough := apart.open_covered sound there live quiet
  rw [credits_of_get funded] at enough
  have covered : row.escrowAmount ≤ cap.reservedCredits + epsilon :=
    enough.trans (le_add_of_nonneg_right epsilon_nonneg)
  rw [moveReservedToDisputed, funded]
  simp only [require_ok covered, ok_bind]
  exact ⟨_, storeCapacity_passes (sound.balanced _ cap funded).freeze sound.balanced⟩

/-- A resolution finds the escrow in one of the buckets. -/
theorem takeEscrow_passes (apart : db.core.Apart) (sound : db.core.Sound)
    (there : db.settlements.get taskId = some row) (live : ¬row.status.Terminal) :
    ∃ taken, (db.credits row.clientAgentId).takeEscrow row.escrowAmount = .ok taken := by
  unfold Capacity.takeEscrow
  split
  case isTrue => exact ⟨_, rfl⟩
  case isFalse short =>
    have quiet : ¬row.status.Contested := fun contested =>
      short ((apart.contested_le there contested).trans (le_add_of_nonneg_right epsilon_nonneg))
    have covered := apart.open_covered sound there live quiet
    rw [if_pos (covered.trans (le_add_of_nonneg_right epsilon_nonneg))]
    exact ⟨_, rfl⟩

/-- What is held covers every settlement under way. -/
theorem Core.Apart.held_covers (apart : db.core.Apart) (sound : db.core.Sound)
    (there : db.settlements.get taskId = some row) (live : ¬row.status.Terminal) :
    row.escrowAmount ≤ (db.credits row.clientAgentId).held := by
  obtain ⟨voucherId, voucher, -, found, accepted, client, covered⟩ := apart.accepted sound there live
  have claim := Table.le_total (claim_nonneg sound row.clientAgentId) found
  rw [Voucher.claim, if_pos ⟨accepted, client⟩] at claim
  have backed : db.core.acceptedCredits row.clientAgentId ≤ (db.credits row.clientAgentId).held :=
    sub_nonneg.mp (apart.slack row.clientAgentId)
  exact (covered.trans claim).trans backed

theorem applyCapacityResolution_passes (apart : db.core.Apart) (sound : db.core.Sound)
    (there : db.settlements.get taskId = some row) (live : ¬row.status.Terminal)
    (settled refunded : ℚ) :
    ∃ next, applyCapacityResolution db row.clientAgentId row.escrowAmount settled refunded =
      .ok next := by
  obtain ⟨cap, funded⟩ := apart.funded sound there live
  obtain ⟨taken, took⟩ := takeEscrow_passes apart sound there live
  have row_eq : db.credits row.clientAgentId = cap := credits_of_get funded
  have adds := sound.balanced _ cap funded
  have covered := apart.held_covers sound there live
  rw [row_eq] at took covered
  have bill : row.escrowAmount ≤ cap.totalBillCredits + epsilon := by
    have available := adds.available
    rw [adds.sum]
    simp only [Capacity.held] at covered
    linarith
  have locked : row.escrowAmount ≤ cap.totalLockedUsdc + epsilon := adds.locked ▸ bill
  rw [applyCapacityResolution, funded]
  simp only [require_ok bill, require_ok locked, took, ok_bind]
  exact ⟨_, storeCapacity_passes (adds.resolve took) sound.balanced⟩

end Passes

/-! ## Every run -/

section Runs

variable {config : Config} {start finish : World} {actions : List Action}

/-- The service in which every settlement has its own voucher and the buckets are kept apart. -/
abbrev apartSystem (config : Config) : TransitionSystem World Action :=
  (system config).restrict fun world action => action.OwnVoucher world ∧ action.KeepsApart world

theorem run_apart (initial : (system config).Init start)
    (run : (apartSystem config).Run start actions finish) : finish.db.core.Apart := by
  refine run_core Core.Apart apart_empty ?_ run initial
  intro world request call core reachable _ before admitted effect
  exact effect.apart (reachable_sound reachable) before admitted.1 admitted.2

end Runs

/-! ## Scenes -/

instance (world : World) (action : Action) : Decidable (action.OwnVoucher world) :=
  inferInstanceAs (Decidable (∀ body ∈ action.creates, ∃ voucherId ∈ body.voucherId,
    ∀ entry ∈ world.db.settlements.rows, entry.2.voucherId ≠ some voucherId))

instance (world : World) (action : Action) : Decidable (action.KeepsApart world) :=
  inferInstanceAs (Decidable ((∀ body ∈ action.creates, 0 ≤ body.escrowAmount ∧
    ∀ voucherId ∈ body.voucherId, ∀ voucher ∈ world.db.vouchers.get voucherId,
      body.escrowAmount ≤ voucher.billCreditAmount) ∧
    ∀ taskId ∈ action.resolves world, ∀ row ∈ world.db.settlements.get taskId,
      ¬row.status.Contested → row.escrowAmount = 0 ∨
        (world.db.credits row.clientAgentId).disputedCredits + epsilon < row.escrowAmount))

namespace Demo

/-- Two tasks are under way, the first one is disputed, and the second one is regretted. -/
def besideDispute (first second : ℚ) : List Action :=
  call (.lockUsdc buyer 100) :: pledge "v" first ++ pledge "w" second ++
    hire "t" (some "v") first ++ hire "u" (some "w") second ++
    [call (.openDispute "t"), call (.regretSettlement "u" none)]

/-- The disputed bucket does not cover the second task. -/
def spared : Scene (performIf (fun world action =>
    action.OwnVoucher world ∧ action.KeepsApart world) {}) {} where
  actions := besideDispute 10 14
  possible := by decide +kernel

/-- The disputed bucket covers the second task. -/
def consumed : Scene (perform {}) {} where
  actions := besideDispute 10 4
  possible := by decide +kernel

end Demo

end TrustChain.Service
