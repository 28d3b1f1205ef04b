import TrustChain.X402.Numbering

/-!
# The books

Which payment a request owes a receipt for, and which receipt is on file for which payment. The
books are kept as long as no request raises once it has paid and no step is taken in between.
-/

namespace TrustChain.X402

open Library Service Receipts

/-! ## Receipts and payments -/

/-- The record of a payment in a row. -/
def recordOf (row : ReceiptRow) : Option ExternalPaymentRecord :=
  (fromRow row).bind ExecutionReceipt.externalPayment

/-- The record has the transaction, the amount, the network and the resource of the payment. -/
def Carries (record : Option ExternalPaymentRecord) (payment : Payment) : Prop :=
  ∃ found ∈ record, found.txHash = payment.txHash ∧
    Double.finite found.amountUsdc = payment.amountUsdc ∧ found.network = some payment.network ∧
    found.resourceUrl = payment.resource

instance (record : Option ExternalPaymentRecord) (payment : Payment) :
    Decidable (Carries record payment) :=
  inferInstanceAs (Decidable (∃ found ∈ record, _))

/-- A receipt cannot tell the payments apart. -/
def Payment.Alike (payment other : Payment) : Prop :=
  payment.txHash = other.txHash ∧ payment.amountUsdc = other.amountUsdc ∧
    payment.network = other.network ∧ payment.resource = other.resource

instance (payment other : Payment) : Decidable (payment.Alike other) :=
  inferInstanceAs (Decidable (_ ∧ _))

/-- A number of dollars. -/
def IsAmount : Double → Prop
  | .finite value => 0 ≤ value
  | .nan | .infinity _ => False

instance : DecidablePred IsAmount
  | .finite value => inferInstanceAs (Decidable (0 ≤ value))
  | .nan | .infinity _ => isFalse id

/-- The stage comes before the payment, or the resource asked for none. -/
def Stage.Unpaid : Stage → Prop
  | .asking _ | .quoted _ _ => True
  | .fetched _ result => result.externalPayment.isNone
  | .paid _ _ _ | .numbered _ | .absent _ | .recorded _ _ | .saved _ _ _ | .ended => False

instance : DecidablePred Stage.Unpaid
  | .asking _ | .quoted _ _ => isTrue trivial
  | .fetched _ result => inferInstanceAs (Decidable (result.externalPayment.isNone = true))
  | .paid _ _ _ | .numbered _ | .absent _ | .recorded _ _ | .saved _ _ _ | .ended => isFalse id

def Stage.quoted? : Stage → Option (Job × Quote)
  | .quoted job quote => some (job, quote)
  | _ => none

/-- The proof states an amount, which is zero only if nothing was asked for. -/
structure PaymentProof.Stated (proof : PaymentProof) (quote : Quote) : Prop where
  amount : IsAmount proof.amountUsdc
  nonzero : proof.amountUsdc = .finite 0 → quote.amount = .finite 0

instance (proof : PaymentProof) (quote : Quote) : Decidable (proof.Stated quote) :=
  decidable_of_iff (IsAmount proof.amountUsdc ∧
      (proof.amountUsdc = .finite 0 → quote.amount = .finite 0))
    ⟨fun stated => ⟨stated.1, stated.2⟩, fun stated => ⟨stated.amount, stated.nonzero⟩⟩

/-- Once it has paid, a request does not raise, and no other receipt takes its step. The proof of a
payment is new and states its amount, and no submission copies it. -/
def Action.Kept (world : World) : Action → Prop
  | .submission (.insert client) =>
      ∀ stage ∈ world.receipts.pending client, ∀ entry ∈ world.payments,
        ¬Carries stage.receipt.externalPayment entry.2
  | .pay request proof =>
      ∀ asked ∈ (world.requests.get request).bind Stage.quoted?,
        proof.Stated asked.2 ∧
          (∀ entry ∈ world.payments, ¬(Payment.of asked.1 asked.2 proof).Alike entry.2) ∧
          ∀ entry ∈ world.receipts.rows.rows,
            ¬Carries (recordOf entry.2) (.of asked.1 asked.2 proof)
  | .lookUp request =>
      ∀ receipt ∈ (world.requests.get request).bind Stage.receipt?,
        world.receipts.rows.get receipt.receiptId = none
  | .insert request =>
      ∀ receipt ∈ (world.requests.get request).bind Stage.receipt?,
        ¬world.receipts.rows.Taken receipt
  | .raise request => ∀ stage ∈ world.requests.get request, stage.Unpaid
  | .submission (.ask ..) | .submission (.lookUp _) | .ask .. | .first .. | .retry ..
  | .readLatest .. | .saveSettlement _ | .commit .. => True

instance (world : World) (action : Action) : Decidable (action.Kept world) :=
  match action with
  | .submission (.insert client) =>
      inferInstanceAs (Decidable (∀ stage ∈ world.receipts.pending client, _))
  | .pay request _ =>
      inferInstanceAs (Decidable (∀ asked ∈ (world.requests.get request).bind Stage.quoted?, _))
  | .lookUp request | .insert request =>
      inferInstanceAs (Decidable (∀ receipt ∈ (world.requests.get request).bind Stage.receipt?, _))
  | .raise request => inferInstanceAs (Decidable (∀ stage ∈ world.requests.get request, _))
  | .submission (.ask ..) | .submission (.lookUp _) | .ask .. | .first .. | .retry ..
  | .readLatest .. | .saveSettlement _ | .commit .. => isTrue trivial

variable {column : DateTime → DateTime} {world : World} {receipt : ExecutionReceipt}
  {request : RequestNo} {stage : Stage} {payment other : Payment}
  {record : Option ExternalPaymentRecord}

theorem recordOf_toRow (receipt : ExecutionReceipt) :
    recordOf (toRow column receipt) = receipt.externalPayment := by
  rw [recordOf, fromRow_toRow]
  rfl

/-- Payments that one record carries are alike. -/
theorem Carries.alike (carries : Carries record payment) (carries' : Carries record other) :
    payment.Alike other := by
  obtain ⟨found, there, hash, amount, network, resource⟩ := carries
  obtain ⟨found', there', hash', amount', network', resource'⟩ := carries'
  obtain rfl := Option.some.inj (there.symm.trans there')
  exact ⟨hash.symm.trans hash', amount.symm.trans amount',
    Option.some.inj (network.symm.trans network'), resource.symm.trans resource'⟩

/-- The record of a stated payment carries it. -/
theorem paymentRecord_carries (job : Job) {quote : Quote} {proof : PaymentProof}
    (stated : proof.Stated quote) :
    ∃ record, paymentRecord quote proof = .ok record ∧
      Carries (some record) (.of job quote proof) := by
  have same : recordedAmount quote proof = proof.amountUsdc := by
    unfold recordedAmount
    split
    case isTrue zero => rw [stated.nonzero zero, zero]
    case isFalse => rfl
  have amount := stated.amount
  unfold paymentRecord
  rw [same]
  cases known : proof.amountUsdc with
  | nan => rw [known] at amount; cases amount
  | infinity => rw [known] at amount; cases amount
  | finite value =>
      rw [known] at amount
      have nonneg : 0 ≤ value := amount
      refine ⟨_, dif_pos nonneg, _, rfl, rfl, known.symm, rfl, rfl⟩

/-! ## What is owed -/

section Progress

variable (payments : List (RequestNo × Payment)) (stored : List (RequestNo × ReceiptId))
  (request : RequestNo)

/-- Nothing has been paid. -/
def Clear : Prop := (∀ payment, (request, payment) ∉ payments) ∧ ∀ id, (request, id) ∉ stored

/-- The record is that of a payment for which there is no receipt yet. -/
def Owes (taskId : TaskId) (record : Option ExternalPaymentRecord) : Prop :=
  (∃ payment, (request, payment) ∈ payments ∧ payment.taskId = taskId ∧ Carries record payment) ∧
    ∀ id, (request, id) ∉ stored

/-- What a request owes at a stage. -/
def Progress : Option Stage → Prop
  | none | some (.asking _) | some (.quoted _ _) => Clear payments stored request
  | some (.paid job quote proof) => ∃ record, paymentRecord quote proof = .ok record ∧
      Owes payments stored request job.taskId (some record)
  | some (.fetched job result) =>
      match result.externalPayment with
      | none => Clear payments stored request
      | some record => Owes payments stored request job.taskId (some record)
  | some (.numbered receipt) | some (.absent receipt) =>
      Owes payments stored request receipt.taskId receipt.externalPayment
  | some (.recorded receipt kept) | some (.saved receipt kept _) =>
      kept = false ∧ Owes payments stored request receipt.taskId receipt.externalPayment
  | some .ended => ∀ payment, (request, payment) ∈ payments → ∃ id, (request, id) ∈ stored

variable {payments stored request}

theorem Progress.congr {payments' : List (RequestNo × Payment)}
    {stored' : List (RequestNo × ReceiptId)} {stage : Option Stage}
    (progress : Progress payments stored request stage)
    (paid : ∀ payment, (request, payment) ∈ payments' ↔ (request, payment) ∈ payments)
    (filed : ∀ id, (request, id) ∈ stored' ↔ (request, id) ∈ stored) :
    Progress payments' stored' request stage := by
  simpa only [Progress, Clear, Owes, paid, filed] using progress

theorem Clear.ended (clear : Clear payments stored request) :
    Progress payments stored request (some .ended) :=
  fun payment paid => absurd paid (clear.1 payment)

theorem Progress.clear (progress : Progress payments stored request (some stage))
    (unpaid : stage.Unpaid) : Clear payments stored request := by
  cases stage with
  | asking | quoted => exact progress
  | fetched job result =>
      obtain ⟨statusCode, body, record⟩ := result
      cases record with
      | none => exact progress
      | some => cases unpaid
  | paid | numbered | absent | recorded | saved | ended => exact unpaid.elim

end Progress

/-- Every payment is booked: a request owes the receipt, or the receipt is on file, and no other
receipt carries the payment. -/
structure World.Booked (world : World) : Prop where
  progress : ∀ request,
    Progress world.payments world.stored request (world.requests.get request)
  distinct : world.payments.Pairwise fun entry earlier => ¬entry.2.Alike earlier.2
  once : (world.payments.map Prod.fst).Nodup
  filed : ∀ entry ∈ world.stored, ∃ payment row, (entry.1, payment) ∈ world.payments ∧
    world.receipts.rows.get entry.2 = some row ∧ row.taskId = payment.taskId ∧
    Carries (recordOf row) payment
  carried : ∀ id row, world.receipts.rows.get id = some row → ∀ entry ∈ world.payments,
    Carries (recordOf row) entry.2 → (entry.1, id) ∈ world.stored
  single : (world.stored.map Prod.fst).Nodup

namespace World.Booked

variable (booked : world.Booked)

include booked

/-- A request goes on, and what it owes is the same. -/
theorem suspend (progress : Progress world.payments world.stored request (some stage)) :
    (world.suspend request stage).Booked :=
  { booked with
    progress := fun other => by
      change Progress world.payments world.stored other
        ((world.requests.set request stage).get other)
      rw [Table.get_set]
      split
      case isTrue here => exact here ▸ progress
      case isFalse => exact booked.progress other }

theorem continue_ {outcome : Except HttpError Stage}
    (progress : ∀ stage, outcome = .ok stage →
      Progress world.payments world.stored request (some stage))
    (raises : ∀ error, outcome = .error error → Clear world.payments world.stored request) :
    (world.continue request outcome).Booked := by
  cases ran : outcome with
  | ok stage => exact booked.suspend (progress stage ran)
  | error error => exact booked.suspend (raises error ran).ended

/-- The entry of a payment with the same record is that of the request. -/
theorem entry_eq {entry other : RequestNo × Payment} (inside : entry ∈ world.payments)
    (inside' : other ∈ world.payments) (alike : entry.2.Alike other.2) : entry = other := by
  by_contra different
  have symmetric : Std.Symm fun (entry earlier : RequestNo × Payment) =>
      ¬entry.2.Alike earlier.2 :=
    ⟨fun _ _ unlike alike =>
      unlike ⟨alike.1.symm, alike.2.1.symm, alike.2.2.1.symm, alike.2.2.2.symm⟩⟩
  exact booked.distinct.forall inside inside' different alike

/-- A request pays. -/
theorem pay {job : Job} {quote : Quote} {proof : PaymentProof}
    (there : world.requests.get request = some (.quoted job quote)) (stated : proof.Stated quote)
    (new : ∀ entry ∈ world.payments, ¬(Payment.of job quote proof).Alike entry.2)
    (uncopied : ∀ entry ∈ world.receipts.rows.rows,
      ¬Carries (recordOf entry.2) (.of job quote proof)) :
    World.Booked { world.suspend request (.paid job quote proof) with
      payments := (request, .of job quote proof) :: world.payments } where
  progress other := by
    change Progress ((request, Payment.of job quote proof) :: world.payments) world.stored other
      ((world.requests.set request (.paid job quote proof)).get other)
    have before := booked.progress other
    rw [Table.get_set]
    split
    case isTrue here =>
      subst here
      rw [there] at before
      obtain ⟨record, made, carries⟩ := paymentRecord_carries job stated
      exact ⟨record, made, ⟨.of job quote proof, List.mem_cons_self, rfl, carries⟩, before.2⟩
    case isFalse elsewhere =>
      refine before.congr (fun payment => ?_) fun _ => Iff.rfl
      refine List.mem_cons.trans (or_iff_right fun same => ?_)
      exact elsewhere (Prod.mk.inj same).1
  distinct := List.pairwise_cons.mpr ⟨new, booked.distinct⟩
  once := by
    have before := booked.progress request
    rw [there] at before
    refine List.nodup_cons.mpr ⟨fun again => ?_, booked.once⟩
    obtain ⟨entry, inside, same⟩ := List.mem_map.mp again
    obtain rfl : entry.1 = request := same
    exact before.1 entry.2 inside
  filed entry inside := by
    obtain ⟨payment, row, paid, rest⟩ := booked.filed entry inside
    exact ⟨payment, row, List.mem_cons_of_mem _ paid, rest⟩
  carried id row found entry inside carries := by
    rcases List.mem_cons.mp inside with rfl | inside
    · exact absurd carries (uncopied (id, row) (Table.mem_rows_iff.mpr found))
    · exact booked.carried id row found entry inside carries
  single := booked.single

/-- The table of receipts gets a row that carries no payment. -/
theorem grow (fresh : world.receipts.rows.get receipt.receiptId = none)
    (uncopied : ∀ entry ∈ world.payments, ¬Carries receipt.externalPayment entry.2) :
    World.Booked { world with receipts := { world.receipts with
      rows := world.receipts.rows.set receipt.receiptId (toRow column receipt) } } :=
  { booked with
    filed := fun entry inside => by
      obtain ⟨payment, row, paid, found, rest⟩ := booked.filed entry inside
      refine ⟨payment, row, paid, (Table.get_set_of_ne ?_).trans found, rest⟩
      intro same
      rw [same] at found
      exact Option.some_ne_none row (found.symm.trans fresh)
    carried := fun id row found entry inside carries => by
      change (world.receipts.rows.set receipt.receiptId (toRow column receipt)).get id =
        some row at found
      rcases Table.get_set_eq_some.mp found with ⟨-, rfl⟩ | ⟨-, found⟩
      · rw [recordOf_toRow] at carries
        exact absurd carries (uncopied entry inside)
      · exact booked.carried id row found entry inside carries }

/-- A request commits the receipt that it owes. -/
theorem commit {fundingSource : Option String} {now : ℚ}
    (there : world.requests.get request = some (.saved receipt false fundingSource))
    (fresh : world.receipts.rows.get receipt.receiptId = none) :
    World.Booked { world.suspend request .ended with
      receipts := { world.receipts with
        rows := world.receipts.rows.set receipt.receiptId (toRow column receipt) }
      settlements := saveFunding world.settlements receipt.taskId fundingSource now
      stored := (request, receipt.receiptId) :: world.stored } := by
  have before := booked.progress request
  rw [there] at before
  obtain ⟨-, ⟨payment, paid, onTask, carries⟩, unfiled⟩ := before
  have record : recordOf (toRow column receipt) = receipt.externalPayment := recordOf_toRow receipt
  refine ⟨fun other => ?_, booked.distinct, booked.once, fun entry inside => ?_,
    fun id row found entry inside carries' => ?_, List.nodup_cons.mpr ⟨fun again => ?_,
      booked.single⟩⟩
  · change Progress world.payments ((request, receipt.receiptId) :: world.stored) other
      ((world.requests.set request .ended).get other)
    rw [Table.get_set]
    split
    case isTrue here =>
      subst here
      exact fun _ _ => ⟨receipt.receiptId, List.mem_cons_self⟩
    case isFalse elsewhere =>
      refine (booked.progress other).congr (fun _ => Iff.rfl) fun id => ?_
      refine List.mem_cons.trans (or_iff_right fun same => ?_)
      exact elsewhere (Prod.mk.inj same).1
  · rcases List.mem_cons.mp inside with rfl | inside
    · exact ⟨payment, _, paid, Table.get_set_self _ _ _, onTask.symm, record ▸ carries⟩
    · obtain ⟨payment', row, paid', found, rest⟩ := booked.filed entry inside
      refine ⟨payment', row, paid', (Table.get_set_of_ne ?_).trans found, rest⟩
      intro same
      rw [same] at found
      exact Option.some_ne_none row (found.symm.trans fresh)
  · change (world.receipts.rows.set receipt.receiptId (toRow column receipt)).get id =
      some row at found
    rcases Table.get_set_eq_some.mp found with ⟨here, rfl⟩ | ⟨-, found⟩
    · rw [record] at carries'
      have same := booked.entry_eq inside paid (carries'.alike carries)
      rw [same, here]
      exact List.mem_cons_self
    · exact List.mem_cons_of_mem _ (booked.carried id row found entry inside carries')
  · obtain ⟨entry, inside, same⟩ := List.mem_map.mp again
    obtain rfl : entry.1 = request := same
    exact unfiled entry.2 inside

end World.Booked

end TrustChain.X402
