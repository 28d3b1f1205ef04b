import TrustChain.Billing.Merkle
import TrustChain.Receipts.Chain

/-!
# Digests of stored receipts

An evidence bundle has the digests of the receipts of its task, and arbitration computes them
again from what is stored. A receipt whose date-times have an offset, or whose metadata has a
reserved key, is read back with a shorter text, so its digest is another one.
-/

namespace TrustChain.Receipts

open Library Service

/-- The order of sorting by `step_index`. -/
def StepLE {α : Type} (step : α → Nat) (first second : α) : Prop := step first ≤ step second

instance {α : Type} (step : α → Nat) : DecidableRel (StepLE step) :=
  fun _ _ => inferInstanceAs (Decidable (_ ≤ _))

instance {α : Type} (step : α → Nat) : Std.Total (StepLE step) :=
  ⟨fun first second => Nat.le_total (step first) (step second)⟩

instance {α : Type} (step : α → Nat) : IsTrans α (StepLE step) :=
  ⟨fun _ _ _ => Nat.le_trans⟩

section Definitions

variable (repr : ℚ → List Char)

/-- `json.dumps(receipt.model_dump(mode="json"), sort_keys=True, separators=(",", ":"))`. -/
def receiptText (receipt : ExecutionReceipt) : List Char :=
  Json.text repr (.object receipt.modelDump)

/-- The hexadecimal SHA-256 of a text of ASCII characters. -/
def sha256Hex (text : List Char) : String :=
  Billing.hex (sha256 (text.map fun char => .ofNat char.toNat))

def executionReceiptBundleDigest (receipt : ExecutionReceipt) : String :=
  sha256Hex (receiptText repr receipt)

/-! ## The bundle -/

structure EvidenceBundle where
  taskId : TaskId
  taskContractHash : String
  receiptIds : List ReceiptId
  receiptHashes : List String
  finalResultHash : String
  totalSteps : Int
  successfulSteps : Int
  failedSteps : Int
  totalDurationMs : Nat
  agentSignature : Option String

/-- `receipts.sort(key=lambda r: r.step_index)`. -/
def inOrder (receipts : List ExecutionReceipt) : List ExecutionReceipt :=
  receipts.insertionSort (StepLE ExecutionReceipt.stepIndex)

/-- `EvidenceBundleBuilder.build` of the receipts that its store lists. -/
def build (taskId : TaskId) (taskContractHash finalResultHash : String)
    (agentSignature : Option String) (listed : List ExecutionReceipt) : EvidenceBundle :=
  let receipts := inOrder listed
  { taskId, taskContractHash, finalResultHash, agentSignature
    receiptIds := receipts.map ExecutionReceipt.receiptId
    receiptHashes := receipts.map (executionReceiptBundleDigest repr)
    totalSteps := receipts.length
    successfulSteps := receipts.countP fun receipt => receipt.status = .success
    failedSteps := receipts.countP fun receipt => receipt.status = .failure
    totalDurationMs := (receipts.map ExecutionReceipt.durationMs).sum }

/-- `_hashes_well_formed`. -/
def hashesWellFormed (hashes : List String) : Bool :=
  !hashes.isEmpty && hashes.all fun hash => isHex64 (Runtime.strip hash)

/-- `hash.strip().lower()`. -/
def declared (hash : String) : String := .ofList ((Runtime.strip hash).toList.map Char.toLower)

/-- What `build_auto_arbitration_context` finds comparing a bundle with the stored receipts of
its task; `none` if a row cannot be read. -/
def compareBundle (bundle : EvidenceBundle) (stored : List ReceiptRow) : Option BundleVerdict :=
  if stored.isEmpty then some ⟨false, false, false⟩
  else
    let ordered := stored.insertionSort (StepLE ReceiptRow.stepIndex)
    let steps : Int := ordered.length
    let idsOk := bundle.receiptIds = ordered.map ReceiptRow.receiptId
    let countsOk := bundle.totalSteps = steps ∧
      bundle.successfulSteps + bundle.failedSteps ≤ steps ∧
      0 ≤ bundle.successfulSteps ∧ 0 ≤ bundle.failedSteps
    if hashesWellFormed bundle.receiptHashes then do
      let receipts ← ordered.mapM fromRow
      let computed := receipts.map (executionReceiptBundleDigest repr)
      some ⟨idsOk, countsOk, bundle.receiptHashes.map declared = computed⟩
    else some ⟨idsOk, countsOk, false⟩

end Definitions

/-- A receipt of which nothing is lost when it is stored. -/
structure ExecutionReceipt.Plain (receipt : ExecutionReceipt) : Prop where
  started : receipt.startedAt.offset = none
  ended : receipt.endedAt.offset = none
  metadata : ∀ field ∈ receipt.metadata,
    field.1 ≠ karmaReceiptExtensionKey ∧ field.1 ≠ externalPaymentKey

/-- Two texts with the same digest. -/
def Collision (first second : List Char) : Prop := first ≠ second ∧ sha256Hex first = sha256Hex second

/-! ## What is read back is shorter -/

section ReadBack

variable {column : DateTime → DateTime} {repr : ℚ → List Char} {receipt : ExecutionReceipt}
  {metadata : Json.Fields}

theorem ownMetadata_eq_self (own : ∀ field ∈ metadata,
    field.1 ≠ karmaReceiptExtensionKey ∧ field.1 ≠ externalPaymentKey) :
    ownMetadata metadata = metadata := by
  have kept (key : String) (others : ∀ field ∈ metadata, field.1 ≠ key) :
      metadata.pop key = metadata :=
    List.filter_eq_self.mpr fun field inside => decide_eq_true (others field inside)
  rw [ownMetadata, kept karmaReceiptExtensionKey fun field inside => (own field inside).1]
  exact kept externalPaymentKey fun field inside => (own field inside).2

theorem ownMetadata_sublist (metadata : Json.Fields) : (ownMetadata metadata).Sublist metadata :=
  (Json.pop_sublist _ _).trans (Json.pop_sublist _ _)

/-- Metadata that are as long without the reserved keys have none. -/
theorem own_of_length (same : (ownMetadata metadata).length = metadata.length) :
    ∀ field ∈ metadata, field.1 ≠ karmaReceiptExtensionKey ∧ field.1 ≠ externalPaymentKey := by
  intro field inside
  rw [← (ownMetadata_sublist metadata).eq_of_length same] at inside
  obtain ⟨kept, payment⟩ := List.mem_filter.mp inside
  have extension := (List.mem_filter.mp kept).2
  exact ⟨of_decide_eq_true extension, of_decide_eq_true payment⟩

theorem readBack_eq_self (reads : ReadsUtc column) (plain : receipt.Plain) :
    receipt.readBack column = receipt := by
  rw [ExecutionReceipt.readBack, reads, reads, DateTime.utc_eq_self.mpr plain.started,
    DateTime.utc_eq_self.mpr plain.ended, ownMetadata_eq_self plain.metadata]

theorem escape_digit : ∀ digit < 10, Json.escape (.ofNat (48 + digit)) = [.ofNat (48 + digit)] := by
  decide

theorem escape_digits (width value : Nat) :
    (DateTime.digits width value).flatMap Json.escape = DateTime.digits width value := by
  induction width with
  | zero => rfl
  | succ width ih =>
      rw [DateTime.digits, List.flatMap_cons, ih, escape_digit _ (Nat.mod_lt _ (by decide))]
      rfl

theorem escape_isoOffset (minutes : Int) :
    (DateTime.isoOffset minutes).flatMap Json.escape = DateTime.isoOffset minutes := by
  unfold DateTime.isoOffset
  split_ifs <;> simp [escape_digits, Json.escape]

theorem escape_isoFraction (micros : Nat) :
    (DateTime.isoFraction micros).flatMap Json.escape = DateTime.isoFraction micros := by
  unfold DateTime.isoFraction
  split_ifs
  · rfl
  · simp [escape_digits, Json.escape]

/-- A date-time is written in JSON as it is in ISO 8601. -/
theorem escape_iso (time : DateTime) : time.iso.flatMap Json.escape = time.iso := by
  have wall : (DateTime.isoWall time.wall).flatMap Json.escape = DateTime.isoWall time.wall := by
    simp [DateTime.isoWall, escape_digits, escape_isoFraction, Json.escape]
  rw [DateTime.iso, List.flatMap_append, wall]
  cases time.offset with
  | none => rfl
  | some minutes => rw [Option.elim_some, escape_isoOffset]

theorem length_text_iso (time : DateTime) :
    (Json.text repr (.string (.ofList time.iso))).length = time.iso.length + 2 := by
  simp [Json.text, Json.quote, escape_iso]

/-- The length of the text of a receipt, apart from the parts that storing changes. -/
theorem length_receiptText (column : DateTime → DateTime) (receipt : ExecutionReceipt) :
    (receiptText repr (receipt.readBack column)).length + receipt.startedAt.iso.length +
        receipt.endedAt.iso.length + (Json.text repr (.object receipt.metadata)).length =
      (receiptText repr receipt).length + (column receipt.startedAt).iso.length +
        (column receipt.endedAt).iso.length +
          (Json.text repr (.object (ownMetadata receipt.metadata))).length := by
  have back := @Json.length_text_object repr (receipt.readBack column).modelDump
  have submitted := @Json.length_text_object repr receipt.modelDump
  simp only [ExecutionReceipt.modelDump, ExecutionReceipt.readBack,
    ExecutionReceipt.dumpedExtension, ExecutionReceipt.dumpedPayment, List.map_cons, List.map_nil,
    List.sum_cons, List.sum_nil, List.length_cons, Json.weight, length_text_iso] at back submitted
  simp only [receiptText, ExecutionReceipt.modelDump, ExecutionReceipt.readBack,
    ExecutionReceipt.dumpedExtension, ExecutionReceipt.dumpedPayment]
  omega

/-- A receipt that loses something has a shorter text when it is read back. -/
theorem length_readBack_lt (reads : ReadsUtc column) (lossy : ¬receipt.Plain) :
    (receiptText repr (receipt.readBack column)).length < (receiptText repr receipt).length := by
  have lengths := @length_receiptText repr column receipt
  rw [reads, reads] at lengths
  have started := DateTime.length_iso_utc_le receipt.startedAt
  have ended := DateTime.length_iso_utc_le receipt.endedAt
  have metadata := @Json.length_text_object_le repr _ _ (ownMetadata_sublist receipt.metadata)
  by_cases startsPlain : receipt.startedAt.offset = none
  · by_cases endsPlain : receipt.endedAt.offset = none
    · have fewer : (ownMetadata receipt.metadata).length < receipt.metadata.length := by
        refine lt_of_le_of_ne (ownMetadata_sublist _).length_le fun same => ?_
        exact lossy ⟨startsPlain, endsPlain, own_of_length same⟩
      have shorter := @Json.length_text_object_lt repr _ _ (ownMetadata_sublist _) fewer
      omega
    · have shorter := DateTime.length_iso_utc_lt endsPlain
      omega
  · have shorter := DateTime.length_iso_utc_lt startsPlain
    omega

end ReadBack

/-! ## Digests -/

section Digests

variable {column : DateTime → DateTime} {repr : ℚ → List Char} {receipt : ExecutionReceipt}

/-- The text of the receipt collides with the text of what is read back. -/
def ExecutionReceipt.Collides (receipt : ExecutionReceipt) (column : DateTime → DateTime)
    (repr : ℚ → List Char) : Prop :=
  Collision (receiptText repr (receipt.readBack column)) (receiptText repr receipt)

/-- A digest survives storing exactly if nothing is lost, or two texts collide. -/
theorem digest_readBack (reads : ReadsUtc column) :
    executionReceiptBundleDigest repr (receipt.readBack column) =
        executionReceiptBundleDigest repr receipt ↔
      receipt.Plain ∨ receipt.Collides column repr := by
  constructor
  · intro same
    by_cases plain : receipt.Plain
    · exact .inl plain
    · refine .inr ⟨fun texts => ?_, same⟩
      exact absurd (congrArg List.length texts) (length_readBack_lt reads plain).ne
  · rintro (plain | collides)
    · rw [readBack_eq_self reads plain]
    · exact collides.2

/-- A character that `bytes.hex` writes. -/
def IsHex (char : Char) : Prop := ∃ digit < 16, char = Billing.hexDigit digit

theorem hexDigit_plain : ∀ digit < 16,
    (Billing.hexDigit digit).toLower = Billing.hexDigit digit ∧
      ((Billing.hexDigit digit).isDigit ||
        ('a' ≤ Billing.hexDigit digit && Billing.hexDigit digit ≤ 'f')) = true ∧
      Runtime.isSpace (Billing.hexDigit digit) = false := by
  decide

theorem hex_sha256Hex (text : List Char) :
    (sha256Hex text).toList.length = 64 ∧ ∀ char ∈ (sha256Hex text).toList, IsHex char := by
  rw [sha256Hex, Billing.hex, String.toList_ofList]
  constructor
  · rw [List.length_flatMap]
    simp
  · intro char inside
    obtain ⟨byte, -, written⟩ := List.mem_flatMap.mp inside
    have small : byte.toNat < 256 := byte.toNat_lt
    rcases List.mem_pair.mp written with rfl | rfl
    · exact ⟨_, by omega, rfl⟩
    · exact ⟨_, by omega, rfl⟩

theorem dropWhile_isSpace {text : List Char} (digits : ∀ char ∈ text, IsHex char) :
    text.dropWhile Runtime.isSpace = text := by
  cases text with
  | nil => rfl
  | cons first rest =>
      obtain ⟨digit, small, rfl⟩ := digits first List.mem_cons_self
      rw [List.dropWhile_cons_of_neg (by simp [(hexDigit_plain digit small).2.2])]

theorem strip_sha256Hex (text : List Char) : Runtime.strip (sha256Hex text) = sha256Hex text := by
  have digits := (hex_sha256Hex text).2
  have reversed : ∀ char ∈ (sha256Hex text).toList.reverse, IsHex char := fun char inside =>
    digits char (List.mem_reverse.mp inside)
  rw [Runtime.strip, dropWhile_isSpace digits, dropWhile_isSpace reversed, List.reverse_reverse,
    String.ofList_toList]

theorem map_toLower {text : List Char} (digits : ∀ char ∈ text, IsHex char) :
    text.map Char.toLower = text := by
  refine (List.map_congr_left fun char inside => ?_).trans (List.map_id text)
  obtain ⟨digit, small, rfl⟩ := digits char inside
  exact (hexDigit_plain digit small).1

theorem declared_sha256Hex (text : List Char) : declared (sha256Hex text) = sha256Hex text := by
  rw [declared, strip_sha256Hex, map_toLower (hex_sha256Hex text).2, String.ofList_toList]

theorem isHex64_sha256Hex (text : List Char) : isHex64 (Runtime.strip (sha256Hex text)) = true := by
  obtain ⟨long, digits⟩ := hex_sha256Hex text
  rw [strip_sha256Hex, isHex64, map_toLower digits]
  simp only [long, decide_true, Bool.true_and, List.all_eq_true]
  intro char inside
  obtain ⟨digit, small, rfl⟩ := digits char inside
  exact (hexDigit_plain digit small).2.1

end Digests

/-! ## Bundles -/

section Bundles

variable {column : DateTime → DateTime} {repr : ℚ → List Char} {receipts : List ExecutionReceipt}
  {stored : List ReceiptRow}

theorem inOrder_perm (receipts : List ExecutionReceipt) : (inOrder receipts).Perm receipts :=
  List.perm_insertionSort _ receipts

/-- The rows of receipts with distinct steps come in the order of the receipts. -/
theorem insertionSort_rows (distinct : (receipts.map ExecutionReceipt.stepIndex).Nodup)
    (same : stored.Perm (receipts.map (toRow column))) :
    stored.insertionSort (StepLE ReceiptRow.stepIndex) =
      (inOrder receipts).map (toRow column) := by
  have listed := inOrder_perm receipts
  have perm := ((List.perm_insertionSort (StepLE ReceiptRow.stepIndex) stored).trans same).trans
    (listed.map (toRow column)).symm
  have steps : (stored.map ReceiptRow.stepIndex).Nodup := by
    rw [(same.map ReceiptRow.stepIndex).nodup_iff, List.map_map]
    exact distinct
  have unique : ∀ first second : ReceiptRow,
      first ∈ stored.insertionSort (StepLE ReceiptRow.stepIndex) →
      second ∈ (inOrder receipts).map (toRow column) → StepLE ReceiptRow.stepIndex first second →
      StepLE ReceiptRow.stepIndex second first → first = second := by
    intro first second inside also before after
    rw [List.mem_insertionSort] at inside
    rw [← perm.mem_iff, List.mem_insertionSort] at also
    exact List.inj_on_of_nodup_map steps inside also (Nat.le_antisymm before after)
  refine List.Perm.eq_of_pairwise unique (List.pairwise_insertionSort _ _) ?_ perm
  exact List.pairwise_map.mpr (List.pairwise_insertionSort _ receipts)

theorem mapM_fromRow (receipts : List ExecutionReceipt) :
    (receipts.map (toRow column)).mapM fromRow =
      some (receipts.map fun receipt => receipt.readBack column) := by
  induction receipts with
  | nil => rfl
  | cons receipt rest ih => simp [fromRow_toRow, ih]

theorem hashesWellFormed_build (some_ : receipts ≠ []) :
    hashesWellFormed (receipts.map (executionReceiptBundleDigest repr)) = true := by
  obtain ⟨first, rest, rfl⟩ := List.exists_cons_of_ne_nil some_
  simp only [hashesWellFormed, List.map_cons, List.isEmpty_cons, Bool.not_false, Bool.true_and,
    List.all_eq_true]
  intro hash inside
  rw [← List.map_cons (f := executionReceiptBundleDigest repr)] at inside
  obtain ⟨receipt, -, rfl⟩ := List.mem_map.mp inside
  exact isHex64_sha256Hex _

theorem outcomes_le (receipts : List ExecutionReceipt) :
    (receipts.countP fun receipt => receipt.status = .success) +
      (receipts.countP fun receipt => receipt.status = .failure) ≤ receipts.length := by
  induction receipts with
  | nil => exact Nat.le_refl 0
  | cons receipt rest ih =>
      simp only [List.countP_cons, List.length_cons]
      cases receipt.status <;> simp <;> omega

/-- An honest bundle fails at most the comparison of digests, and passes it exactly if every
digest has survived storing. -/
theorem compareBundle_build (taskId : TaskId) (contractHash finalHash : String)
    (signature : Option String) (distinct : (receipts.map ExecutionReceipt.stepIndex).Nodup)
    (same : stored.Perm (receipts.map (toRow column))) (some_ : receipts ≠ []) :
    compareBundle repr (build repr taskId contractHash finalHash signature receipts) stored =
      some ⟨true, true, ∀ receipt ∈ receipts,
        executionReceiptBundleDigest repr (receipt.readBack column) =
          executionReceiptBundleDigest repr receipt⟩ := by
  have listed := inOrder_perm receipts
  have ordered : inOrder receipts ≠ [] := fun none_ => some_ (none_ ▸ listed).nil_eq.symm
  have there : stored.isEmpty = false := by
    have lengths := same.length_eq
    rw [List.length_map] at lengths
    have positive := List.length_pos_iff.mpr some_
    cases stored with
    | nil => exact absurd lengths positive.ne
    | cons => rfl
  have counts : ((inOrder receipts).length : Int) = ((inOrder receipts).map (toRow column)).length ∧
      ((inOrder receipts).countP fun receipt => receipt.status = .success : Int) +
        ((inOrder receipts).countP fun receipt => receipt.status = .failure) ≤
          ((inOrder receipts).map (toRow column)).length := by
    have outcomes := outcomes_le (inOrder receipts)
    rw [List.length_map]
    exact ⟨rfl, by exact_mod_cast outcomes⟩
  have hashes : ((inOrder receipts).map (executionReceiptBundleDigest repr)).map declared =
      ((inOrder receipts).map fun receipt => receipt.readBack column).map
        (executionReceiptBundleDigest repr) ↔
      ∀ receipt ∈ receipts, executionReceiptBundleDigest repr (receipt.readBack column) =
        executionReceiptBundleDigest repr receipt := by
    rw [List.map_map, List.map_map, List.map_inj_left]
    refine forall_congr' fun receipt => imp_congr listed.mem_iff ?_
    simp only [Function.comp_apply, executionReceiptBundleDigest, declared_sha256Hex]
    exact eq_comm
  have formed : hashesWellFormed ((inOrder receipts).map (executionReceiptBundleDigest repr)) =
      true := hashesWellFormed_build ordered
  have ids : (inOrder receipts).map ExecutionReceipt.receiptId =
      ((inOrder receipts).map (toRow column)).map ReceiptRow.receiptId := by
    rw [List.map_map]
    rfl
  rw [compareBundle, there, insertionSort_rows distinct same]
  simp only [build, formed, mapM_fromRow, Bool.false_eq_true, if_false, if_true,
    Option.bind_eq_bind, Option.bind_some, Option.some.injEq, BundleVerdict.mk.injEq]
  exact ⟨decide_eq_true ids,
    decide_eq_true ⟨counts.1, counts.2, Int.natCast_nonneg _, Int.natCast_nonneg _⟩,
    decide_eq_decide.mpr hashes⟩

/-- The digest of a receipt survives storing exactly if nothing of it is lost, and an honest
bundle passes its comparison exactly if there are receipts and all their digests survive. -/
theorem digests_survive (reads : ReadsUtc column) :
    (∀ receipt, (∃ back, fromRow (toRow column receipt) = some back ∧
        executionReceiptBundleDigest repr back = executionReceiptBundleDigest repr receipt) ↔
      receipt.Plain ∨ receipt.Collides column repr) ∧
    ∀ taskId contractHash finalHash signature receipts stored,
      (receipts.map ExecutionReceipt.stepIndex).Nodup →
      stored.Perm (receipts.map (toRow column)) →
      (compareBundle repr (build repr taskId contractHash finalHash signature receipts) stored =
          some ⟨true, true, true⟩ ↔
        receipts ≠ [] ∧ ∀ receipt ∈ receipts, receipt.Plain ∨ receipt.Collides column repr) := by
  constructor
  · intro receipt
    rw [fromRow_toRow, ← digest_readBack reads]
    simp
  · intro taskId contractHash finalHash signature receipts stored distinct same
    by_cases none_ : receipts = []
    · subst none_
      have empty : stored = [] := same.eq_nil
      subst empty
      simp [compareBundle]
    · rw [compareBundle_build taskId contractHash finalHash signature distinct same none_]
      simp only [Option.some.injEq, BundleVerdict.mk.injEq, true_and, decide_eq_true_eq, none_, ne_eq,
        not_false_eq_true, digest_readBack reads]

end Bundles

namespace Demo

/-- No receipt below has a number that needs writing. -/
def repr (_ : ℚ) : List Char := ['0', '.', '0']

/-- The first receipt without offsets. -/
def plainReceipt : ExecutionReceipt :=
  { receipt 0 with startedAt := noon.utc, endedAt := noon.utc }

theorem plainReceipt_plain : plainReceipt.Plain :=
  ⟨rfl, rfl, fun _ inside => absurd inside List.not_mem_nil⟩

end Demo

theorem digests_survive_plain :
    compareBundle Demo.repr (build Demo.repr "t" "" "" none [Demo.plainReceipt])
      [toRow DateTime.utc Demo.plainReceipt] = some ⟨true, true, true⟩ := by
  have survives := (@digests_survive DateTime.utc Demo.repr fun _ => rfl).2
  refine (survives "t" "" "" none [Demo.plainReceipt] _ (List.nodup_singleton _) (.refl _)).mpr ?_
  refine ⟨List.cons_ne_nil _ _, fun receipt only => ?_⟩
  obtain rfl := List.mem_singleton.mp only
  exact .inl Demo.plainReceipt_plain

/-- A receipt that is taken, and has another digest when it is read back: its date-times are in
UTC with an offset of zero. -/
theorem not_digests_survive :
    (submitReceipt Demo.signing Demo.context .empty (Demo.receipt 0)).toOption.isSome = true ∧
      ∀ back ∈ fromRow (toRow DateTime.utc (Demo.receipt 0)),
        executionReceiptBundleDigest Demo.repr back ≠
          executionReceiptBundleDigest Demo.repr (Demo.receipt 0) := by
  refine ⟨by decide +kernel, ?_⟩
  rw [fromRow_toRow]
  rintro back ⟨rfl⟩
  decide +kernel

end TrustChain.Receipts
