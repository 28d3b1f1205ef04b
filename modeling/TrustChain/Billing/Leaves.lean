import TrustChain.Library.DateTimes
import TrustChain.Library.Delimited
import TrustChain.Library.Sha256

/-!
# Leaves of the receipts

A receipt is hashed as five fields with bars between them. The fields are free texts, so two
receipts make the same leaf when a bar inside a field can be taken for one between two fields.
-/

namespace TrustChain.Billing

open Library Function

/-- What `compute_leaf_hash` is given of a receipt. -/
structure Leaf where
  receiptId : String
  taskId : String
  stepIndex : Nat
  payloadHash : String
  timestamp : String
  deriving DecidableEq

namespace Leaf

variable (leaf : Leaf)

/-- `"|".join(parts)`. -/
def joined : String :=
  "|".intercalate [leaf.receiptId, leaf.taskId, toString leaf.stepIndex, leaf.payloadHash,
    leaf.timestamp]

/-- `joined.encode("utf-8")`. -/
def encoded : List UInt8 := leaf.joined.toUTF8.data.toList

end Leaf

def computeLeafHash (sha256 : List UInt8 → List UInt8) (leaf : Leaf) : List UInt8 :=
  sha256 leaf.encoded

/-- The UTC offset in `datetime.isoformat()`, in microseconds: seconds and microseconds are
only written where there are some. -/
def isoformatOffset (micros : Int) : List Char :=
  let seconds := micros.natAbs / 1000000
  let fraction := DateTime.isoFraction (micros.natAbs % 1000000)
  (if micros < 0 then '-' else '+') :: DateTime.digits 2 (seconds / 3600) ++
    ':' :: DateTime.digits 2 (seconds / 60 % 60) ++
    if seconds % 60 = 0 ∧ fraction = [] then []
    else ':' :: DateTime.digits 2 (seconds % 60) ++ fraction

/-- `datetime.isoformat()`. -/
def isoformat (wall : Int) (offset : Option Int) : List Char :=
  DateTime.isoWall wall ++ offset.elim [] isoformatOffset

example : String.ofList (isoformat 1704067200000000 (some 0)) = "2024-01-01T00:00:00+00:00" := by
  decide +kernel

/-- The tuples of receipts: the timestamp is that of a date-time. -/
def Leaf.Admitted (leaf : Leaf) : Prop :=
  ∃ wall offset, leaf.timestamp.toList = isoformat wall offset

/-- No bar in the identifiers, and no number between two bars or in front of the first bar of
the payload hash. -/
structure Leaf.Unambiguous (leaf : Leaf) : Prop where
  receiptId : '|' ∉ leaf.receiptId.toList
  taskId : '|' ∉ leaf.taskId.toList
  payloadHash : ∀ segment ∈ (leaf.payloadHash.toList.splitOn '|').dropLast,
    ∀ number : Nat, segment ≠ (toString number).toList

/-! ## Texts without a bar -/

theorem bar_not_mem_digits (width value : Nat) : '|' ∉ DateTime.digits width value := by
  induction width with
  | zero => exact List.not_mem_nil
  | succ width ih =>
      rw [DateTime.digits, List.mem_cons, not_or]
      refine ⟨?_, ih⟩
      have below : value / 10 ^ width % 10 < 10 := Nat.mod_lt _ (by decide)
      generalize value / 10 ^ width % 10 = digit at below
      interval_cases digit <;> decide

theorem bar_not_mem_isoFraction (micros : Nat) : '|' ∉ DateTime.isoFraction micros := by
  rw [DateTime.isoFraction]
  split <;> simp [bar_not_mem_digits]

theorem bar_not_mem_isoWall (wall : Int) : '|' ∉ DateTime.isoWall wall := by
  simp [DateTime.isoWall, bar_not_mem_digits, bar_not_mem_isoFraction]

theorem bar_not_mem_isoformatOffset (micros : Int) : '|' ∉ isoformatOffset micros := by
  rw [isoformatOffset]
  split <;> split <;> simp [bar_not_mem_digits, bar_not_mem_isoFraction]

theorem bar_not_mem_isoformat (wall : Int) (offset : Option Int) : '|' ∉ isoformat wall offset := by
  rw [isoformat, List.mem_append, not_or]
  refine ⟨bar_not_mem_isoWall wall, ?_⟩
  cases offset with
  | none => exact List.not_mem_nil
  | some micros => exact bar_not_mem_isoformatOffset micros

theorem bar_not_mem_toString (number : Nat) : '|' ∉ (toString number).toList := by
  rw [Nat.toString_eq_ofList_toDigits, String.toList_ofList]
  intro bar
  have digit := Nat.isDigit_of_mem_toDigits (by decide) (by decide) bar
  cases digit

theorem toString_injective {number other : Nat}
    (same : (toString number).toList = (toString other).toList) : number = other :=
  Nat.repr_injective (String.toList_injective same)

/-! ## Reading a leaf back -/

section Leaves

variable {leaf other : Leaf} {sha256 : List UInt8 → List UInt8}

theorem computeLeafHash_eq_iff (injective : Injective sha256) :
    computeLeafHash sha256 leaf = computeLeafHash sha256 other ↔ leaf.joined = other.joined := by
  rw [computeLeafHash, computeLeafHash, injective.eq_iff, Leaf.encoded, Leaf.encoded,
    Array.toList_inj, ByteArray.ext_iff.symm]
  exact String.toByteArray_inj

theorem toList_joined : leaf.joined.toList = ['|'].intercalate
    ([leaf.receiptId.toList, leaf.taskId.toList, (toString leaf.stepIndex).toList,
      leaf.payloadHash.toList] ++ [leaf.timestamp.toList]) := by
  rw [Leaf.joined, String.toList_intercalate]
  rfl

theorem Leaf.Admitted.plain (admitted : leaf.Admitted) : '|' ∉ leaf.timestamp.toList := by
  obtain ⟨wall, offset, written⟩ := admitted
  rw [written]
  exact bar_not_mem_isoformat wall offset

/-- An unambiguous receipt is the only one with its text. -/
theorem Leaf.Unambiguous.eq (unambiguous : leaf.Unambiguous) (admitted : leaf.Admitted)
    (otherAdmitted : other.Admitted) (same : leaf.joined = other.joined) : leaf = other := by
  have texts := congrArg String.toList same
  rw [toList_joined, toList_joined] at texts
  obtain ⟨fields, timestamps⟩ := read_last (by simp) (by simp) admitted.plain
    otherAdmitted.plain texts
  obtain ⟨receipts, tasks, steps, payloads⟩ := read_unique
    (fun segment => ∃ number : Nat, segment = (toString number).toList)
    unambiguous.receiptId unambiguous.taskId (bar_not_mem_toString _) (bar_not_mem_toString _)
    ⟨other.stepIndex, rfl⟩
    (fun segment early numeral => unambiguous.payloadHash segment early _ numeral.choose_spec) fields
  cases leaf
  cases other
  simp only [Leaf.mk.injEq]
  exact ⟨String.toList_injective receipts, String.toList_injective tasks, toString_injective steps,
    String.toList_injective payloads, String.toList_injective timestamps⟩

/-- No other receipt has the same text. -/
def Leaf.Alone (leaf : Leaf) : Prop :=
  ∀ other : Leaf, other.Admitted → other.joined = leaf.joined → other = leaf

/-- Any way to read the first four fields of a receipt that stands alone is its own. -/
theorem Leaf.Alone.reading (alone : leaf.Alone) (admitted : leaf.Admitted)
    (receiptId taskId payloadHash : List Char) (stepIndex : Nat)
    (same : ['|'].intercalate [receiptId, taskId, (toString stepIndex).toList, payloadHash] =
      ['|'].intercalate [leaf.receiptId.toList, leaf.taskId.toList,
        (toString leaf.stepIndex).toList, leaf.payloadHash.toList]) :
    receiptId = leaf.receiptId.toList ∧ taskId = leaf.taskId.toList := by
  have read : (⟨.ofList receiptId, .ofList taskId, stepIndex, .ofList payloadHash,
      leaf.timestamp⟩ : Leaf) = leaf := by
    refine alone _ admitted (String.toList_injective ?_)
    have nested := congrArg (fun text => ['|'].intercalate [text, leaf.timestamp.toList]) same
    rw [toList_joined, toList_joined]
    simp only [String.toList_ofList]
    exact (intercalate_nested '|' [] _ _ (by simp)).symm.trans
      (nested.trans (intercalate_nested '|' [] _ _ (by simp)))
  rw [← read]
  exact ⟨(String.toList_ofList).symm, (String.toList_ofList).symm⟩

theorem Leaf.Alone.unambiguous (alone : leaf.Alone) (admitted : leaf.Admitted) :
    leaf.Unambiguous := by
  constructor
  · intro bar
    obtain ⟨front, back, cut⟩ := List.append_of_mem bar
    have moved := alone.reading admitted front (['|'].intercalate [back, leaf.taskId.toList])
      leaf.payloadHash.toList leaf.stepIndex ?_
    · have lengths := congrArg List.length (cut.symm.trans moved.1.symm)
      simp at lengths
    · have group : leaf.receiptId.toList = ['|'].intercalate [front, back] := by
        rw [cut]
        simp
      rw [group]
      exact (intercalate_nested '|' [front] [back, leaf.taskId.toList] _ (by simp)).trans
        (intercalate_nested '|' [] [front, back] _ (by simp)).symm
  · intro bar
    obtain ⟨front, back, cut⟩ := List.append_of_mem bar
    have moved := alone.reading admitted (['|'].intercalate [leaf.receiptId.toList, front]) back
      leaf.payloadHash.toList leaf.stepIndex ?_
    · have lengths := congrArg List.length (cut.symm.trans moved.2.symm)
      simp at lengths
      omega
    · have group : leaf.taskId.toList = ['|'].intercalate [front, back] := by
        rw [cut]
        simp
      rw [group]
      exact (intercalate_nested '|' [] [leaf.receiptId.toList, front] _ (by simp)).trans
        (intercalate_nested '|' [leaf.receiptId.toList] [front, back] _ (by simp)).symm
  · intro segment early number numeral
    obtain ⟨front, back, cut⟩ := List.append_of_mem early
    have nonempty := List.splitOn_ne_nil '|' leaf.payloadHash.toList
    have segments := List.dropLast_append_getLast nonempty
    generalize (leaf.payloadHash.toList.splitOn '|').getLast nonempty = last at segments
    rw [cut, List.append_assoc, List.cons_append] at segments
    have group : ['|'].intercalate (front ++ segment :: (back ++ [last])) =
        leaf.payloadHash.toList := by
      rw [segments, List.intercalate_splitOn]
    let front' := leaf.taskId.toList :: (toString leaf.stepIndex).toList :: front
    have moved := alone.reading admitted leaf.receiptId.toList (['|'].intercalate front')
      (['|'].intercalate (back ++ [last])) number ?_
    · have lengths := congrArg List.length moved.2
      rw [List.intercalate_cons_cons] at lengths
      simp at lengths
    · rw [← group, ← numeral]
      have first := intercalate_nested '|' [leaf.receiptId.toList] front'
        [segment, ['|'].intercalate (back ++ [last])] (by simp [front'])
      have second := intercalate_nested '|' ([leaf.receiptId.toList] ++ front' ++ [segment])
        (back ++ [last]) [] (by simp)
      have whole := intercalate_nested '|' [leaf.receiptId.toList, leaf.taskId.toList,
        (toString leaf.stepIndex).toList] (front ++ segment :: (back ++ [last])) [] (by simp)
      simp only [front', List.cons_append, List.nil_append, List.append_assoc, List.append_nil]
        at first second whole ⊢
      exact first.trans (second.trans whole.symm)

/-- While SHA-256 has no collisions, the leaf of a receipt stands for this receipt alone exactly
if the receipt is unambiguous. -/
theorem leaf_stands_alone_iff (injective : Injective sha256) (admitted : leaf.Admitted) :
    (∀ other : Leaf, other.Admitted →
      computeLeafHash sha256 other = computeLeafHash sha256 leaf → other = leaf) ↔
    leaf.Unambiguous := by
  simp only [computeLeafHash_eq_iff injective]
  constructor
  · intro alone
    exact Leaf.Alone.unambiguous alone admitted
  · intro unambiguous other otherAdmitted same
    exact (unambiguous.eq admitted otherAdmitted same.symm).symm

end Leaves

namespace Demo

def newYear : String := .ofList (isoformat 1704067200000000 (some 0))

def billed (receiptId taskId : String) : Leaf := ⟨receiptId, taskId, 0, "p", newYear⟩

theorem billed_admitted (receiptId taskId : String) : (billed receiptId taskId).Admitted :=
  ⟨_, _, String.toList_ofList⟩

/-- SHA-256 on the receipt and without collisions: what it maps there takes its place. -/
def sha256 : List UInt8 → List UInt8 :=
  Equiv.swap (billed "r" "t").encoded (Library.sha256 (billed "r" "t").encoded)

end Demo

/-- Two receipts of different tasks have one leaf, whatever the hash. -/
theorem leaves_collide :
    (Demo.billed "a|b" "c").Admitted ∧ (Demo.billed "a" "b|c").Admitted ∧
    Demo.billed "a|b" "c" ≠ Demo.billed "a" "b|c" ∧
    ∀ sha256, computeLeafHash sha256 (Demo.billed "a|b" "c") =
      computeLeafHash sha256 (Demo.billed "a" "b|c") := by
  refine ⟨Demo.billed_admitted _ _, Demo.billed_admitted _ _, by decide +kernel, fun sha256 => ?_⟩
  have same : (Demo.billed "a|b" "c").joined = (Demo.billed "a" "b|c").joined := by
    apply String.toList_injective
    rw [toList_joined, toList_joined]
    rfl
  rw [computeLeafHash, computeLeafHash, Leaf.encoded, Leaf.encoded, same]

theorem Demo.billed_unambiguous : (Demo.billed "r" "t").Unambiguous := by
  refine ⟨?_, ?_, ?_⟩
  · decide +kernel
  · decide +kernel
  · intro segment early
    have last : ((Demo.billed "r" "t").payloadHash.toList.splitOn '|').dropLast = [] := by
      decide +kernel
    rw [last] at early
    cases early

theorem leaf_stands_alone_iff_demo :
    (Demo.billed "r" "t").Unambiguous ∧
      ∀ other : Leaf, other.Admitted →
        computeLeafHash Demo.sha256 other = computeLeafHash Demo.sha256 (Demo.billed "r" "t") →
        other = Demo.billed "r" "t" :=
  ⟨Demo.billed_unambiguous,
    (leaf_stands_alone_iff (Equiv.injective _) (Demo.billed_admitted "r" "t")).mpr
      Demo.billed_unambiguous⟩

end TrustChain.Billing
