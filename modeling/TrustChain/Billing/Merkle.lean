import TrustChain.Library.Merkle
import TrustChain.Library.Sha256

/-!
# The receipt accumulator

The append-only accumulator whose root is anchored for a list of receipts, and what its root
binds: with nothing but concatenation under the hash, a list is bound up to the repetition of
its last nodes, and up to the level at which its leaves stand.
-/

namespace TrustChain.Billing

open Library

abbrev Bytes := List UInt8

/-- Hash a node's two children: `hashlib.sha256(left + right).digest()`. -/
def hashPair (left right : Bytes) : Bytes := sha256 (left ++ right)

def hexDigits : List Char :=
  ['0', '1', '2', '3', '4', '5', '6', '7', '8', '9', 'a', 'b', 'c', 'd', 'e', 'f']

def hexDigit (digit : Nat) : Char := hexDigits.getD digit '0'

/-- `bytes.hex()`. -/
def hex (bytes : Bytes) : String :=
  .ofList (bytes.flatMap fun byte => [hexDigit (byte.toNat / 16), hexDigit (byte.toNat % 16)])

structure IncrementalMerkleAccumulator where
  leaves : List Bytes := []
  anchorCount : Nat := 0

namespace IncrementalMerkleAccumulator

variable (accumulator : IncrementalMerkleAccumulator)

/-- Append a leaf and return its index. -/
def append (leafHash : Bytes) : Nat × IncrementalMerkleAccumulator :=
  (accumulator.leaves.length, { accumulator with leaves := accumulator.leaves ++ [leafHash] })

/-- Pair up the nodes of a level until one is left. -/
def computeRoot : Option String :=
  if accumulator.leaves.isEmpty then none else (Merkle.root hashPair accumulator.leaves).map hex

def markAnchored : String × IncrementalMerkleAccumulator :=
  (accumulator.computeRoot.getD "", { accumulator with anchorCount := accumulator.anchorCount + 1 })

/-- The accumulator after a sequence of leaves. -/
def appendAll (leaves : List Bytes) : IncrementalMerkleAccumulator :=
  leaves.foldl (fun accumulator leafHash => (accumulator.append leafHash).2) accumulator

end IncrementalMerkleAccumulator

/-- The accumulator that a sequence of leaves was appended to. -/
def accumulate (leaves : List Bytes) : IncrementalMerkleAccumulator :=
  IncrementalMerkleAccumulator.appendAll {} leaves

/-- The strings that are hashed to compute the root of a sequence. -/
def hashedInputs (leaves : List Bytes) : List Bytes :=
  (Merkle.combined hashPair (Merkle.height leaves) leaves).map fun pair => pair.1 ++ pair.2

section Roots

variable {leaves others : List Bytes}

theorem appendAll_leaves (accumulator : IncrementalMerkleAccumulator) (leaves : List Bytes) :
    (accumulator.appendAll leaves).leaves = accumulator.leaves ++ leaves := by
  induction leaves generalizing accumulator with
  | nil => exact (List.append_nil _).symm
  | cons leaf rest ih =>
      rw [IncrementalMerkleAccumulator.appendAll, List.foldl_cons]
      refine (ih _).trans ?_
      simp [IncrementalMerkleAccumulator.append]

theorem accumulate_leaves (leaves : List Bytes) : (accumulate leaves).leaves = leaves := by
  rw [accumulate, appendAll_leaves, List.nil_append]

theorem hexDigit_inj {digit other : Nat} (small : digit < 16) (otherSmall : other < 16)
    (same : hexDigit digit = hexDigit other) : digit = other := by
  have table : ∀ digit other : Fin 16, hexDigit digit = hexDigit other → digit = other := by decide
  exact congrArg Fin.val (table ⟨digit, small⟩ ⟨other, otherSmall⟩ same)

theorem hex_inj {bytes other : Bytes} (same : hex bytes = hex other) : bytes = other := by
  have digits := String.ofList_injective same
  induction bytes generalizing other with
  | nil =>
      cases other with
      | nil => rfl
      | cons => simp at digits
  | cons byte rest ih =>
      cases other with
      | nil => simp at digits
      | cons otherByte otherRest =>
          simp only [List.flatMap_cons, List.cons_append, List.nil_append, List.cons.injEq] at digits
          obtain ⟨high, low, later⟩ := digits
          have byteFits := byte.toNat_lt
          have otherFits := otherByte.toNat_lt
          have sameHigh := hexDigit_inj (by omega) (by omega) high
          have sameLow := hexDigit_inj (by omega) (by omega) low
          have sameByte : byte = otherByte := UInt8.toNat_inj.mp (by omega)
          rw [sameByte, ih (congrArg String.ofList later) later]

theorem computeRoot_eq (leaves : List Bytes) :
    (accumulate leaves).computeRoot = (Merkle.root hashPair leaves).map hex := by
  rw [IncrementalMerkleAccumulator.computeRoot, accumulate_leaves]
  cases leaves with
  | nil => rfl
  | cons leaf rest => rfl

theorem computeRoot_eq_iff :
    (accumulate leaves).computeRoot = (accumulate others).computeRoot ↔
      Merkle.root hashPair leaves = Merkle.root hashPair others := by
  rw [computeRoot_eq, computeRoot_eq]
  exact (Option.map_injective fun _ _ => hex_inj).eq_iff

/-- Digests and leaves have one length, so a collision of pairs is one of the hash. -/
theorem hashPair_injOn (leavesSized : ∀ leaf ∈ leaves, leaf.length = 32)
    (othersSized : ∀ leaf ∈ others, leaf.length = 32)
    (collisionFree : Set.InjOn sha256
      {input | input ∈ hashedInputs leaves ∨ input ∈ hashedInputs others}) :
    Set.InjOn (fun pair : Bytes × Bytes => hashPair pair.1 pair.2)
      {pair | pair ∈ Merkle.combined hashPair (Merkle.height leaves) leaves ∨
        pair ∈ Merkle.combined hashPair (Merkle.height others) others} := by
  have sized : ∀ left right : Bytes, (hashPair left right).length = 32 :=
    fun left right => sha256_length _
  have hashed : ∀ pair : Bytes × Bytes,
      pair ∈ Merkle.combined hashPair (Merkle.height leaves) leaves ∨
        pair ∈ Merkle.combined hashPair (Merkle.height others) others →
      (pair.1 ++ pair.2 ∈ hashedInputs leaves ∨ pair.1 ++ pair.2 ∈ hashedInputs others) ∧
        pair.1.length = 32 := by
    rintro pair (member | member)
    · exact ⟨.inl (List.mem_map.mpr ⟨pair, member, rfl⟩),
        (Merkle.mem_combined sized leavesSized member).1⟩
    · exact ⟨.inr (List.mem_map.mpr ⟨pair, member, rfl⟩),
        (Merkle.mem_combined sized othersSized member).1⟩
  intro pair member other otherMember same
  obtain ⟨input, length⟩ := hashed pair member
  obtain ⟨otherInput, otherLength⟩ := hashed other otherMember
  have concatenated := collisionFree input otherInput same
  obtain ⟨left, right⟩ := List.append_inj concatenated (length.trans otherLength.symm)
  exact Prod.ext left right

/-- As long as the hash does not collide on what is hashed for the two roots, sequences of
32-byte leaves, the first with at least as many levels above it, have the same root exactly
if the level of the first that is as high above it as its tree is higher fills up to the same
list as the second; and sequences of one length only if they are the same. -/
theorem compute_root_eq_iff (leavesSized : ∀ leaf ∈ leaves, leaf.length = 32)
    (othersSized : ∀ leaf ∈ others, leaf.length = 32)
    (collisionFree : Set.InjOn sha256
      {input | input ∈ hashedInputs leaves ∨ input ∈ hashedInputs others}) :
    (Merkle.height others ≤ Merkle.height leaves →
      ((accumulate leaves).computeRoot = (accumulate others).computeRoot ↔
        Merkle.fill (Merkle.height others)
            (Merkle.level hashPair (Merkle.height leaves - Merkle.height others) leaves) =
          Merkle.fill (Merkle.height others) others)) ∧
    (leaves.length = others.length →
      ((accumulate leaves).computeRoot = (accumulate others).computeRoot ↔ leaves = others)) := by
  have injective := hashPair_injOn leavesSized othersSized collisionFree
  rw [computeRoot_eq_iff]
  exact ⟨fun higher => Merkle.root_eq_root_iff higher injective,
    fun sameLength => Merkle.root_inj_of_length sameLength injective⟩

end Roots

namespace Demo

/-- A leaf of 32 equal bytes. -/
def leaf (byte : UInt8) : Bytes := List.replicate 32 byte

def three : List Bytes := [leaf 1, leaf 2, leaf 3]

/-- The same leaves with the last one repeated. -/
def repeated : List Bytes := [leaf 1, leaf 2, leaf 3, leaf 3]

/-- The same leaves with the first two swapped. -/
def swapped : List Bytes := [leaf 2, leaf 1, leaf 3]

def pair : List Bytes := [leaf 1, leaf 2]

/-- The one interior node of the pair as a leaf. -/
def node : List Bytes := [hashPair (leaf 1) (leaf 2)]

end Demo

/-- A list and the same list with its last leaf repeated have one root, and so have a list and
the list of its interior nodes, although no two of the hashed strings collide. -/
theorem roots_collide :
    (∀ input ∈ hashedInputs Demo.three ++ hashedInputs Demo.repeated,
      ∀ other ∈ hashedInputs Demo.three ++ hashedInputs Demo.repeated,
        sha256 input = sha256 other → input = other) ∧
    (accumulate Demo.three).computeRoot = (accumulate Demo.repeated).computeRoot ∧
    (accumulate Demo.three).computeRoot ≠ none ∧ Demo.three ≠ Demo.repeated ∧
    (accumulate Demo.pair).computeRoot = (accumulate Demo.node).computeRoot ∧
    Demo.pair ≠ Demo.node ∧
    ∀ leaf ∈ Demo.three ++ Demo.repeated ++ Demo.pair ++ Demo.node, leaf.length = 32 := by
  decide +kernel

theorem compute_root_eq_iff_demo :
    (accumulate Demo.three).computeRoot ≠ (accumulate Demo.swapped).computeRoot := by
  have different : Demo.three ≠ Demo.swapped := by decide +kernel
  have free : ∀ input ∈ hashedInputs Demo.three ++ hashedInputs Demo.swapped,
      ∀ other ∈ hashedInputs Demo.three ++ hashedInputs Demo.swapped,
        sha256 input = sha256 other → input = other := by decide +kernel
  have collisionFree : Set.InjOn sha256
      {input | input ∈ hashedInputs Demo.three ∨ input ∈ hashedInputs Demo.swapped} :=
    fun input member other otherMember =>
      free input (List.mem_append.mpr member) other (List.mem_append.mpr otherMember)
  intro same
  exact different (((compute_root_eq_iff (by decide +kernel) (by decide +kernel) collisionFree).2
    rfl).mp same)

end TrustChain.Billing
