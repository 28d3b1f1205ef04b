import TrustChain.Library.Sha256

/-!
# Byte strings that contain hashes

What a contract hashes is a string of bytes in which earlier hashes stand. Where hashes
are taken to be collision free they are values of a type of their own, and a hash is one
symbol of the string. Numbers of a fixed width can be read back from the front.
-/

namespace TrustChain.Library

/-- A byte, or a hash in the place of its bytes. -/
inductive Symbol (δ : Type*) where
  | byte (value : UInt8)
  | hash (value : δ)
  deriving DecidableEq

namespace Symbol

variable {δ : Type*}

def ofBytes (bytes : List UInt8) : List (Symbol δ) := bytes.map .byte

def ofText (text : String) : List (Symbol δ) := ofBytes text.toUTF8.data.toList

/-- A number in `width` bytes, big endian. -/
def ofNat (width value : Nat) : List (Symbol δ) := ofBytes (Sha256.bigEndian width value)

end Symbol

theorem bigEndian_eq_iff {width value other : Nat} :
    Sha256.bigEndian width value = Sha256.bigEndian width other ↔
      value % 256 ^ width = other % 256 ^ width := by
  induction width with
  | zero => simp [Sha256.bigEndian, Nat.mod_one]
  | succ width ih =>
      have head : UInt8.ofNat (value / 256 ^ width) = UInt8.ofNat (other / 256 ^ width) ↔
          value / 256 ^ width % 256 = other / 256 ^ width % 256 := by
        rw [← UInt8.toNat_inj]
        simp
      rw [Sha256.bigEndian, Sha256.bigEndian, List.cons.injEq, ih, head, Nat.mod_pow_succ,
        Nat.mod_pow_succ]
      constructor
      · rintro ⟨high, low⟩
        rw [high, low]
      · intro same
        have positive : 0 < 256 ^ width := Nat.pow_pos (by decide)
        have low := congrArg (· % 256 ^ width) same
        simp only [Nat.add_mul_mod_self_left, Nat.mod_mod] at low
        rw [low] at same
        exact ⟨Nat.eq_of_mul_eq_mul_left positive (Nat.add_left_cancel same), low⟩

namespace Symbol

variable {δ : Type*} {width value other : Nat} {rest others : List (Symbol δ)}

@[simp] theorem ofNat_length : (ofNat width value : List (Symbol δ)).length = width := by
  simp [ofNat, ofBytes]

/-- A number of fixed width at the front can be read back. -/
theorem ofNat_append_inj (fits : value < 256 ^ width) (otherFits : other < 256 ^ width) :
    ofNat width value ++ rest = ofNat width other ++ others ↔ value = other ∧ rest = others := by
  constructor
  · intro same
    obtain ⟨front, back⟩ := List.append_inj same (by simp)
    have bytes := (List.map_injective_iff.mpr fun _ _ => Symbol.byte.inj) front
    rw [bigEndian_eq_iff, Nat.mod_eq_of_lt fits, Nat.mod_eq_of_lt otherFits] at bytes
    exact ⟨bytes, back⟩
  · rintro ⟨rfl, rfl⟩
    rfl

/-- A word of eight times `width` bits. -/
def ofWord {bits : Nat} (width : Nat) (word : BitVec bits) : List (Symbol δ) := ofNat width word.toNat

theorem ofWord_append_inj {bits : Nat} (wide : bits ≤ 8 * width) {word another : BitVec bits} :
    ofWord width word ++ rest = ofWord width another ++ others ↔ word = another ∧ rest = others := by
  have fits : ∀ word : BitVec bits, word.toNat < 256 ^ width := fun word => by
    calc word.toNat < 2 ^ bits := word.isLt
      _ ≤ 2 ^ (8 * width) := Nat.pow_le_pow_right (by decide) wide
      _ = 256 ^ width := by rw [Nat.pow_mul]
  rw [ofWord, ofWord, ofNat_append_inj (fits word) (fits another), BitVec.toNat_inj]

end Symbol

/-! ## A hash without collisions -/

namespace Symbol

/-- The string as numbers: a byte is itself, and a hash is its length and its numbers. -/
def numbers : List (Symbol (List Nat)) → List Nat
  | [] => []
  | .byte value :: rest => value.toNat :: numbers rest
  | .hash value :: rest => (256 + value.length) :: (value ++ numbers rest)

theorem numbers_injective : Function.Injective numbers := by
  intro symbols
  induction symbols with
  | nil =>
      intro others same
      rcases others with _ | ⟨_ | _, _⟩ <;> simp_all [numbers]
  | cons symbol rest ih =>
      intro others same
      cases symbol with
      | byte value =>
          rcases others with _ | ⟨another | another, others⟩
          · simp [numbers] at same
          · obtain ⟨here, later⟩ := List.cons.inj same
            rw [UInt8.toNat_inj.mp here, ih later]
          · have small := value.toNat_lt
            have head : value.toNat = 256 + another.length := (List.cons.inj same).1
            omega
      | hash value =>
          rcases others with _ | ⟨another | another, others⟩
          · simp [numbers] at same
          · have small := another.toNat_lt
            have head : 256 + value.length = another.toNat := (List.cons.inj same).1
            omega
          · obtain ⟨sizes, later⟩ := List.cons.inj same
            obtain ⟨here, further⟩ := List.append_inj later (by simpa using sizes)
            rw [here, ih further]

end Symbol

end TrustChain.Library
