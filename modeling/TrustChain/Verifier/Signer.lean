import Mathlib.Algebra.Group.Int.Defs
import Mathlib.Algebra.Group.Nat.Defs
import Mathlib.Data.List.Basic

/-!
# Signed attestations

A verifier signs what it has found about a bundle of evidence as typed data. The signature is
checked by recovering an address from it and the typed data, and comparing the address with the
wallet that the attestation itself names.
-/

namespace TrustChain.Verifier

abbrev VerifierId := String
abbrev TaskId := String
abbrev Bytes := List UInt8

structure VerifierAttestation where
  taskId : TaskId := ""
  evidenceHash : String := ""
  cid : String := ""
  verifierId : VerifierId := ""
  verifierWallet : String := ""
  decision : String := ""
  chainId : Int := 0
  contractAddress : String := ""
  signature : String := ""
deriving DecidableEq

/-! ## Strings and bytes -/

/-- `str.lower`, of the ASCII letters that an address has. -/
def lower (text : String) : String := .ofList (text.toList.map Char.toLower)

/-- `replace("0x", "")`. -/
def withoutHexMarks : List Char → List Char
  | '0' :: 'x' :: rest => withoutHexMarks rest
  | char :: rest => char :: withoutHexMarks rest
  | [] => []

def hexValue (char : Char) : Option Nat :=
  if '0' ≤ char ∧ char ≤ '9' then some (char.toNat - '0'.toNat)
  else if 'a' ≤ char ∧ char ≤ 'f' then some (char.toNat - 'a'.toNat + 10)
  else if 'A' ≤ char ∧ char ≤ 'F' then some (char.toNat - 'A'.toNat + 10)
  else none

/-- `bytes.fromhex`, which skips white space between bytes; `none` if it raises. -/
def fromHex : List Char → Option Bytes
  | [] => some []
  | char :: rest =>
      if char ∈ [' ', '\t', '\n', '\r', '\x0b', '\x0c'] then fromHex rest
      else match rest with
        | [] => none
        | second :: rest => do
            let high ← hexValue char
            let low ← hexValue second
            let bytes ← fromHex rest
            some (.ofNat (16 * high + low) :: bytes)

/-- `rjust(32, b"\x00")`. -/
def rjust32 (bytes : Bytes) : Bytes := List.replicate (32 - bytes.length) 0 ++ bytes

/-- `int.from_bytes(bytes, "big")`. -/
def fromBytes (bytes : Bytes) : Nat := bytes.foldl (fun value byte => 256 * value + byte.toNat) 0

/-- `to_bytes(32, "big")` of a number that is small enough. -/
def toBytes (number : Nat) : Bytes :=
  (List.range 32).map fun place => .ofNat (number / 256 ^ (31 - place) % 256)

def utf8 (text : String) : Bytes := text.toUTF8.data.toList

/-- `_to_bytes32`; `none` if the text is not hexadecimal. -/
def toBytes32 (hexStr : String) : Option Bytes :=
  if hexStr = "" then some (List.replicate 32 0)
  else (fromHex (withoutHexMarks hexStr.toList)).map rjust32

/-! ## Typed data -/

/-- What is signed of an attestation. -/
structure TypedData where
  chainId : Int
  verifyingContract : String
  evidenceHash : Bytes
  cid : String
  decision : String
  verifierId : VerifierId
deriving DecidableEq

def buildAttestationEip712Payload (attestation : VerifierAttestation) : Option TypedData :=
  (toBytes32 attestation.evidenceHash).map fun evidenceHash => {
    chainId := attestation.chainId
    verifyingContract :=
      if attestation.contractAddress = "" then "0x0000000000000000000000000000000000000000"
      else attestation.contractAddress
    evidenceHash
    cid := attestation.cid
    decision := attestation.decision
    verifierId := attestation.verifierId }

inductive FieldValue where
  | string (text : String)
  | bytes32 (bytes : Bytes)
  | uint256 (number : Int)
  | address (text : String)

def FieldValue.type : FieldValue → String
  | .string _ => "string"
  | .bytes32 _ => "bytes32"
  | .uint256 _ => "uint256"
  | .address _ => "address"

namespace TypedData

variable (data : TypedData)

def domain : List (String × FieldValue) :=
  [("name", .string "KarmaAttestation"), ("version", .string "1"),
    ("chainId", .uint256 data.chainId), ("verifyingContract", .address data.verifyingContract)]

def message : List (String × FieldValue) :=
  [("evidenceHash", .bytes32 data.evidenceHash), ("cid", .string data.cid),
    ("decision", .string data.decision), ("verifierId", .string data.verifierId),
    ("chainId", .uint256 data.chainId)]

end TypedData

/-! ## Recovery -/

/-- The packages that signatures are checked with. -/
structure Recovery where
  /-- `Account.recover_message`; `none` where `eth_account` is missing or raises. -/
  recoverMessage : TypedData → String → Option String
  keccak256 : Bytes → Bytes
  /-- `_recover_address_from_signature`, of a digest, `r`, `s` and `v`. -/
  recoverAddress : Bytes → Nat → Nat → Nat → Option String

namespace Recovery

variable (recovery : Recovery)

def encodeType (primaryType : String) (fields : List (String × FieldValue)) : String :=
  primaryType ++ "(" ++
    ",".intercalate (fields.map fun field => field.2.type ++ " " ++ field.1) ++ ")"

def encodeField : FieldValue → Option Bytes
  | .string text => some (recovery.keccak256 (utf8 text))
  | .bytes32 bytes => some ((bytes ++ List.replicate (32 - bytes.length) 0).take 32)
  | .uint256 number => if 0 ≤ number ∧ number < 2 ^ 256 then some (toBytes number.toNat) else none
  | .address text => (fromHex (withoutHexMarks (lower text).toList)).map rjust32

def encodeData (primaryType : String) (fields : List (String × FieldValue)) : Option Bytes :=
  (fields.mapM fun field => recovery.encodeField field.2).map fun encoded =>
    recovery.keccak256 (utf8 (encodeType primaryType fields)) ++ encoded.flatten

/-- `_eip712_struct_hash`. -/
def structHash (data : TypedData) : Option Bytes := do
  let domain ← recovery.encodeData "EIP712Domain" data.domain
  let message ← recovery.encodeData "Attestation" data.message
  some (recovery.keccak256
    ([0x19, 0x01] ++ recovery.keccak256 domain ++ recovery.keccak256 message))

/-- The address that the pure-Python fallback recovers. -/
def recoverPurePython (data : TypedData) (signature : String) : Option String := do
  let digest ← recovery.structHash data
  let bytes ← fromHex (withoutHexMarks signature.toList)
  if bytes.length = 65 then
    recovery.recoverAddress digest (fromBytes (bytes.take 32))
      (fromBytes ((bytes.drop 32).take 32)) (fromBytes (bytes.drop 64))
  else none

/-- Recover an address with `eth_account`, or without it where that does not work. -/
def recover (data : TypedData) (signature : String) : Option String :=
  recovery.recoverMessage data signature <|> recovery.recoverPurePython data signature

/-- `verify_attestation`; `none` if it raises. -/
def verifyAttestation (attestation : VerifierAttestation) : Option Bool :=
  if attestation.signature = "" ∨ ¬['0', 'x'] <+: attestation.signature.toList then some false
  else (buildAttestationEip712Payload attestation).map fun payload =>
    ((recovery.recover payload attestation.signature).map lower) =
      some (lower attestation.verifierWallet)

/-- The signature of an attestation is one of the wallet's. -/
def SignedBy (wallet : String) (attestation : VerifierAttestation) : Prop :=
  recovery.verifyAttestation { attestation with verifierWallet := wallet } = some true

instance (wallet : String) (attestation : VerifierAttestation) :
    Decidable (recovery.SignedBy wallet attestation) :=
  inferInstanceAs (Decidable (_ = _))

variable {recovery} {attestation : VerifierAttestation} {wallet : String}

/-- A signature that verifies is of those wallets which are the one that is named. -/
theorem signedBy_iff (verified : recovery.verifyAttestation attestation = some true) :
    recovery.SignedBy wallet attestation ↔ lower wallet = lower attestation.verifierWallet := by
  unfold SignedBy
  unfold verifyAttestation at verified ⊢
  split at verified
  case isTrue => cases verified
  case isFalse marked =>
    obtain ⟨payload, built, recovered⟩ := Option.map_eq_some_iff.mp verified
    have address := of_decide_eq_true recovered
    change buildAttestationEip712Payload { attestation with verifierWallet := wallet } =
      some payload at built
    rw [if_neg marked, built, Option.map_some, address]
    simp [eq_comm]

end Recovery

end TrustChain.Verifier
