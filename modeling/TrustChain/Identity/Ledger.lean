import TrustChain.Library.HashChain
import TrustChain.Library.Transition

/-!
# The trust ledger

The state machine of identities and credentials appends every event to a ledger, which is a hash
chain under a key, and keeps the newest hundred thousand of them. When older ones are dropped, the
rest is chained anew. Meanwhile somebody without the key may edit what is stored.
-/

namespace TrustChain.Identity

open Library HashChain

/-! ## Transitions -/

inductive CredentialState where
  | pending | verified | failed | expired | revoked
deriving DecidableEq

inductive CredentialAction where
  | issue | verify | reject | revoke | reissue | reverify | expire
deriving DecidableEq

def CredentialState.text : CredentialState → String
  | .pending => "pending"
  | .verified => "verified"
  | .failed => "failed"
  | .expired => "expired"
  | .revoked => "revoked"

def CredentialAction.text : CredentialAction → String
  | .issue => "issue"
  | .verify => "verify"
  | .reject => "reject"
  | .revoke => "revoke"
  | .reissue => "reissue"
  | .reverify => "reverify"
  | .expire => "expire"

/-- The state of a credential as the ledger names it; one that is not issued has none. -/
def stateText (state : Option CredentialState) : String := state.elim "" CredentialState.text

/-- `CREDENTIAL_TRANSITIONS`. -/
def credentialTransitions : Option CredentialState → CredentialAction → Option CredentialState
  | none, .issue => some .pending
  | some .pending, .verify => some .verified
  | some .pending, .reject => some .failed
  | some .pending, .revoke => some .revoked
  | some .failed, .reissue => some .pending
  | some .expired, .reverify => some .pending
  | some .verified, .expire => some .expired
  | some .verified, .revoke => some .revoked
  | _, _ => none

/-! ## Entries -/

/-- What callers add to an event. -/
inductive Extra where
  | none
  | credential (identityId credentialType : String)
  | scope (scope : String)
deriving DecidableEq

/-- An entry without its hash. -/
structure Record where
  entryId : String
  ts : Int
  entityType : String
  entityId : String
  event : String
  fromState : String
  toState : String
  actor : String
  reason : String
  extra : Extra
deriving DecidableEq

/-- The arguments of `record_event`. -/
structure EventArgs where
  entityType : String
  entityId : String
  event : String
  fromState : String := ""
  toState : String := ""
  actor : String := "system"
  reason : String := ""
  extra : Extra := .none

/-- `text[:length]`. -/
def truncate (length : Nat) (text : String) : String := .ofList (text.toList.take length)

/-- The entry of an event, under an identifier drawn at random. -/
def EventArgs.record (args : EventArgs) (entryId : String) (now : Int) : Record where
  entryId
  ts := now
  entityType := args.entityType
  entityId := args.entityId
  event := args.event
  fromState := args.fromState
  toState := args.toState
  actor := truncate 64 args.actor
  reason := truncate 256 args.reason
  extra := args.extra

/-- The HMAC under the ledger key of a hash and of the canonical JSON of an entry, and `GENESIS`. -/
structure Scheme (δ : Type) where
  genesis : δ
  entryHash : δ → Record → δ

abbrev Ledger (δ : Type) := List (Entry δ Record)

/-- `_LEDGER_MAX`. -/
def ledgerMax : Nat := 100000

section Append

variable {δ : Type} (scheme : Scheme δ) (ledger : Ledger δ) (record : Record)

/-- The entry that is appended for a record. -/
def nextEntry : Entry δ Record where
  content := record
  entryHash := scheme.entryHash (last scheme.genesis ledger) record

/-- The newest entries, chained anew. -/
def rebased (longer : Ledger δ) : Ledger δ :=
  rehash scheme.entryHash scheme.genesis (longer.drop (longer.length - ledgerMax))

/-- `_append_ledger_locked`. -/
def appendLedger : Ledger δ :=
  let longer := ledger ++ [nextEntry scheme ledger record]
  if ledgerMax < longer.length then rebased scheme longer else longer

variable {scheme ledger record}

theorem nextEntry_hashed :
    Hashed scheme.entryHash (last scheme.genesis ledger, nextEntry scheme ledger record) := rfl

/-- Below the limit an entry is appended, and the ledger verifies as it did before. -/
theorem appendLedger_verifies (fits : ledger.length < ledgerMax) :
    Verifies scheme.entryHash scheme.genesis (appendLedger scheme ledger record) ↔
      Verifies scheme.entryHash scheme.genesis ledger := by
  have short : ¬ledgerMax < (ledger ++ [nextEntry scheme ledger record]).length := by
    rw [List.length_append, List.length_singleton]
    omega
  simp only [appendLedger, if_neg short, verifies_snoc]
  exact and_iff_left nextEntry_hashed

/-- At the limit the ledger is chained anew, whatever has been stored in it. -/
theorem rebased_verifies (full : ledgerMax ≤ ledger.length) :
    Verifies scheme.entryHash scheme.genesis (appendLedger scheme ledger record) := by
  have long : ledgerMax < (ledger ++ [nextEntry scheme ledger record]).length := by
    rw [List.length_append, List.length_singleton]
    omega
  simp only [appendLedger, if_pos long]
  exact rehash_verifies _ _ _

end Append

/-- The arguments of `transition`. -/
structure TransitionArgs where
  entityType : String
  entityId : String
  fromState : Option CredentialState
  action : CredentialAction
  actor : String := "system"
  reason : String := ""
  extra : Extra := .none

/-- `transition`: the event that it records, unless the transition is illegal. -/
def TransitionArgs.event (args : TransitionArgs) : Option EventArgs :=
  (credentialTransitions args.fromState args.action).map fun toState =>
    { entityType := args.entityType
      entityId := args.entityId
      event := "credential_" ++ args.action.text
      fromState := stateText args.fromState
      toState := toState.text
      actor := args.actor
      reason := args.reason
      extra := args.extra }

/-! ## Integrity -/

inductive Integrity where
  | ok (entries : Nat)
  | broken (index : Nat) (entryId : String)
deriving DecidableEq

/-- The field `ok`. -/
def Integrity.isOk : Integrity → Bool
  | .ok _ => true
  | .broken .. => false

section Verification

variable {δ : Type} [DecidableEq δ] (scheme : Scheme δ)

/-- The loop of `verify_ledger_integrity`: the first entry whose hash is wrong. -/
def firstBroken : δ → Nat → Ledger δ → Option (Nat × String)
  | _, _, [] => none
  | previous, index, entry :: rest =>
      if entry.entryHash ≠ scheme.entryHash previous entry.content then
        some (index, entry.content.entryId)
      else firstBroken entry.entryHash (index + 1) rest

/-- `verify_ledger_integrity`. -/
def verifyLedgerIntegrity (ledger : Ledger δ) : Integrity :=
  match firstBroken scheme scheme.genesis 0 ledger with
  | none => .ok ledger.length
  | some (index, entryId) => .broken index entryId

theorem firstBroken_eq_none {previous : δ} {index : Nat} {ledger : Ledger δ} :
    firstBroken scheme previous index ledger = none ↔
      Verifies scheme.entryHash previous ledger := by
  induction ledger generalizing previous index with
  | nil => simp [firstBroken]
  | cons entry rest ih =>
      rw [firstBroken, verifies_cons, ← @ih entry.entryHash (index + 1)]
      by_cases hashed : entry.entryHash = scheme.entryHash previous entry.content
      · rw [if_neg (not_not.mpr hashed)]
        simp [hashed]
      · simp [hashed]

theorem isOk_iff {ledger : Ledger δ} : (verifyLedgerIntegrity scheme ledger).isOk = true ↔
    Verifies scheme.entryHash scheme.genesis ledger := by
  rw [← @firstBroken_eq_none _ _ scheme _ 0 _, verifyLedgerIntegrity]
  cases firstBroken scheme scheme.genesis 0 ledger <;> simp [Integrity.isOk]

end Verification

/-! ## Runs with an adversary -/

/-- The ledger, the links that the machine has made, and whether the ledger has been tampered
with. -/
structure State (δ : Type) where
  ledger : Ledger δ := []
  transcript : List (δ × Entry δ Record) := []
  tampered : Bool := false

inductive Action (δ : Type) where
  | recordEvent (args : EventArgs) (entryId : String) (now : Int)
  | transition (args : TransitionArgs) (entryId : String) (now : Int)
  /-- Somebody without the key stores something else. -/
  | edit (ledger : Ledger δ)

section System

variable {δ : Type} [DecidableEq δ] (scheme : Scheme δ) (state : State δ)

/-- Append an entry; the machine links it to the ledger, and after a truncation all the rest. -/
def State.append (record : Record) : State δ where
  ledger := appendLedger scheme state.ledger record
  transcript :=
    state.transcript ++ (last scheme.genesis state.ledger, nextEntry scheme state.ledger record) ::
      if ledgerMax < state.ledger.length + 1 then
        links scheme.genesis (appendLedger scheme state.ledger record)
      else []
  tampered := state.tampered

/-- Store another ledger. -/
def State.edit (ledger : Ledger δ) : State δ :=
  { state with
    ledger
    tampered := state.tampered || ledger ≠ state.ledger }

/-- The state after an action. -/
def after : Action δ → State δ
  | .recordEvent args entryId now => state.append scheme (args.record entryId now)
  | .transition args entryId now =>
      args.event.elim state fun event => state.append scheme (event.record entryId now)
  | .edit ledger => state.edit ledger

/-- Edits are made without the key. -/
def system : TransitionSystem (State δ) (Action δ) where
  Init state := state = {}
  Step state action next :=
    (∀ ledger, action = .edit ledger → Keyless scheme.entryHash state.transcript ledger) ∧
      next = after scheme state action

end System

end TrustChain.Identity
