import TrustChain.Library.Outcome

/-!
# Computations with a log

A computation that may fail keeps a log of what it has done, and does not lose it when it fails.
A transaction stores the state that such a computation returns, and is undone when it fails. If
the state has a record of its own, the log tells what the record has lost then.
-/

namespace TrustChain.Library

/-- A log, and how the computation has ended. -/
structure Logged (ω ε α : Type) where
  log : List ω
  outcome : Except ε α

namespace Logged

variable {ω ε α β σ : Type}

instance : Monad (Logged ω ε) where
  pure value := ⟨[], .ok value⟩
  bind first next :=
    match first.outcome with
    | .ok value => ⟨first.log ++ (next value).log, (next value).outcome⟩
    | .error error => ⟨first.log, .error error⟩

/-- A computation that logs nothing. -/
def lift (outcome : Except ε α) : Logged ω ε α := ⟨[], outcome⟩

/-- Log an entry. -/
def note (entry : ω) : Logged ω ε Unit := ⟨[entry], .ok ()⟩

section Bind

variable {first : Logged ω ε α} {next : α → Logged ω ε β} {outcome : Except ε α} {value : α}

@[simp] theorem outcome_lift : (lift outcome : Logged ω ε α).outcome = outcome := rfl

@[simp] theorem log_lift : (lift outcome : Logged ω ε α).log = [] := rfl

@[simp] theorem outcome_pure : (pure value : Logged ω ε α).outcome = .ok value := rfl

@[simp] theorem outcome_note {entry : ω} : (note entry : Logged ω ε Unit).outcome = .ok () := rfl

@[simp] theorem outcome_bind :
    (first >>= next).outcome = first.outcome >>= fun value => (next value).outcome := by
  obtain ⟨log, ended⟩ := first
  cases ended with
  | ok value => rfl
  | error error => rfl

theorem bind_of_ok (ended : first.outcome = .ok value) :
    first >>= next = ⟨first.log ++ (next value).log, (next value).outcome⟩ := by
  obtain ⟨log, outcome⟩ := first
  obtain rfl := ended
  rfl

theorem bind_of_error {error : ε} (ended : first.outcome = .error error) :
    first >>= next = ⟨first.log, .error error⟩ := by
  obtain ⟨log, outcome⟩ := first
  obtain rfl := ended
  rfl

/-- The log of a sequence begins with the log of its first part. -/
theorem log_bind_ne (noted : first.log ≠ []) : (first >>= next).log ≠ [] := by
  cases ended : first.outcome with
  | ok value =>
      rw [bind_of_ok ended]
      exact List.append_ne_nil_of_left_ne_nil noted _
  | error error =>
      rw [bind_of_error ended]
      exact noted

end Bind

/-! ## Transactions -/

/-- The state after a transaction. -/
def persisted (before : σ) (body : Logged ω ε σ) : σ :=
  match body.outcome with
  | .ok after => after
  | .error _ => before

/-- A state that is returned has recorded the log. -/
def Records (record : σ → List ω) (before : σ) (body : Logged ω ε σ) : Prop :=
  ∀ after, body.outcome = .ok after → record after = record before ++ body.log

/-- Whoever logs an entry of some kind fails. -/
def Stops (refused : ω → Prop) (body : Logged ω ε α) : Prop :=
  ∀ entry ∈ body.log, refused entry → ∃ error, body.outcome = .error error

/-- Nothing is logged in vain. -/
def Kept (body : Logged ω ε α) : Prop := body.log = [] ∨ ∃ value, body.outcome = .ok value

section Rules

variable {record : σ → List ω} {before : σ} {refused : ω → Prop} {outcome : Except ε α}
  {first : Logged ω ε α} {next : α → Logged ω ε β}

theorem records_lift {result : Except ε σ}
    (same : ∀ after, result = .ok after → record after = record before) :
    Records record before (lift result) := by
  intro after ended
  rw [same after ended, log_lift, List.append_nil]

theorem Records.bind {start : Logged ω ε σ} {next : σ → Logged ω ε σ}
    (begins : Records record before start)
    (goes : ∀ middle, start.outcome = .ok middle → Records record middle (next middle)) :
    Records record before (start >>= next) := by
  intro after ended
  cases starts : start.outcome with
  | error error =>
      rw [bind_of_error starts] at ended
      cases ended
  | ok middle =>
      rw [bind_of_ok starts] at ended ⊢
      rw [goes middle starts after ended, begins middle starts, List.append_assoc]

theorem records_lift_bind {next : α → Logged ω ε σ}
    (goes : ∀ value, outcome = .ok value → Records record before (next value)) :
    Records record before (lift outcome >>= next) := by
  intro after ended
  cases outcome with
  | error error => cases ended
  | ok value => exact goes value rfl after ended

theorem Records.of_same {other : σ} {body : Logged ω ε σ} (records : Records record other body)
    (same : record other = record before) : Records record before body := by
  intro after ended
  rw [records after ended, same]

theorem stops_lift : Stops refused (lift outcome : Logged ω ε α) := by
  intro entry member
  exact absurd member List.not_mem_nil

theorem Stops.bind (begins : Stops refused first) (goes : ∀ value, Stops refused (next value)) :
    Stops refused (first >>= next) := by
  intro entry member is
  cases starts : first.outcome with
  | error error => exact ⟨error, by rw [bind_of_error starts]⟩
  | ok value =>
      rw [bind_of_ok starts] at member ⊢
      rcases List.mem_append.1 member with member | member
      · obtain ⟨error, fails⟩ := begins entry member is
        rw [starts] at fails
        cases fails
      · exact goes value entry member is

theorem kept_lift : Kept (lift outcome : Logged ω ε α) := .inl rfl

theorem kept_lift_bind :
    Kept (lift outcome >>= next) ↔ ∀ value, outcome = .ok value → Kept (next value) := by
  cases outcome with
  | error error =>
      constructor
      · intro _ value is
        cases is
      · intro _
        exact .inl rfl
  | ok value =>
      have same : (lift (.ok value) >>= next : Logged ω ε β) = next value := rfl
      simp [same]

/-- What has been logged is kept only if the whole sequence succeeds. -/
theorem kept_bind_iff (noted : first.log ≠ []) : Kept (first >>= next) ↔
    ∃ value, first.outcome = .ok value ∧ ∃ result, (next value).outcome = .ok result := by
  rw [Kept, or_iff_right (log_bind_ne noted)]
  simp only [outcome_bind, bind_eq_ok]
  constructor
  · rintro ⟨result, value, starts, goes⟩
    exact ⟨value, starts, result, goes⟩
  · rintro ⟨value, starts, result, goes⟩
    exact ⟨result, value, starts, goes⟩

/-- The record of a transaction has its whole log exactly if nothing was logged in vain. -/
theorem record_persisted_iff {body : Logged ω ε σ} (records : Records record before body) :
    record (body.persisted before) = record before ++ body.log ↔ body.Kept := by
  unfold persisted Kept
  cases ended : body.outcome with
  | ok after => simp [records after ended]
  | error error => simp

end Rules

end Logged

end TrustChain.Library
