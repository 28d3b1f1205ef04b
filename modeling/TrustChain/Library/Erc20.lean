import TrustChain.Library.Tally

/-!
# Standard ERC-20 ledgers

A token that moves exactly the requested amount, and out of an account only by its
owner or up to an allowance the owner granted. `Backed` is the invariant of an
account that owes a reserve: its balance covers the reserve together with every
allowance it has outstanding. Nobody else can break it, since what others may
still pull was counted in advance.
-/

namespace TrustChain.Library

open Finset Function

/-- Balances and allowances of one token. -/
structure Erc20 (α : Type*) where
  balanceOf : α → Nat
  allowance : α → α → Nat

namespace Erc20

variable {α τ : Type*} [DecidableEq α] [DecidableEq τ]

/-- The ledger of a token nobody holds. -/
def empty : Erc20 α := ⟨fun _ => 0, fun _ _ => 0⟩

/-- Move `amount` out of `source` and into `target`. -/
def move (ledger : Erc20 α) (source target : α) (amount : Nat) : Erc20 α :=
  { ledger with balanceOf := credit (debit ledger.balanceOf source amount) target amount }

def transfer (ledger : Erc20 α) (source target : α) (amount : Nat) : Option (Erc20 α) :=
  if amount ≤ ledger.balanceOf source then some (ledger.move source target amount) else none

/-- Replace the allowance of `spender` over the account of `owner`. -/
def approve (ledger : Erc20 α) (owner spender : α) (amount : Nat) : Erc20 α :=
  { ledger with
    allowance := update ledger.allowance owner (update (ledger.allowance owner) spender amount) }

def transferFrom (ledger : Erc20 α) (spender source target : α) (amount : Nat) :
    Option (Erc20 α) :=
  if amount ≤ ledger.balanceOf source ∧ amount ≤ ledger.allowance source spender then
    some ((ledger.move source target amount).approve source spender
      (ledger.allowance source spender - amount))
  else
    none

def mint (ledger : Erc20 α) (target : α) (amount : Nat) : Erc20 α :=
  { ledger with balanceOf := credit ledger.balanceOf target amount }

/-- Everything that changes a standard ledger. -/
inductive Operation (α : Type*) where
  | transfer (source target : α) (amount : Nat)
  | approve (owner spender : α) (amount : Nat)
  | transferFrom (spender source target : α) (amount : Nat)
  | mint (target : α) (amount : Nat)

/-- The account whose call performs an operation; minting is the token's own. -/
def Operation.caller : Operation α → Option α
  | .transfer source _ _ => some source
  | .approve owner _ _ => some owner
  | .transferFrom spender _ _ _ => some spender
  | .mint _ _ => none

def run (ledger : Erc20 α) : Operation α → Option (Erc20 α)
  | .transfer source target amount => ledger.transfer source target amount
  | .approve owner spender amount => some (ledger.approve owner spender amount)
  | .transferFrom spender source target amount =>
      ledger.transferFrom spender source target amount
  | .mint target amount => some (ledger.mint target amount)

theorem transfer_eq_some {ledger next : Erc20 α} {source target : α} {amount : Nat} :
    ledger.transfer source target amount = some next ↔
      amount ≤ ledger.balanceOf source ∧ next = ledger.move source target amount := by
  unfold transfer
  split <;> simp_all [eq_comm]

theorem transferFrom_eq_some {ledger next : Erc20 α} {spender source target : α} {amount : Nat} :
    ledger.transferFrom spender source target amount = some next ↔
      (amount ≤ ledger.balanceOf source ∧ amount ≤ ledger.allowance source spender) ∧
      next = (ledger.move source target amount).approve source spender
        (ledger.allowance source spender - amount) := by
  unfold transferFrom
  split <;> simp_all [eq_comm]

theorem move_balanceOf (ledger : Erc20 α) (source target query : α) (amount : Nat) :
    (ledger.move source target amount).balanceOf query =
      (ledger.balanceOf query - if query = source then amount else 0) +
        if query = target then amount else 0 := by
  simp only [move, credit_apply, debit_apply]

@[simp] theorem move_allowance (ledger : Erc20 α) (source target : α) (amount : Nat) :
    (ledger.move source target amount).allowance = ledger.allowance := rfl

@[simp] theorem approve_balanceOf (ledger : Erc20 α) (owner spender : α) (amount : Nat) :
    (ledger.approve owner spender amount).balanceOf = ledger.balanceOf := rfl

theorem approve_allowance_of_ne (ledger : Erc20 α) {owner other : α} (different : other ≠ owner)
    (spender : α) (amount : Nat) :
    (ledger.approve owner spender amount).allowance other = ledger.allowance other := by
  simp [approve, different]

theorem approve_allowance_self (ledger : Erc20 α) (owner spender : α) (amount : Nat) :
    (ledger.approve owner spender amount).allowance owner =
      update (ledger.allowance owner) spender amount := by
  simp [approve]

/-! ## Backed reserves -/

/-- The holder's balance covers `reserve` and everything it has approved. Quantifying
over finite sets of spenders avoids assuming that only finitely many were approved. -/
def Backed (ledger : Erc20 α) (holder : α) (reserve : Nat) : Prop :=
  ∀ spenders : Finset α,
    reserve + ∑ spender ∈ spenders, ledger.allowance holder spender ≤ ledger.balanceOf holder

variable {ledger next : Erc20 α} {holder : α} {reserve : Nat} {amount : Nat}

omit [DecidableEq α] in
theorem Backed.le_balanceOf (backed : ledger.Backed holder reserve) :
    reserve ≤ ledger.balanceOf holder := by
  simpa using backed ∅

omit [DecidableEq α] in
theorem Backed.mono {smaller : Nat} (backed : ledger.Backed holder reserve)
    (less : smaller ≤ reserve) : ledger.Backed holder smaller :=
  fun spenders => (Nat.add_le_add_right less _).trans (backed spenders)

/-- A payment out of the reserve leaves the rest of it backed. -/
theorem Backed.transfer {target : α} (backed : ledger.Backed holder (reserve + amount))
    (paid : ledger.transfer holder target amount = some next) : next.Backed holder reserve := by
  obtain ⟨_, rfl⟩ := transfer_eq_some.mp paid
  intro spenders
  have covered := backed spenders
  rw [move_allowance, move_balanceOf, if_pos rfl]
  omega

/-- Approving a part of the reserve leaves the rest of it backed, whatever the
spender's allowance was before. -/
theorem Backed.approve {spender : α} (backed : ledger.Backed holder (reserve + amount)) :
    (ledger.approve holder spender amount).Backed holder reserve := by
  intro spenders
  have others : ∑ other ∈ spenders.erase spender,
        update (ledger.allowance holder) spender amount other =
      ∑ other ∈ spenders.erase spender, ledger.allowance holder other :=
    sum_congr rfl fun other inside => update_of_ne (ne_of_mem_erase inside) _ _
  have covered := backed (spenders.erase spender)
  rw [approve_allowance_self, approve_balanceOf]
  by_cases member : spender ∈ spenders
  · rw [← add_sum_erase _ _ member, others, update_self]
    omega
  · rw [erase_eq_of_notMem member] at others covered
    omega

/-- An amount pulled in from somebody else's account can be added to the reserve. -/
theorem Backed.receive {spender source : α} (backed : ledger.Backed holder reserve)
    (elsewhere : source ≠ holder)
    (pulled : ledger.transferFrom spender source holder amount = some next) :
    next.Backed holder (reserve + amount) := by
  obtain ⟨_, rfl⟩ := transferFrom_eq_some.mp pulled
  intro spenders
  have covered := backed spenders
  rw [approve_allowance_of_ne _ elsewhere.symm, move_allowance, approve_balanceOf,
    move_balanceOf, if_neg elsewhere.symm, if_pos rfl]
  omega

/-- What an approved spender pulls was covered by its allowance. -/
theorem Backed.pull {spender target : α} (backed : ledger.Backed holder reserve)
    (pulled : ledger.transferFrom spender holder target amount = some next) :
    next.Backed holder reserve := by
  obtain ⟨⟨_, allowed⟩, rfl⟩ := transferFrom_eq_some.mp pulled
  intro spenders
  have others : ∑ other ∈ spenders.erase spender,
        update (ledger.allowance holder) spender (ledger.allowance holder spender - amount) other =
      ∑ other ∈ spenders.erase spender, ledger.allowance holder other :=
    sum_congr rfl fun other inside => update_of_ne (ne_of_mem_erase inside) _ _
  -- The spender may be missing from the set, so the old bound is used with it inserted.
  have covered := backed (insert spender spenders)
  rw [← add_sum_erase _ _ (mem_insert_self spender spenders), erase_insert_eq_erase] at covered
  rw [approve_allowance_self, move_allowance, approve_balanceOf, move_balanceOf, if_pos rfl]
  by_cases member : spender ∈ spenders
  · rw [← add_sum_erase _ _ member, others, update_self]
    omega
  · rw [erase_eq_of_notMem member] at others covered
    omega

/-- No call of another account can break a backed reserve. -/
theorem Backed.run {operation : Operation α} (backed : ledger.Backed holder reserve)
    (foreign : operation.caller ≠ some holder) (ran : ledger.run operation = some next) :
    next.Backed holder reserve := by
  cases operation with
  | transfer source target amount =>
      have elsewhere : source ≠ holder := by simpa [Operation.caller] using foreign
      obtain ⟨_, rfl⟩ := transfer_eq_some.mp ran
      intro spenders
      have covered := backed spenders
      rw [move_allowance, move_balanceOf, if_neg elsewhere.symm]
      omega
  | approve owner spender amount =>
      have elsewhere : owner ≠ holder := by simpa [Operation.caller] using foreign
      obtain rfl := Option.some.inj ran
      intro spenders
      rw [approve_allowance_of_ne _ elsewhere.symm, approve_balanceOf]
      exact backed spenders
  | transferFrom spender source target amount =>
      by_cases own : source = holder
      · subst own
        exact backed.pull ran
      · obtain ⟨_, rfl⟩ := transferFrom_eq_some.mp ran
        intro spenders
        have covered := backed spenders
        rw [approve_allowance_of_ne _ (Ne.symm own), move_allowance, approve_balanceOf,
          move_balanceOf, if_neg (Ne.symm own)]
        omega
  | mint target amount =>
      obtain rfl := Option.some.inj ran
      intro spenders
      have covered := backed spenders
      simp only [mint, credit_apply]
      omega

/-! ## Accounts that approve nobody -/

/-- Nobody may pull from the account of `holder`. -/
def Unapproved (ledger : Erc20 α) (holder : α) : Prop :=
  ∀ spender, ledger.allowance holder spender = 0

omit [DecidableEq α] in
theorem Unapproved.backed_iff (unapproved : ledger.Unapproved holder) :
    ledger.Backed holder reserve ↔ reserve ≤ ledger.balanceOf holder := by
  constructor
  · exact Backed.le_balanceOf
  · intro covered spenders
    have nothing : ∑ spender ∈ spenders, ledger.allowance holder spender = 0 :=
      sum_eq_zero fun spender _ => unapproved spender
    rw [nothing]
    exact covered

/-- Pulling never approves anybody. -/
theorem Unapproved.pull {spender source target : α} (unapproved : ledger.Unapproved holder)
    (pulled : ledger.transferFrom spender source target amount = some next) :
    next.Unapproved holder := by
  obtain ⟨_, rfl⟩ := transferFrom_eq_some.mp pulled
  intro other
  by_cases own : source = holder
  · subst own
    rw [approve_allowance_self, move_allowance]
    by_cases same : other = spender
    · rw [same, update_self, unapproved spender, Nat.zero_sub]
    · rw [update_of_ne same, unapproved other]
  · rw [approve_allowance_of_ne _ (Ne.symm own), move_allowance, unapproved other]

theorem Unapproved.transfer {source target : α} (unapproved : ledger.Unapproved holder)
    (paid : ledger.transfer source target amount = some next) : next.Unapproved holder := by
  obtain ⟨_, rfl⟩ := transfer_eq_some.mp paid
  exact unapproved

/-- Nobody else can approve in the holder's name. -/
theorem Unapproved.run {operation : Operation α} (unapproved : ledger.Unapproved holder)
    (foreign : operation.caller ≠ some holder) (ran : ledger.run operation = some next) :
    next.Unapproved holder := by
  cases operation with
  | transfer source target amount => exact unapproved.transfer ran
  | approve owner spender amount =>
      have elsewhere : owner ≠ holder := by simpa [Operation.caller] using foreign
      obtain rfl := Option.some.inj ran
      intro other
      rw [approve_allowance_of_ne _ elsewhere.symm, unapproved other]
  | transferFrom spender source target amount => exact unapproved.pull ran
  | mint target amount =>
      obtain rfl := Option.some.inj ran
      exact unapproved

/-- Nor can anybody else lower the balance of an account that approves nobody. -/
theorem Unapproved.balanceOf_le {operation : Operation α} (unapproved : ledger.Unapproved holder)
    (foreign : operation.caller ≠ some holder) (ran : ledger.run operation = some next) :
    ledger.balanceOf holder ≤ next.balanceOf holder :=
  ((unapproved.backed_iff.mpr le_rfl).run foreign ran).le_balanceOf

/-! ## Interactions of one account with many tokens -/

/-- A call that the holder itself makes on the token `token`. -/
inductive OwnCall (τ α : Type*) where
  | pull (token : τ) (source : α) (amount : Nat)
  | pay (token : τ) (target : α) (amount : Nat)
  | allow (token : τ) (spender : α) (amount : Nat)
  deriving DecidableEq

/-- What a call takes out of the holder's account of `token`, at once or as an allowance. -/
def OwnCall.outflow (token : τ) : OwnCall τ α → Nat
  | .pull _ _ _ => 0
  | .pay paid _ amount => if paid = token then amount else 0
  | .allow allowed _ amount => if allowed = token then amount else 0

/-- What a call brings into the holder's account of `token`. -/
def OwnCall.inflow (token : τ) : OwnCall τ α → Nat
  | .pull pulled _ amount => if pulled = token then amount else 0
  | .pay _ _ _ => 0
  | .allow _ _ _ => 0

/-- What a call pays to `target` in `token`. -/
def OwnCall.paid (token : τ) (target : α) : OwnCall τ α → Nat
  | .pull _ _ _ => 0
  | .pay paid receiver amount => if paid = token ∧ receiver = target then amount else 0
  | .allow _ _ _ => 0

/-- What a call takes from `source` in `token`. -/
def OwnCall.pulled (token : τ) (source : α) : OwnCall τ α → Nat
  | .pull pulled giver amount => if pulled = token ∧ giver = source then amount else 0
  | .pay _ _ _ => 0
  | .allow _ _ _ => 0

/-- What a call approves in `token`, for anybody. -/
def OwnCall.approved (token : τ) : OwnCall τ α → Nat
  | .pull _ _ _ => 0
  | .pay _ _ _ => 0
  | .allow allowed _ amount => if allowed = token then amount else 0

/-- Sum of one aspect of the calls over a list of them. -/
def total (aspect : OwnCall τ α → Nat) (calls : List (OwnCall τ α)) : Nat :=
  (calls.map aspect).sum

omit [DecidableEq α] [DecidableEq τ] in
@[simp] theorem total_nil (aspect : OwnCall τ α → Nat) : total aspect [] = 0 := rfl

omit [DecidableEq α] [DecidableEq τ] in
@[simp] theorem total_cons (aspect : OwnCall τ α → Nat) (call : OwnCall τ α)
    (calls : List (OwnCall τ α)) : total aspect (call :: calls) = aspect call + total aspect calls := by
  simp [total]

omit [DecidableEq α] [DecidableEq τ] in
@[simp] theorem total_append (aspect : OwnCall τ α → Nat) (calls more : List (OwnCall τ α)) :
    total aspect (calls ++ more) = total aspect calls + total aspect more := by
  simp [total]

/-- Everything taken out of the holder's account of `token`. -/
abbrev outflow (token : τ) (calls : List (OwnCall τ α)) : Nat := total (OwnCall.outflow token) calls

/-- Everything brought into the holder's account of `token`. -/
abbrev inflow (token : τ) (calls : List (OwnCall τ α)) : Nat := total (OwnCall.inflow token) calls

/-- Everything paid to `target` in `token`. -/
abbrev paidTo (token : τ) (target : α) (calls : List (OwnCall τ α)) : Nat :=
  total (OwnCall.paid token target) calls

/-- Everything pulled from `source` in `token`. -/
abbrev pulledFrom (token : τ) (source : α) (calls : List (OwnCall τ α)) : Nat :=
  total (OwnCall.pulled token source) calls

/-- Everything approved in `token`. -/
abbrev approvedIn (token : τ) (calls : List (OwnCall τ α)) : Nat :=
  total (OwnCall.approved token) calls

/-- Tokens evolve by the calls the holder makes, in order, and by anything that
others do in between. -/
inductive Interaction (holder : α) (tokens : τ → Erc20 α) :
    List (OwnCall τ α) → (τ → Erc20 α) → Prop
  | nil : Interaction holder tokens [] tokens
  | pull {calls now token source amount next} :
      Interaction holder tokens calls now → source ≠ holder →
      (now token).transferFrom holder source holder amount = some next →
      Interaction holder tokens (calls ++ [.pull token source amount]) (update now token next)
  | pay {calls now token target amount next} :
      Interaction holder tokens calls now →
      (now token).transfer holder target amount = some next →
      Interaction holder tokens (calls ++ [.pay token target amount]) (update now token next)
  | allow {calls now token spender amount} :
      Interaction holder tokens calls now →
      Interaction holder tokens (calls ++ [.allow token spender amount])
        (update now token ((now token).approve holder spender amount))
  | others {calls now token operation next} :
      Interaction holder tokens calls now → operation.caller ≠ some holder →
      (now token).run operation = some next →
      Interaction holder tokens calls (update now token next)

theorem Interaction.append {tokens now later : τ → Erc20 α} {calls more : List (OwnCall τ α)}
    (first : Interaction holder tokens calls now) (second : Interaction holder now more later) :
    Interaction holder tokens (calls ++ more) later := by
  induction second with
  | nil => simpa using first
  | pull _ elsewhere pulled ih => rw [← List.append_assoc]; exact ih.pull elsewhere pulled
  | pay _ paid ih => rw [← List.append_assoc]; exact ih.pay paid
  | allow _ ih => rw [← List.append_assoc]; exact ih.allow
  | others _ foreign ran ih => exact ih.others foreign ran

/-- A reserve that covers everything the calls take out stays backed, and grows by
everything they bring in. -/
theorem Interaction.backed {tokens now : τ → Erc20 α} {calls : List (OwnCall τ α)}
    (interaction : Interaction holder tokens calls now) (token : τ)
    (before : (tokens token).Backed holder (reserve + outflow token calls)) :
    (now token).Backed holder (reserve + inflow token calls) := by
  induction interaction generalizing reserve with
  | nil => simpa using before
  | @pull calls now pulledToken source amount next _ elsewhere pulled ih =>
      have earlier : (now token).Backed holder (reserve + inflow token calls) :=
        ih (by simpa [OwnCall.outflow] using before)
      by_cases same : pulledToken = token
      · subst same
        simpa [OwnCall.inflow, Nat.add_assoc] using earlier.receive elsewhere pulled
      · simpa [OwnCall.inflow, same, update_of_ne (Ne.symm same)] using earlier
  | @pay calls now paidToken target amount next _ paid ih =>
      by_cases same : paidToken = token
      · subst same
        have earlier : (now paidToken).Backed holder (reserve + amount + inflow paidToken calls) :=
          ih (before.mono (by simp [outflow, OwnCall.outflow]; omega))
        rw [Nat.add_right_comm] at earlier
        simpa [OwnCall.inflow] using earlier.transfer paid
      · have earlier : (now token).Backed holder (reserve + inflow token calls) :=
          ih (by simpa [OwnCall.outflow, same] using before)
        simpa [OwnCall.inflow, update_of_ne (Ne.symm same)] using earlier
  | @allow calls now allowedToken spender amount _ ih =>
      by_cases same : allowedToken = token
      · subst same
        have earlier : (now allowedToken).Backed holder
            (reserve + amount + inflow allowedToken calls) :=
          ih (before.mono (by simp [outflow, OwnCall.outflow]; omega))
        rw [Nat.add_right_comm] at earlier
        have left : ((now allowedToken).approve holder spender amount).Backed holder
            (reserve + inflow allowedToken calls) := earlier.approve
        simpa [OwnCall.inflow] using left
      · have earlier : (now token).Backed holder (reserve + inflow token calls) :=
          ih (by simpa [OwnCall.outflow, same] using before)
        simpa [OwnCall.inflow, update_of_ne (Ne.symm same)] using earlier
  | @others calls now changed operation next _ foreign ran ih =>
      have earlier := ih before
      by_cases same : changed = token
      · subst same
        simpa using earlier.run foreign ran
      · simpa [update_of_ne (Ne.symm same)] using earlier

end Erc20

end TrustChain.Library
