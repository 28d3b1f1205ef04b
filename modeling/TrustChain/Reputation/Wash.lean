import Mathlib.Data.List.Count
import TrustChain.Runtime.Keys

/-!
# Signs of wash trading

A trade is judged by the trades around it: whether the parties are the same, whether they have
traded in the other direction, how often they have traded, and how often the seller has. More trades
around it never speak for a trade.
-/

namespace TrustChain.Reputation

open Library Service

/-- The `reputation_wash_*` settings. -/
structure WashSettings where
  pairWindowHours : Nat := 24
  burstWindowMinutes : Nat := 60
  minAmount : ℚ := 1
  pairMax : Nat := 4
  burstMax : Nat := 8

namespace WashSettings

variable (settings : WashSettings)

/-- The window of a pair, in seconds. -/
def pairWindow : ℚ := settings.pairWindowHours * 3600

def burstWindow : ℚ := settings.burstWindowMinutes * 60

end WashSettings

structure TradeEdge where
  buyerId : IdentityId
  sellerId : IdentityId
  amount : ℚ
  createdAt : Option ℚ := none

inductive WashSignal where
  | selfDeal | sameWallet | dust | circular | pairVelocity | burst
  deriving DecidableEq, Repr

structure WashVerdict where
  credit : Bool
  flagsDelta : Nat
  signals : List WashSignal := []

/-- `_norm`, of a missing value too. -/
def norm (value : Option String) : String :=
  .ofList ((Runtime.strip (value.getD "")).toList.map Char.toLower)

/-- `_in_window`: a trade at no time is in every window. -/
def inWindow (edge : TradeEdge) (now window : ℚ) : Bool :=
  edge.createdAt.all fun createdAt => now - createdAt ≤ window

/-- The trade that is judged. -/
structure Deal where
  buyerId : Option IdentityId
  sellerId : Option IdentityId
  amount : ℚ
  buyerWallet : Option String := none
  sellerWallet : Option String := none

namespace Deal

variable (deal : Deal)

def buyer : String := norm deal.buyerId

def seller : String := norm deal.sellerId

def selfDeal : Bool := deal.buyer ≠ "" && deal.seller ≠ "" && deal.buyer = deal.seller

def sameWallet : Bool :=
  norm deal.buyerWallet ≠ "" && norm deal.sellerWallet ≠ "" &&
    norm deal.buyerWallet = norm deal.sellerWallet

/-! ## The trades around it -/

section Counts

variable (settings : WashSettings) (now : ℚ)

/-- Another trade of the seller, shortly before. -/
def bursts (edge : TradeEdge) : Bool :=
  inWindow edge now settings.burstWindow && norm (some edge.sellerId) = deal.seller

/-- Another trade of the pair. -/
def pairs (edge : TradeEdge) : Bool :=
  inWindow edge now settings.pairWindow && deal.buyer ≠ "" &&
    norm (some edge.buyerId) = deal.buyer && norm (some edge.sellerId) = deal.seller

/-- A trade of the pair in the other direction. -/
def reverses (edge : TradeEdge) : Bool :=
  inWindow edge now settings.pairWindow && deal.buyer ≠ "" &&
    norm (some edge.buyerId) = deal.seller && norm (some edge.sellerId) = deal.buyer

/-- The numbers of trades: of the pair, in the other direction, and of the seller. -/
structure Counts where
  pairN : Nat := 1
  reverseN : Nat := 0
  burstN : Nat := 1

/-- One trade of the history is counted. -/
def countEdge (counts : Counts) (edge : TradeEdge) : Counts where
  burstN := if deal.bursts settings now edge then counts.burstN + 1 else counts.burstN
  pairN := if deal.pairs settings now edge then counts.pairN + 1 else counts.pairN
  reverseN := if deal.reverses settings now edge then counts.reverseN + 1 else counts.reverseN

/-- Without a seller nothing is counted. -/
def countEdges (history : List TradeEdge) : Counts :=
  if deal.seller = "" then {} else history.foldl (deal.countEdge settings now) {}

end Counts

end Deal

/-- The signals that deny the credit, with the flags that each raises to. -/
def signalsOf (settings : WashSettings) (deal : Deal) (counts : Deal.Counts) :
    List (WashSignal × Nat) :=
  (if deal.selfDeal then [(.selfDeal, 2)] else []) ++
  (if deal.sameWallet then [(.sameWallet, 2)] else []) ++
  -- dust raises a flag only if the pair has traded before
  (if deal.amount < settings.minAmount then [(.dust, if 2 ≤ counts.pairN then 1 else 0)] else []) ++
  (if 1 ≤ counts.reverseN then [(.circular, 1)] else []) ++
  (if settings.pairMax ≤ counts.pairN then [(.pairVelocity, 1)] else []) ++
  (if settings.burstMax ≤ counts.burstN then [(.burst, 1)] else [])

def evaluateWashSignals (settings : WashSettings) (deal : Deal) (history : List TradeEdge)
    (now : ℚ) : WashVerdict :=
  let signals := signalsOf settings deal (deal.countEdges settings now history)
  { credit := signals.isEmpty
    flagsDelta := (signals.map Prod.snd).foldl max 0
    signals := signals.map Prod.fst }

/-! ## What the loop counts -/

namespace Deal

variable {settings : WashSettings} {deal : Deal} {now : ℚ} {history : List TradeEdge}

theorem countEdge_foldl (counts : Counts) :
    history.foldl (deal.countEdge settings now) counts =
      { pairN := counts.pairN + history.countP (deal.pairs settings now)
        reverseN := counts.reverseN + history.countP (deal.reverses settings now)
        burstN := counts.burstN + history.countP (deal.bursts settings now) } := by
  induction history generalizing counts with
  | nil => rfl
  | cons edge rest ih =>
      rw [List.foldl_cons, ih]
      simp only [countEdge, List.countP_cons, Counts.mk.injEq]
      refine ⟨?_, ?_, ?_⟩ <;> split <;> omega

theorem countEdges_of_seller (named : deal.seller ≠ "") :
    deal.countEdges settings now history =
      { pairN := 1 + history.countP (deal.pairs settings now)
        reverseN := history.countP (deal.reverses settings now)
        burstN := 1 + history.countP (deal.bursts settings now) } := by
  rw [countEdges, if_neg named, countEdge_foldl]
  simp

/-- The counts grow. -/
def Counts.Le (counts more : Counts) : Prop :=
  counts.pairN ≤ more.pairN ∧ counts.reverseN ≤ more.reverseN ∧ counts.burstN ≤ more.burstN

theorem countEdges_mono {larger : List TradeEdge} (within : history.Subperm larger) :
    (deal.countEdges settings now history).Le (deal.countEdges settings now larger) := by
  by_cases named : deal.seller = ""
  · simp [countEdges, named, Counts.Le]
  · rw [countEdges_of_seller named, countEdges_of_seller named]
    have pairs := within.countP_le (deal.pairs settings now)
    have reverses := within.countP_le (deal.reverses settings now)
    have bursts := within.countP_le (deal.bursts settings now)
    exact ⟨Nat.add_le_add_left pairs 1, reverses, Nat.add_le_add_left bursts 1⟩

end Deal

/-! ## More trades never speak for a trade -/

section Monotone

variable {settings : WashSettings} {deal : Deal} {now : ℚ}

theorem signalsOf_mono {counts more : Deal.Counts} (le : counts.Le more) :
    ∀ signal ∈ signalsOf settings deal counts, ∃ raised ∈ signalsOf settings deal more,
      signal.1 = raised.1 ∧ signal.2 ≤ raised.2 := by
  obtain ⟨pairs, reverses, bursts⟩ := le
  intro signal there
  simp only [signalsOf, List.mem_append, List.mem_ite_nil_right, List.mem_singleton] at there
  have flags : (if 2 ≤ counts.pairN then 1 else 0) ≤ if 2 ≤ more.pairN then 1 else 0 := by
    split
    · rw [if_pos (by omega)]
    · exact Nat.zero_le _
  rcases there with ((((⟨self, rfl⟩ | ⟨wallet, rfl⟩) | ⟨dust, rfl⟩) | ⟨circular, rfl⟩) |
    ⟨velocity, rfl⟩) | ⟨burst, rfl⟩
  · exact ⟨_, by simp [signalsOf, self], rfl, le_rfl⟩
  · exact ⟨_, by simp [signalsOf, wallet], rfl, le_rfl⟩
  · exact ⟨(.dust, if 2 ≤ more.pairN then 1 else 0), by simp [signalsOf, dust], rfl, flags⟩
  · exact ⟨_, by simp [signalsOf, circular.trans reverses], rfl, le_rfl⟩
  · exact ⟨_, by simp [signalsOf, velocity.trans pairs], rfl, le_rfl⟩
  · exact ⟨_, by simp [signalsOf, burst.trans bursts], rfl, le_rfl⟩

theorem foldl_max_le_iff {flags : List Nat} {start bound : Nat} :
    flags.foldl max start ≤ bound ↔ start ≤ bound ∧ ∀ flag ∈ flags, flag ≤ bound := by
  induction flags generalizing start with
  | nil => simp
  | cons flag rest ih => simp [ih, and_assoc]

variable {history : List TradeEdge}

theorem credit_iff : (evaluateWashSignals settings deal history now).credit = true ↔
    signalsOf settings deal (deal.countEdges settings now history) = [] := by
  simp [evaluateWashSignals]

theorem flagsDelta_le_iff {bound : Nat} :
    (evaluateWashSignals settings deal history now).flagsDelta ≤ bound ↔
      ∀ signal ∈ signalsOf settings deal (deal.countEdges settings now history),
        signal.2 ≤ bound := by
  simp only [evaluateWashSignals, foldl_max_le_iff, Nat.zero_le, true_and, List.forall_mem_map]

/-- More trades never turn a denied credit into a granted one, and never lower the flags. -/
theorem evaluateWashSignals_mono {larger : List TradeEdge} (within : history.Subperm larger) :
    ((evaluateWashSignals settings deal history now).credit = false →
      (evaluateWashSignals settings deal larger now).credit = false) ∧
    (evaluateWashSignals settings deal history now).flagsDelta ≤
      (evaluateWashSignals settings deal larger now).flagsDelta := by
  have counts : (deal.countEdges settings now history).Le (deal.countEdges settings now larger) :=
    Deal.countEdges_mono within
  have mono : ∀ signal ∈ signalsOf settings deal (deal.countEdges settings now history),
      ∃ raised ∈ signalsOf settings deal (deal.countEdges settings now larger),
        signal.1 = raised.1 ∧ signal.2 ≤ raised.2 := signalsOf_mono counts
  constructor
  · intro denied
    rw [← Bool.not_eq_true, credit_iff] at denied ⊢
    obtain ⟨signal, there⟩ := List.exists_mem_of_ne_nil _ denied
    obtain ⟨raised, also, -⟩ := mono signal there
    exact List.ne_nil_of_mem also
  · refine flagsDelta_le_iff.mpr fun signal there => ?_
    obtain ⟨raised, also, -, higher⟩ := mono signal there
    exact higher.trans (flagsDelta_le_iff.mp le_rfl raised also)

end Monotone

/-- A trade that is given credit is not with oneself, is not the last that its pair may make, and has
no counterpart. -/
theorem counts_of_credit {settings : WashSettings} {deal : Deal} {now : ℚ}
    {history : List TradeEdge} (named : deal.seller ≠ "")
    (credit : (evaluateWashSignals settings deal history now).credit = true) :
    deal.selfDeal = false ∧ 1 + history.countP (deal.pairs settings now) < settings.pairMax ∧
      history.countP (deal.reverses settings now) = 0 := by
  have none := credit_iff.mp credit
  rw [Deal.countEdges_of_seller named] at none
  simp only [signalsOf, List.append_eq_nil_iff, ite_eq_right_iff, reduceCtorEq, imp_false] at none
  obtain ⟨⟨⟨⟨⟨self, -⟩, -⟩, circular⟩, velocity⟩, -⟩ := none
  exact ⟨by simpa using self, by omega, by omega⟩

end TrustChain.Reputation
