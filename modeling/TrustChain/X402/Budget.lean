import TrustChain.Library.Logged
import TrustChain.X402.Client

/-!
# The budget of a payment

A call of the client, with the executors that pay for it. An executor may transfer token units,
and signs the amount that the resource asks for as it stands. The call logs what it does, and
what it has done is not lost when it fails. Amounts are read in any arithmetic: doubles round
what they compute, and exact numbers stay as they are.
-/

namespace TrustChain.X402

open Library Service

/-- What is computed of a number; an infinity and not-a-number stay. -/
def onFinite (value : Double) (computed : ℚ → Double) : Double :=
  match value with
  | .finite number => computed number
  | other => other

/-! ## Reading an amount -/

section Reading

variable (rounded : ℚ → Double)

/-- `float(raw)`. -/
def PaymentRequiredAccept.value (accept : PaymentRequiredAccept) : Option Double :=
  Double.parseWith rounded
    (Runtime.strip (if accept.maxAmountRequired = "" then "0" else accept.maxAmountRequired))

/-- Atomic units from a million on, and decimal below. -/
def usdcOf (value : Double) : Double :=
  if (Double.finite 1000000).le value then onFinite value fun atomic => rounded (atomic / 1000000)
  else value

/-- `amount_usdc_float`. -/
def PaymentRequiredAccept.amountUsdc (accept : PaymentRequiredAccept) : Double :=
  match accept.value rounded with
  | none => .finite 0
  | some value => usdcOf rounded value

def addWith : Double → Double → Double
  | .nan, _ | _, .nan => .nan
  | .infinity negative, .infinity other => if negative = other then .infinity negative else .nan
  | .infinity negative, .finite _ | .finite _, .infinity negative => .infinity negative
  | .finite x, .finite y => rounded (x + y)

/-- `max_budget_usdc + 1e-9`. -/
def ceiling (maxBudgetUsdc : Double) : Double :=
  addWith rounded maxBudgetUsdc (rounded (1 / 10 ^ 9))

/-- `usdc_amount_to_atomic`. -/
def usdcAmountToAtomic (amountUsdc : Double) : Except String ℤ := do
  require (¬amountUsdc.lt (.finite 0) = true) "amount must be non-negative"
  match onFinite amountUsdc fun amount => rounded (amount * 1000000) with
  | .finite units => .ok (roundHalfEven units)
  | .nan => .error "cannot convert float NaN to integer"
  | .infinity _ => .error "cannot convert float infinity to integer"

end Reading

/-- In doubles this is the amount that the client reads. -/
theorem amountUsdc_round (accept : PaymentRequiredAccept) :
    accept.amountUsdc Double.round = accept.amountUsdcFloat := by
  have same : ∀ value, onFinite value (fun atomic => Double.round (atomic / 1000000)) =
      fromAtomic value := by
    intro value
    cases value <;> rfl
  have read : accept.value Double.round = Double.parse (Runtime.strip
      (if accept.maxAmountRequired = "" then "0" else accept.maxAmountRequired)) := rfl
  rw [PaymentRequiredAccept.amountUsdc, PaymentRequiredAccept.amountUsdcFloat, read]
  cases Double.parse _ with
  | none => rfl
  | some value => simp only [usdcOf, same]

theorem addWith_round (left right : Double) : addWith Double.round left right = left.add right := by
  cases left <;> cases right <;> rfl

theorem ceiling_round (maxBudgetUsdc : Double) :
    ceiling Double.round maxBudgetUsdc = maxBudgetUsdc.add tolerance :=
  addWith_round maxBudgetUsdc tolerance

/-! ## Executors -/

/-- What a call does besides its requests. -/
inductive Effect where
  /-- The executor is asked to pay. -/
  | pay (accept : PaymentRequiredAccept)
  | transfer (payTo : String) (units : ℤ)
  | sign (payload : Json.Fields)

/-- What the client and its executors call: the resource, the chain and the libraries. -/
structure Outside where
  first : Except String Response
  /-- The answer to the request with the signature. -/
  second : String → Except String Response
  /-- `_send_usdc_transfer_sync`, which may also fail after the transfer is sent. -/
  transfer : String → ℤ → Except String String
  /-- The payload with its signature, and the digest. -/
  sign : Json.Fields → String × String
  encode : Json.Fields → String
  tokenHex : String
  /-- `Field(ge=0.0)`. -/
  nonnegative : Double → Bool

inductive Executor where
  | mock (txPrefix : String)
  | env (address : String)
  | sepolia (address : String)

section Calls

variable (rounded : ℚ → Double) (wire : Wire) (outside : Outside)

def buildPaymentPayload (accept : PaymentRequiredAccept) (resourceUrl payerAddress : String) :
    Json.Fields :=
  [("x402Version", .int 1), ("scheme", .string accept.scheme),
    ("network", .string accept.network), ("asset", .string accept.asset),
    ("payTo", .string accept.payTo), ("maxAmountRequired", .string accept.maxAmountRequired),
    ("resource", .string (if resourceUrl = "" then accept.resource else resourceUrl)),
    ("payer", .string payerAddress), ("nonce", .string outside.tokenHex)]

def paymentProof (accept : PaymentRequiredAccept) (txHash paymentSignatureB64 : String) :
    PaymentProof :=
  { network := accept.network, txHash := some txHash, paymentSignatureB64,
    amountUsdc := accept.amountUsdc rounded, asset := accept.asset }

open Logged in
def Executor.pay (accept : PaymentRequiredAccept) (resourceUrl : String) :
    Executor → Logged Effect String PaymentProof
  | .mock txPrefix =>
      let tx := txPrefix ++ outside.tokenHex
      pure (paymentProof rounded accept tx (outside.encode
        [("x402Version", .int 1), ("scheme", .string accept.scheme),
          ("network", .string accept.network), ("txHash", .string tx),
          ("resource", .string (if resourceUrl = "" then accept.resource else resourceUrl))]))
  | .env address => do
      let payload := buildPaymentPayload outside accept resourceUrl address
      note (.sign payload)
      pure (paymentProof rounded accept (outside.sign payload).2 (outside.sign payload).1)
  | .sepolia address => do
      lift (require (accept.payTo ≠ "") "x402 accept missing payTo address")
      let units ← lift (usdcAmountToAtomic rounded (accept.amountUsdc rounded))
      note (.transfer accept.payTo units)
      let txHash ← lift (outside.transfer accept.payTo units)
      let payload := buildPaymentPayload outside accept resourceUrl address ++
        [("txHash", .string txHash)]
      note (.sign payload)
      pure (paymentProof rounded accept txHash (outside.sign payload).1)

/-! ## A call -/

/-- `pick_accept`. -/
def PaymentRequiredDocument.pick (document : PaymentRequiredDocument)
    (preferNetwork : Option String) : Except String PaymentRequiredAccept :=
  match (preferNetwork.filter (· ≠ "")).bind fun network =>
      document.accepts.find? (·.network = network) with
  | some accept => .ok accept
  | none => document.pickAccept

/-- Up to the payment, with a preferred network. -/
def quoteFor (safeUrl : String) (maxBudgetUsdc : Double) (preferNetwork : Option String)
    (first : Response) : Except String (Option Quote) :=
  if first.statusCode ≠ 402 then .ok none
  else do
    let document ← parsePaymentRequiredResponse wire first
    let accept ← document.pick preferNetwork
    let amount := accept.amountUsdc rounded
    require (¬(ceiling rounded maxBudgetUsdc).lt amount = true) "x402 amount exceeds max_budget"
    assertResourceMatchesUrl (if accept.resource = "" then safeUrl else accept.resource) safeUrl
    .ok (some { accept, amount, safeUrl })

/-- The external payment of a result. -/
structure FetchedPayment where
  txHash : Option String
  amountUsdc : Double
  resourceUrl : String
  paymentProof : String
  network : String
  asset : String

structure X402FetchResult where
  statusCode : Int
  body : List UInt8
  headers : List (String × String)
  externalPayment : Option FetchedPayment
  paymentAttempts : ℕ

def externalPayment (quote : Quote) (proof : PaymentProof) : Except String FetchedPayment := do
  require (outside.nonnegative (recordedAmount quote proof) = true)
    "Input should be greater than or equal to 0"
  .ok { txHash := proof.txHash, amountUsdc := recordedAmount quote proof,
        resourceUrl := quote.safeUrl, paymentProof := proof.paymentSignatureB64,
        network := proof.network, asset := proof.asset }

open Logged in
/-- The payment for a quote, and the request with its proof. -/
def payQuote (executor : Executor) (quote : Quote) : Logged Effect String X402FetchResult := do
  note (.pay quote.accept)
  let proof ← executor.pay rounded outside quote.accept quote.safeUrl
  let second ← lift (outside.second proof.paymentSignatureB64)
  let payment ← lift (externalPayment outside quote proof)
  pure ⟨second.statusCode, second.body, second.headers, some payment, 1⟩

open Logged in
def X402Client.payAndFetch (executor : Executor) (allowPrivateHosts : Bool) (url : String)
    (maxBudgetUsdc : Double) (preferNetwork : Option String) :
    Logged Effect String X402FetchResult := do
  let safeUrl ← lift (validateX402TargetUrl wire allowPrivateHosts url)
  let first ← lift outside.first
  let quote? ← lift (quoteFor rounded wire safeUrl maxBudgetUsdc preferNetwork first)
  match quote? with
  | none => pure ⟨first.statusCode, first.body, first.headers, none, 0⟩
  | some quote => payQuote rounded outside executor quote

end Calls

/-- In doubles, and without a preferred network, this is the quote that the client reads. -/
theorem quoteFor_round (wire : Wire) (safeUrl : String) (maxBudgetUsdc : Double)
    (first : Response) :
    quoteFor Double.round wire safeUrl maxBudgetUsdc none first =
      readQuote wire safeUrl maxBudgetUsdc first := by
  have picked : ∀ document : PaymentRequiredDocument, document.pick none = document.pickAccept :=
    fun _ => rfl
  simp only [quoteFor, readQuote, picked, amountUsdc_round, ceiling_round, assertBudget]

/-! ## What a call does -/

/-- The units that an amount is transferred as. -/
def Units (amount : Double) (units : ℤ) : Prop :=
  ∃ value, amount = .finite value ∧ 0 ≤ value ∧ units = roundHalfEven (value * 1000000)

/-- A payload with the amount that the resource has stated. -/
def Stated (accept : PaymentRequiredAccept) (payload : Json.Fields) : Prop :=
  payload.get "maxAmountRequired" = some (.string accept.maxAmountRequired)

/-- What an executor may do: transfer the amount and sign it, each at most once. -/
inductive Pays (accept : PaymentRequiredAccept) : List Effect → Prop
  | nothing : Pays accept []
  | signed {payload : Json.Fields} (stated : Stated accept payload) : Pays accept [.sign payload]
  | moved {units : ℤ} (read : Units (accept.amountUsdc .finite) units) :
      Pays accept [.transfer accept.payTo units]
  | both {units : ℤ} {payload : Json.Fields} (read : Units (accept.amountUsdc .finite) units)
      (stated : Stated accept payload) :
      Pays accept [.transfer accept.payTo units, .sign payload]

/-- A call pays and records nothing, or it pays once, for what a 402 answer asks for. -/
inductive WithinBudget (wire : Wire) (outside : Outside) (maxBudgetUsdc : Double)
    (preferNetwork : Option String) (call : Logged Effect String X402FetchResult) : Prop
  | unpaid (log : call.log = [])
      (unrecorded : ∀ result, call.outcome = .ok result →
        result.externalPayment = none ∧ result.paymentAttempts = 0)
  | paid (first : Response) (document : PaymentRequiredDocument) (accept : PaymentRequiredAccept)
      (effects : List Effect) (answered : outside.first = .ok first)
      (status : first.statusCode = 402)
      (parsed : parsePaymentRequiredResponse wire first = .ok document)
      (picked : document.pick preferNetwork = .ok accept)
      (log : call.log = .pay accept :: effects) (pays : Pays accept effects)
      (covered : accept.amountUsdc .finite ≠ .nan →
        (accept.amountUsdc .finite).le (ceiling .finite maxBudgetUsdc) = true)
      (bound : ∀ units, Units (accept.amountUsdc .finite) units →
        ∀ budget, maxBudgetUsdc = .finite budget →
          units ≤ roundHalfEven (budget * 1000000 + 1 / 1000))
      (whole : ∀ units, Units (accept.amountUsdc .finite) units → ∀ most : ℤ,
        maxBudgetUsdc = .finite (most / 1000000) → units ≤ most)
      (recorded : ∀ result, call.outcome = .ok result → result.paymentAttempts = 1 ∧
        ∃ payment, result.externalPayment = some payment ∧
          payment.amountUsdc = accept.amountUsdc .finite)

section Facts

variable {rounded : ℚ → Double} {wire : Wire} {outside : Outside} {executor : Executor}
  {allowPrivateHosts : Bool} {url resourceUrl : String} {maxBudgetUsdc : Double}
  {preferNetwork : Option String} {accept : PaymentRequiredAccept} {units : ℤ} {α β : Type}

/-- Only finite amounts from zero on are transferred, rounded to whole units. -/
theorem usdcAmountToAtomic_eq_ok {amount : Double}
    (converted : usdcAmountToAtomic .finite amount = .ok units) : Units amount units := by
  unfold usdcAmountToAtomic at converted
  obtain ⟨nonneg, is⟩ := require_bind_eq_ok.mp converted
  cases amount with
  | nan => cases is
  | infinity => cases is
  | finite value => exact ⟨value, rfl, by simpa [Double.lt] using nonneg, (Except.ok.inj is).symm⟩

theorem lift_ok_bind {value : α} {next : α → Logged Effect String β} :
    Logged.lift (.ok value) >>= next = next value := rfl

theorem log_lift_bind {outcome : Except String α} {next : α → Logged Effect String β} :
    (Logged.lift outcome >>= next).log =
      match outcome with | .ok value => (next value).log | .error _ => [] := by
  cases outcome <;> rfl

theorem log_note_bind {effect : Effect} {next : Unit → Logged Effect String β} :
    (Logged.note effect >>= next).log = effect :: (next ()).log := rfl

theorem log_bind_silent {first : Logged Effect String α} {next : α → Logged Effect String β}
    (silent : ∀ value, (next value).log = []) : (first >>= next).log = first.log := by
  cases ended : first.outcome with
  | ok value => rw [Logged.bind_of_ok ended, silent, List.append_nil]
  | error error => rw [Logged.bind_of_error ended]

theorem Executor.pay_pays :
    Pays accept (executor.pay .finite outside accept resourceUrl).log := by
  cases executor with
  | mock txPrefix => exact .nothing
  | env address => exact .signed rfl
  | sepolia address =>
      simp only [Executor.pay, log_lift_bind, log_note_bind]
      split
      case h_2 => exact .nothing
      case h_1 =>
        split
        case h_2 => exact .nothing
        case h_1 converted =>
          have read := usdcAmountToAtomic_eq_ok converted
          split
          case h_2 => exact .moved read
          case h_1 => exact .both read rfl

/-- The proof of a payment states the amount that was asked for. -/
theorem Executor.pay_amountUsdc {proof : PaymentProof}
    (paid : (executor.pay rounded outside accept resourceUrl).outcome = .ok proof) :
    proof.amountUsdc = accept.amountUsdc rounded := by
  cases executor with
  | mock txPrefix =>
      simp only [Executor.pay, Logged.outcome_pure, Except.ok.injEq] at paid
      simp only [← paid, paymentProof]
  | env address =>
      simp only [Executor.pay, Logged.outcome_bind, Logged.outcome_note, Logged.outcome_pure,
        bind_eq_ok, Except.ok.injEq] at paid
      obtain ⟨_, -, is⟩ := paid
      simp only [← is, paymentProof]
  | sepolia address =>
      simp only [Executor.pay, Logged.outcome_bind, Logged.outcome_lift, Logged.outcome_note,
        Logged.outcome_pure, bind_eq_ok, Except.ok.injEq] at paid
      obtain ⟨_, -, _, -, _, -, _, -, _, -, is⟩ := paid
      simp only [← is, paymentProof]

theorem quoteFor_eq_some {safeUrl : String} {first : Response} {quote : Quote}
    (read : quoteFor rounded wire safeUrl maxBudgetUsdc preferNetwork first = .ok (some quote)) :
    first.statusCode = 402 ∧ quote.amount = quote.accept.amountUsdc rounded ∧
      (ceiling rounded maxBudgetUsdc).lt quote.amount = false ∧
      ∃ document, parsePaymentRequiredResponse wire first = .ok document ∧
        document.pick preferNetwork = .ok quote.accept := by
  unfold quoteFor at read
  split at read
  case isTrue => cases read
  case isFalse answered =>
    simp only [bind_eq_ok, require_eq_ok, Bool.not_eq_true] at read
    obtain ⟨document, parsed, accept, picked, -, within, -, -, is⟩ := read
    simp only [Except.ok.injEq, Option.some.injEq] at is
    subst is
    dsimp only
    exact ⟨not_not.mp answered, rfl, within, document, parsed, picked⟩

theorem log_payQuote (quote : Quote) : (payQuote rounded outside executor quote).log =
    .pay quote.accept :: (executor.pay rounded outside quote.accept quote.safeUrl).log := by
  rw [payQuote, log_note_bind, log_bind_silent]
  intro proof
  rw [log_lift_bind]
  split
  · rw [log_lift_bind]
    split <;> rfl
  · rfl

theorem payQuote_records {quote : Quote} {result : X402FetchResult}
    (stated : quote.amount = quote.accept.amountUsdc rounded)
    (ended : (payQuote rounded outside executor quote).outcome = .ok result) :
    result.paymentAttempts = 1 ∧ ∃ payment, result.externalPayment = some payment ∧
      payment.amountUsdc = quote.accept.amountUsdc rounded := by
  simp only [payQuote, externalPayment, Logged.outcome_bind, Logged.outcome_lift,
    Logged.outcome_note, Logged.outcome_pure, bind_eq_ok, Except.ok.injEq] at ended
  obtain ⟨_, -, proof, paid, second, -, payment, ⟨_, -, rfl⟩, rfl⟩ := ended
  refine ⟨rfl, _, rfl, ?_⟩
  rw [recordedAmount, Executor.pay_amountUsdc paid, stated, ite_self]

/-! ## The bound -/

theorem roundHalfEven_above (most : ℤ) : roundHalfEven (most + 1 / 1000) = most := by
  have low : Int.fract ((most : ℚ) + 1 / 1000) = 1 / 1000 := by
    rw [Int.fract_intCast_add, Int.fract_eq_self]
    norm_num
  have floor : ⌊(most : ℚ) + 1 / 1000⌋ = most := by
    rw [Int.floor_intCast_add, Int.floor_eq_zero_iff.mpr ⟨by norm_num, by norm_num⟩, add_zero]
  rw [roundHalfEven, low, floor, if_pos (by norm_num)]

theorem ceiling_ne_nan (positive : (Double.finite 0).lt maxBudgetUsdc = true) :
    ceiling .finite maxBudgetUsdc ≠ .nan := by
  cases maxBudgetUsdc with
  | nan => simp [Double.lt] at positive
  | infinity => exact Double.noConfusion
  | finite => exact Double.noConfusion

/-- The tolerance of the budget is a thousandth of a unit. -/
theorem Units.le {amount : Double} (read : Units amount units) {budget : ℚ}
    (covered : amount.le (ceiling .finite (.finite budget)) = true) :
    units ≤ roundHalfEven (budget * 1000000 + 1 / 1000) := by
  obtain ⟨value, rfl, -, is⟩ := read
  have below : value ≤ budget + 1 / 10 ^ 9 := of_decide_eq_true covered
  rw [is]
  exact roundHalfEven_mono (by linarith)

theorem payQuote_within {safeUrl : String} {first : Response} {quote : Quote}
    (positive : (Double.finite 0).lt maxBudgetUsdc = true) (answered : outside.first = .ok first)
    (read : quoteFor .finite wire safeUrl maxBudgetUsdc preferNetwork first = .ok (some quote)) :
    WithinBudget wire outside maxBudgetUsdc preferNetwork
      (payQuote .finite outside executor quote) := by
  obtain ⟨status, stated, affordable, document, parsed, picked⟩ := quoteFor_eq_some read
  have covered : quote.accept.amountUsdc .finite ≠ .nan →
      (quote.accept.amountUsdc .finite).le (ceiling .finite maxBudgetUsdc) = true := by
    intro number
    exact Double.le_of_not_lt number (ceiling_ne_nan positive) (stated ▸ affordable)
  have bound : ∀ units, Units (quote.accept.amountUsdc .finite) units →
      ∀ budget, maxBudgetUsdc = .finite budget →
        units ≤ roundHalfEven (budget * 1000000 + 1 / 1000) := by
    intro units read budget is
    have number : quote.accept.amountUsdc .finite ≠ .nan := by
      obtain ⟨value, amount, -⟩ := read
      rw [amount]
      exact Double.noConfusion
    exact read.le (is ▸ covered number)
  refine .paid first document quote.accept _ answered status parsed picked (log_payQuote quote)
    Executor.pay_pays covered bound ?_ fun result ended => payQuote_records stated ended
  intro units read most is
  have bounded := bound units read _ is
  rwa [div_mul_cancel₀ _ (by norm_num), roundHalfEven_above] at bounded

/-- A call that pays for no quote logs nothing. -/
theorem payAndFetch_within (positive : (Double.finite 0).lt maxBudgetUsdc = true) :
    WithinBudget wire outside maxBudgetUsdc preferNetwork
      (X402Client.payAndFetch .finite wire outside executor allowPrivateHosts url maxBudgetUsdc
        preferNetwork) := by
  unfold X402Client.payAndFetch
  cases validateX402TargetUrl wire allowPrivateHosts url with
  | error => exact .unpaid rfl nofun
  | ok safeUrl =>
      rw [lift_ok_bind]
      cases answered : outside.first with
      | error => exact .unpaid rfl nofun
      | ok first =>
          rw [lift_ok_bind]
          cases read : quoteFor .finite wire safeUrl maxBudgetUsdc preferNetwork first with
          | error => exact .unpaid rfl nofun
          | ok quote? =>
              cases quote? with
              | none =>
                  refine .unpaid rfl fun result is => ?_
                  obtain rfl := Except.ok.inj is
                  exact ⟨rfl, rfl⟩
              | some quote => exact payQuote_within positive answered read

theorem amountUsdc_of_value {accept : PaymentRequiredAccept} {number : ℚ}
    (read : accept.value .finite = some (.finite number)) : accept.amountUsdc .finite =
      .finite (if 1000000 ≤ number then number / 1000000 else number) := by
  simp only [PaymentRequiredAccept.amountUsdc, read, usdcOf, Double.le, decide_eq_true_eq,
    onFinite]
  split <;> rfl

/-- A larger number denotes a smaller amount only where the smaller number is decimal, the larger
one counts atomic units, and they are too few. -/
theorem amountUsdc_le_iff {less more : PaymentRequiredAccept} {lessNumber moreNumber : ℚ}
    (readLess : less.value .finite = some (.finite lessNumber))
    (readMore : more.value .finite = some (.finite moreNumber))
    (ordered : lessNumber ≤ moreNumber) :
    (less.amountUsdc .finite).le (more.amountUsdc .finite) = true ↔
      ¬(lessNumber < 1000000 ∧ 1000000 ≤ moreNumber ∧ moreNumber < 1000000 * lessNumber) := by
  rw [amountUsdc_of_value readLess, amountUsdc_of_value readMore, Double.le, decide_eq_true_eq]
  by_cases lessAtomic : 1000000 ≤ lessNumber
  · have moreAtomic := lessAtomic.trans ordered
    rw [if_pos lessAtomic, if_pos moreAtomic]
    exact iff_of_true (by linarith) fun range => range.1.not_ge lessAtomic
  · rw [if_neg lessAtomic]
    by_cases moreAtomic : 1000000 ≤ moreNumber
    · rw [if_pos moreAtomic, le_div_iff₀ (by norm_num), mul_comm]
      simp [moreAtomic, not_le.mp lessAtomic]
    · rw [if_neg moreAtomic]
      exact iff_of_true ordered fun range => moreAtomic range.2.1

/-- A call pays at most once, and what it pays, signs and records is within the budget and its
tolerance; amounts keep their order unless decimal ones meet atomic ones. -/
theorem budget_bounds_payment (positive : (Double.finite 0).lt maxBudgetUsdc = true) :
    WithinBudget wire outside maxBudgetUsdc preferNetwork
        (X402Client.payAndFetch .finite wire outside executor allowPrivateHosts url maxBudgetUsdc
          preferNetwork) ∧
      ∀ (less more : PaymentRequiredAccept) (lessNumber moreNumber : ℚ),
        less.value .finite = some (.finite lessNumber) →
        more.value .finite = some (.finite moreNumber) → lessNumber ≤ moreNumber →
        ((less.amountUsdc .finite).le (more.amountUsdc .finite) = true ↔
          ¬(lessNumber < 1000000 ∧ 1000000 ≤ moreNumber ∧
            moreNumber < 1000000 * lessNumber)) :=
  ⟨payAndFetch_within positive, fun _ _ _ _ readLess readMore ordered =>
    amountUsdc_le_iff readLess readMore ordered⟩

end Facts

namespace Demo

def accept (amount : String) : PaymentRequiredAccept :=
  { maxAmountRequired := amount, payTo := "0xshop" }

/-- A resource that asks for an amount. -/
def asking (amount : String) : Wire where
  urlparse _ := some ("https", "shop", "shop", "")
  privateAddress _ := none
  decode _ := none
  loads _ := none
  loadsBody _ := some .null
  validate _ := some { accepts := [accept amount] }

def outside : Outside where
  first := .ok { statusCode := 402, body := [0] }
  second _ := .ok { statusCode := 200 }
  transfer _ _ := .ok "0xtransfer"
  sign _ := ("signature", "0xdigest")
  encode _ := "payload"
  tokenHex := "00"
  nonnegative amount := !amount.lt (.finite 0)

/-- The call for an amount, within a budget. -/
def call (amount : String) (executor : Executor) (budget : ℚ) :
    Logged Effect String X402FetchResult :=
  X402Client.payAndFetch .finite (asking amount) outside executor false "https://shop"
    (.finite budget) none

/-- The units that a call transfers. -/
def moved (amount : String) (budget : ℚ) : List ℤ :=
  (call amount (.sepolia "0xpayer") budget).log.filterMap fun effect =>
    match effect with | .transfer _ units => some units | _ => none

/-- The amounts that a call signs. -/
def signed (amount : String) (budget : ℚ) : List String :=
  (call amount (.env "0xpayer") budget).log.filterMap fun effect =>
    match effect with
    | .sign payload => (payload.get "maxAmountRequired").bind fun stated =>
        match stated with | .string amount => some amount | _ => none
    | _ => none

end Demo

/-- More than a budget is signed within the tolerance and transferred by rounding; not-a-number
passes, and a million is less than one below it. -/
theorem not_budget_bounds_payment :
    (Demo.signed "1.0000000005" 1 = ["1.0000000005"] ∧
      (Demo.accept "1.0000000005").amountUsdc .finite = .finite (2000000001 / 2000000000)) ∧
    Demo.moved "0.0000016" (16 / 10000000) = [2] ∧
    (Demo.signed "nan" 1 = ["nan"] ∧ (Demo.accept "nan").amountUsdc .finite = .nan) ∧
    (Demo.accept "999999").amountUsdc .finite = .finite 999999 ∧
    (Demo.accept "1000000").amountUsdc .finite = .finite 1 := by
  decide +kernel

theorem budget_bounds_payment_paid : Demo.moved "2.5" 5 = [2500000] ∧
    WithinBudget (Demo.asking "2.5") Demo.outside (.finite 5) none
      (Demo.call "2.5" (.sepolia "0xpayer") 5) :=
  ⟨by decide +kernel, (budget_bounds_payment (by decide +kernel)).1⟩

end TrustChain.X402
