import TrustChain.Library.Doubles
import TrustChain.Library.Json
import TrustChain.Runtime.Keys

/-!
# The x402 client

A resource that costs something answers with status 402 and what it accepts. The client checks
the address, the budget and the resource, pays, and asks again with the proof of the payment.
-/

namespace TrustChain.X402

open Library Service

/-- An HTTP response. -/
structure Response where
  statusCode : Int
  headers : List (String × String) := []
  body : List UInt8 := []
  deriving DecidableEq

/-! ## What a resource accepts -/

structure PaymentRequiredAccept where
  scheme : String := "exact"
  network : String := ""
  maxAmountRequired : String := "0"
  asset : String := "USDC"
  payTo : String := ""
  resource : String := ""
  deriving DecidableEq

/-- What of a 402 document is read. -/
structure PaymentRequiredDocument where
  accepts : List PaymentRequiredAccept := []
  deriving DecidableEq

structure PaymentProof where
  network : String := ""
  txHash : Option String := none
  paymentSignatureB64 : String := ""
  amountUsdc : Double := .finite 0
  asset : String := "USDC"
  deriving DecidableEq

/-- The libraries that the client reads addresses and documents with. An error is a missing
value. -/
structure Wire where
  /-- The scheme, the network location, the host name and the path of an address. -/
  urlparse : String → Option (String × String × String × String)
  /-- Whether a host is an address of a private or reserved network; `none` if it is a name. -/
  privateAddress : String → Option Bool
  /-- Base64, then UTF-8, then JSON. -/
  decode : String → Option Json
  loads : String → Option Json
  loadsBody : List UInt8 → Option Json
  /-- `PaymentRequiredDocument.model_validate`. -/
  validate : Json → Option PaymentRequiredDocument

/-- `val / 1_000_000.0`. -/
def fromAtomic : Double → Double
  | .finite value => .round (value / 1000000)
  | other => other

/-- Amounts are in atomic units from a million on, and decimal below. -/
def PaymentRequiredAccept.amountUsdcFloat (accept : PaymentRequiredAccept) : Double :=
  let raw := if accept.maxAmountRequired = "" then "0" else accept.maxAmountRequired
  match Double.parse (Runtime.strip raw) with
  | none => .finite 0
  | some value => if (Double.finite 1000000).le value then fromAtomic value else value

/-- `pick_accept` without a preferred network. -/
def PaymentRequiredDocument.pickAccept (document : PaymentRequiredDocument) :
    Except String PaymentRequiredAccept :=
  match document.accepts with
  | [] => .error "no payment options in 402 response"
  | accept :: _ => .ok accept

/-! ## Checks -/

def lower (text : String) : String := .ofList (text.toList.map Char.toLower)

/-- `".." in path`. -/
def hasDots : List Char → Bool
  | '.' :: '.' :: _ => true
  | _ :: rest => hasDots rest
  | [] => false

def validateX402TargetUrl (wire : Wire) (allowPrivateHosts : Bool) (url : String) :
    Except String String := do
  match wire.urlparse (Runtime.strip url) with
  | none => .error "invalid URL"
  | some (scheme, netloc, host, path) => do
      require (scheme ∈ ["http", "https"]) "only http/https URLs allowed"
      require (netloc ≠ "") "URL must include host"
      require ('@' ∉ netloc.toList) "userinfo in URL is not allowed"
      require (host ≠ "") "missing hostname"
      if lower host ∈ ["localhost", "127.0.0.1", "::1"] then do
        require (allowPrivateHosts = true) "localhost targets disabled"
        .ok (Runtime.strip url)
      else do
        require (hasDots path.toList = false) "path traversal not allowed"
        require (¬(wire.privateAddress host = some true ∧ allowPrivateHosts = false))
          "private/reserved IP targets disabled"
        .ok (Runtime.strip url)

def paymentRequiredHeaders : List String := ["payment-required", "x-payment-required"]

/-- The last header with the name, in any case of its letters. -/
def header (response : Response) (name : String) : Option String :=
  (response.headers.reverse.find? fun entry => lower entry.1 = name).map Prod.snd

/-- The value of a library call, or what it raises. -/
def attempt {α : Type} (answer : Option α) (error : String) : Except String α :=
  match answer with
  | some value => .ok value
  | none => .error error

def parsePaymentRequiredResponse (wire : Wire) (response : Response) :
    Except String PaymentRequiredDocument := do
  require (response.statusCode = 402) "expected HTTP 402"
  -- an empty header counts as none, but hides the other name
  match (paymentRequiredHeaders.findSome? (header response)).filter (· ≠ "") with
  | some raw => do
      let data ← attempt ((wire.decode raw).or (wire.loads raw)) "invalid JSON"
      attempt (wire.validate data) "invalid document"
  | none =>
      if response.body ≠ [] then do
        let data ← attempt (wire.loadsBody response.body) "invalid JSON"
        attempt (wire.validate data) "invalid document"
      else .error "402 response missing PAYMENT-REQUIRED header and body"

/-- `1e-9`. -/
def tolerance : Double := .round (1 / 10 ^ 9)

def assertBudget (acceptAmountUsdc maxBudgetUsdc : Double) : Except String Unit :=
  require (¬(maxBudgetUsdc.add tolerance).lt acceptAmountUsdc = true) "x402 amount exceeds max_budget"

/-- `rstrip("/")`. -/
def withoutSlashes (text : String) : String :=
  .ofList (text.toList.reverse.dropWhile (· = '/')).reverse

def assertResourceMatchesUrl (acceptResource requestUrl : String) : Except String Unit :=
  if acceptResource = "" then .ok ()
  else require (withoutSlashes acceptResource = withoutSlashes requestUrl)
    "402 resource does not match requested URL"

/-! ## The parts of `pay_and_fetch` -/

/-- What the executor is asked to pay. -/
structure Quote where
  accept : PaymentRequiredAccept
  amount : Double
  safeUrl : String
  deriving DecidableEq

/-- Up to the payment: what there is to pay, or nothing if the response is not a 402. -/
def readQuote (wire : Wire) (safeUrl : String) (maxBudgetUsdc : Double) (first : Response) :
    Except String (Option Quote) :=
  if first.statusCode ≠ 402 then .ok none
  else do
    let document ← parsePaymentRequiredResponse wire first
    let accept ← document.pickAccept
    let amount := accept.amountUsdcFloat
    assertBudget amount maxBudgetUsdc
    assertResourceMatchesUrl (if accept.resource = "" then safeUrl else accept.resource) safeUrl
    .ok (some { accept, amount, safeUrl })

/-- `proof.amount_usdc or amount`. -/
def recordedAmount (quote : Quote) (proof : PaymentProof) : Double :=
  if proof.amountUsdc = .finite 0 then quote.amount else proof.amountUsdc

end TrustChain.X402
