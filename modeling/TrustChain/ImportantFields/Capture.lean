import TrustChain.ImportantFields.Catalog

/-!
# Captures of important fields

The protocol locks the fields of a deal in a capture. The buyer and the seller each submit the
fields that they know, encrypted under a key of their role, and the capture is matched when the
three agree.
-/

namespace TrustChain.ImportantFields

open Library

/-! ## Encryption -/

abbrev Bytes := List UInt8

/-- The primitives, under the master key of the service. -/
structure Crypto where
  /-- `_hkdf`, of the UTF-8 of a text. -/
  hkdf : String → Bytes
  /-- The session key of the legacy envelope: an HMAC of the capture's id. -/
  legacyKey : String → Bytes
  /-- `protocol_mac` -/
  protocolMac : String → String
  /-- `AESGCM(key).encrypt(nonce, plaintext, aad)` -/
  encrypt (key nonce : Bytes) (plaintext : List Char) (aad : String) : Bytes
  /-- `AESGCM(key).decrypt(nonce, ct, aad)`, `none` if the tag is wrong. -/
  decrypt (key nonce ct : Bytes) (aad : String) : Option Bytes
  /-- Base 64 for URLs, without padding. -/
  encode : Bytes → String
  decode : String → Option Bytes
  /-- `json.loads` of the text that the bytes are in UTF-8. -/
  loads : Bytes → Option Json

inductive Role where
  | buyer | seller | protocol
deriving DecidableEq, Repr

def Role.text : Role → String
  | .buyer => "buyer"
  | .seller => "seller"
  | .protocol => "protocol"

/-- A role as it is named, in any case and with white space around it. -/
def Role.read (name : String) : Option Role :=
  match Runtime.strip (.ofList (name.toList.map Char.toLower)) with
  | "buyer" => some .buyer
  | "seller" => some .seller
  | "protocol" => some .protocol
  | _ => none

/-- `FieldsCryptoError` -/
inductive FieldsCryptoError where
  | envelope
  | encoding
  | tooShort
  | decryption
  | payloadNotJson
  | payloadNotObject
deriving DecidableEq

/-- What a ciphertext is bound to. -/
structure Binding where
  captureId : String
  sceneId : String
  role : Role
  protocolFieldsHash : String

def Binding.aad (binding : Binding) : String :=
  "|".intercalate [binding.captureId, binding.sceneId, binding.role.text, binding.protocolFieldsHash]

section Encryption

variable (platform : Platform) (crypto : Crypto)

def captureSessionKey (captureId : String) (role : Role) : Bytes :=
  crypto.hkdf ("aes|v2|" ++ captureId ++ "|" ++ role.text)

/-- `encrypt_canonical_fields`, with the random bytes that it draws. -/
def encryptCanonicalFields (random : Bytes) (binding : Binding) (fields : Json.Fields) : String :=
  "karma2." ++ crypto.encode (random ++ crypto.encrypt (captureSessionKey crypto binding.captureId
    binding.role) random (canonicalJson platform fields) binding.aad)

/-- `_parse_fields_json` -/
def parseFieldsJson (plaintext : Bytes) : Except FieldsCryptoError Json.Fields :=
  match crypto.loads plaintext with
  | none => .error .payloadNotJson
  | some (.object fields) => .ok fields
  | some _ => .error .payloadNotObject

/-- The envelope without its prefix, opened with a key. -/
def decryptBlob (blob : String) (key : Bytes) (aad : String) :
    Except FieldsCryptoError Json.Fields :=
  match crypto.decode blob with
  | none => .error .encoding
  | some data => do
      require (12 + 16 ≤ data.length) .tooShort
      match crypto.decrypt key (data.take 12) (data.drop 12) aad with
      | none => .error .decryption
      | some plaintext => parseFieldsJson crypto plaintext

def cutPrefix (pre text : String) : Option String :=
  if pre.toList.isPrefixOf text.toList then some (.ofList (text.toList.drop pre.toList.length))
  else none

/-- `decrypt_canonical_fields`: the legacy envelope is bound to the capture alone. -/
def decryptCanonicalFields (binding : Binding) (ciphertext : String) :
    Except FieldsCryptoError Json.Fields :=
  match cutPrefix "karma2." ciphertext with
  | some blob =>
      decryptBlob crypto blob (captureSessionKey crypto binding.captureId binding.role) binding.aad
  | none =>
      match cutPrefix "karma1." ciphertext with
      | some blob =>
          decryptBlob crypto blob (crypto.legacyKey binding.captureId) binding.captureId
      | none => .error .envelope

end Encryption

/-! ## Captures -/

inductive CaptureStatus where
  | captured | partial_ | matched | countered | failed | expired
deriving DecidableEq, Repr

/-- `CaptureError` -/
inductive CaptureError where
  | unknownCapture (captureId : String)
  | expired
  | unknownScene (sceneId : String)
  | invalidFields (errors : List FieldError)
  | sameParties
  | role
  | nonceLength
  | plaintext
  | sealed_
  | closed (status : CaptureStatus)
  | integrity
  | notBound (role : Role)
  | sameSubmitter
  | nonceReplay
  | attemptLimit
  | crypto (error : FieldsCryptoError)
  | missingSubmit
  | hashDrift
  | collusion
  | tripleMismatch

structure PartySubmit where
  role : Role
  ciphertext : String
  nonce : String
  fieldsHash : String
  /-- In seconds, as all the times that a capture holds. -/
  submittedAt : Int
  submitterAgentId : Option String

structure ProtocolCapture where
  captureId : String
  sceneId : String
  interactionRef : String
  protocolFieldsHash : String
  protocolCiphertext : String
  protocolMac : String
  createdAt : Int
  expiresAt : Int
  status : CaptureStatus := .captured
  attemptCount : Nat := 0
  usedNonces : List String := []
  buyer : Option PartySubmit := none
  seller : Option PartySubmit := none
  lastError : Option CaptureError := none
  buyerAgentId : Option String := none
  sellerAgentId : Option String := none
  sealedAt : Option Int := none

/-- `MAX_ATTEMPTS_PER_CAPTURE` -/
def maxAttempts : Nat := 8

abbrev Captures := Table String ProtocolCapture

/-- Microseconds since 1970. -/
abbrev Time := Int

/-- `_iso`: a time in whole seconds. -/
def iso (now : Time) : Int := now / 1000000

/-- A text that is neither missing nor empty. -/
def given (text : Option String) : Option String := text.filter (· ≠ "")

namespace ProtocolCapture

variable (cap : ProtocolCapture)

/-- The message that the MAC of a capture is over. -/
def message : String :=
  "|".intercalate [cap.captureId, cap.sceneId, cap.protocolFieldsHash, cap.interactionRef]

def binding (role : Role) : Binding :=
  ⟨cap.captureId, cap.sceneId, role, cap.protocolFieldsHash⟩

/-- The agent that a role is bound to. -/
def bound : Role → Option String
  | .buyer => given cap.buyerAgentId
  | .seller => given cap.sellerAgentId
  | .protocol => none

/-- The submission of a role. -/
def submit : Role → Option PartySubmit
  | .buyer => cap.buyer
  | .seller => cap.seller
  | .protocol => none

def fail (error : Option CaptureError) : ProtocolCapture :=
  { cap with status := .failed, lastError := error <|> cap.lastError }

/-- A nonce is used up by an attempt. -/
def use (nonce : String) : ProtocolCapture :=
  { cap with usedNonces := nonce :: cap.usedNonces, attemptCount := cap.attemptCount + 1 }

def withSubmit (submit : PartySubmit) : ProtocolCapture :=
  { cap with
    buyer := if submit.role = .buyer then some submit else cap.buyer
    seller := if submit.role = .buyer then cap.seller else some submit
    status := .partial_ }

end ProtocolCapture

/-- The other party. -/
def Role.other : Role → Role
  | .buyer => .seller
  | .seller => .buyer
  | .protocol => .protocol

/-- What an operation makes of the captures, and what it returns. -/
abbrev Outcome (α : Type) := Captures × Except CaptureError α

/-- `_get`: a capture past its expiry is marked, unless it is matched. -/
def getCapture (now : Time) (captures : Captures) (captureId : String) : Outcome ProtocolCapture :=
  match captures.get captureId with
  | none => (captures, .error (.unknownCapture captureId))
  | some cap =>
      if cap.expiresAt < iso now ∧ cap.status ≠ .matched then
        (captures.set captureId { cap with status := .expired }, .error .expired)
      else (captures, .ok cap)

/-- An operation on a capture that is there and has not expired. -/
def onCapture {α : Type} (now : Time) (captures : Captures) (captureId : String)
    (operation : ProtocolCapture → ProtocolCapture × Except CaptureError α) : Outcome α :=
  match getCapture now captures captureId with
  | (captures, .error error) => (captures, .error error)
  | (captures, .ok cap) =>
      let (after, result) := operation cap
      (captures.set captureId after, result)

section Operations

variable (platform : Platform) (crypto : Crypto) (catalog : Catalog)

structure CaptureRequest where
  sceneId : String
  fields : Json.Fields
  interactionRef : String
  ttlSeconds : Int := 3600
  buyerAgentId : Option String := none
  sellerAgentId : Option String := none

/-- The fields of an object in canonical form, if they are what a scene asks for. -/
def checkFields (scene : SceneSpec) (fields : Json.Fields) : Except CaptureError Json.Fields :=
  let fields := (canonicalizeFields platform "" fields).insertionSort KeyOrder
  let errors := validateFields platform catalog scene fields
  if errors.isEmpty then .ok fields else .error (.invalidFields errors)

/-- The capture that `create_protocol_capture` makes of checked fields. -/
def CaptureRequest.capture (request : CaptureRequest) (now : Time) (captureId : String)
    (random : Bytes) (fields : Json.Fields) : ProtocolCapture :=
  let cap : ProtocolCapture := {
    captureId
    sceneId := request.sceneId
    interactionRef := request.interactionRef
    protocolFieldsHash := fieldsHash platform fields
    protocolCiphertext := ""
    protocolMac := ""
    createdAt := iso now
    expiresAt := iso (now + max 60 request.ttlSeconds * 1000000)
    buyerAgentId := given request.buyerAgentId
    sellerAgentId := given request.sellerAgentId }
  { cap with
    protocolCiphertext := encryptCanonicalFields platform crypto random (cap.binding .protocol) fields
    protocolMac := crypto.protocolMac cap.message }

/-- `create_protocol_capture`, with the id and the random bytes that it draws. -/
def createProtocolCapture (now : Time) (captureId : String) (random : Bytes)
    (request : CaptureRequest) (captures : Captures) : Outcome ProtocolCapture :=
  match getScene catalog request.sceneId with
  | none => (captures, .error (.unknownScene request.sceneId))
  | some scene =>
      match checkFields platform catalog scene request.fields with
      | .error error => (captures, .error error)
      | .ok fields =>
          if (given request.buyerAgentId).isSome ∧
              given request.buyerAgentId = given request.sellerAgentId then
            (captures, .error .sameParties)
          else
            let cap := request.capture platform crypto now captureId random fields
            (captures.set captureId cap, .ok cap)

/-- `encrypt_for_capture` -/
def encryptForCapture (now : Time) (captureId : String) (fields : Json.Fields) (role : String)
    (random : Bytes) (captures : Captures) : Outcome String :=
  match Role.read role with
  | none => (captures, .error .role)
  | some role =>
      onCapture now captures captureId fun cap =>
        (cap, match getScene catalog cap.sceneId with
          | none => .error (.unknownScene cap.sceneId)
          | some scene =>
              (checkFields platform catalog scene fields).map
                (encryptCanonicalFields platform crypto random (cap.binding role)))

structure SubmitRequest where
  role : String
  ciphertext : String
  nonce : String
  submitterAgentId : Option String := none

/-- What a submission is checked for before it counts as an attempt. -/
def SubmitRequest.admitted (request : SubmitRequest) (role : Role) (cap : ProtocolCapture) :
    Except CaptureError Unit := do
  require (cap.status ≠ .matched) .sealed_
  require (cap.status ≠ .failed ∧ cap.status ≠ .expired) (.closed cap.status)
  require (crypto.protocolMac cap.message = cap.protocolMac) .integrity
  require (∀ agent ∈ cap.bound role, request.submitterAgentId = some agent) (.notBound role)
  require (∀ other ∈ cap.submit role.other, ∀ agent ∈ given request.submitterAgentId,
    other.submitterAgentId ≠ some agent) .sameSubmitter

/-- The fields in a ciphertext and what they hash to, if they are what the scene asks for. -/
def readSubmission (cap : ProtocolCapture) (role : Role) (ciphertext : String) :
    Except CaptureError String :=
  match decryptCanonicalFields crypto (cap.binding role) ciphertext with
  | .error error => .error (.crypto error)
  | .ok fields =>
      match getScene catalog cap.sceneId with
      | none => .error (.unknownScene cap.sceneId)
      | some scene => (checkFields platform catalog scene fields).map (fieldsHash platform)

/-- The end of a submission, whose nonce has been used up. -/
def SubmitRequest.receive (request : SubmitRequest) (now : Time) (role : Role)
    (cap : ProtocolCapture) : ProtocolCapture × Except CaptureError PartySubmit :=
  match readSubmission platform crypto catalog cap role request.ciphertext with
  | .error error => ({ cap with lastError := some error }, .error error)
  | .ok fieldsHash =>
      let submit : PartySubmit := {
        role
        ciphertext := request.ciphertext
        nonce := request.nonce
        fieldsHash
        submittedAt := iso now
        submitterAgentId := request.submitterAgentId }
      (cap.withSubmit submit, .ok submit)

/-- A submission that is admitted: the nonce is used up before the ciphertext is read. -/
def SubmitRequest.attempt (request : SubmitRequest) (now : Time) (role : Role)
    (cap : ProtocolCapture) : ProtocolCapture × Except CaptureError PartySubmit :=
  if request.nonce ∈ cap.usedNonces then
    ({ cap with lastError := some .nonceReplay, attemptCount := cap.attemptCount + 1 },
      .error .nonceReplay)
  else if maxAttempts ≤ cap.attemptCount then
    ({ cap with status := .failed }, .error .attemptLimit)
  else request.receive platform crypto catalog now role (cap.use request.nonce)

/-- What a submission is checked for before the capture is looked up. -/
def SubmitRequest.wellFormed (request : SubmitRequest) : Except CaptureError Role :=
  match Role.read request.role with
  | none | some .protocol => .error .role
  | some role => do
      require (8 ≤ request.nonce.length ∧ request.nonce.length ≤ 128) .nonceLength
      require ((cutPrefix "karma2." request.ciphertext).isSome ∨
        (cutPrefix "karma1." request.ciphertext).isSome) .plaintext
      .ok role

/-- `submit_encrypted` -/
def submitEncrypted (now : Time) (captureId : String) (request : SubmitRequest)
    (captures : Captures) : Outcome PartySubmit :=
  match request.wellFormed with
  | .error error => (captures, .error error)
  | .ok role =>
      onCapture now captures captureId fun cap =>
        match request.admitted crypto role cap with
        | .error error => (cap, .error error)
        | .ok () => request.attempt platform crypto catalog now role cap

/-- The canonical hash of what a ciphertext holds. -/
def hashIn (cap : ProtocolCapture) (role : Role) (ciphertext : String) :
    Except FieldsCryptoError String :=
  (decryptCanonicalFields crypto (cap.binding role) ciphertext).map fun fields =>
    fieldsHash platform ((canonicalizeFields platform "" fields).insertionSort KeyOrder)

/-- The hashes of what the buyer, the seller and the protocol have encrypted. -/
def tripleHashes (cap : ProtocolCapture) (buyer seller : PartySubmit) :
    Except FieldsCryptoError (String × String × String) := do
  let bh ← hashIn platform crypto cap .buyer buyer.ciphertext
  let sh ← hashIn platform crypto cap .seller seller.ciphertext
  let ph ← hashIn platform crypto cap .protocol cap.protocolCiphertext
  .ok (bh, sh, ph)

/-- What `finalize_triple_match` makes of a capture with both submissions. -/
def finalizeBoth (now : Time) (cap : ProtocolCapture) (buyer seller : PartySubmit) :
    ProtocolCapture × Except CaptureError CaptureStatus :=
  match tripleHashes platform crypto cap buyer seller with
  | .error error => (cap.fail (some (.crypto error)), .error (.crypto error))
  | .ok (bh, sh, ph) =>
      if ph ≠ cap.protocolFieldsHash then (cap.fail none, .error .hashDrift)
      else if (given buyer.submitterAgentId).isSome ∧
          given buyer.submitterAgentId = given seller.submitterAgentId then
        (cap.fail (some .collusion), .error .collusion)
      else if bh = sh ∧ sh = ph then
        ({ cap with status := .matched, sealedAt := some (iso now) }, .ok .matched)
      else
        let attempts := cap.attemptCount + 1
        let status := if maxAttempts ≤ attempts then .failed else .countered
        ({ cap with status, attemptCount := attempts, lastError := some .tripleMismatch }, .ok status)

/-- `finalize_triple_match` -/
def finalizeTripleMatch (now : Time) (captureId : String) (captures : Captures) :
    Outcome CaptureStatus :=
  onCapture now captures captureId fun cap =>
    if cap.status = .matched then (cap, .ok .matched)
    else match cap.buyer, cap.seller with
      | some buyer, some seller => finalizeBoth platform crypto now cap buyer seller
      | _, _ => (cap, .error .missingSubmit)

end Operations

/-! ## The system -/

inductive Operation where
  | create (captureId : String) (random : Bytes) (request : CaptureRequest)
  /-- Any operation that only looks a capture up. -/
  | look (captureId : String)
  | encrypt (captureId : String) (fields : Json.Fields) (role : String) (random : Bytes)
  | submit (captureId : String) (request : SubmitRequest)
  | finalize (captureId : String)

/-- An operation, at a reading of the clock. -/
structure Action where
  now : Time
  operation : Operation

structure World where
  captures : Captures := .empty
  clock : Time := 0
  /-- The submissions that have been accepted, with their captures. -/
  accepted : List (String × PartySubmit) := []

/-- What a submission adds to the accepted ones. -/
def acceptance {α : Type} (captureId : String) : Except CaptureError α → List (String × α)
  | .ok value => [(captureId, value)]
  | .error _ => []

/-- An operation at a reading of the clock that is not before the last. The id of a new capture
is fresh. -/
def perform (platform : Platform) (crypto : Crypto) (catalog : Catalog) (world : World)
    (action : Action) : Option World :=
  let captures := world.captures
  let now := action.now
  if now < world.clock then none
  else match action.operation with
    | .create captureId random request =>
        if (captures.get captureId).isSome then none
        else some { world with
          captures := (createProtocolCapture platform crypto catalog now captureId random request
            captures).1
          clock := now }
    | .look captureId =>
        some { world with captures := (getCapture now captures captureId).1, clock := now }
    | .encrypt captureId fields role random =>
        some { world with
          captures := (encryptForCapture platform crypto catalog now captureId fields role random
            captures).1
          clock := now }
    | .submit captureId request =>
        let outcome := submitEncrypted platform crypto catalog now captureId request captures
        some { world with
          captures := outcome.1
          clock := now
          accepted := world.accepted ++ acceptance captureId outcome.2 }
    | .finalize captureId =>
        some { world with
          captures := (finalizeTripleMatch platform crypto now captureId captures).1
          clock := now }

def system (platform : Platform) (crypto : Crypto) (catalog : Catalog) :
    TransitionSystem World Action where
  Init world := world.captures = .empty ∧ world.accepted = []
  Step world action next := perform platform crypto catalog world action = some next

end TrustChain.ImportantFields
