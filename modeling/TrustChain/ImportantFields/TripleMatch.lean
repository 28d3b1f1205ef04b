import TrustChain.ImportantFields.Capture

/-!
# What a matched capture stands for

Whatever is submitted in whichever order, a matched capture has an accepted submission of each
role whose fields hash to the protocol's. Submissions that name no agent are accepted for a
capture that binds none, so the two can come from one party.
-/

namespace TrustChain.ImportantFields

open Library

section Steps

variable (platform : Platform) (crypto : Crypto)

/-- What a submission that is accepted satisfies. -/
structure Submitted (now : Time) (cap : ProtocolCapture) (submit : PartySubmit) : Prop where
  party : submit.role ≠ .protocol
  bound : ∀ agent ∈ cap.bound submit.role, submit.submitterAgentId = some agent
  distinct : ∀ other ∈ cap.submit submit.role.other, ∀ agent ∈ given submit.submitterAgentId,
    other.submitterAgentId ≠ some agent
  inTime : submit.submittedAt = iso now
  hash : hashIn platform crypto cap submit.role submit.ciphertext = .ok submit.fieldsHash

/-- What an operation makes of a capture, and the submission that it accepts. -/
inductive CaptureStep (now : Time) (cap : ProtocolCapture) :
    ProtocolCapture → Option PartySubmit → Prop
  | kept : CaptureStep now cap cap none
  | expired : cap.expiresAt < iso now → cap.status ≠ .matched →
      CaptureStep now cap { cap with status := .expired } none
  /-- A change of the attempts and the last error alone, or a failure. -/
  | noted (status : CaptureStatus) (attempts : Nat) (error : Option CaptureError) :
      cap.status ≠ .matched → iso now ≤ cap.expiresAt → status ≠ .matched → status ≠ .expired →
      cap.attemptCount ≤ attempts →
      CaptureStep now cap { cap with status, attemptCount := attempts, lastError := error } none
  | unread (nonce : String) (error : CaptureError) :
      cap.status ≠ .matched → iso now ≤ cap.expiresAt → nonce ∉ cap.usedNonces →
      cap.attemptCount < maxAttempts →
      CaptureStep now cap { cap.use nonce with lastError := some error } none
  | submitted (submit : PartySubmit) :
      cap.status ≠ .matched → iso now ≤ cap.expiresAt → submit.nonce ∉ cap.usedNonces →
      cap.attemptCount < maxAttempts → Submitted platform crypto now cap submit →
      CaptureStep now cap ((cap.use submit.nonce).withSubmit submit) (some submit)
  | matched (buyer seller : PartySubmit) :
      cap.status ≠ .matched → iso now ≤ cap.expiresAt → cap.buyer = some buyer →
      cap.seller = some seller →
      hashIn platform crypto cap .buyer buyer.ciphertext = .ok cap.protocolFieldsHash →
      hashIn platform crypto cap .seller seller.ciphertext = .ok cap.protocolFieldsHash →
      CaptureStep now cap { cap with status := .matched, sealedAt := some (iso now) } none

end Steps

section Operations

variable {platform : Platform} {crypto : Crypto} {catalog : Catalog} {now : Time}
  {cap after : ProtocolCapture} {role : Role}

theorem tripleHashes_ok {buyer seller : PartySubmit} {bh sh ph : String}
    (ran : tripleHashes platform crypto cap buyer seller = .ok (bh, sh, ph)) :
    hashIn platform crypto cap .buyer buyer.ciphertext = .ok bh ∧
      hashIn platform crypto cap .seller seller.ciphertext = .ok sh := by
  simp only [tripleHashes, bind_eq_ok] at ran
  obtain ⟨_, buyers, _, sellers, _, -, same⟩ := ran
  cases same
  exact ⟨buyers, sellers⟩

theorem finalizeBoth_step {buyer seller : PartySubmit} (open_ : cap.status ≠ .matched)
    (alive : iso now ≤ cap.expiresAt) (bought : cap.buyer = some buyer)
    (sold : cap.seller = some seller) :
    CaptureStep platform crypto now cap (finalizeBoth platform crypto now cap buyer seller).1
      none := by
  unfold finalizeBoth
  split
  case h_1 error _ => exact .noted .failed _ _ open_ alive (by decide) (by decide) le_rfl
  case h_2 bh sh ph ran =>
    obtain ⟨buyers, sellers⟩ := tripleHashes_ok ran
    split_ifs with drift collusion agree
    · exact .noted .failed _ _ open_ alive (by decide) (by decide) le_rfl
    · exact .noted .failed _ _ open_ alive (by decide) (by decide) le_rfl
    · obtain ⟨rfl, rfl⟩ := agree
      rw [not_not] at drift
      subst drift
      exact .matched buyer seller open_ alive bought sold buyers sellers
    · exact .noted _ _ _ open_ alive (by split_ifs <;> decide) (by split_ifs <;> decide)
        (Nat.le_succ _)

theorem readSubmission_ok {ciphertext fieldsHash : String}
    (ran : readSubmission platform crypto catalog cap role ciphertext = .ok fieldsHash) :
    hashIn platform crypto cap role ciphertext = .ok fieldsHash := by
  unfold readSubmission at ran
  unfold hashIn
  split at ran
  case h_1 => cases ran
  case h_2 fields opened =>
    rw [opened]
    split at ran
    case h_1 => cases ran
    case h_2 scene _ =>
      unfold checkFields at ran
      simp only [] at ran
      split at ran
      case isTrue => exact congrArg Except.ok (Except.ok.inj ran)
      case isFalse => cases ran

/-- What is found is alive, and a capture past its expiry is marked. -/
theorem getCapture_cases (now : Time) (captures : Captures) (captureId : String) :
    (∃ error, getCapture now captures captureId = (captures, .error error)) ∨
    (∃ cap, captures.get captureId = some cap ∧ cap.expiresAt < iso now ∧ cap.status ≠ .matched ∧
      getCapture now captures captureId =
        (captures.set captureId { cap with status := .expired }, .error .expired)) ∨
    ∃ cap, captures.get captureId = some cap ∧
      (cap.status ≠ .matched → iso now ≤ cap.expiresAt) ∧
      getCapture now captures captureId = (captures, .ok cap) := by
  unfold getCapture
  split
  case h_1 => exact .inl ⟨_, rfl⟩
  case h_2 cap there =>
    split
    case isTrue late => exact .inr (.inl ⟨cap, there, late.1, late.2, rfl⟩)
    case isFalse alive =>
      refine .inr (.inr ⟨cap, there, fun unmatched => ?_, rfl⟩)
      exact not_lt.mp fun late => alive ⟨late, unmatched⟩

theorem hashIn_use (cap : ProtocolCapture) (nonce : String) (role : Role) (ciphertext : String) :
    hashIn platform crypto (cap.use nonce) role ciphertext =
      hashIn platform crypto cap role ciphertext := rfl

theorem receive_step {request : SubmitRequest} (open_ : cap.status ≠ .matched)
    (alive : iso now ≤ cap.expiresAt) (fresh : request.nonce ∉ cap.usedNonces)
    (budget : cap.attemptCount < maxAttempts) (party : role ≠ .protocol)
    (bound : ∀ agent ∈ cap.bound role, request.submitterAgentId = some agent)
    (distinct : ∀ other ∈ cap.submit role.other, ∀ agent ∈ given request.submitterAgentId,
      other.submitterAgentId ≠ some agent) :
    CaptureStep platform crypto now cap
      (request.receive platform crypto catalog now role (cap.use request.nonce)).1
      (request.receive platform crypto catalog now role (cap.use request.nonce)).2.toOption := by
  unfold SubmitRequest.receive
  split
  case h_1 error _ => exact .unread request.nonce error open_ alive fresh budget
  case h_2 fieldsHash read =>
    have hash := readSubmission_ok read
    rw [hashIn_use] at hash
    have submitted : Submitted platform crypto now cap ⟨role, request.ciphertext, request.nonce,
        fieldsHash, iso now, request.submitterAgentId⟩ := ⟨party, bound, distinct, rfl, hash⟩
    exact .submitted _ open_ alive fresh budget submitted

theorem attempt_step {request : SubmitRequest} (alive : iso now ≤ cap.expiresAt)
    (party : role ≠ .protocol) (admitted : request.admitted crypto role cap = .ok ()) :
    CaptureStep platform crypto now cap (request.attempt platform crypto catalog now role cap).1
      (request.attempt platform crypto catalog now role cap).2.toOption := by
  simp only [SubmitRequest.admitted, require_bind_eq_ok, require_eq_ok] at admitted
  obtain ⟨open_, closed, -, bound, distinct⟩ := admitted
  unfold SubmitRequest.attempt
  split
  case isTrue => exact .noted cap.status _ _ open_ alive open_ closed.2 (Nat.le_succ _)
  case isFalse fresh =>
    split
    case isTrue => exact .noted .failed _ _ open_ alive (by decide) (by decide) le_rfl
    case isFalse budget =>
      exact receive_step open_ alive fresh (not_le.mp budget) party bound distinct

/-- What an operation makes of the captures, and the submission that it accepts. -/
inductive StoreStep (platform : Platform) (crypto : Crypto) (now : Time) (captures : Captures) :
    Captures → List (String × PartySubmit) → Prop
  | same : StoreStep platform crypto now captures captures []
  | created (captureId : String) (random : Bytes) (request : CaptureRequest)
      (fields : Json.Fields) : captures.get captureId = none →
      StoreStep platform crypto now captures
        (captures.set captureId (request.capture platform crypto now captureId random fields)) []
  | stepped (captureId : String) (cap after : ProtocolCapture) (submit : Option PartySubmit) :
      captures.get captureId = some cap → CaptureStep platform crypto now cap after submit →
      StoreStep platform crypto now captures (captures.set captureId after)
        (submit.toList.map fun submit => (captureId, submit))

section Stores

variable {captures : Captures} {captureId : String}

theorem getCapture_step (now : Time) (captures : Captures) (captureId : String) :
    StoreStep platform crypto now captures (getCapture now captures captureId).1 [] := by
  rcases getCapture_cases now captures captureId with ⟨error, found⟩ |
    ⟨cap, there, late, unmatched, found⟩ | ⟨cap, -, -, found⟩
  · rw [found]
    exact .same
  · rw [found]
    exact .stepped captureId cap _ none there (.expired late unmatched)
  · rw [found]
    exact .same

/-- An operation on a capture makes one step of it. -/
theorem onCapture_step {α : Type}
    (operation : ProtocolCapture → ProtocolCapture × Except CaptureError α)
    (accepted : Except CaptureError α → Option PartySubmit)
    (refused : ∀ error, accepted (.error error) = none)
    (step : ∀ cap, (cap.status ≠ .matched → iso now ≤ cap.expiresAt) →
      CaptureStep platform crypto now cap (operation cap).1 (accepted (operation cap).2)) :
    StoreStep platform crypto now captures (onCapture now captures captureId operation).1
      ((accepted (onCapture now captures captureId operation).2).toList.map
        fun submit => (captureId, submit)) := by
  rcases getCapture_cases now captures captureId with ⟨error, found⟩ |
    ⟨cap, there, late, unmatched, found⟩ | ⟨cap, there, alive, found⟩
  · simp only [onCapture, found, refused]
    exact .same
  · simp only [onCapture, found, refused]
    exact .stepped captureId cap _ none there (.expired late unmatched)
  · simp only [onCapture, found]
    exact .stepped captureId cap _ _ there (step cap alive)

theorem finalizeTripleMatch_step :
    StoreStep platform crypto now captures
      (finalizeTripleMatch platform crypto now captureId captures).1 [] := by
  refine onCapture_step _ (fun _ => none) (fun _ => rfl) fun cap alive => ?_
  split
  case isTrue => exact .kept
  case isFalse open_ =>
    split
    case h_1 buyer seller bought sold => exact finalizeBoth_step open_ (alive open_) bought sold
    case h_2 => exact .kept

theorem encryptForCapture_step {fields : Json.Fields} {name : String} {random : Bytes} :
    StoreStep platform crypto now captures
      (encryptForCapture platform crypto catalog now captureId fields name random captures).1 [] := by
  unfold encryptForCapture
  split
  case h_1 => exact .same
  case h_2 => exact onCapture_step _ (fun _ => none) (fun _ => rfl) fun _ _ => .kept

theorem wellFormed_party {request : SubmitRequest} (formed : request.wellFormed = .ok role) :
    role ≠ .protocol := by
  unfold SubmitRequest.wellFormed at formed
  split at formed
  case h_1 => cases formed
  case h_2 => cases formed
  case h_3 named other _ =>
    simp only [require_bind_eq_ok] at formed
    obtain ⟨-, -, same⟩ := formed
    cases same
    exact other

theorem submitEncrypted_step {request : SubmitRequest} :
    StoreStep platform crypto now captures
      (submitEncrypted platform crypto catalog now captureId request captures).1
      (acceptance captureId
        (submitEncrypted platform crypto catalog now captureId request captures).2) := by
  have listed (result : Except CaptureError PartySubmit) : acceptance captureId result =
      result.toOption.toList.map fun submit => (captureId, submit) := by
    cases result <;> rfl
  rw [listed]
  unfold submitEncrypted
  split
  case h_1 => exact .same
  case h_2 role formed =>
    refine onCapture_step _ Except.toOption (fun _ => rfl) fun cap alive => ?_
    split
    case h_1 => exact .kept
    case h_2 admitted =>
      have open_ : cap.status ≠ .matched := by
        simp only [SubmitRequest.admitted, require_bind_eq_ok] at admitted
        exact admitted.1
      exact attempt_step (alive open_) (wellFormed_party formed) admitted

theorem createProtocolCapture_step {random : Bytes} {request : CaptureRequest}
    (fresh : captures.get captureId = none) :
    StoreStep platform crypto now captures
      (createProtocolCapture platform crypto catalog now captureId random request captures).1 [] := by
  unfold createProtocolCapture
  split
  case h_1 => exact .same
  case h_2 =>
    split
    case h_1 => exact .same
    case h_2 fields _ =>
      split
      case isTrue => exact .same
      case isFalse => exact .created captureId random request fields fresh

end Stores

end Operations

/-! ## What holds of a capture -/

section Invariant

variable (platform : Platform) (crypto : Crypto)

/-- A submission of a role that was accepted in time, by the agent that the role is bound to. -/
structure PartOf (cap : ProtocolCapture) (log : List PartySubmit) (role : Role)
    (submit : PartySubmit) : Prop where
  accepted : submit ∈ log
  ofRole : submit.role = role
  bound : ∀ agent ∈ cap.bound role, submit.submitterAgentId = some agent
  inTime : submit.submittedAt ≤ cap.expiresAt

/-- Two submissions that do not name the same agent. -/
def Apart (buyer seller : PartySubmit) : Prop :=
  ∀ agent ∈ given buyer.submitterAgentId, seller.submitterAgentId ≠ some agent

/-- The buyer and the seller have submitted, before the expiry and not by the same named agent,
fields that hash to the protocol's. -/
def Agreed (cap : ProtocolCapture) (log : List PartySubmit) : Prop :=
  ∃ buyer seller sealedAt, PartOf cap log .buyer buyer ∧ PartOf cap log .seller seller ∧
    Apart buyer seller ∧
    hashIn platform crypto cap .buyer buyer.ciphertext = .ok cap.protocolFieldsHash ∧
    hashIn platform crypto cap .seller seller.ciphertext = .ok cap.protocolFieldsHash ∧
    cap.sealedAt = some sealedAt ∧ sealedAt ≤ cap.expiresAt

/-- A capture and the submissions that have been accepted for it. -/
structure Sound (clock : Time) (cap : ProtocolCapture) (log : List PartySubmit) : Prop where
  submits : ∀ role submit, cap.submit role = some submit → PartOf cap log role submit
  apart : ∀ buyer ∈ cap.buyer, ∀ seller ∈ cap.seller, Apart buyer seller
  fresh : (log.map PartySubmit.nonce).Nodup
  used : ∀ submit ∈ log, submit.nonce ∈ cap.usedNonces
  counted : log.length ≤ cap.attemptCount
  budget : log.length ≤ maxAttempts
  agreed : cap.status = .matched → Agreed platform crypto cap log
  late : cap.status = .expired → cap.expiresAt < iso clock

/-- What never changes of a capture. -/
structure SameProtocol (cap after : ProtocolCapture) : Prop where
  captureId : after.captureId = cap.captureId
  sceneId : after.sceneId = cap.sceneId
  interactionRef : after.interactionRef = cap.interactionRef
  protocolFieldsHash : after.protocolFieldsHash = cap.protocolFieldsHash
  protocolCiphertext : after.protocolCiphertext = cap.protocolCiphertext
  protocolMac : after.protocolMac = cap.protocolMac
  createdAt : after.createdAt = cap.createdAt
  expiresAt : after.expiresAt = cap.expiresAt
  buyerAgentId : after.buyerAgentId = cap.buyerAgentId
  sellerAgentId : after.sellerAgentId = cap.sellerAgentId

end Invariant

section CaptureSteps

variable {platform : Platform} {crypto : Crypto} {now clock : Time}
  {cap after : ProtocolCapture} {log : List PartySubmit} {submit : Option PartySubmit}

theorem given_eq_some {text : Option String} {agent : String} :
    given text = some agent ↔ text = some agent ∧ agent ≠ "" := by
  simp [given, Option.filter_eq_some_iff]

theorem iso_mono (later : clock ≤ now) : iso clock ≤ iso now :=
  Int.ediv_le_ediv (by norm_num) later

theorem apart_symm {buyer seller : PartySubmit} (apart : Apart buyer seller) :
    Apart seller buyer := by
  intro agent named same
  obtain ⟨named, some_⟩ := given_eq_some.mp named
  exact apart agent (given_eq_some.mpr ⟨same, some_⟩) named

variable (step : CaptureStep platform crypto now cap after submit)

include step

theorem CaptureStep.sameProtocol : SameProtocol cap after := by
  cases step <;> exact ⟨rfl, rfl, rfl, rfl, rfl, rfl, rfl, rfl, rfl, rfl⟩

/-- A matched capture stays as it is. -/
theorem CaptureStep.sealed (matched : cap.status = .matched) : after = cap := by
  cases step with
  | kept => rfl
  | expired _ open_ => exact absurd matched open_
  | noted _ _ _ open_ => exact absurd matched open_
  | unread _ _ open_ => exact absurd matched open_
  | submitted _ open_ => exact absurd matched open_
  | matched _ _ open_ => exact absurd matched open_

/-- Past its expiry a capture is only marked as expired. -/
theorem CaptureStep.expired_of_late (expired : cap.status = .expired)
    (late : cap.expiresAt < iso now) : after.status = .expired := by
  cases step with
  | kept => exact expired
  | expired => rfl
  | noted _ _ _ _ alive => exact absurd late (not_lt.mpr alive)
  | unread _ _ _ alive => exact absurd late (not_lt.mpr alive)
  | submitted _ _ alive => exact absurd late (not_lt.mpr alive)
  | matched _ _ _ alive => exact absurd late (not_lt.mpr alive)

omit step

theorem Sound.partOf (sound : Sound platform crypto clock cap log) {role : Role}
    {submit : PartySubmit} (there : cap.submit role = some submit) : PartOf cap log role submit :=
  sound.submits role submit there

theorem Sound.later (sound : Sound platform crypto clock cap log) (later : clock ≤ now) :
    Sound platform crypto now cap log :=
  { sound with late := fun expired => (sound.late expired).trans_le (iso_mono later) }

/-- A capture that changes in its status, its attempts and its last error. -/
theorem Sound.changed (sound : Sound platform crypto clock cap log) {status : CaptureStatus}
    {attempts : Nat} {nonces : List String} {error : Option CaptureError}
    (more : cap.attemptCount ≤ attempts) (kept : cap.usedNonces ⊆ nonces)
    (unmatched : status ≠ .matched) (late : status = .expired → cap.expiresAt < iso now) :
    Sound platform crypto now { cap with
      status, attemptCount := attempts, usedNonces := nonces, lastError := error } log where
  submits role submit there := by
    have part := @Sound.partOf _ _ _ _ _ sound role submit (by cases role <;> exact there)
    exact ⟨part.accepted, part.ofRole, part.bound, part.inTime⟩
  apart := sound.apart
  fresh := sound.fresh
  used submit accepted := kept (sound.used submit accepted)
  counted := sound.counted.trans more
  budget := sound.budget
  agreed matched := absurd matched unmatched
  late := late

theorem withSubmit_submit (cap : ProtocolCapture) {submit : PartySubmit} {role : Role}
    (party : submit.role ≠ .protocol) : (cap.withSubmit submit).submit role =
      if role = submit.role then some submit else cap.submit role := by
  unfold ProtocolCapture.withSubmit
  cases named : submit.role with
  | protocol => exact absurd named party
  | buyer => cases role <;> rfl
  | seller => cases role <;> rfl

theorem Sound.submitted (sound : Sound platform crypto clock cap log) {submit : PartySubmit}
    (alive : iso now ≤ cap.expiresAt) (fresh : submit.nonce ∉ cap.usedNonces)
    (budget : cap.attemptCount < maxAttempts)
    (submitted : Submitted platform crypto now cap submit) :
    Sound platform crypto now ((cap.use submit.nonce).withSubmit submit) (log ++ [submit]) where
  submits role other there := by
    rw [withSubmit_submit _ submitted.party] at there
    split at there
    case isTrue here =>
      cases there
      subst here
      have inTime : submit.submittedAt ≤ cap.expiresAt := submitted.inTime ▸ alive
      exact ⟨List.mem_append_right _ (List.mem_singleton_self _), rfl, submitted.bound, inTime⟩
    case isFalse =>
      have part := sound.submits role other there
      exact ⟨List.mem_append_left _ part.accepted, part.ofRole, part.bound, part.inTime⟩
  apart buyer bought seller sold := by
    have distinct := submitted.distinct
    simp only [ProtocolCapture.withSubmit, ProtocolCapture.use] at bought sold
    cases named : submit.role with
    | protocol => exact absurd named submitted.party
    | buyer =>
        rw [named, if_pos rfl] at bought sold
        cases bought
        rw [named] at distinct
        exact distinct seller sold
    | seller =>
        rw [named, if_neg (by decide)] at bought sold
        cases sold
        rw [named] at distinct
        exact apart_symm (distinct buyer bought)
  fresh := by
    rw [List.map_append, List.nodup_append]
    refine ⟨sound.fresh, List.nodup_singleton _, fun nonce taken other here same => ?_⟩
    obtain ⟨earlier, accepted, rfl⟩ := List.mem_map.mp taken
    obtain rfl := List.mem_singleton.mp here
    exact fresh (same ▸ sound.used earlier accepted)
  used other accepted := by
    rcases List.mem_append.mp accepted with earlier | last
    · exact List.mem_cons_of_mem _ (sound.used other earlier)
    · obtain rfl := List.mem_singleton.mp last
      exact List.mem_cons_self
  counted := by
    rw [List.length_append, List.length_singleton]
    exact Nat.succ_le_succ sound.counted
  budget := by
    rw [List.length_append, List.length_singleton]
    exact (Nat.succ_le_succ sound.counted).trans budget
  agreed matched := by cases matched
  late expired := by cases expired

theorem Sound.matched (sound : Sound platform crypto clock cap log) {buyer seller : PartySubmit}
    (alive : iso now ≤ cap.expiresAt) (bought : cap.buyer = some buyer)
    (sold : cap.seller = some seller)
    (buyers : hashIn platform crypto cap .buyer buyer.ciphertext = .ok cap.protocolFieldsHash)
    (sellers : hashIn platform crypto cap .seller seller.ciphertext = .ok cap.protocolFieldsHash) :
    Sound platform crypto now
      { cap with status := .matched, sealedAt := some (iso now) } log where
  submits role submit there := by
    have part := @Sound.partOf _ _ _ _ _ sound role submit (by cases role <;> exact there)
    exact ⟨part.accepted, part.ofRole, part.bound, part.inTime⟩
  apart := sound.apart
  fresh := sound.fresh
  used := sound.used
  counted := sound.counted
  budget := sound.budget
  agreed _ := by
    have bought' := @Sound.partOf _ _ _ _ _ sound .buyer buyer bought
    have sold' := @Sound.partOf _ _ _ _ _ sound .seller seller sold
    exact ⟨buyer, seller, iso now,
      ⟨bought'.accepted, bought'.ofRole, bought'.bound, bought'.inTime⟩,
      ⟨sold'.accepted, sold'.ofRole, sold'.bound, sold'.inTime⟩,
      sound.apart buyer bought seller sold, buyers, sellers, rfl, alive⟩
  late expired := by cases expired

/-- Every step of a capture keeps what holds of it and of the submissions accepted for it. -/
theorem CaptureStep.sound (step : CaptureStep platform crypto now cap after submit)
    (later : clock ≤ now) (sound : Sound platform crypto clock cap log) :
    Sound platform crypto now after (log ++ submit.toList) := by
  cases step with
  | kept =>
      rw [Option.toList_none, List.append_nil]
      exact sound.later later
  | expired late =>
      rw [Option.toList_none, List.append_nil]
      exact sound.changed le_rfl (List.Subset.refl _) (by decide) fun _ => late
  | noted status attempts error _ _ unmatched unexpired more =>
      rw [Option.toList_none, List.append_nil]
      exact sound.changed more (List.Subset.refl _) unmatched fun expired =>
        absurd expired unexpired
  | unread nonce error open_ alive =>
      rw [Option.toList_none, List.append_nil]
      have late (expired : cap.status = .expired) : cap.expiresAt < iso now :=
        (sound.late expired).trans_le (iso_mono later)
      exact sound.changed (Nat.le_succ _) (List.subset_cons_self _ _) open_ late
  | submitted submit _ alive fresh budget submitted =>
      exact sound.submitted alive fresh budget submitted
  | matched buyer seller _ alive bought sold buyers sellers =>
      rw [Option.toList_none, List.append_nil]
      exact sound.matched alive bought sold buyers sellers

end CaptureSteps

/-! ## Runs -/

/-- The submissions that have been accepted for a capture, in their order. -/
def World.acceptedFor (world : World) (captureId : String) : List PartySubmit :=
  (world.accepted.filter fun entry => entry.1 = captureId).map Prod.snd

/-- What holds of the captures and the submissions that have been accepted. -/
structure World.Sound (platform : Platform) (crypto : Crypto) (world : World) : Prop where
  captures : world.captures.Every fun captureId cap =>
    ImportantFields.Sound platform crypto world.clock cap (world.acceptedFor captureId)
  unknown : ∀ captureId, world.captures.get captureId = none → world.acceptedFor captureId = []

section Runs

variable {platform : Platform} {crypto : Crypto} {catalog : Catalog} {world next later : World}
  {action : Action} {actions : List Action} {captureId other : String} {cap : ProtocolCapture}

theorem perform_step (ran : perform platform crypto catalog world action = some next) :
    world.clock ≤ action.now ∧ next.clock = action.now ∧ ∃ accepted,
      StoreStep platform crypto action.now world.captures next.captures accepted ∧
      next.accepted = world.accepted ++ accepted := by
  obtain ⟨now, operation⟩ := action
  unfold perform at ran
  simp only [] at ran
  split at ran
  case isTrue => cases ran
  case isFalse later =>
    refine ⟨not_lt.mp later, ?_⟩
    cases operation with
    | create captureId random request =>
        simp only [] at ran
        split at ran
        case isTrue => cases ran
        case isFalse fresh =>
          obtain rfl := Option.some.inj ran
          have step := @createProtocolCapture_step platform crypto catalog now _ captureId random
            request (Option.not_isSome_iff_eq_none.mp fresh)
          exact ⟨rfl, [], step, (List.append_nil _).symm⟩
    | look captureId =>
        obtain rfl := Option.some.inj ran
        exact ⟨rfl, [], getCapture_step now _ captureId, (List.append_nil _).symm⟩
    | encrypt captureId fields role random =>
        obtain rfl := Option.some.inj ran
        have step := @encryptForCapture_step platform crypto catalog now world.captures captureId
          fields role random
        dsimp only
        exact ⟨rfl, [], step, (List.append_nil _).symm⟩
    | submit captureId request =>
        obtain rfl := Option.some.inj ran
        have step := @submitEncrypted_step platform crypto catalog now world.captures captureId
          request
        dsimp only
        exact ⟨rfl, _, step, rfl⟩
    | finalize captureId =>
        obtain rfl := Option.some.inj ran
        have step := @finalizeTripleMatch_step platform crypto now world.captures captureId
        exact ⟨rfl, [], step, (List.append_nil _).symm⟩

theorem filter_acceptance (submit : Option PartySubmit) (captureId other : String) :
    ((submit.toList.map fun submit => (captureId, submit)).filter
      fun entry => entry.1 = other).map Prod.snd = if captureId = other then submit.toList else [] := by
  by_cases here : captureId = other
  · cases submit <;> simp [here]
  · cases submit <;> simp [here]

/-- A new capture, without any submission. -/
theorem sound_capture {now : Time} {random : Bytes} {request : CaptureRequest}
    {fields : Json.Fields} :
    Sound platform crypto now (request.capture platform crypto now captureId random fields) [] where
  submits role submit there := by cases role <;> cases there
  apart _ bought := by cases bought
  fresh := List.nodup_nil
  used _ accepted := by cases accepted
  counted := Nat.zero_le _
  budget := Nat.zero_le _
  agreed matched := by cases matched
  late expired := by cases expired

theorem perform_sound (ran : perform platform crypto catalog world action = some next)
    (sound : world.Sound platform crypto) : next.Sound platform crypto := by
  obtain ⟨later, clock, accepted, step, log⟩ := perform_step ran
  have listed (captureId : String) : next.acceptedFor captureId = world.acceptedFor captureId ++
      (accepted.filter fun entry => entry.1 = captureId).map Prod.snd := by
    simp [World.acceptedFor, log]
  have quiet {captureId : String} {cap : ProtocolCapture}
      (there : world.captures.get captureId = some cap) :
      ImportantFields.Sound platform crypto next.clock cap (world.acceptedFor captureId) :=
    clock ▸ (sound.captures captureId cap there).later later
  generalize caught : next.captures = captures at step
  cases step with
  | same =>
      have same (captureId : String) : next.acceptedFor captureId = world.acceptedFor captureId :=
        (listed captureId).trans (List.append_nil _)
      refine ⟨fun captureId cap there => ?_, fun captureId missing => ?_⟩
      · simp only [same]
        exact quiet (caught ▸ there)
      · rw [same]
        exact sound.unknown captureId (caught ▸ missing)
  | created created random request fields fresh =>
      have same (captureId : String) : next.acceptedFor captureId = world.acceptedFor captureId :=
        (listed captureId).trans (List.append_nil _)
      refine ⟨fun captureId cap there => ?_, fun captureId missing => ?_⟩
      · rw [caught] at there
        simp only [same]
        rcases Table.get_set_eq_some.mp there with ⟨here, rfl⟩ | ⟨-, there⟩
        · rw [here, sound.unknown created fresh, clock]
          exact sound_capture
        · exact quiet there
      · rw [caught, Table.get_set] at missing
        split at missing
        case isTrue => cases missing
        case isFalse => exact (same captureId).trans (sound.unknown captureId missing)
  | stepped stepped cap after submit there step =>
      refine ⟨fun captureId found foundThere => ?_, fun captureId missing => ?_⟩
      · rw [caught, Table.get_set] at foundThere
        simp only [listed, filter_acceptance]
        split at foundThere
        case isTrue here =>
          obtain rfl := Option.some.inj foundThere
          subst here
          rw [if_pos rfl, clock]
          exact step.sound later (sound.captures captureId cap there)
        case isFalse elsewhere =>
          rw [if_neg (Ne.symm elsewhere), List.append_nil]
          exact quiet foundThere
      · rw [caught, Table.get_set] at missing
        split at missing
        case isTrue => cases missing
        case isFalse elsewhere =>
          rw [listed, filter_acceptance, if_neg (Ne.symm elsewhere), List.append_nil]
          exact sound.unknown captureId missing

theorem reachable_sound (reachable : (system platform crypto catalog).Reachable world) :
    world.Sound platform crypto := by
  refine reachable.invariant (fun state initial => ?_) (fun state action next _ inv step => ?_)
  · obtain ⟨empty_, none_⟩ := initial
    have nothing (captureId : String) : state.acceptedFor captureId = [] := by
      rw [World.acceptedFor, none_]
      rfl
    refine ⟨?_, fun captureId _ => nothing captureId⟩
    rw [empty_]
    exact Table.every_empty _
  · exact perform_sound step inv

/-- What a capture keeps from one world of a run to a later one. -/
structure Keeps (cap after : ProtocolCapture) : Prop where
  protocol : SameProtocol cap after
  sealed : cap.status = .matched → after = cap
  expired : cap.status = .expired → after.status = .expired

theorem Keeps.refl (cap : ProtocolCapture) : Keeps cap cap :=
  ⟨⟨rfl, rfl, rfl, rfl, rfl, rfl, rfl, rfl, rfl, rfl⟩, fun _ => rfl, id⟩

theorem Keeps.trans {first second third : ProtocolCapture} (before : Keeps first second)
    (after : Keeps second third) : Keeps first third where
  protocol := by
    obtain ⟨a, b, c, d, e, f, g, h, i, j⟩ := before.protocol
    obtain ⟨a', b', c', d', e', f', g', h', i', j'⟩ := after.protocol
    exact ⟨a'.trans a, b'.trans b, c'.trans c, d'.trans d, e'.trans e, f'.trans f, g'.trans g,
      h'.trans h, i'.trans i, j'.trans j⟩
  sealed matched := by
    obtain rfl := before.sealed matched
    exact after.sealed matched
  expired late := after.expired (before.expired late)

theorem perform_keeps (ran : perform platform crypto catalog world action = some next)
    (sound : world.Sound platform crypto) (there : world.captures.get captureId = some cap) :
    ∃ after, next.captures.get captureId = some after ∧ Keeps cap after := by
  obtain ⟨later, -, accepted, step, -⟩ := perform_step ran
  generalize next.captures = captures at step
  cases step with
  | same => exact ⟨cap, there, .refl cap⟩
  | created created _ _ _ fresh =>
      have elsewhere : captureId ≠ created := by
        rintro rfl
        exact Option.some_ne_none _ (there.symm.trans fresh)
      exact ⟨cap, (Table.get_set_of_ne elsewhere).trans there, .refl cap⟩
  | stepped stepped old after _ was step =>
      by_cases here : captureId = stepped
      · subst here
        obtain rfl := Option.some.inj (was.symm.trans there)
        refine ⟨after, Table.get_set_self _ _ _, step.sameProtocol, step.sealed, fun expired => ?_⟩
        have late := (sound.captures captureId old was).late expired
        exact step.expired_of_late expired (late.trans_le (iso_mono later))
      · exact ⟨cap, (Table.get_set_of_ne here).trans there, .refl cap⟩

theorem run_keeps (reachable : (system platform crypto catalog).Reachable world)
    (run : (system platform crypto catalog).Run world actions later)
    (there : world.captures.get captureId = some cap) :
    ∃ after, later.captures.get captureId = some after ∧ Keeps cap after := by
  refine run.preserves_reachable (fun state action next before kept step => ?_) reachable
    ⟨cap, there, .refl cap⟩
  obtain ⟨middle, found, keeps⟩ := kept
  obtain ⟨after, stored, further⟩ := perform_keeps step (reachable_sound before) found
  exact ⟨after, stored, keeps.trans further⟩

/-- In every run a matched capture stands for two accepted submissions of the protocol's fields
that are not of the same named agent, no nonce is accepted twice, and what is matched or has
expired stays so. -/
theorem triple_match (initial : (system platform crypto catalog).Init world)
    (run : (system platform crypto catalog).Run world actions next) :
    (∀ captureId cap, next.captures.get captureId = some cap → cap.status = .matched →
      Agreed platform crypto cap (next.acceptedFor captureId)) ∧
    (∀ captureId, ((next.acceptedFor captureId).map PartySubmit.nonce).Nodup ∧
      (next.acceptedFor captureId).length ≤ maxAttempts) ∧
    ∀ further later, (system platform crypto catalog).Run next further later →
      ∀ captureId cap, next.captures.get captureId = some cap →
        ∃ after, later.captures.get captureId = some after ∧ Keeps cap after := by
  have reachable : (system platform crypto catalog).Reachable next := ⟨world, actions, initial, run⟩
  have sound := reachable_sound reachable
  refine ⟨fun captureId cap there => (sound.captures captureId cap there).agreed,
    fun captureId => ?_, fun _ _ more _ _ there => run_keeps reachable more there⟩
  cases there : next.captures.get captureId with
  | none =>
      rw [sound.unknown captureId there]
      exact ⟨List.nodup_nil, Nat.zero_le _⟩
  | some cap =>
      have held := sound.captures captureId cap there
      exact ⟨held.fresh, held.budget⟩

end Runs

namespace Demo

def bytes (text : List Char) : Bytes := text.map fun char => .ofNat char.toNat

/-- A byte that tells short texts apart. -/
def tag (text : String) : UInt8 := .ofNat text.toList.length

/-- ASCII texts are in normal form. No date-time is read below, and no two texts that are hashed
have the same length. -/
def platform : Platform where
  nfc text := text
  isDecimal := Char.isDigit
  fromIsoFormat _ := none
  repr _ := ['0', '.', '5']
  sha256 text := .ofList (Nat.toDigits 10 text.length)

def fields : Json.Fields := [("amount", .string "2.5"), ("currency", .string "USD")]

/-- Ciphertexts have a byte for the key and one for what they are bound to, and all are of the
same fields. -/
def crypto : Crypto where
  hkdf info := [tag info]
  legacyKey captureId := [tag captureId]
  protocolMac message := message
  encrypt key _ _ aad := key ++ tag aad :: List.replicate 14 0
  decrypt key _ ct aad := if key ++ [tag aad] = ct.take 2 then some (ct.drop 2) else none
  encode data := .ofList (data.map fun byte => .ofNat byte.toNat)
  decode text := some (bytes text.toList)
  loads _ := some (.object fields)

/-- Two of the fields that every scene requires, and a scene that requires no more. -/
def catalog : Catalog where
  commonRequired := [{ path := "amount", type := some "string" },
    { path := "currency", type := some "string", enum := some ["USDC", "USDT", "USD"] }]
  scenes := [⟨"api_tool_call", []⟩]
  extensions := []

def request (buyer seller : Option String) : CaptureRequest where
  sceneId := "api_tool_call"
  fields := fields
  interactionRef := "deal"
  buyerAgentId := buyer
  sellerAgentId := seller

def ciphertext (role : Role) : String :=
  encryptCanonicalFields platform crypto (List.replicate 12 0)
    ⟨"cap", "api_tool_call", role, fieldsHash platform fields⟩ fields

/-- A capture, the submissions of the two roles by some agents, and the match. -/
def agreeing (buyer seller : Option String) : List Action :=
  [⟨1, .create "cap" (List.replicate 12 0) (request buyer seller)⟩,
    ⟨2, .submit "cap" ⟨"buyer", ciphertext .buyer, "nonce-buyer", buyer⟩⟩,
    ⟨3, .submit "cap" ⟨"seller", ciphertext .seller, "nonce-seller", seller⟩⟩,
    ⟨4, .finalize "cap"⟩]

def named : Scene (perform platform crypto catalog) {} where
  actions := agreeing (some "buyer-1") (some "seller-1")
  possible := by decide +kernel

/-- Nobody is named. -/
def unnamed : Scene (perform platform crypto catalog) {} where
  actions := agreeing none none
  possible := by decide +kernel

/-- The status of the capture and the agents of the submissions that were accepted. -/
def standing (world : World) : Option (CaptureStatus × List (Option String)) :=
  (world.captures.get "cap").map fun cap =>
    (cap.status, (world.acceptedFor "cap").map PartySubmit.submitterAgentId)

theorem scene_run (scene : Scene (perform platform crypto catalog) {}) :
    (system platform crypto catalog).Run {} scene.actions scene.world :=
  scene.run fun _ _ _ performed => performed

end Demo

theorem triple_match_named : ∃ cap ∈ Demo.named.world.captures.get "cap", cap.status = .matched ∧
    Agreed Demo.platform Demo.crypto cap (Demo.named.world.acceptedFor "cap") := by
  have standing : Demo.standing Demo.named.world =
      some (.matched, [some "buyer-1", some "seller-1"]) := by decide +kernel
  obtain ⟨cap, there, both⟩ := Option.map_eq_some_iff.mp standing
  have matched : cap.status = .matched := congrArg Prod.fst both
  have agreed := (triple_match ⟨rfl, rfl⟩ (Demo.scene_run Demo.named)).1 "cap" cap there matched
  exact ⟨cap, there, matched, agreed⟩

/-- A capture is matched by two submissions that name nobody. -/
theorem not_triple_match :
    (system Demo.platform Demo.crypto Demo.catalog).Run {} Demo.unnamed.actions
        Demo.unnamed.world ∧
      Demo.standing Demo.unnamed.world = some (.matched, [none, none]) :=
  ⟨Demo.scene_run Demo.unnamed, by decide +kernel⟩

end TrustChain.ImportantFields
