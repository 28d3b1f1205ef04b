import TrustChain.Runtime.Keys

/-!
# Spending limits

The limits of a runtime key are checked against what it had used when the request read it, on the
amount of the voucher, and the use is recorded later. They bound the bills of the vouchers that
are created through the key if no bill exceeds its amount, a request reads only while no other
one of the key is between its read and its end, and it is finished on the day it has begun.
-/

namespace TrustChain.Runtime

open Library Service

/-! ## What a key has spent -/

/-- The sum of a quantity over the vouchers created through a key on a day. -/
def totalIssued (issued : List Issued) (quantity : CreateVoucherRequest → ℚ) (keyId : KeyId)
    (day : Day) : ℚ :=
  (issued.map fun voucher =>
    if voucher.keyId = keyId ∧ voucher.day = day then quantity voucher.body else 0).sum

namespace RuntimeWorld

variable (world : RuntimeWorld)

/-- What the vouchers created through a key on a day bill. -/
def billed (keyId : KeyId) (day : Day) : ℚ :=
  totalIssued world.issued CreateVoucherRequest.billCreditAmount keyId day

/-- The amounts of these vouchers, which the limits are checked on. -/
def spent (keyId : KeyId) (day : Day) : ℚ :=
  totalIssued world.issued CreateVoucherRequest.amount keyId day

/-- The bills of the vouchers created through every key are within its limits. -/
structure WithinLimits : Prop where
  single : ∀ voucher ∈ world.issued, ∀ key ∈ world.keys.get voucher.keyId,
    voucher.body.billCreditAmount ≤ key.singleLimit + epsilon
  daily : ∀ keyId day, ∀ key ∈ world.keys.get keyId,
    world.billed keyId day ≤ key.dailyLimit + epsilon

end RuntimeWorld

/-! ## Spaced requests -/

/-- A request has read what its key has used, and has not ended. -/
def Phase.Open : Phase → Prop
  | .begun | .ended => False
  | _ => True

instance : DecidablePred Phase.Open := fun phase => by
  unfold Phase.Open
  split <;> infer_instance

def RuntimeAction.Spaced (world : RuntimeWorld) : RuntimeAction → Prop
  | .fetch session => ∀ state ∈ world.sessions.get session, ∀ other ∈ world.sessions.rows,
      other.2.keyId = state.keyId → ¬other.2.phase.Open
  | .check session | .record session => ∀ state ∈ world.sessions.get session,
      state.day = world.today
  | .create session _ _ => ∀ state ∈ world.sessions.get session,
      state.day = world.today ∧ state.body.billCreditAmount ≤ state.body.amount
  | _ => True

/-! ## What open requests have established -/

/-- The amount of a request still fits under the limits of its key. -/
structure Session.Fits (world : RuntimeWorld) (state : Session) : Prop where
  positive : 0 < state.body.amount
  single : state.body.amount ≤ state.ctx.singleLimit + epsilon
  daily : world.spent state.keyId state.day + state.body.amount ≤ state.ctx.dailyLimit + epsilon

/-- The voucher of a request was created on the day whose spending it has read, and bills at
most its amount. -/
structure Session.Covers (state : Session) (voucher : NewVoucher) : Prop where
  day : voucher.day = state.day
  bill : state.body.billCreditAmount ≤ state.body.amount

/-- Two rows of a key have the same limits. -/
structure RuntimeKey.SameLimits (key other : RuntimeKey) : Prop where
  single : other.singleLimit = key.singleLimit
  daily : other.dailyLimit = key.dailyLimit

/-- A request was begun with the limits of its key. -/
def Session.Registered (keys : Table KeyId RuntimeKey) (state : Session) : Prop :=
  ∃ key, keys.get state.keyId = some key ∧ key.singleLimit = state.ctx.singleLimit ∧
    key.dailyLimit = state.ctx.dailyLimit

def Session.Accounted (persist : Bool) (world : RuntimeWorld) (state : Session) : Prop :=
  match state.phase with
  | .begun | .ended => True
  | .fetched row => ∀ used ∈ row, world.spent state.keyId state.day ≤ used
  | .checked => state.Fits world
  | .created voucher => state.Fits world ∧ state.Covers voucher
  | .recorded voucher spend => state.Fits world ∧ state.Covers voucher ∧
      world.spent state.keyId state.day + state.body.amount ≤
        world.memory state.keyId state.day ∧
      (persist = true → ∃ row, spend = some row ∧ row.day = state.day ∧
        world.spent state.keyId state.day + state.body.amount ≤ row.amountUsed)

structure RuntimeWorld.Sound (persist : Bool) (world : RuntimeWorld) : Prop where
  registered : ∀ voucher ∈ world.issued, ∃ key, world.keys.get voucher.keyId = some key
  covered : ∀ voucher ∈ world.issued, voucher.body.billCreditAmount ≤ voucher.body.amount
  single : ∀ voucher ∈ world.issued, ∀ key ∈ world.keys.get voucher.keyId,
    voucher.body.amount ≤ key.singleLimit + epsilon
  daily : ∀ keyId day, ∀ key ∈ world.keys.get keyId,
    world.spent keyId day ≤ key.dailyLimit + epsilon
  remembered : ∀ keyId day, world.spent keyId day ≤ world.memory keyId day
  stored : persist = true → ∀ keyId day,
    world.spent keyId day ≤ (world.dailySpend.get (keyId, day)).getD 0
  alone : ∀ session other state another, world.sessions.get session = some state →
    world.sessions.get other = some another → state.keyId = another.keyId →
    state.phase.Open → another.phase.Open → session = other
  registry : world.sessions.Every fun _ state => state.Registered world.keys
  accounted : world.sessions.Every fun _ state => state.Accounted persist world

section Totals

variable {issued : List Issued} {voucher : Issued} {quantity : CreateVoucherRequest → ℚ}
  {keyId : KeyId} {day : Day}

theorem totalIssued_append : totalIssued (issued ++ [voucher]) quantity keyId day =
    totalIssued issued quantity keyId day +
      if voucher.keyId = keyId ∧ voucher.day = day then quantity voucher.body else 0 := by
  simp [totalIssued]

/-- A key through which nothing has been created has spent nothing. -/
theorem totalIssued_eq_zero (none : ∀ voucher ∈ issued, voucher.keyId ≠ keyId) :
    totalIssued issued quantity keyId day = 0 := by
  apply List.sum_eq_zero
  intro value inside
  obtain ⟨voucher, member, rfl⟩ := List.mem_map.mp inside
  exact if_neg fun same => none voucher member same.1

theorem totalIssued_mono {other : CreateVoucherRequest → ℚ}
    (atMost : ∀ voucher ∈ issued, quantity voucher.body ≤ other voucher.body) :
    totalIssued issued quantity keyId day ≤ totalIssued issued other keyId day := by
  apply List.sum_le_sum
  intro voucher member
  split
  · exact atMost voucher member
  · exact le_rfl

end Totals

theorem RuntimeWorld.Sound.withinLimits {persist : Bool} {world : RuntimeWorld}
    (sound : world.Sound persist) :
    world.WithinLimits where
  single voucher member key there :=
    (sound.covered voucher member).trans (sound.single voucher member key there)
  daily keyId day key there :=
    (totalIssued_mono sound.covered).trans (sound.daily keyId day key there)

/-! ## Every step -/

section Steps

variable {persist : Bool} {config : Config} {world next : RuntimeWorld} {action : RuntimeAction}
  {session : Nat} {state moved : Session} {keyId : KeyId}

theorem Session.Fits.congr {other : RuntimeWorld} (fits : state.Fits world)
    (spent : other.spent state.keyId state.day = world.spent state.keyId state.day) :
    state.Fits other :=
  ⟨fits.positive, fits.single, spent ▸ fits.daily⟩

theorem Session.Fits.move (fits : state.Fits world) (phase : Phase) :
    Session.Fits world { state with phase } :=
  ⟨fits.positive, fits.single, fits.daily⟩

/-- What a request has established still holds when nothing else was spent with its key. -/
theorem Session.Accounted.mono {other : RuntimeWorld} (accounted : state.Accounted persist world)
    (spent : state.phase.Open →
      other.spent state.keyId state.day = world.spent state.keyId state.day)
    (memory : ∀ day, world.memory state.keyId day ≤ other.memory state.keyId day) :
    state.Accounted persist other := by
  unfold Session.Accounted at accounted ⊢
  cases phase : state.phase with
  | begun | ended => trivial
  | fetched row =>
      simp only [phase] at accounted ⊢
      rwa [spent (by rw [phase]; trivial)]
  | checked =>
      simp only [phase] at accounted ⊢
      exact accounted.congr (spent (by rw [phase]; trivial))
  | created voucher =>
      simp only [phase] at accounted ⊢
      exact ⟨accounted.1.congr (spent (by rw [phase]; trivial)), accounted.2⟩
  | recorded voucher spend =>
      simp only [phase] at accounted ⊢
      have same := spent (by rw [phase]; trivial)
      obtain ⟨fits, covers, remembered, written⟩ := accounted
      refine ⟨fits.congr same, covers, ?_, ?_⟩
      · rw [same]
        exact remembered.trans (memory state.day)
      · rwa [same]

/-- A step that leaves the money alone moves one session on. -/
theorem RuntimeWorld.Sound.setSession (sound : world.Sound persist)
    (registered : moved.Registered world.keys) (accounted : moved.Accounted persist world)
    (alone : moved.phase.Open → ∀ other another, other ≠ session →
      world.sessions.get other = some another → moved.keyId = another.keyId →
      ¬another.phase.Open) : (world.setSession session moved).Sound persist where
  registered := sound.registered
  covered := sound.covered
  single := sound.single
  daily := sound.daily
  remembered := sound.remembered
  stored := sound.stored
  registry := sound.registry.set registered
  accounted := (sound.accounted.set accounted).mono fun _ _ established =>
    established.mono (fun _ => rfl) fun _ => le_rfl
  alone := by
    intro first second one other there also same open_ alsoOpen
    rcases Table.get_set_eq_some.mp there with ⟨here, rfl⟩ | ⟨different, found⟩
    · rcases Table.get_set_eq_some.mp also with ⟨again, -⟩ | ⟨different, also⟩
      · exact here.trans again.symm
      · exact absurd alsoOpen (alone open_ second other different also same)
    · rcases Table.get_set_eq_some.mp also with ⟨-, rfl⟩ | ⟨-, also⟩
      · exact absurd open_ (alone alsoOpen first one different found same.symm)
      · exact sound.alone first second one other found also same open_ alsoOpen

/-- The memory of what has been spent may grow. -/
theorem RuntimeWorld.Sound.remember (sound : world.Sound persist) {memory : KeyId → Day → ℚ}
    (grows : ∀ keyId day, world.memory keyId day ≤ memory keyId day) :
    ({ world with memory } : RuntimeWorld).Sound persist where
  registered := sound.registered
  covered := sound.covered
  single := sound.single
  daily := sound.daily
  remembered keyId day := (sound.remembered keyId day).trans (grows keyId day)
  stored := sound.stored
  alone := sound.alone
  registry := sound.registry
  accounted := sound.accounted.mono fun _ _ established =>
    established.mono (fun _ => rfl) fun _ => grows _ _

/-- What is not about keys, money or sessions does not matter. -/
theorem RuntimeWorld.Sound.elsewhere (sound : world.Sound persist) {service : World} {today : Day}
    {replay : KeyId → List (String × ℚ)} :
    ({ world with service, today, replay } : RuntimeWorld).Sound persist where
  registered := sound.registered
  covered := sound.covered
  single := sound.single
  daily := sound.daily
  remembered := sound.remembered
  stored := sound.stored
  alone := sound.alone
  registry := sound.registry
  accounted := sound.accounted.mono fun _ _ established =>
    established.mono (fun _ => rfl) fun _ => le_rfl

/-- A key that is stored again with its limits has them afterwards. -/
theorem keys_set_kept {keys : Table KeyId RuntimeKey} {row key : RuntimeKey} {other : KeyId}
    (limits : ∀ old, keys.get keyId = some old → old.SameLimits row)
    (there : keys.get other = some key) :
    ∃ after, (keys.set keyId row).get other = some after ∧ key.SameLimits after := by
  rw [Table.get_set]
  split
  case isTrue here => exact ⟨row, rfl, limits key (here ▸ there)⟩
  case isFalse => exact ⟨key, there, rfl, rfl⟩

/-- A key that is there afterwards had its limits before, or is new. -/
theorem keys_set_origin {keys : Table KeyId RuntimeKey} {row key : RuntimeKey} {other : KeyId}
    (limits : ∀ old, keys.get keyId = some old → old.SameLimits row)
    (there : (keys.set keyId row).get other = some key) :
    (∃ old, keys.get other = some old ∧ old.SameLimits key) ∨ keys.get other = none := by
  rcases Table.get_set_eq_some.mp there with ⟨here, rfl⟩ | ⟨-, there⟩
  · cases was : keys.get other with
    | none => exact .inr rfl
    | some old => exact .inl ⟨old, rfl, limits old (here ▸ was)⟩
  · exact .inl ⟨key, there, rfl, rfl⟩

/-- Nothing has been spent with a key that there is not. -/
theorem RuntimeWorld.Sound.spent_eq_zero (sound : world.Sound persist) {day : Day}
    (absent : world.keys.get keyId = none) : world.spent keyId day = 0 := by
  apply totalIssued_eq_zero
  rintro voucher member rfl
  obtain ⟨old, was⟩ := sound.registered voucher member
  cases absent.symm.trans was

/-- A key is stored: a new one, or one with the limits that it has already. -/
theorem RuntimeWorld.Sound.setKey (sound : world.Sound persist) {row : RuntimeKey}
    (limits : ∀ old, world.keys.get keyId = some old → old.SameLimits row) :
    ({ world with keys := world.keys.set keyId row } : RuntimeWorld).Sound persist := by
  constructor
  · intro voucher member
    obtain ⟨key, there⟩ := sound.registered voucher member
    obtain ⟨after, stored, -⟩ := keys_set_kept limits there
    exact ⟨after, stored⟩
  · exact sound.covered
  · intro voucher member key there
    rcases keys_set_origin limits there with ⟨old, was, same⟩ | absent
    · rw [same.single]
      exact sound.single voucher member old was
    · obtain ⟨old, was⟩ := sound.registered voucher member
      cases absent.symm.trans was
  · intro other day key there
    change world.spent other day ≤ _
    rcases keys_set_origin limits there with ⟨old, was, same⟩ | absent
    · rw [same.daily]
      exact sound.daily other day old was
    · rw [sound.spent_eq_zero absent]
      exact add_nonneg key.positive.2.le epsilon_nonneg
  · exact sound.remembered
  · exact sound.stored
  · exact sound.alone
  · refine sound.registry.mono fun _ state registered => ?_
    obtain ⟨key, there, single, daily⟩ := registered
    obtain ⟨after, stored, same⟩ := keys_set_kept limits there
    exact ⟨after, stored, same.single.trans single, same.daily.trans daily⟩
  · exact sound.accounted.mono fun _ _ established =>
      established.mono (fun _ => rfl) fun _ => le_rfl

/-- A new voucher counts on the day whose spending its request has read. -/
theorem totalIssued_new {voucher : NewVoucher} (covers : state.Covers voucher) (day : Day) :
    totalIssued (world.issued ++ [⟨state.keyId, voucher.day, voucher.voucherId, state.body⟩])
        CreateVoucherRequest.amount keyId day =
      world.spent keyId day +
        if state.keyId = keyId ∧ state.day = day then state.body.amount else 0 := by
  rw [totalIssued_append, covers.day]
  rfl

/-- What bounded the spending still does with a new voucher, if it does so where that counts. -/
theorem totalIssued_new_le {voucher : NewVoucher} (covers : state.Covers voucher) {day : Day}
    {bound : ℚ} (before : world.spent keyId day ≤ bound)
    (after : state.keyId = keyId → state.day = day →
      world.spent state.keyId state.day + state.body.amount ≤ bound) :
    totalIssued (world.issued ++ [⟨state.keyId, voucher.day, voucher.voucherId, state.body⟩])
      CreateVoucherRequest.amount keyId day ≤ bound := by
  rw [totalIssued_new covers]
  split
  case isTrue here =>
    obtain ⟨rfl, rfl⟩ := here
    exact after rfl rfl
  case isFalse => rwa [add_zero]

/-- A session that has ended does not count against the others. -/
theorem RuntimeWorld.Sound.ends (sound : world.Sound persist)
    (there : world.sessions.get session = some state) :
    (world.setSession session { state with phase := .ended }).Sound persist :=
  sound.setSession (sound.registry session state there) trivial False.elim

/-- A session commits the voucher that it has recorded. -/
theorem RuntimeWorld.Sound.commit (sound : world.Sound persist) {voucher : NewVoucher}
    {spend : Option DailySpend} (there : world.sessions.get session = some state)
    (phase : state.phase = .recorded voucher spend)
    (committed : world.commit state voucher spend = some next) :
    (next.setSession session { state with phase := .ended }).Sound persist := by
  have established := sound.accounted session state there
  obtain ⟨key, registered, singleLimit, dailyLimit⟩ := sound.registry session state there
  simp only [Session.Accounted, phase] at established
  obtain ⟨fits, covers, remembered, written⟩ := established
  have ended := sound.ends there
  have open_ : state.phase.Open := by
    rw [phase]
    trivial
  simp only [RuntimeWorld.commit] at committed
  split at committed
  case isTrue => cases committed
  case isFalse =>
    obtain rfl := Option.some.inj committed
    constructor
    · refine List.forall_mem_append.mpr ⟨sound.registered, ?_⟩
      rw [List.forall_mem_singleton]
      exact ⟨key, registered⟩
    · refine List.forall_mem_append.mpr ⟨sound.covered, ?_⟩
      rw [List.forall_mem_singleton]
      exact covers.bill
    · refine List.forall_mem_append.mpr ⟨sound.single, ?_⟩
      rw [List.forall_mem_singleton]
      intro row there
      obtain rfl := Option.some.inj (registered.symm.trans there)
      rw [singleLimit]
      exact fits.single
    · intro keyId day row there
      apply totalIssued_new_le covers (sound.daily keyId day row there)
      rintro rfl rfl
      obtain rfl := Option.some.inj (registered.symm.trans there)
      rw [dailyLimit]
      exact fits.daily
    · intro keyId day
      apply totalIssued_new_le covers (sound.remembered keyId day)
      rintro rfl rfl
      exact remembered
    · intro persisted keyId day
      obtain ⟨row, rfl, sameDay, covered⟩ := written persisted
      change totalIssued _ _ keyId day ≤
        ((world.dailySpend.set (state.keyId, row.day) row.amountUsed).get (keyId, day)).getD 0
      rw [Table.get_set]
      split
      case isTrue here =>
        obtain ⟨sameKey, onDay⟩ := Prod.mk.inj here
        refine totalIssued_new_le covers ?_ fun _ _ => covered
        rw [sameKey, onDay, sameDay, Option.getD_some]
        linarith [fits.positive]
      case isFalse elsewhere =>
        apply totalIssued_new_le covers (sound.stored persisted keyId day)
        intro sameKey onDay
        exact absurd (by rw [sameKey, sameDay, onDay]) elsewhere
    · exact ended.alone
    · exact ended.registry
    · intro other another also
      change (world.sessions.set session _).get other = some another at also
      rcases Table.get_set_eq_some.mp also with ⟨-, rfl⟩ | ⟨different, also⟩
      · trivial
      · refine (sound.accounted other another also).mono (fun alsoOpen => ?_) fun _ => le_rfl
        refine (totalIssued_new covers another.day).trans ?_
        rw [if_neg, add_zero]
        -- no other request of the key is open
        rintro ⟨same, -⟩
        exact different
          (sound.alone other session another state also there same.symm alsoOpen open_)

/-- A request begins with a key as it is stored. -/
theorem beginRequest_ok {clientNonce : String} {now : ℚ} {body : CreateVoucherRequest}
    {bucket : List (String × ℚ)}
    (ran : beginRequest world keyId clientNonce now body = .ok (state, bucket)) :
    state.phase = .begun ∧ state.Registered world.keys := by
  simp only [beginRequest, bind_eq_ok] at ran
  obtain ⟨ctx, loaded, _, -, _, -, _, -, _, -, begun⟩ := ran
  obtain ⟨rfl, -⟩ := Prod.mk.inj (Except.ok.inj begun)
  refine ⟨rfl, ctx, ?_, rfl, rfl⟩
  unfold loadActiveContext at loaded
  cases there : world.keys.get keyId with
  | none => simp [there] at loaded
  | some row =>
      simp only [there, require_bind_eq_ok] at loaded
      exact congrArg some (Except.ok.inj loaded.2.2)

theorem checkSingleAndDailyLimits_ok {amount singleLimit dailyLimit dailyUsed : ℚ} {done : Unit}
    (passed : checkSingleAndDailyLimits amount singleLimit dailyLimit dailyUsed = .ok done) :
    0 < amount ∧ amount ≤ singleLimit + epsilon ∧ dailyUsed + amount ≤ dailyLimit + epsilon := by
  simp only [checkSingleAndDailyLimits, bind_eq_ok, require_eq_ok] at passed
  obtain ⟨_, positive, _, single, daily⟩ := passed
  exact ⟨positive, single, daily⟩

/-- What a request reads is at least what has been spent. -/
theorem RuntimeWorld.Sound.spent_le_read (sound : world.Sound persist) {day : Day} {used : ℚ}
    (read : world.spendRow persist keyId day = some used) : world.spent keyId day ≤ used := by
  unfold RuntimeWorld.spendRow at read
  split at read
  case isTrue persisted =>
    have stored := sound.stored persisted keyId day
    rwa [read, Option.getD_some] at stored
  case isFalse => cases read

/-- An open request stays the only one of its key. -/
theorem RuntimeWorld.Sound.moves (sound : world.Sound persist)
    (there : world.sessions.get session = some state) (open_ : state.phase.Open) {phase : Phase}
    (accounted : Session.Accounted persist world { state with phase }) :
    (world.setSession session { state with phase }).Sound persist := by
  refine sound.setSession (sound.registry session state there) accounted ?_
  intro _ other another different also same alsoOpen
  exact different (sound.alone session other state another there also same open_ alsoOpen).symm

/-- Recording an amount makes the memory grow. -/
theorem memory_le {memory : KeyId → Day → ℚ} {amount : ℚ} {day : Day} (nonneg : 0 ≤ amount)
    (other : KeyId) (at_ : Day) : memory other at_ ≤
      Function.update memory keyId (Function.update (memory keyId) day
        (memory keyId day + amount)) other at_ := by
  by_cases same : other = keyId
  · subst same
    rw [Function.update_self]
    by_cases now : at_ = day
    · rw [now, Function.update_self]
      exact le_add_of_nonneg_right nonneg
    · rw [Function.update_of_ne now]
  · rw [Function.update_of_ne same]

/-- A request that passes the check on the day whose spending it has read fits. -/
theorem RuntimeWorld.Sound.check (sound : world.Sound persist) {row : Option ℚ} {done : Unit}
    (there : world.sessions.get session = some state) (phase : state.phase = .fetched row)
    (today : state.day = world.today)
    (passed : checkSingleAndDailyLimits state.body.amount state.ctx.singleLimit
      state.ctx.dailyLimit (world.dailyUsed state.keyId row) = .ok done) :
    (world.setSession session { state with phase := .checked }).Sound persist := by
  have established := sound.accounted session state there
  simp only [Session.Accounted, phase] at established
  obtain ⟨positive, single, daily⟩ := checkSingleAndDailyLimits_ok passed
  have used : world.spent state.keyId state.day ≤ world.dailyUsed state.keyId row := by
    cases row with
    | none => exact today ▸ sound.remembered state.keyId state.day
    | some used => exact established used rfl
  refine sound.moves there (by rw [phase]; trivial) ⟨positive, single, ?_⟩
  change world.spent state.keyId state.day + state.body.amount ≤ _
  linarith

/-- What a request records on the day whose spending it has read covers its amount. -/
theorem RuntimeWorld.Sound.record (sound : world.Sound persist) {voucher : NewVoucher}
    (there : world.sessions.get session = some state) (phase : state.phase = .created voucher)
    (today : state.day = world.today) :
    ((world.recordSpend persist state).1.setSession session { state with
      phase := .recorded voucher (world.recordSpend persist state).2 }).Sound persist := by
  have established := sound.accounted session state there
  simp only [Session.Accounted, phase] at established
  obtain ⟨fits, covers⟩ := established
  have recorded : (world.recordSpend persist state).1.Sound persist :=
    sound.remember (memory_le fits.positive.le)
  refine recorded.moves there (by rw [phase]; trivial)
    ⟨(fits.move _).congr rfl, ⟨covers.day, covers.bill⟩, ?_, fun persisted => ?_⟩
  · have grown : (world.recordSpend persist state).1.memory state.keyId state.day =
        world.memory state.keyId state.day + state.body.amount := by
      simp [RuntimeWorld.recordSpend, today]
    change world.spent state.keyId state.day + state.body.amount ≤ _
    have before := sound.remembered state.keyId state.day
    linarith
  · refine ⟨_, if_pos persisted, today.symm, ?_⟩
    have before := sound.stored persisted state.keyId state.day
    rw [recordedSpend, ← today]
    change world.spent state.keyId state.day + state.body.amount ≤ _
    linarith

/-- A session is moved on by the step that its phase admits. -/
theorem spaced_session (sound : world.Sound persist) (spaced : action.Spaced world)
    (named : action.session = some session) (there : world.sessions.get session = some state)
    (step : state.step persist config world action = some (next, moved)) :
    (next.setSession session moved).Sound persist := by
  unfold Session.step at step
  cases action with
  | fetch other =>
      obtain rfl := Option.some.inj named
      cases phase : state.phase with
      | begun =>
          simp only [phase, Option.some.injEq, Prod.mk.injEq] at step
          obtain ⟨rfl, rfl⟩ := step
          refine sound.setSession (sound.registry other state there)
            (fun used read => sound.spent_le_read read) ?_
          intro _ other another _ also same
          exact spaced state there (other, another) (Table.mem_rows_iff.mpr also) same.symm
      | _ => simp [phase] at step
  | check other =>
      obtain rfl := Option.some.inj named
      cases phase : state.phase with
      | fetched row =>
          simp only [phase, Option.map_eq_some_iff, Prod.mk.injEq] at step
          obtain ⟨_, passed, rfl, rfl⟩ := step
          exact sound.check there phase (spaced state there) (toOption_eq_some.mp passed)
      | _ => simp [phase] at step
  | create other request voucherId =>
      obtain rfl := Option.some.inj named
      obtain ⟨today, bill⟩ := spaced state there
      cases phase : state.phase with
      | checked =>
          have established := sound.accounted other state there
          simp only [Session.Accounted, phase] at established
          simp only [phase, Option.map_eq_some_iff, Prod.mk.injEq] at step
          obtain ⟨voucher, created, rfl, rfl⟩ := step
          simp only [RuntimeWorld.createVoucher, toOption_eq_some, bind_eq_ok] at created
          obtain ⟨written, -, is⟩ := created
          obtain rfl := Except.ok.inj is
          exact sound.moves there (by rw [phase]; trivial) ⟨established.move _, today.symm, bill⟩
      | _ => simp [phase] at step
  | record other =>
      obtain rfl := Option.some.inj named
      cases phase : state.phase with
      | created voucher =>
          simp only [phase, Option.some.injEq, Prod.mk.injEq] at step
          obtain ⟨rfl, rfl⟩ := step
          exact sound.record there phase (spaced state there)
      | _ => simp [phase] at step
  | commit other =>
      obtain rfl := Option.some.inj named
      cases phase : state.phase with
      | recorded voucher spend =>
          simp only [phase, Option.map_eq_some_iff, Prod.mk.injEq] at step
          obtain ⟨_, committed, rfl, rfl⟩ := step
          exact sound.commit there phase committed
      | _ => simp [phase] at step
  | fail other =>
      obtain rfl := Option.some.inj named
      obtain ⟨rfl, rfl⟩ := Prod.mk.inj (Option.some.inj step)
      exact sound.ends there
  | _ => cases named

/-- What names a session moves on one that there is. -/
theorem performRuntime_session (named : action.session = some session)
    (step : performRuntime persist config world action = some next) :
    ∃ state after moved, world.sessions.get session = some state ∧
      state.step persist config world action = some (after, moved) ∧
      next = after.setSession session moved := by
  have stepped : (action.session.bind fun session => (world.sessions.get session).bind fun state =>
      (state.step persist config world action).map fun pair =>
        pair.1.setSession session pair.2) = some next := by
    cases action with
    | fetch | check | create | record | commit | fail => exact step
    | _ => cases named
  rw [named, Option.bind_some] at stepped
  obtain ⟨state, there, stepped⟩ := Option.bind_eq_some_iff.mp stepped
  obtain ⟨⟨after, moved⟩, taken, rfl⟩ := Option.map_eq_some_iff.mp stepped
  exact ⟨state, after, moved, there, taken, rfl⟩

/-- Spaced steps keep what bounds the spending. -/
theorem spaced_sound (sound : world.Sound persist) (spaced : action.Spaced world)
    (step : performRuntime persist config world action = some next) : next.Sound persist := by
  have moved : ∀ {session}, action.session = some session → next.Sound persist := by
    intro session named
    obtain ⟨state, after, moved, there, taken, rfl⟩ := performRuntime_session named step
    exact spaced_session sound spaced named there taken
  cases action with
  | service action =>
      obtain ⟨service, -, rfl⟩ := Option.map_eq_some_iff.mp step
      exact sound.elsewhere
  | midnight =>
      obtain rfl := Option.some.inj step
      exact sound.elsewhere
  | createKey keyId karmaIdentityId profileId permissions singleLimit dailyLimit expireAt =>
      simp only [performRuntime] at step
      cases absent : world.keys.get keyId with
      | some row => simp [absent] at step
      | none =>
          simp only [absent] at step
          obtain ⟨row, -, rfl⟩ := Option.map_eq_some_iff.mp step
          refine sound.setKey fun _ there => ?_
          cases absent.symm.trans there
  | revokeKey keyId =>
      obtain ⟨row, there, rfl⟩ := Option.map_eq_some_iff.mp step
      refine sound.setKey fun old was => ?_
      obtain rfl := Option.some.inj (there.symm.trans was)
      exact ⟨rfl, rfl⟩
  | begin session keyId clientNonce now body =>
      simp only [performRuntime] at step
      cases absent : world.sessions.get session with
      | some state => simp [absent] at step
      | none =>
          simp only [absent] at step
          obtain ⟨⟨state, bucket⟩, ran, rfl⟩ := Option.map_eq_some_iff.mp step
          obtain ⟨begun, registered⟩ := beginRequest_ok (toOption_eq_some.mp ran)
          have accounted : state.Accounted persist world := by
            rw [Session.Accounted, begun]
            trivial
          refine RuntimeWorld.Sound.elsewhere (sound.setSession registered accounted ?_)
          rw [begun]
          exact False.elim
  | fetch session => exact moved rfl
  | check session => exact moved rfl
  | create session request voucherId => exact moved rfl
  | record session => exact moved rfl
  | commit session => exact moved rfl
  | fail session => exact moved rfl

end Steps

/-! ## Every run -/

theorem initially_sound {persist : Bool} : ({} : RuntimeWorld).Sound persist where
  registered := nofun
  covered := nofun
  single := nofun
  daily _ _ _ there := nomatch there
  remembered _ _ := le_rfl
  stored _ _ _ := le_rfl
  alone _ _ _ _ there := nomatch there
  registry := Table.every_empty _
  accounted := Table.every_empty _

/-- Along every run of spaced requests, what the vouchers of a key bill is within its limits. -/
theorem spending_limited {persist : Bool} {config : Config} {start finish : RuntimeWorld}
    {actions : List RuntimeAction} (initial : (runtimeSystem persist config).Init start)
    (run : ((runtimeSystem persist config).restrict fun world action => action.Spaced world).Run
      start actions finish) : finish.WithinLimits := by
  have sound : finish.Sound persist := by
    refine run.preserves_restricted ?_ (.init initial) ?_
    · intro world action next _ sound step spaced
      exact spaced_sound sound spaced step
    · obtain rfl := initial
      exact initially_sound
  exact sound.withinLimits

/-! ## Scenes -/

instance (world : RuntimeWorld) : DecidablePred (RuntimeAction.Spaced world) := fun action => by
  unfold RuntimeAction.Spaced
  split <;> infer_instance

namespace Demo

def performSpaced (persist : Bool) (world : RuntimeWorld) (action : RuntimeAction) :
    Option RuntimeWorld :=
  if action.Spaced world then performRuntime persist {} world action else none

/-- A key of the buyer's, whose vouchers may amount to ten, and as much in a day. -/
def keyed : List RuntimeAction :=
  [.service (Service.Demo.call (.lockUsdc Service.Demo.buyer 100)),
    .createKey "k" Service.Demo.buyer none ["request_voucher"] 10 10 1]

/-- A request for a voucher over `amount`, which bills `bill`, up to the check of the limits. -/
def asked (session : Nat) (nonce : String) (amount bill : ℚ) : List RuntimeAction :=
  [.begin session "k" nonce 0 {
      buyerIdentityId := Service.Demo.buyer, sellerIdentityId := Service.Demo.seller, amount
      billCreditAmount := bill, expiryTime := 1, nonce },
    .fetch session, .check session]

/-- The rest of the request. -/
def granted (session : Nat) (voucherId : VoucherId) : List RuntimeAction :=
  [.create session {} voucherId, .record session, .commit session]

/-- Two requests, one after the other, use up the day's limit. -/
def spaced (persist : Bool) : Scene (performSpaced persist) {} where
  actions := keyed ++ asked 0 "nonce of v" 4 4 ++ granted 0 "v" ++
    asked 1 "nonce of w" 6 6 ++ granted 1 "w"
  possible := by cases persist <;> decide +kernel

/-- A voucher over one bills a hundred. -/
def overbilled (persist : Bool) : Scene (performRuntime persist {}) {} where
  actions := keyed ++ asked 0 "nonce of v" 1 100 ++ granted 0 "v"
  possible := by cases persist <;> decide +kernel

/-- Two requests over ten each are both checked before either has been recorded. -/
def overlapping (persist : Bool) : Scene (performRuntime persist {}) {} where
  actions := keyed ++ asked 0 "nonce of v" 10 10 ++ asked 1 "nonce of w" 10 10 ++
    [.create 0 {} "v", .create 1 {} "w", .record 0, .commit 0, .record 1, .commit 1]
  possible := by cases persist <;> decide +kernel

theorem run_spaced (persist : Bool) :
    ((runtimeSystem persist {}).restrict fun world action => action.Spaced world).Run {}
      (spaced persist).actions (spaced persist).world := by
  apply (spaced persist).run
  intro world action next performed
  rw [performSpaced] at performed
  split at performed
  case isTrue admitted => exact ⟨performed, admitted⟩
  case isFalse => cases performed

/-- Vouchers of the key bill more than its limits, in a world that can be reached. -/
def Overspends (persist : Bool) (world : RuntimeWorld) : Prop :=
  (runtimeSystem persist {}).Reachable world ∧ 10 < world.billed "k" 0 ∧ ¬world.WithinLimits

theorem overspends_overbilled (persist : Bool) : Overspends persist (overbilled persist).world := by
  have single : ¬∀ voucher ∈ (overbilled persist).world.issued,
      ∀ key ∈ (overbilled persist).world.keys.get voucher.keyId,
        voucher.body.billCreditAmount ≤ key.singleLimit + epsilon := by
    cases persist <;> decide +kernel
  refine ⟨⟨_, _, rfl, (overbilled persist).run fun _ _ _ performed => performed⟩, ?_,
    fun within => single within.single⟩
  cases persist <;> decide +kernel

theorem overspends_overlapping (persist : Bool) :
    Overspends persist (overlapping persist).world := by
  have daily : ¬∀ key ∈ (overlapping persist).world.keys.get "k",
      (overlapping persist).world.billed "k" 0 ≤ key.dailyLimit + epsilon := by
    cases persist <;> decide +kernel
  refine ⟨⟨_, _, rfl, (overlapping persist).run fun _ _ _ performed => performed⟩, ?_,
    fun within => daily (within.daily "k" 0)⟩
  cases persist <;> decide +kernel

end Demo

theorem spending_limited_spaced :
    (Demo.spaced false).world.WithinLimits ∧ (Demo.spaced false).world.billed "k" 0 = 10 ∧
      (Demo.spaced true).world.WithinLimits ∧ (Demo.spaced true).world.billed "k" 0 = 10 := by
  refine ⟨spending_limited rfl (Demo.run_spaced false), ?_,
    spending_limited rfl (Demo.run_spaced true), ?_⟩
  · decide +kernel
  · decide +kernel

/-- Whether the spending is stored or not, the limits are exceeded by a single bill and by the
bills of two requests that overlap. -/
theorem not_spending_limited :
    (Demo.Overspends false (Demo.overbilled false).world ∧
        Demo.Overspends true (Demo.overbilled true).world) ∧
      Demo.Overspends false (Demo.overlapping false).world ∧
        Demo.Overspends true (Demo.overlapping true).world :=
  ⟨⟨Demo.overspends_overbilled false, Demo.overspends_overbilled true⟩,
    Demo.overspends_overlapping false, Demo.overspends_overlapping true⟩

end TrustChain.Runtime
