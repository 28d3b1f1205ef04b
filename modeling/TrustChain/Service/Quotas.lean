import TrustChain.Service.Routes

/-!
# Profile quotas

An identity allots its locked funds to its profiles, whose credits are spent and released.
Whatever was allotted stays within the lock, every profile's credits add up to its allocation,
and no allocation repeated gives released credits back, exactly in the runs in which each
allocation counts the profiles it does not name, repeats no allocation that settlements have
drawn on, and each release that is cut to what was reserved is cut without loss.
-/

namespace TrustChain.Service

open Library

/-! ## The system -/

/-- The database, with what the last allocations saw. -/
structure QuotaWorld where
  db : Db := {}
  /-- The `total_locked_usdc` of an identity at its last allocation. -/
  lockedAt : IdentityId → ℚ := fun _ => 0
  /-- The `released_credits` of a profile at its last allocation. -/
  releasedAt : ProfileId → ℚ := fun _ => 0

inductive QuotaAction where
  | allocate (request : Request) (identityId : IdentityId) (allocations : List (ProfileId × ℚ))
  | spendProfileCredits (profileId : ProfileId) (amount : ℚ)
  | releaseProfileCredits (profileId : ProfileId) (settledAmount refundedAmount : ℚ)
  | lockUsdc (request : Request) (identityId : IdentityId) (amount : ℚ)
  | releaseUnused (request : Request) (identityId : IdentityId) (amount : ℚ)

def Db.releasedCredits (db : Db) (profileId : ProfileId) : ℚ :=
  (db.profiles.get profileId).elim 0 ProfileCapacity.releasedCredits

/-- The profiles that a list of allocations names. -/
abbrev profilesNamed (allocations : List (ProfileId × ℚ)) : List ProfileId :=
  allocations.map Prod.fst

def QuotaWorld.allocated (world : QuotaWorld) (identityId : IdentityId)
    (allocations : List (ProfileId × ℚ)) (db : Db) : QuotaWorld where
  db
  lockedAt := Function.update world.lockedAt identityId (db.credits identityId).totalLockedUsdc
  releasedAt profileId :=
    if profileId ∈ profilesNamed allocations then db.releasedCredits profileId
    else world.releasedAt profileId

/-- The allocations come as a mapping, so that no profile is named twice. -/
def performQuota (world : QuotaWorld) : QuotaAction → Option QuotaWorld
  | .allocate request identityId allocations =>
      if (profilesNamed allocations).Nodup then
        (allocate request world.db identityId allocations).toOption.map
          (world.allocated identityId allocations)
      else none
  | .spendProfileCredits profileId amount =>
      (spendProfileCredits world.db profileId amount).toOption.map fun db => { world with db }
  | .releaseProfileCredits profileId settledAmount refundedAmount =>
      some { world with db := releaseProfileCredits world.db profileId settledAmount refundedAmount }
  | .lockUsdc request identityId amount =>
      (lockUsdc request world.db identityId amount).toOption.map fun db => { world with db }
  | .releaseUnused request identityId amount =>
      (releaseUnused request world.db identityId amount).toOption.map fun db => { world with db }

/-- From no capacity and no quotas, with any role profiles. -/
def quotaSystem : TransitionSystem QuotaWorld QuotaAction where
  Init world := ∃ roleProfiles, world = { db := { roleProfiles } }
  Step world action next := performQuota world action = some next

/-! ## What is conserved -/

/-- What a row counts for an identity, unless its profile is named. -/
def quotaOutside (identityId : IdentityId) (named : List ProfileId) (profileId : ProfileId)
    (row : ProfileCapacity) : ℚ :=
  if row.ownerIdentityId = identityId ∧ profileId ∉ named then row.allocatedCredits else 0

/-- The sum of the allocations of an identity's profiles that are not named. -/
def Db.allocatedOutside (db : Db) (identityId : IdentityId) (named : List ProfileId) : ℚ :=
  db.profiles.total (quotaOutside identityId named)

/-- The sum of the allocations of all profiles of an identity. -/
def Db.allocated (db : Db) (identityId : IdentityId) : ℚ := db.allocatedOutside identityId []

/-- The credits of a row, with those released since its last allocation. -/
def ProfileCapacity.creditsSince (row : ProfileCapacity) (releasedAt : ℚ) : ℚ :=
  row.availableCredits + row.inUse + (row.releasedCredits - releasedAt)

structure QuotaWorld.Conserves (world : QuotaWorld) : Prop where
  withinLock : ∀ identityId, world.db.allocated identityId ≤ world.lockedAt identityId
  addsUp : world.db.profiles.Every fun profileId row =>
    row.creditsSince (world.releasedAt profileId) = row.allocatedCredits

/-- Allocating what a profile has already makes more of it available. -/
def QuotaAction.OffersReleased (world : QuotaWorld) (action : QuotaAction) (next : QuotaWorld) :
    Prop :=
  match action with
  | .allocate _ _ allocations => ∃ profileId row after,
      world.db.profiles.get profileId = some row ∧
      (profileId, row.allocatedCredits) ∈ allocations ∧
      next.db.profiles.get profileId = some after ∧ row.availableCredits < after.availableCredits
  | _ => False

/-- A release of more than is in progress is cut to shares that add up to it. -/
def CutsExactly (inProgress settledAmount refundedAmount : ℚ) : Prop :=
  let settled := max 0 settledAmount
  let refunded := max 0 refundedAmount
  0 < inProgress → inProgress + epsilon < settled + refunded →
    roundTo 8 (settled * (inProgress / (settled + refunded))) +
      roundTo 8 (refunded * (inProgress / (settled + refunded))) = inProgress

def QuotaAction.Sparing (world : QuotaWorld) : QuotaAction → Prop
  | .allocate _ identityId allocations =>
      (allocations.map Prod.snd).sum +
          world.db.allocatedOutside identityId (profilesNamed allocations) ≤
        (world.db.credits identityId).totalLockedUsdc ∧
      ∀ allocation ∈ allocations, ∀ row ∈ world.db.profiles.get allocation.1,
        row.allocatedCredits = allocation.2 → row.releasedCredits = world.releasedAt allocation.1
  | .releaseProfileCredits profileId settledAmount refundedAmount =>
      ∀ row ∈ world.db.profiles.get profileId,
        CutsExactly row.inProgressCredits settledAmount refundedAmount
  | _ => True

/-! ## Allocations -/

section Allocations

variable {request : Request} {db next : Db} {identityId other : IdentityId}
  {profileId : ProfileId} {amount : ℚ} {allocations : List (ProfileId × ℚ)}

/-- The row of a profile after an allocation to it. -/
def allocatedRow (old : Option ProfileCapacity) (identityId : IdentityId) (amount : ℚ) :
    ProfileCapacity :=
  match old with
  | none =>
      { ownerIdentityId := identityId, allocatedCredits := amount, availableCredits := amount }
  | some row => { row with allocatedCredits := amount, availableCredits := amount - row.inUse }

@[simp] theorem allocatedRow_allocatedCredits (old : Option ProfileCapacity)
    (identityId : IdentityId) (amount : ℚ) :
    (allocatedRow old identityId amount).allocatedCredits = amount := by
  cases old <;> rfl

def Db.withAllocation (db : Db) (identityId : IdentityId) (allocation : ProfileId × ℚ) : Db :=
  db.setProfile allocation.1 (allocatedRow (db.profiles.get allocation.1) identityId allocation.2)

def Db.withAllocations (db : Db) (identityId : IdentityId) (allocations : List (ProfileId × ℚ)) :
    Db :=
  allocations.foldl (fun db allocation => db.withAllocation identityId allocation) db

theorem allocateOne_ok {allocation : ProfileId × ℚ}
    (ran : allocateOne identityId db allocation = .ok next) :
    db.roleProfiles allocation.1 = some identityId ∧
      next = db.withAllocation identityId allocation := by
  simp only [allocateOne, require_bind_eq_ok] at ran
  obtain ⟨owned, ran⟩ := ran
  refine ⟨owned, ?_⟩
  rw [Db.withAllocation]
  split at ran
  · next none =>
      rw [none]
      exact (Except.ok.inj ran).symm
  · next row there =>
      rw [there]
      exact (Except.ok.inj (require_bind_eq_ok.mp ran).2).symm

theorem allocateAll_ok (ran : allocations.foldlM (allocateOne identityId) db = .ok next) :
    (∀ allocation ∈ allocations, db.roleProfiles allocation.1 = some identityId) ∧
      next = db.withAllocations identityId allocations := by
  induction allocations generalizing db with
  | nil => exact ⟨nofun, (Except.ok.inj ran).symm⟩
  | cons allocation rest ih =>
      rw [List.foldlM_cons, bind_eq_ok] at ran
      obtain ⟨middle, first, later⟩ := ran
      obtain ⟨owned, rfl⟩ := allocateOne_ok first
      obtain ⟨others, rfl⟩ := ih later
      exact ⟨List.forall_mem_cons.mpr ⟨owned, others⟩, rfl⟩

theorem allocate_eq_ok (ran : allocate request db identityId allocations = .ok next) :
    (∀ allocation ∈ allocations, db.roleProfiles allocation.1 = some identityId) ∧
      next = db.withAllocations identityId allocations := by
  simp only [allocate, bind_eq_ok] at ran
  obtain ⟨_, -, _, -, ran⟩ := ran
  split at ran
  · cases ran
  · exact allocateAll_ok (require_bind_eq_ok.mp ran).2

@[simp] theorem withAllocations_cons (allocation : ProfileId × ℚ) :
    db.withAllocations identityId (allocation :: allocations) =
      (db.withAllocation identityId allocation).withAllocations identityId allocations := rfl

theorem withAllocations_eq : ∃ profiles,
    db.withAllocations identityId allocations = { db with profiles } := by
  induction allocations generalizing db with
  | nil => exact ⟨db.profiles, rfl⟩
  | cons allocation rest ih =>
      rw [withAllocations_cons]
      exact ih

theorem withAllocations_get_of_notMem (unnamed : profileId ∉ profilesNamed allocations) :
    (db.withAllocations identityId allocations).profiles.get profileId =
      db.profiles.get profileId := by
  induction allocations generalizing db with
  | nil => rfl
  | cons allocation rest ih =>
      rw [profilesNamed, List.map_cons, List.mem_cons, not_or] at unnamed
      obtain ⟨different, unnamed⟩ := unnamed
      rw [withAllocations_cons, ih unnamed]
      exact Table.get_set_of_ne different

theorem withAllocations_get_of_mem (distinct : (profilesNamed allocations).Nodup)
    (named : (profileId, amount) ∈ allocations) :
    (db.withAllocations identityId allocations).profiles.get profileId =
      some (allocatedRow (db.profiles.get profileId) identityId amount) := by
  induction allocations generalizing db with
  | nil => cases named
  | cons allocation rest ih =>
      obtain ⟨fresh, distinct⟩ := List.nodup_cons.mp distinct
      rw [withAllocations_cons]
      rcases List.mem_cons.mp named with rfl | later
      · rw [withAllocations_get_of_notMem fresh]
        exact Table.get_set_self _ _ _
      · have different : profileId ≠ allocation.1 := fun same =>
          fresh (same ▸ List.mem_map_of_mem later)
        rw [ih distinct later]
        exact congrArg (fun old => some (allocatedRow old identityId amount))
          (Table.get_set_of_ne different)

/-- Every quota belongs to the owner of its profile. -/
def Db.Owned (db : Db) : Prop :=
  db.profiles.Every fun profileId row => db.roleProfiles profileId = some row.ownerIdentityId

theorem allocatedRow_owner (owned : db.Owned) (role : db.roleProfiles profileId = some identityId) :
    (allocatedRow (db.profiles.get profileId) identityId amount).ownerIdentityId = identityId := by
  cases there : db.profiles.get profileId with
  | none => rfl
  | some row => exact Option.some.inj ((owned profileId row there).symm.trans role)

theorem Db.Owned.withAllocation {allocation : ProfileId × ℚ} (owned : db.Owned)
    (role : db.roleProfiles allocation.1 = some identityId) :
    (db.withAllocation identityId allocation).Owned := by
  refine Table.Every.set owned ?_
  rw [allocatedRow_owner owned role]
  exact role

theorem Db.Owned.withAllocations (owned : db.Owned)
    (roles : ∀ allocation ∈ allocations, db.roleProfiles allocation.1 = some identityId) :
    (db.withAllocations identityId allocations).Owned := by
  induction allocations generalizing db with
  | nil => exact owned
  | cons allocation rest ih =>
      obtain ⟨role, roles⟩ := List.forall_mem_cons.mp roles
      exact ih (owned.withAllocation role) roles

/-- What the identity has allotted afterwards: the amounts, and the profiles not named. -/
theorem allocated_withAllocations (owned : db.Owned)
    (roles : ∀ allocation ∈ allocations, db.roleProfiles allocation.1 = some identityId)
    (distinct : (profilesNamed allocations).Nodup) :
    (db.withAllocations identityId allocations).allocated identityId =
      (allocations.map Prod.snd).sum +
        db.allocatedOutside identityId (profilesNamed allocations) := by
  induction allocations generalizing db with
  | nil => exact (zero_add _).symm
  | cons allocation rest ih =>
      obtain ⟨fresh, distinct⟩ := List.nodup_cons.mp distinct
      obtain ⟨role, roles⟩ := List.forall_mem_cons.mp roles
      have first : (db.withAllocation identityId allocation).allocatedOutside identityId
            (profilesNamed rest) =
          allocation.2 + db.allocatedOutside identityId (profilesNamed (allocation :: rest)) := by
        have counted : quotaOutside identityId (profilesNamed rest) allocation.1
            (allocatedRow (db.profiles.get allocation.1) identityId allocation.2) =
              allocation.2 := by
          rw [quotaOutside, if_pos ⟨allocatedRow_owner owned role, fresh⟩,
            allocatedRow_allocatedCredits]
        have uncounted : (db.profiles.get allocation.1).elim 0
            (quotaOutside identityId (profilesNamed (allocation :: rest)) allocation.1) = 0 := by
          cases db.profiles.get allocation.1 with
          | none => rfl
          | some old => exact if_neg fun outside => outside.2 List.mem_cons_self
        have exchanged := Table.total_set_exchange db.profiles allocation.1
          (allocatedRow (db.profiles.get allocation.1) identityId allocation.2)
          (quotaOutside identityId (profilesNamed rest))
          (quotaOutside identityId (profilesNamed (allocation :: rest)))
          fun found old different => by
            have outside : found ∉ profilesNamed (allocation :: rest) ↔
                found ∉ profilesNamed rest := by
              rw [profilesNamed, List.map_cons, List.mem_cons, or_iff_right different]
            simp only [quotaOutside, outside]
        rwa [uncounted, counted, add_zero, add_comm] at exchanged
      rw [withAllocations_cons, ih (owned.withAllocation role) roles distinct, first,
        List.map_cons, List.sum_cons]
      ring

/-- The profiles of other identities are left as they are. -/
theorem allocated_withAllocations_of_ne (owned : db.Owned)
    (roles : ∀ allocation ∈ allocations, db.roleProfiles allocation.1 = some identityId)
    (different : other ≠ identityId) :
    (db.withAllocations identityId allocations).allocated other = db.allocated other := by
  have uncounted : ∀ {profileId row}, row.ownerIdentityId = identityId →
      quotaOutside other [] profileId row = 0 := fun owner =>
    if_neg fun counted => different (counted.1.symm.trans owner)
  induction allocations generalizing db with
  | nil => rfl
  | cons allocation rest ih =>
      obtain ⟨role, roles⟩ := List.forall_mem_cons.mp roles
      rw [withAllocations_cons, ih (owned.withAllocation role) roles]
      apply Table.total_set_same
      rw [uncounted (allocatedRow_owner owned role)]
      cases there : db.profiles.get allocation.1 with
      | none => rfl
      | some row =>
          exact (uncounted (Option.some.inj ((owned _ row there).symm.trans role))).symm

end Allocations

/-! ## Spending and releasing -/

section Quotas

variable {db next : Db} {profileId : ProfileId} {row : ProfileCapacity} {amount : ℚ}
  {settledAmount refundedAmount : ℚ}

/-- The row of a profile when an amount of its available credits is spent. -/
def ProfileCapacity.spend (row : ProfileCapacity) (amount : ℚ) : ProfileCapacity :=
  { row with
    availableCredits := row.availableCredits - amount
    inProgressCredits := row.inProgressCredits + amount }

theorem spendProfileCredits_ok (ran : spendProfileCredits db profileId amount = .ok next) :
    ∃ row, db.profiles.get profileId = some row ∧
      next = db.setProfile profileId (row.spend amount) := by
  unfold spendProfileCredits at ran
  split at ran
  · cases ran
  · next row there => exact ⟨row, there, (Except.ok.inj (require_bind_eq_ok.mp ran).2).symm⟩

/-- The row of a profile when `total` is taken from its credits in progress. -/
def ProfileCapacity.releaseShares (row : ProfileCapacity) (total settled refunded : ℚ) :
    ProfileCapacity :=
  { row with
    availableCredits := row.availableCredits + refunded
    inProgressCredits := row.inProgressCredits - total
    releasedCredits := row.releasedCredits + settled }

/-- A release takes nothing, or an amount in two shares, which add up to it exactly if a cut
is exact. -/
theorem releaseProfileCredits_cases (there : db.profiles.get profileId = some row) :
    (releaseProfileCredits db profileId settledAmount refundedAmount = db ∧
        CutsExactly row.inProgressCredits settledAmount refundedAmount) ∨
      ∃ total settled refunded, 0 ≤ settled ∧
        (CutsExactly row.inProgressCredits settledAmount refundedAmount ↔
          settled + refunded = total) ∧
        releaseProfileCredits db profileId settledAmount refundedAmount =
          db.setProfile profileId (row.releaseShares total settled refunded) := by
  have taken : ∀ total settled {refunded : ℚ}, 0 ≤ refunded → db.setProfile profileId { row with
        inProgressCredits := row.inProgressCredits - total
        releasedCredits := row.releasedCredits + settled
        availableCredits :=
          if 0 < refunded then row.availableCredits + refunded else row.availableCredits } =
      db.setProfile profileId (row.releaseShares total settled refunded) := by
    intro total settled refunded nonneg
    rcases nonneg.lt_or_eq with positive | rfl
    · rw [if_pos positive]
      rfl
    · simp [ProfileCapacity.releaseShares]
  have settledNonneg : 0 ≤ max 0 settledAmount := le_max_left _ _
  have refundedNonneg : 0 ≤ max 0 refundedAmount := le_max_left _ _
  have slack : (0 : ℚ) < epsilon := by norm_num [epsilon]
  simp only [releaseProfileCredits, there, CutsExactly]
  generalize max 0 settledAmount = settled at *
  generalize max 0 refundedAmount = refunded at *
  split
  case isTrue exceeds =>
    split
    case isTrue none => exact .inl ⟨rfl, fun some => absurd some none.not_gt⟩
    case isFalse some =>
      have positive := not_le.mp some
      have whole : 0 < settled + refunded := by linarith
      rw [if_pos whole]
      have scale : 0 ≤ row.inProgressCredits / (settled + refunded) :=
        div_nonneg positive.le whole.le
      refine .inr ⟨_, _, _, roundTo_nonneg (mul_nonneg settledNonneg scale), ?_,
        taken _ _ (roundTo_nonneg (mul_nonneg refundedNonneg scale))⟩
      exact ⟨fun exactly => exactly positive exceeds, fun exactly _ _ => exactly⟩
  case isFalse within =>
    refine .inr ⟨_, settled, refunded, settledNonneg, ?_, taken _ _ refundedNonneg⟩
    exact ⟨fun _ => rfl, fun _ _ exceeds => absurd exceeds within⟩

end Quotas

/-! ## Every step -/

/-- Quotas belong to the owners of their profiles, and what was released stays released. -/
structure QuotaWorld.Sound (world : QuotaWorld) : Prop where
  owned : world.db.Owned
  released : world.db.profiles.Every fun profileId row =>
    world.releasedAt profileId ≤ row.releasedCredits

section Steps

variable {world next : QuotaWorld} {action : QuotaAction} {profileId : ProfileId}
  {row after : ProfileCapacity} {identityId : IdentityId} {allocations : List (ProfileId × ℚ)}
  {request : Request} {db : Db}

/-- A row stored with the same owner and allocation need only add up itself. -/
theorem conserves_setProfile_iff (conserves : world.Conserves)
    (there : world.db.profiles.get profileId = some row)
    (owner : after.ownerIdentityId = row.ownerIdentityId)
    (allocated : after.allocatedCredits = row.allocatedCredits) :
    ({ world with db := world.db.setProfile profileId after } : QuotaWorld).Conserves ↔
      after.creditsSince (world.releasedAt profileId) = after.allocatedCredits := by
  constructor
  · exact fun kept => kept.addsUp profileId after (Table.get_set_self _ _ _)
  · intro adds
    refine ⟨fun identityId => ?_, conserves.addsUp.set adds⟩
    have same : (world.db.setProfile profileId after).allocated identityId =
        world.db.allocated identityId := by
      apply Table.total_set_same
      rw [there, Option.elim_some, quotaOutside, quotaOutside, owner, allocated]
    exact same.trans_le (conserves.withinLock identityId)

theorem sound_setProfile (sound : world.Sound)
    (there : world.db.profiles.get profileId = some row)
    (owner : after.ownerIdentityId = row.ownerIdentityId)
    (released : row.releasedCredits ≤ after.releasedCredits) :
    ({ world with db := world.db.setProfile profileId after } : QuotaWorld).Sound := by
  constructor
  · refine sound.owned.set ?_
    rw [owner]
    exact sound.owned profileId row there
  · exact sound.released.set ((sound.released profileId row there).trans released)

/-- The capacity rows hold no quotas. -/
theorem kept_setCapacity {cap : Capacity} :
    (({ world with db := world.db.setCapacity identityId cap } : QuotaWorld).Sound ↔
        world.Sound) ∧
      (({ world with db := world.db.setCapacity identityId cap } : QuotaWorld).Conserves ↔
        world.Conserves) :=
  ⟨⟨fun ⟨owned, released⟩ => ⟨owned, released⟩, fun ⟨owned, released⟩ => ⟨owned, released⟩⟩,
    ⟨fun ⟨withinLock, addsUp⟩ => ⟨withinLock, addsUp⟩,
      fun ⟨withinLock, addsUp⟩ => ⟨withinLock, addsUp⟩⟩⟩

/-- A row after an allocation: a new one for a profile named, and the old one otherwise. -/
theorem withAllocations_row (distinct : (profilesNamed allocations).Nodup)
    (there : (db.withAllocations identityId allocations).profiles.get profileId = some row) :
    (profileId ∈ profilesNamed allocations ∧ ∃ amount,
        row = allocatedRow (db.profiles.get profileId) identityId amount) ∨
      (profileId ∉ profilesNamed allocations ∧ db.profiles.get profileId = some row) := by
  by_cases named : profileId ∈ profilesNamed allocations
  · obtain ⟨⟨_, amount⟩, inside, rfl⟩ := List.mem_map.mp named
    rw [withAllocations_get_of_mem distinct inside] at there
    exact .inl ⟨named, amount, (Option.some.inj there).symm⟩
  · rw [withAllocations_get_of_notMem named] at there
    exact .inr ⟨named, there⟩

@[simp] theorem allocatedRow_creditsSince (old : Option ProfileCapacity)
    (identityId : IdentityId) (amount : ℚ) :
    (allocatedRow old identityId amount).creditsSince
      (allocatedRow old identityId amount).releasedCredits = amount := by
  cases old with
  | none => simp [allocatedRow, ProfileCapacity.creditsSince, ProfileCapacity.inUse]
  | some row => simp [allocatedRow, ProfileCapacity.creditsSince, ProfileCapacity.inUse]

theorem releasedCredits_of_get (there : db.profiles.get profileId = some row) :
    db.releasedCredits profileId = row.releasedCredits := by
  rw [Db.releasedCredits, there, Option.elim_some]

section Allocate

variable (roles : ∀ allocation ∈ allocations, world.db.roleProfiles allocation.1 = some identityId)
  (distinct : (profilesNamed allocations).Nodup)

include roles distinct

theorem sound_allocated (sound : world.Sound) : (world.allocated identityId allocations
    (world.db.withAllocations identityId allocations)).Sound := by
  refine ⟨sound.owned.withAllocations roles, fun profileId row there => ?_⟩
  simp only [QuotaWorld.allocated] at there ⊢
  rcases withAllocations_row distinct there with ⟨named, -⟩ | ⟨unnamed, before⟩
  · rw [if_pos named, releasedCredits_of_get there]
  · rw [if_neg unnamed]
    exact sound.released profileId row before

/-- After an allocation every row adds up, and the identity is within its lock if the amounts
and the profiles not named are. -/
theorem conserves_allocated_iff (sound : world.Sound) (conserves : world.Conserves) :
    (world.allocated identityId allocations
        (world.db.withAllocations identityId allocations)).Conserves ↔
      (allocations.map Prod.snd).sum +
          world.db.allocatedOutside identityId (profilesNamed allocations) ≤
        (world.db.credits identityId).totalLockedUsdc := by
  have total := allocated_withAllocations sound.owned roles distinct
  have locked : ((world.db.withAllocations identityId allocations).credits identityId) =
      world.db.credits identityId := by
    obtain ⟨profiles, same⟩ : ∃ profiles, world.db.withAllocations identityId allocations =
        { world.db with profiles } := withAllocations_eq
    rw [same]
    rfl
  constructor
  · intro kept
    have within := kept.withinLock identityId
    simp only [QuotaWorld.allocated, Function.update_self] at within
    rwa [← total, ← locked]
  · intro within
    refine ⟨fun other => ?_, fun profileId row there => ?_⟩
    · simp only [QuotaWorld.allocated]
      by_cases same : other = identityId
      · subst same
        rw [Function.update_self, total, locked]
        exact within
      · rw [Function.update_of_ne same, allocated_withAllocations_of_ne sound.owned roles same]
        exact conserves.withinLock other
    · simp only [QuotaWorld.allocated] at there ⊢
      rcases withAllocations_row distinct there with ⟨named, amount, rfl⟩ | ⟨unnamed, before⟩
      · rw [if_pos named, releasedCredits_of_get there, allocatedRow_creditsSince,
          allocatedRow_allocatedCredits]
      · rw [if_neg unnamed]
        exact conserves.addsUp profileId row before

omit roles in
/-- Repeating an allocation makes available what was released since the last one. -/
theorem offersReleased_iff (sound : world.Sound) (conserves : world.Conserves) :
    (QuotaAction.allocate request identityId allocations).OffersReleased world
        (world.allocated identityId allocations
          (world.db.withAllocations identityId allocations)) ↔
      ∃ allocation ∈ allocations, ∃ row ∈ world.db.profiles.get allocation.1,
        row.allocatedCredits = allocation.2 ∧
          row.releasedCredits ≠ world.releasedAt allocation.1 := by
  have grows : ∀ profileId row, world.db.profiles.get profileId = some row →
      (row.availableCredits <
          (allocatedRow (some row) identityId row.allocatedCredits).availableCredits ↔
        row.releasedCredits ≠ world.releasedAt profileId) := by
    intro profileId row there
    have adds := conserves.addsUp profileId row there
    have released := sound.released profileId row there
    rw [ne_comm, ← released.lt_iff_ne]
    simp only [ProfileCapacity.creditsSince] at adds
    simp only [allocatedRow]
    constructor <;> intro less <;> linarith
  constructor
  · rintro ⟨profileId, row, after, there, inside, now, less⟩
    simp only [QuotaWorld.allocated] at now
    rw [withAllocations_get_of_mem distinct inside, there] at now
    obtain rfl := Option.some.inj now
    exact ⟨_, inside, row, there, rfl, (grows profileId row there).mp less⟩
  · rintro ⟨⟨profileId, _⟩, inside, row, there, rfl, released⟩
    have now : (world.db.withAllocations identityId allocations).profiles.get profileId = _ :=
      withAllocations_get_of_mem distinct inside
    rw [there] at now
    exact ⟨profileId, row, _, there, inside, now, (grows profileId row there).mpr released⟩

end Allocate

/-- A step leaves the rows sound, and keeps what is conserved and offers nothing again exactly if
it is sparing. -/
theorem quota_step (sound : world.Sound) (step : performQuota world action = some next) :
    next.Sound ∧ (world.Conserves →
      (action.Sparing world ↔ next.Conserves ∧ ¬action.OffersReleased world next)) := by
  cases action with
  | allocate request identityId allocations =>
      simp only [performQuota] at step
      split at step
      case isFalse => cases step
      case isTrue distinct =>
        obtain ⟨db, ran, rfl⟩ := Option.map_eq_some_iff.mp step
        obtain ⟨roles, rfl⟩ := allocate_eq_ok (toOption_eq_some.mp ran)
        refine ⟨sound_allocated roles distinct sound, fun conserves => ?_⟩
        rw [conserves_allocated_iff roles distinct sound conserves,
          offersReleased_iff distinct sound conserves]
        refine and_congr_right fun _ => ?_
        simp only [Option.mem_def, not_exists, not_and, ne_eq, not_not]
  | spendProfileCredits profileId amount =>
      obtain ⟨db, ran, rfl⟩ := Option.map_eq_some_iff.mp step
      obtain ⟨row, there, rfl⟩ := spendProfileCredits_ok (toOption_eq_some.mp ran)
      refine ⟨sound_setProfile sound there rfl le_rfl, fun conserves => ?_⟩
      have adds := conserves.addsUp profileId row there
      refine iff_of_true trivial ⟨?_, id⟩
      refine (conserves_setProfile_iff conserves there ?_ ?_).mpr ?_
      · rfl
      · rfl
      · simp only [ProfileCapacity.creditsSince, ProfileCapacity.inUse,
          ProfileCapacity.spend] at adds ⊢
        linarith
  | releaseProfileCredits profileId settledAmount refundedAmount =>
      obtain rfl := Option.some.inj step
      simp only [QuotaAction.Sparing, QuotaAction.OffersReleased, not_false_eq_true, and_true]
      cases there : world.db.profiles.get profileId with
      | none => simp [releaseProfileCredits, there, sound]
      | some row =>
          simp only [Option.mem_def, Option.some.injEq, forall_eq']
          rcases releaseProfileCredits_cases there with ⟨same, exactly⟩ |
            ⟨total, settled, refunded, nonneg, exactly, moved⟩
          · rw [same]
            exact ⟨sound, iff_of_true exactly⟩
          · rw [moved, exactly]
            refine ⟨sound_setProfile sound there rfl (le_add_of_nonneg_right nonneg), ?_⟩
            intro conserves
            have adds := conserves.addsUp profileId row there
            refine Iff.trans ?_ (conserves_setProfile_iff conserves there ?_ ?_).symm
            · simp only [ProfileCapacity.creditsSince, ProfileCapacity.inUse,
                ProfileCapacity.releaseShares] at adds ⊢
              constructor <;> intro equal <;> linarith
            · rfl
            · rfl
  | lockUsdc request identityId amount =>
      obtain ⟨db, ran, rfl⟩ := Option.map_eq_some_iff.mp step
      obtain ⟨-, rfl⟩ := lockUsdc_ok (toOption_eq_some.mp ran)
      refine ⟨kept_setCapacity.1.mpr sound, fun conserves => ?_⟩
      exact iff_of_true trivial ⟨kept_setCapacity.2.mpr conserves, id⟩
  | releaseUnused request identityId amount =>
      obtain ⟨db, ran, rfl⟩ := Option.map_eq_some_iff.mp step
      obtain ⟨cap, -, -, -, rfl⟩ := releaseUnused_ok (toOption_eq_some.mp ran)
      refine ⟨kept_setCapacity.1.mpr sound, fun conserves => ?_⟩
      exact iff_of_true trivial ⟨kept_setCapacity.2.mpr conserves, id⟩

end Steps

/-! ## Every run -/

section Runs

variable {world start finish : QuotaWorld} {actions : List QuotaAction}

theorem quota_initially (initial : quotaSystem.Init world) : world.Sound ∧ world.Conserves := by
  obtain ⟨roleProfiles, rfl⟩ := initial
  exact ⟨⟨Table.every_empty _, Table.every_empty _⟩, ⟨fun _ => le_rfl, Table.every_empty _⟩⟩

theorem quota_reachable_sound (reachable : quotaSystem.Reachable world) : world.Sound :=
  reachable.invariant (fun _ initial => (quota_initially initial).1)
    fun _ _ _ _ sound step => (quota_step sound step).1

end Runs

/-! ## Scenes -/

instance (inProgress settledAmount refundedAmount : ℚ) :
    Decidable (CutsExactly inProgress settledAmount refundedAmount) := by
  unfold CutsExactly
  infer_instance

instance (world : QuotaWorld) : DecidablePred (QuotaAction.Sparing world) := fun action => by
  unfold QuotaAction.Sparing
  split <;> infer_instance

namespace Demo

def performSparing (world : QuotaWorld) (action : QuotaAction) : Option QuotaWorld :=
  if action.Sparing world then performQuota world action else none

/-- Every profile is one of the buyer's. -/
def owner : QuotaWorld := { db := { roleProfiles := fun _ => some buyer } }

def allot (allocations : List (ProfileId × ℚ)) : QuotaAction :=
  .allocate { actor := some buyer } buyer allocations

/-- A hundred are locked and allotted to a profile, which spends forty of them. -/
def quotaSpent : List QuotaAction :=
  [.lockUsdc {} buyer 100, allot [("p", 100)], .spendProfileCredits "p" 40]

/-- The forty are settled, and the profile's allocation is cut in favour of another. -/
def allottedSparingly : Scene performSparing owner where
  actions := quotaSpent ++ [.releaseProfileCredits "p" 40 0, allot [("p", 60), ("q", 40)]]
  possible := by decide +kernel

/-- The hundred are allotted again to another profile. -/
def allottedTwice : Scene performQuota owner where
  actions := quotaSpent ++ [allot [("q", 100)]]
  possible := by decide +kernel

/-- All that is in progress is the last decimal place, and it is shared in halves. -/
def cutInHalves : Scene performQuota owner where
  actions := [.lockUsdc {} buyer 100, allot [("p", 100)],
    .spendProfileCredits "p" (1 / 10 ^ 8), .releaseProfileCredits "p" 1 1]
  possible := by decide +kernel

def quotaReleased : Scene performQuota owner where
  actions := quotaSpent ++ [.releaseProfileCredits "p" 40 0]
  possible := by decide +kernel

/-- The same hundred are allotted to the profile once more. -/
def allottedAgain : Scene performQuota owner := quotaReleased.next (allot [("p", 100)])
  (by decide +kernel)

/-- The quota of the profile, of which so much is available, in progress and released. -/
def quotaRow (availableCredits inProgressCredits releasedCredits : ℚ) : ProfileCapacity where
  ownerIdentityId := buyer
  allocatedCredits := 100
  availableCredits
  inProgressCredits
  releasedCredits

end Demo

end TrustChain.Service
