import TrustChain.SecurityPolicy.Governance

/-!
# Reigns

One policy reigns after the other, unless the active policy is promoted once more. The archived
policies tell by their percentage whether they were archived as active ones, and by their
timestamp when they were promoted; a rollback reads the timestamp alone.
-/

namespace TrustChain.SecurityPolicy

open Library

variable {policies : Policies} {reigns : List (PolicyId × Time)} {clock now : Time}

/-- Where a row stands, given when it last became active. -/
structure SecurityThresholdPolicy.Placed (row : SecurityThresholdPolicy) (reign : Option Time) :
    Prop where
  unused : row.status = .draft → reign = none
  serving : row.status = .active → row.rolloutPercent = 100
  full : row.status ≠ .draft → row.rolloutPercent = 100 → row.activatedAt = reign ∧ reign.isSome
  part : row.status ≠ .draft → row.rolloutPercent ≠ 100 →
    ∃ promoted, row.activatedAt = some promoted ∧ ∀ earlier ∈ reign, earlier < promoted

/-- The active policy is the one whose reign began last, and the rows fit the reigns. -/
structure Succession (policies : Policies) (reigns : List (PolicyId × Time)) (clock : Time) :
    Prop where
  placed : ∀ policyId row, policies.get policyId = some row → row.Placed (reigns.lookup policyId)
  known : ∀ reign ∈ reigns, (policies.get reign.1).isSome
  current : ∀ policyId row, policies.get policyId = some row →
    (row.status = .active ↔ reigns.head?.map Prod.fst = some policyId)
  ordered : reigns.Pairwise fun later earlier => earlier.2 < later.2
  past : ∀ reign ∈ reigns, reign.2 ≤ clock
  apart : reigns.IsChain fun later earlier => later.1 ≠ earlier.1

/-- A rollback that names no policy to go back to. -/
def Operation.Unnamed : Operation → Prop
  | .rollback targetPolicyId => given targetPolicyId = none
  | .activate _ | .setCandidate _ _ => False

instance : DecidablePred Operation.Unnamed
  | .rollback targetPolicyId => inferInstanceAs (Decidable (given targetPolicyId = none))
  | .activate _ | .setCandidate _ _ => isFalse id

/-- An operation promotes a policy that is not active. A rollback that names none finds a policy
that was archived as the active one, and the policy active before is not the candidate now. -/
structure Operation.Sound (operation : Operation) (policies : Policies)
    (reigns : List (PolicyId × Time)) : Prop where
  inactive : ∀ policyId ∈ operation.target policies, ∀ row ∈ policies.get policyId,
    row.status ≠ .active
  served : operation.Unnamed → ∀ policyId ∈ operation.target policies,
    ∀ row ∈ policies.get policyId, row.rolloutPercent = 100
  waiting : operation.Unnamed → ∀ previous ∈ (reigns.map Prod.fst)[1]?,
    ∀ row ∈ policies.get previous, row.status ≠ .candidate

instance (operation : Operation) (policies : Policies) (reigns : List (PolicyId × Time)) :
    Decidable (operation.Sound policies reigns) :=
  decidable_of_iff
    ((∀ policyId ∈ operation.target policies, ∀ row ∈ policies.get policyId,
        row.status ≠ .active) ∧
      (operation.Unnamed → ∀ policyId ∈ operation.target policies,
        ∀ row ∈ policies.get policyId, row.rolloutPercent = 100) ∧
      (operation.Unnamed → ∀ previous ∈ (reigns.map Prod.fst)[1]?,
        ∀ row ∈ policies.get previous, row.status ≠ .candidate))
    ⟨fun sound => ⟨sound.1, sound.2.1, sound.2.2⟩,
      fun sound => ⟨sound.inactive, sound.served, sound.waiting⟩⟩

/-- The operation that the action comes to, if any, is a sound one. -/
def Action.Sound (action : Action) (world : World) : Prop :=
  ∀ operation ∈ action.call.operation world.center,
    operation.Sound world.center.policies world.chronicle.reigns

instance (action : Action) (world : World) : Decidable (action.Sound world) :=
  inferInstanceAs (Decidable (∀ _ ∈ _, _))

/-! ## Looking up a reign -/

section Lookup

variable {policyId other : PolicyId} {began : Time}

theorem mem_of_lookup (found : reigns.lookup policyId = some began) : (policyId, began) ∈ reigns := by
  induction reigns with
  | nil => cases found
  | cons first rest ih =>
      obtain ⟨holder, time⟩ := first
      rw [List.lookup_cons] at found
      by_cases here : policyId = holder
      · subst here
        simp only [beq_self_eq_true] at found
        obtain rfl := Option.some.inj found
        exact List.mem_cons_self
      · simp only [beq_eq_false_iff_ne.mpr here] at found
        exact List.mem_cons_of_mem _ (ih found)

theorem lookup_cons_self : ((policyId, began) :: reigns).lookup policyId = some began := by
  simp

theorem lookup_cons_of_ne (different : other ≠ policyId) :
    ((policyId, began) :: reigns).lookup other = reigns.lookup other := by
  rw [List.lookup_cons, beq_eq_false_iff_ne.mpr different]

end Lookup

/-! ## One step -/

/-- The row of another policy keeps its place when it is archived. -/
theorem SecurityThresholdPolicy.Placed.archive {row : SecurityThresholdPolicy}
    {statuses : List SecurityThresholdPolicyStatus} {reign : Option Time}
    (placed : row.Placed reign) (used : .draft ∉ statuses) :
    (row.archive statuses now).Placed reign where
  unused draft := by
    rw [archive_status] at draft
    split at draft
    · cases draft
    · exact placed.unused draft
  serving active := by
    rw [archive_status] at active
    split at active
    · cases active
    · rw [archive_rolloutPercent]
      exact placed.serving active
  full status percent := by
    rw [archive_rolloutPercent] at percent
    rw [archive_activatedAt]
    refine placed.full (fun draft => status ?_) percent
    rw [archive_status, if_neg (draft ▸ used), draft]
  part status percent := by
    rw [archive_rolloutPercent] at percent
    rw [archive_activatedAt]
    refine placed.part (fun draft => status ?_) percent
    rw [archive_status, if_neg (draft ▸ used), draft]

namespace Succession

variable {policyId : PolicyId} {row loaded : SecurityThresholdPolicy} {rolloutPercent : Int}
  (succession : Succession policies reigns clock)

include succession

theorem later (passed : clock ≤ now) : Succession policies reigns now :=
  { succession with past := fun reign inside => (succession.past reign inside).trans passed }

theorem lookup_of_fresh (fresh : policies.get policyId = none) : reigns.lookup policyId = none := by
  cases found : reigns.lookup policyId with
  | none => rfl
  | some began =>
      have known := succession.known _ (mem_of_lookup found)
      rw [fresh] at known
      cases known

theorem head_known (first : reigns.head?.map Prod.fst = some policyId) :
    ∃ row, policies.get policyId = some row ∧ row.status = .active := by
  obtain ⟨reign, head, rfl⟩ := Option.map_eq_some_iff.mp first
  have known := succession.known reign (List.mem_of_mem_head? head)
  obtain ⟨row, there⟩ := Option.isSome_iff_exists.mp known
  exact ⟨row, there, (succession.current reign.1 row there).mpr first⟩

theorem oneActive : AtMostOne policies .active := by
  intro first second left right found found' active active'
  have head := (succession.current first left found).mp active
  have head' := (succession.current second right found').mp active'
  exact Option.some.inj (head.symm.trans head')

theorem activePolicy_eq : activePolicy policies = reigns.head?.map Prod.fst := by
  refine Option.ext fun policyId => ?_
  rw [activePolicy_eq_some succession.oneActive]
  constructor
  · rintro ⟨row, there, active⟩
    exact (succession.current policyId row there).mp active
  · exact succession.head_known

theorem recordReign_eq (now : Time) : recordReign reigns policies now = reigns := by
  unfold recordReign
  rw [succession.activePolicy_eq]
  split
  · rfl
  case h_2 policyId head => rw [if_pos head]

/-- A new draft reigns nowhere. -/
theorem create (fresh : policies.get policyId = none) (draft : row.status = .draft) :
    Succession (policies.set policyId row) reigns clock where
  placed other found there := by
    rcases OrderedTable.get_set_eq_some.mp there with ⟨rfl, rfl⟩ | ⟨-, there⟩
    · rw [succession.lookup_of_fresh fresh]
      refine ⟨fun _ => rfl, fun active => ?_, fun used => absurd draft used,
        fun used => absurd draft used⟩
      cases draft.symm.trans active
    · exact succession.placed other found there
  known reign inside := by
    rw [OrderedTable.get_set]
    split
    · rfl
    · exact succession.known reign inside
  current other found there := by
    rcases OrderedTable.get_set_eq_some.mp there with ⟨rfl, rfl⟩ | ⟨-, there⟩
    · refine iff_of_false (fun active => ?_) fun head => ?_
      · cases draft.symm.trans active
      · obtain ⟨old, was, -⟩ := succession.head_known head
        exact Option.some_ne_none old (was.symm.trans fresh)
    · exact succession.current other found there
  ordered := succession.ordered
  past := succession.past
  apart := succession.apart

theorem known_promote {statuses : List SecurityThresholdPolicyStatus}
    {status : SecurityThresholdPolicyStatus} (there : policies.get policyId = some loaded)
    (reign : PolicyId × Time) (inside : reign ∈ reigns) :
    ((promote policies statuses policyId loaded status rolloutPercent now).get reign.1).isSome := by
  rw [get_promote there]
  split
  · rfl
  · rw [Option.isSome_map]
    exact succession.known reign inside

/-- A policy that becomes active begins its reign. -/
theorem crown (there : policies.get policyId = some loaded) (inactive : loaded.status ≠ .active)
    (passed : clock < now) :
    Succession (promote policies [.active, .candidate] policyId loaded .active 100 now)
      ((policyId, now) :: reigns) now where
  placed other found there' := by
    rcases (get_promote_eq_some there).mp there' with ⟨rfl, rfl⟩ | ⟨elsewhere, old, was, rfl⟩
    · have active : (loaded.promoted [.active, .candidate] .active 100 now).status = .active :=
        (promoted_status List.mem_cons_self).trans (if_neg inactive)
      rw [lookup_cons_self]
      refine ⟨fun draft => ?_, fun _ => promoted_rolloutPercent, fun _ _ => ?_, fun _ percent => ?_⟩
      · cases draft.symm.trans active
      · exact ⟨promoted_activatedAt, rfl⟩
      · exact absurd promoted_rolloutPercent percent
    · rw [lookup_cons_of_ne elsewhere]
      exact (succession.placed other old was).archive (by decide)
  known reign inside := by
    rcases List.mem_cons.mp inside with rfl | earlier
    · rw [get_promote there, if_pos rfl]
      rfl
    · exact succession.known_promote there reign earlier
  current other found there' := by
    rw [List.head?_cons, Option.map_some, Option.some_inj]
    rcases (get_promote_eq_some there).mp there' with ⟨here, rfl⟩ | ⟨elsewhere, old, was, rfl⟩
    · rw [promoted_status List.mem_cons_self, if_neg inactive]
      exact iff_of_true rfl here.symm
    · refine iff_of_false (fun active => ?_) (Ne.symm elsewhere)
      rw [archive_status] at active
      split at active
      · cases active
      case isFalse unswept => exact unswept (active ▸ List.mem_cons_self)
  ordered := by
    refine List.pairwise_cons.mpr ⟨fun earlier inside => ?_, succession.ordered⟩
    exact (succession.past earlier inside).trans_lt passed
  past reign inside := by
    rcases List.mem_cons.mp inside with rfl | earlier
    · exact le_rfl
    · exact (succession.past reign earlier).trans passed.le
  apart := by
    cases known : reigns with
    | nil => exact List.isChain_singleton _
    | cons first rest =>
        refine List.isChain_cons_cons.mpr ⟨fun same => inactive ?_, known ▸ succession.apart⟩
        refine (succession.current policyId loaded there).mpr ?_
        rw [known]
        exact congrArg some same.symm

/-- A candidate leaves the active policy alone. -/
theorem nominate (there : policies.get policyId = some loaded) (inactive : loaded.status ≠ .active)
    (percent : rolloutPercent ≠ 100) (passed : clock < now) :
    Succession (promote policies [.candidate] policyId loaded .candidate rolloutPercent now) reigns
      now where
  placed other found there' := by
    rcases (get_promote_eq_some there).mp there' with ⟨rfl, rfl⟩ | ⟨elsewhere, old, was, rfl⟩
    · have status : (loaded.promoted [.candidate] .candidate rolloutPercent now).status =
          if loaded.status = .candidate then .archived else .candidate :=
        promoted_status List.mem_cons_self
      refine ⟨fun draft => ?_, fun active => ?_, fun _ whole => ?_, fun _ _ => ?_⟩
      · rw [draft] at status
        split at status <;> cases status
      · rw [active] at status
        split at status <;> cases status
      · exact absurd (promoted_rolloutPercent.symm.trans whole) percent
      · refine ⟨now, promoted_activatedAt, fun earlier began => ?_⟩
        exact (succession.past _ (mem_of_lookup began)).trans_lt passed
    · exact (succession.placed other old was).archive (by decide)
  known := succession.known_promote there
  current other found there' := by
    rcases (get_promote_eq_some there).mp there' with ⟨rfl, rfl⟩ | ⟨elsewhere, old, was, rfl⟩
    · rw [promoted_status List.mem_cons_self]
      refine iff_of_false (fun active => ?_) fun head => ?_
      · split at active <;> cases active
      · exact inactive ((succession.current other loaded there).mpr head)
    · rw [← succession.current other old was, archive_status]
      split
      case isTrue swept =>
        rw [List.mem_singleton.mp swept]
        exact iff_of_false SecurityThresholdPolicyStatus.noConfusion
          SecurityThresholdPolicyStatus.noConfusion
      case isFalse => rfl
  ordered := succession.ordered
  past reign inside := (succession.past reign inside).trans passed.le
  apart := succession.apart

end Succession

/-! ## Every step -/

section Steps

variable {center : Center} {call : Call} {after : Policies} {operation : Operation}
  {policyId : PolicyId} {loaded : SecurityThresholdPolicy} {rolloutPercent : Int}

theorem Succession.promote (succession : Succession policies reigns clock)
    (there : policies.get policyId = some loaded) (inactive : loaded.status ≠ .active)
    (percent : operation.Percent rolloutPercent) (passed : clock < now)
    (promoted : after = promote policies operation.sweeps policyId loaded operation.newStatus
      rolloutPercent now) :
    Succession after (recordReign reigns after now) now ∧
      (operation.newStatus = .active → recordReign reigns after now = (policyId, now) :: reigns) := by
  have active (status : operation.newStatus = .active)
      (sweeps : operation.sweeps = [.active, .candidate]) :
      Succession after (recordReign reigns after now) now ∧
        recordReign reigns after now = (policyId, now) :: reigns := by
    rw [status, sweeps, percent.mpr status] at promoted
    have crowned := succession.crown there inactive passed
    rw [← promoted] at crowned
    have begun : recordReign reigns after now = (policyId, now) :: reigns := by
      have elsewhere : ¬reigns.head?.map Prod.fst = some policyId := fun head =>
        inactive ((succession.current policyId loaded there).mpr head)
      unfold recordReign
      rw [crowned.activePolicy_eq, List.head?_cons, Option.map_some]
      exact if_neg elsewhere
    exact ⟨begun ▸ crowned, begun⟩
  cases operation with
  | activate id => exact (active rfl rfl).imp_right fun begun _ => begun
  | rollback target => exact (active rfl rfl).imp_right fun begun _ => begun
  | setCandidate id part =>
      have notAll : rolloutPercent ≠ 100 := fun all => by cases percent.mp all
      have nominated := succession.nominate there inactive notAll passed
      subst promoted
      refine ⟨?_, SecurityThresholdPolicyStatus.noConfusion⟩
      exact (nominated.recordReign_eq now).symm ▸ nominated

/-- Sound calls keep the succession. -/
theorem PolicyEffect.succession (effect : PolicyEffect center call now after)
    (before : Succession center.policies reigns clock) (passed : clock < now)
    (sound : ∀ operation, call.operation center = some operation →
      operation.Sound center.policies reigns) :
    Succession after (recordReign reigns after now) now := by
  cases effect with
  | quiet => exact (before.recordReign_eq now).symm ▸ before.later passed.le
  | created policyId row _ fresh draft =>
      have created := before.create fresh draft
      exact (created.recordReign_eq now).symm ▸ created.later passed.le
  | promoted operation policyId loaded rolloutPercent asked target there percent =>
      have inactive := (sound operation asked).inactive policyId target loaded there
      exact (before.promote there inactive percent passed rfl).1

/-- A row with a timestamp that comes before no other one. -/
theorem le_of_not_before {row other : SecurityThresholdPolicy} {first second : Time}
    (promoted : row.activatedAt = some first) (promoted' : other.activatedAt = some second)
    (latest : ¬row.before other) : second ≤ first := by
  rw [SecurityThresholdPolicy.before, promoted, promoted'] at latest
  by_contra earlier
  simp [not_le.mp earlier] at latest

theorem Operation.Unnamed.target (unnamed : operation.Unnamed)
    (chosen : operation.target policies = some policyId) :
    ∃ row, newest (withStatus policies .archived) = some (policyId, row) := by
  cases operation with
  | activate | setCandidate => exact unnamed.elim
  | rollback target =>
      have none_ : given target = none := unnamed
      rw [Operation.target, rollbackTarget, none_] at chosen
      obtain ⟨⟨_, row⟩, found, rfl⟩ := Option.map_eq_some_iff.mp chosen
      exact ⟨row, found⟩

theorem Operation.Unnamed.newStatus (unnamed : operation.Unnamed) :
    operation.newStatus = .active := by
  cases operation with
  | activate | setCandidate => exact unnamed.elim
  | rollback => rfl

/-- A sound rollback that names no policy goes to the one that reigned before. -/
theorem Succession.previous (succession : Succession policies reigns clock)
    (sound : operation.Sound policies reigns) (unnamed : operation.Unnamed)
    (chosen : operation.target policies = some policyId) :
    ∃ current earlier, reigns.map Prod.fst = current :: policyId :: earlier := by
  obtain ⟨row, found⟩ := unnamed.target chosen
  obtain ⟨listed, latest⟩ := newest_spec found
  obtain ⟨there, archived⟩ := mem_withStatus.mp listed
  have used : row.status ≠ .draft := archived ▸ SecurityThresholdPolicyStatus.noConfusion
  have full := sound.served unnamed policyId chosen row there
  obtain ⟨promoted, reigned⟩ := (succession.placed policyId row there).full used full
  obtain ⟨began, lookup⟩ := Option.isSome_iff_exists.mp reigned
  have inside := mem_of_lookup lookup
  match known : reigns with
  | [] => cases inside
  | (current, time) :: rest =>
      have headed (id : PolicyId) (row : SecurityThresholdPolicy) (there : policies.get id = some row)
          (head : id = current) : row.status = .active :=
        (succession.current id row there).mpr (congrArg some head.symm)
      have elsewhere : policyId ≠ current := fun here => by
        cases archived.symm.trans (headed policyId row there here)
      have deposed : (policyId, began) ∈ rest := by
        rcases List.mem_cons.mp inside with same | earlier
        · exact absurd (Prod.mk.inj same).1 elsewhere
        · exact earlier
      match rest with
      | [] => cases deposed
      | (previous, until_) :: earlier =>
          refine ⟨current, earlier.map Prod.fst, ?_⟩
          obtain ⟨-, orderedRest⟩ := List.pairwise_cons.mp succession.ordered
          have atMost : began ≤ until_ := by
            rcases List.mem_cons.mp deposed with same | older
            · exact (Prod.mk.inj same).2.le
            · exact (List.rel_of_pairwise_cons orderedRest older).le
          have apart : current ≠ previous :=
            (List.isChain_cons_cons.mp succession.apart).1
          have known := succession.known (previous, until_)
            (List.mem_cons_of_mem _ List.mem_cons_self)
          obtain ⟨row', there'⟩ := Option.isSome_iff_exists.mp known
          have placed := succession.placed previous row' there'
          rw [lookup_cons_of_ne apart.symm, lookup_cons_self] at placed
          have inactive : row'.status ≠ .active := fun active =>
            apart (Option.some.inj ((succession.current previous row' there').mp active))
          have waiting : row'.status ≠ .candidate :=
            sound.waiting unnamed previous rfl row' there'
          have used' : row'.status ≠ .draft := fun draft =>
            Option.some_ne_none until_ (placed.unused draft)
          have archived' : row'.status = .archived := by
            cases status : row'.status with
            | draft => exact absurd status used'
            | active => exact absurd status inactive
            | candidate => exact absurd status waiting
            | archived => rfl
          have notAfter := latest (previous, row') (mem_withStatus.mpr ⟨there', archived'⟩)
          by_cases full' : row'.rolloutPercent = 100
          · have promoted' := (placed.full used' full').1
            have same : began = until_ :=
              atMost.antisymm (le_of_not_before (promoted.trans lookup) promoted' notAfter)
            subst same
            rcases List.mem_cons.mp deposed with same | older
            · rw [(Prod.mk.inj same).1]
              rfl
            · exact absurd (List.rel_of_pairwise_cons orderedRest older) (lt_irrefl _)
          · obtain ⟨promotedAt, promoted', after⟩ := placed.part used' full'
            have earlier := le_of_not_before (promoted.trans lookup) promoted' notAfter
            exact absurd ((after until_ rfl).trans_le (earlier.trans atMost)) (lt_irrefl _)

end Steps

end TrustChain.SecurityPolicy
