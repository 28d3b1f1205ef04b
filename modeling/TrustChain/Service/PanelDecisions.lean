import TrustChain.Service.Panels
import TrustChain.Service.ReleaseGuard

/-!
# What a panel decides

A case takes one vote of each of its arbitrators until all that it requires are in. These votes
decide it for good. The buyer and the seller of the task can be among the arbitrators.
-/

namespace TrustChain.Service

open Library

def votesFor (decision : ArbitrationVoteDecision) (votes : List ArbitrationVote) : Nat :=
  votes.countP fun vote => vote.decision = decision

/-- The percentage of a partial decision: the rounded mean of the votes, a half without any. -/
structure SplitBy (votes : List ArbitrationVote) (percent : ℚ) : Prop where
  unclaimed : (∀ vote ∈ votes, vote.decision ≠ .partialSplit) → percent = 50
  between : (∃ vote ∈ votes, vote.decision = .partialSplit) → ∀ low high,
    (∀ vote ∈ votes, ∀ claimed ∈ vote.partialPercent, low ≤ claimed ∧ claimed ≤ high) →
    cents low ≤ percent ∧ percent ≤ cents high

/-- A decision that the votes support: the buyer and the seller win by more votes than the
other, and otherwise the escrow is split. -/
def SupportedBy (votes : List ArbitrationVote) : ArbitrationVoteDecision → Option ℚ → Prop
  | .buyerWins, percent => votesFor .sellerWins votes < votesFor .buyerWins votes ∧ percent = none
  | .sellerWins, percent => votesFor .buyerWins votes < votesFor .sellerWins votes ∧ percent = none
  | .partialSplit, percent => votesFor .buyerWins votes = votesFor .sellerWins votes ∧
      ∃ share ∈ percent, SplitBy votes share

/-- The row of a case fits its votes: it is finalized exactly when all are in, as they say. -/
structure ArbitrationCase.Counts (row : ArbitrationCase) (votes : List ArbitrationVote) : Prop where
  staffed : 1 ≤ row.requiredArbitrators
  atMost : votes.length ≤ row.requiredArbitrators
  finalized : row.Finalized ↔ votes.length = row.requiredArbitrators
  tallied : row.Finalized → row.decidedOutcome = some (tallyVotes votes).1 ∧
    row.finalPartialPercent = (tallyVotes votes).2

/-- Only assigned arbitrators vote, once each, and the cases count their votes. -/
structure Panel.Sound (panel : Panel) : Prop where
  drawn : ∀ assignment ∈ panel.assignments, assignment.2 ∈ panel.pool
  filed : ∀ vote ∈ panel.votes, (panel.cases.get vote.caseId).isSome
  assigned : ∀ vote ∈ panel.votes,
    (vote.caseId, vote.arbitratorIdentityId) ∈ panel.assignments
  lawful : ∀ vote ∈ panel.votes, vote.Lawful
  once : ∀ caseId, ((panel.votesOf caseId).map ArbitrationVote.arbitratorIdentityId).Nodup
  counts : panel.cases.Every fun caseId row => row.Counts (panel.votesOf caseId)

/-! ## The tally -/

section Tally

variable {votes : List ArbitrationVote} {values : List ℚ} {low high : ℚ}

theorem mean_between (some_ : values ≠ [])
    (bounded : ∀ value ∈ values, low ≤ value ∧ value ≤ high) :
    low ≤ values.sum / values.length ∧ values.sum / values.length ≤ high := by
  have positive : (0 : ℚ) < values.length := by
    exact_mod_cast List.length_pos_iff.mpr some_
  have atLeast := List.card_nsmul_le_sum values low fun value inside => (bounded value inside).1
  have atMost := List.sum_le_card_nsmul values high fun value inside => (bounded value inside).2
  rw [nsmul_eq_mul] at atLeast atMost
  exact ⟨(le_div_iff₀ positive).mpr (by linarith), (div_le_iff₀ positive).mpr (by linarith)⟩

/-- The percentages of the votes for a partial decision. -/
def claims (votes : List ArbitrationVote) : List ℚ :=
  (votes.filter fun vote => vote.decision = .partialSplit).filterMap
    ArbitrationVote.partialPercent

theorem claims_eq_nil (lawful : ∀ vote ∈ votes, vote.Lawful) :
    claims votes = [] ↔ ∀ vote ∈ votes, vote.decision ≠ .partialSplit := by
  rw [claims, List.filterMap_eq_nil_iff]
  constructor
  · intro none_ vote cast divided
    have missing := none_ vote (List.mem_filter.mpr ⟨cast, decide_eq_true divided⟩)
    have given := (lawful vote cast).1.mp divided
    rw [missing] at given
    cases given
  · intro whole vote listed
    obtain ⟨cast, divided⟩ := List.mem_filter.mp listed
    exact absurd (of_decide_eq_true divided) (whole vote cast)

theorem tally_splitBy (lawful : ∀ vote ∈ votes, vote.Lawful) :
    SplitBy votes (if claims votes = [] then 50
      else cents ((claims votes).sum / (claims votes).length)) where
  unclaimed whole := if_pos ((claims_eq_nil lawful).mpr whole)
  between divided low high bounded := by
    have some_ : claims votes ≠ [] := by
      rw [Ne, claims_eq_nil lawful]
      obtain ⟨vote, cast, partial_⟩ := divided
      exact fun whole => whole vote cast partial_
    rw [if_neg some_]
    have claimed : ∀ value ∈ claims votes, low ≤ value ∧ value ≤ high := by
      intro value inside
      obtain ⟨vote, listed, claimed⟩ := List.mem_filterMap.mp inside
      exact bounded vote (List.mem_filter.mp listed).1 value claimed
    have mean := mean_between some_ claimed
    exact ⟨roundTo_mono mean.1, roundTo_mono mean.2⟩

theorem tallyVotes_supportedBy (lawful : ∀ vote ∈ votes, vote.Lawful) :
    SupportedBy votes (tallyVotes votes).1 (tallyVotes votes).2 := by
  unfold tallyVotes
  simp only []
  split
  case isTrue more => exact ⟨more, rfl⟩
  case isFalse notMore =>
    split
    case isTrue less => exact ⟨less, rfl⟩
    case isFalse notLess =>
      exact ⟨Nat.le_antisymm (not_lt.mp notMore) (not_lt.mp notLess), _, rfl, tally_splitBy lawful⟩

end Tally

/-! ## Every step -/

section Steps

variable {db : Db} {call : Call} {panel : Panel} {caseId : CaseId} {row : ArbitrationCase}
  {vote : ArbitrationVote} {votes : List ArbitrationVote}

theorem votesOf_append (panel : Panel) (cases : Table CaseId ArbitrationCase)
    (vote : ArbitrationVote) (caseId : CaseId) :
    { panel with cases, votes := panel.votes ++ [vote] : Panel }.votesOf caseId =
      panel.votesOf caseId ++ if vote.caseId = caseId then [vote] else [] := by
  rw [Panel.votesOf, List.filter_append, List.filter_singleton]
  by_cases here : vote.caseId = caseId
  · simp [here, Panel.votesOf]
  · simp [here, Panel.votesOf]

/-- A case that is not in the table has no votes. -/
theorem Panel.Sound.votesOf_eq_nil (sound : panel.Sound) (fresh : panel.cases.get caseId = none) :
    panel.votesOf caseId = [] := by
  refine List.filter_eq_nil_iff.mpr fun vote cast here => ?_
  have filed := sound.filed vote cast
  rw [of_decide_eq_true here, fresh] at filed
  cases filed

theorem isSome_get_set {table : Table CaseId ArbitrationCase} {key other : CaseId}
    (there : (table.get other).isSome) : ((table.set key row).get other).isSome := by
  rw [Table.get_set]
  split
  · rfl
  · exact there

/-- A case that is not finalized lacks a vote, and the last vote decides it. -/
theorem ArbitrationCase.Counts.afterVote (counts : row.Counts votes) (open_ : ¬row.Finalized) :
    (row.afterVote (votes ++ [vote])).Counts (votes ++ [vote]) := by
  have short : votes.length < row.requiredArbitrators :=
    lt_of_le_of_ne counts.atMost fun full => open_ (counts.finalized.mpr full)
  have longer : (votes ++ [vote]).length = votes.length + 1 := by simp
  unfold ArbitrationCase.afterVote
  split
  case isTrue full =>
    have all : (votes ++ [vote]).length = row.requiredArbitrators := by omega
    exact ⟨counts.staffed, all.le, ⟨fun _ => all, fun _ => .inl rfl⟩, fun _ => ⟨rfl, rfl⟩⟩
  case isFalse waits =>
    have some_ : (votes ++ [vote]).length ≠ row.requiredArbitrators := by omega
    have atMost : (votes ++ [vote]).length ≤ row.requiredArbitrators := by omega
    split
    case isTrue =>
      have voting : ¬{ row with status := .voting : ArbitrationCase }.Finalized := by
        rintro (decided | executed)
        · cases decided
        · cases executed
      exact ⟨counts.staffed, atMost, iff_of_false voting some_, fun done => absurd done voting⟩
    case isFalse =>
      exact ⟨counts.staffed, atMost, iff_of_false open_ some_, fun done => absurd done open_⟩

theorem ArbitrationCase.Counts.voting (counts : row.Counts votes) (open_ : ¬row.Finalized) :
    { row with status := .voting : ArbitrationCase }.Counts votes := by
  have voting : ¬{ row with status := .voting : ArbitrationCase }.Finalized := by
    rintro (decided | executed)
    · cases decided
    · cases executed
  have short : votes.length ≠ row.requiredArbitrators := fun full =>
    open_ (counts.finalized.mpr full)
  exact ⟨counts.staffed, counts.atMost, iff_of_false voting short, fun done => absurd done voting⟩

theorem ArbitrationCase.Counts.executed (counts : row.Counts votes) (decided : row.Finalized) :
    { row with status := .executed : ArbitrationCase }.Counts votes where
  staffed := counts.staffed
  atMost := counts.atMost
  finalized := iff_of_true (.inr rfl) (counts.finalized.mp decided)
  tallied _ := counts.tallied decided

theorem counts_opens {body : CreateArbitrationCaseRequest} (staffed : 1 ≤ body.requiredArbitrators) :
    body.opens.Counts [] where
  staffed := staffed
  atMost := Nat.zero_le _
  finalized := by
    refine iff_of_false ?_ (Nat.ne_of_lt staffed)
    rintro (decided | executed)
    · cases decided
    · cases executed
  tallied done := by
    rcases done with decided | executed
    · cases decided
    · cases executed

theorem PanelEffect.sound (effect : PanelEffect db call panel) (before : db.panel.Sound) :
    panel.Sound := by
  cases effect with
  | quiet => exact before
  | joined member =>
      refine { before with drawn := fun assignment inside => ?_ }
      exact List.mem_append_left _ (before.drawn assignment inside)
  | opened caseId body _ staffed fresh _ =>
      refine { before with
        filed := fun vote cast => isSome_get_set (before.filed vote cast)
        counts := before.counts.set ?_ }
      exact (before.votesOf_eq_nil fresh).symm ▸ counts_opens staffed
  | assigned caseId row members found open_ drawn =>
      refine { before with
        drawn := fun assignment inside => ?_
        filed := fun vote cast => isSome_get_set (before.filed vote cast)
        assigned := fun vote cast => List.mem_append_left _ (before.assigned vote cast)
        counts := before.counts.set ((before.counts caseId row found).voting open_) }
      rcases List.mem_append.mp inside with earlier | new
      · exact before.drawn assignment earlier
      · obtain ⟨member, chosen, rfl⟩ := List.mem_map.mp new
        exact drawn member chosen
  | executed caseId row found decided =>
      exact { before with
        filed := fun vote cast => isSome_get_set (before.filed vote cast)
        counts := before.counts.set ((before.counts caseId row found).executed (.inl decided)) }
  | voted vote row cases found open_ lawful assigned once stored =>
      have cast (other : ArbitrationVote) (property : ArbitrationVote → Prop)
          (earlier : ∀ old ∈ db.votes, property old) (new : property vote)
          (inside : other ∈ db.votes ++ [vote]) : property other := by
        rcases List.mem_append.mp inside with old | last
        · exact earlier other old
        · exact List.mem_singleton.mp last ▸ new
      have ballots := votesOf_append db.panel cases vote
      refine ⟨before.drawn, fun other inside => ?_, fun other inside => ?_, fun other inside => ?_,
        fun caseId => ?_, fun caseId after there => ?_⟩
      · rw [stored]
        refine cast other _ (fun old was => isSome_get_set (before.filed old was)) ?_ inside
        rw [Table.get_set_self]
        rfl
      · exact cast other _ before.assigned assigned inside
      · exact cast other _ before.lawful lawful inside
      · refine (ballots caseId).symm ▸ ?_
        split
        case isTrue here =>
          subst here
          rw [List.map_append, List.nodup_append]
          refine ⟨before.once vote.caseId, List.nodup_singleton _, fun first earlier last new => ?_⟩
          obtain ⟨other, was, rfl⟩ := List.mem_map.mp earlier
          obtain rfl : last = vote.arbitratorIdentityId := by simpa using new
          exact once other was
        case isFalse => simpa using before.once caseId
      · rw [stored, Table.get_set] at there
        suffices after.Counts (db.panel.votesOf caseId ++ if vote.caseId = caseId then [vote] else [])
          from ballots caseId ▸ this
        by_cases here : caseId = vote.caseId
        · subst here
          rw [if_pos rfl] at there ⊢
          obtain rfl := Option.some.inj there
          exact (before.counts vote.caseId row found).afterVote open_
        · rw [if_neg here] at there
          rw [if_neg fun same => here same.symm, List.append_nil]
          exact before.counts caseId after there

/-- The case is finalized, and but for its execution its row and its votes are these. -/
def Panel.Keeps (panel : Panel) (caseId : CaseId) (case_ : ArbitrationCase)
    (votes : List ArbitrationVote) : Prop :=
  ∃ row, panel.cases.get caseId = some row ∧ row.Finalized ∧
    { row with status := case_.status } = case_ ∧ panel.votesOf caseId = votes

/-- Neither assignments nor votes reach a case that is finalized. -/
theorem PanelEffect.keeps {case_ : ArbitrationCase} (effect : PanelEffect db call panel)
    (before : db.panel.Keeps caseId case_ votes) : panel.Keeps caseId case_ votes := by
  obtain ⟨row, there, done, same, counted⟩ := before
  cases effect with
  | quiet | joined => exact ⟨row, there, done, same, counted⟩
  | opened key body _ _ fresh _ =>
      have elsewhere : caseId ≠ key := fun here => nomatch (here ▸ there).symm.trans fresh
      exact ⟨row, (Table.get_set_of_ne elsewhere).trans there, done, same, counted⟩
  | assigned key old members found open_ _ =>
      have elsewhere : caseId ≠ key := by
        rintro rfl
        exact open_ (Option.some.inj (there.symm.trans found) ▸ done)
      exact ⟨row, (Table.get_set_of_ne elsewhere).trans there, done, same, counted⟩
  | voted vote old cases found open_ _ _ _ stored =>
      have elsewhere : caseId ≠ vote.caseId := by
        rintro rfl
        exact open_ (Option.some.inj (there.symm.trans found) ▸ done)
      refine ⟨row, ?_, done, same, ?_⟩
      · rw [stored, Table.get_set_of_ne elsewhere]
        exact there
      · refine (votesOf_append db.panel cases vote caseId).trans ?_
        rw [if_neg elsewhere.symm, List.append_nil, counted]
  | executed key old found decided =>
      by_cases here : caseId = key
      · subst here
        obtain rfl := Option.some.inj (there.symm.trans found)
        exact ⟨_, Table.get_set_self _ _ _, .inr rfl, same, counted⟩
      · exact ⟨row, (Table.get_set_of_ne here).trans there, done, same, counted⟩

end Steps

/-! ## Every run -/

section Runs

variable {config : Config} {world next later : World} {action : Action} {actions : List Action}
  {caseId : CaseId} {case_ : ArbitrationCase} {votes : List ArbitrationVote}

theorem step_panel (property : Panel → Prop) (wellFormed : world.db.WellFormed)
    (before : property world.db.panel)
    (kept : ∀ call panel, PanelEffect world.db call panel → property panel)
    (step : (system config).Step world action next) : property next.db.panel := by
  change (property ∘ Db.panel) next.db
  refine step_db before (fun request call db _ ran => ?_) step
  exact kept call db.panel (dispatch_panel wellFormed ran)

theorem panelSound_of_reachable (reachable : (system config).Reachable world) :
    world.db.panel.Sound := by
  refine reachable.invariant (fun world initial => ?_) fun world action next earlier sound step => ?_
  · have empty : world.db = {} := initial
    rw [empty]
    exact ⟨nofun, nofun, nofun, nofun, fun _ => List.nodup_nil, Table.every_empty _⟩
  · exact step_panel Panel.Sound (reachable_wellFormed earlier) sound
      (fun _ _ effect => effect.sound sound) step

/-- A decision stays, whatever is requested after it. -/
theorem run_keeps (reachable : (system config).Reachable world)
    (run : (system config).Run world actions later)
    (decided : world.db.panel.Keeps caseId case_ votes) :
    later.db.panel.Keeps caseId case_ votes := by
  refine run.preserves_reachable (fun world action next reachable before step => ?_) reachable
    decided
  exact step_panel (fun panel => panel.Keeps caseId case_ votes) (reachable_wellFormed reachable)
    before (fun _ _ effect => effect.keeps before) step

/-- The panel of a case, with its votes and its decision. -/
structure PanelDecides (config : Config) (world : World) (caseId : CaseId)
    (case_ : ArbitrationCase) : Prop where
  drawn : ∀ member, (caseId, member) ∈ world.db.assignments → member ∈ world.db.pool
  assigned : ∀ vote ∈ world.db.votesOf caseId,
    (caseId, vote.arbitratorIdentityId) ∈ world.db.assignments
  once : ((world.db.votesOf caseId).map ArbitrationVote.arbitratorIdentityId).Nodup
  finalized : case_.Finalized ↔ (world.db.votesOf caseId).length = case_.requiredArbitrators
  supported : case_.Finalized → ∃ outcome ∈ case_.decidedOutcome,
    SupportedBy (world.db.votesOf caseId) outcome case_.finalPartialPercent
  final : case_.Finalized → ∀ actions later, (system config).Run world actions later →
    later.db.panel.Keeps caseId case_ (world.db.votesOf caseId)

end Runs

namespace Demo

/-- The case of a disputed task is put before `members`, who vote in turn. -/
def judgedBy (ballots : List (IdentityId × ArbitrationVoteDecision × Option ℚ)) : List Action :=
  ballots.map (fun ballot => call (.joinArbitrationPool ballot.1)) ++
    [call (.createArbitrationCase "c" {
        taskId := "t", openedBy := buyer, requiredArbitrators := ballots.length }),
      call (.assignArbitrators "c" ballots.length)] ++
    ballots.map fun ballot => call (.castVote {
      caseId := "c", arbitratorIdentityId := ballot.1, decision := ballot.2.1
      partialPercent := ballot.2.2 })

/-- The buyer votes for the buyer, and two others for a split. -/
def ownCause : Scene (perform {}) {} where
  actions := contested ++ judgedBy [(buyer, .buyerWins, none), ("a", .partialSplit, some 40),
    ("b", .partialSplit, some 60)]
  possible := by decide +kernel

/-- One arbitrator splits the escrow, by a percentage with three decimals. -/
def finely : Scene (perform {}) {} where
  actions := contested ++ judgedBy [("a", .partialSplit, some (33333 / 1000))]
  possible := by decide +kernel

def ownCauseCase : ArbitrationCase where
  taskId := "t"
  openedBy := buyer
  status := .decided
  requiredArbitrators := 3
  decidedOutcome := some .buyerWins

def finelyCase : ArbitrationCase where
  taskId := "t"
  openedBy := buyer
  status := .decided
  requiredArbitrators := 1
  decidedOutcome := some .partialSplit
  finalPartialPercent := some (3333 / 100)

end Demo

end TrustChain.Service
