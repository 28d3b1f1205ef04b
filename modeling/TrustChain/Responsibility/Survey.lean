import Mathlib.Data.Set.Card
import TrustChain.Responsibility.Cycles

/-!
# Path features of an identity

`get_identity_path_features` walks over the edges of a time window, breadth first from one
identity, and counts the edges met, the identities reached and the edges that return to an
identity on the path that they prolong. A scan run flags the identity when the last count
is positive.
-/

namespace TrustChain.Responsibility

open TrustChain.Library

/-- The rows of `responsibility_edges`; `edge_hash` is declared unique. -/
structure EdgeTable where
  rows : List ResponsibilityEdge
  unique : (rows.map ResponsibilityEdge.edgeHash).Nodup

/-- The rows from `since` on, as the query without an order may return them. -/
structure Recent (table : EdgeTable) (since : Int) where
  edges : List ResponsibilityEdge
  perm : edges.Perm (table.rows.filter (since ≤ ·.createdAt))

/-- An element of the queue. -/
structure Trail where
  node : String
  hops : ℕ
  pathHashes : List String
  pathNodes : List String

/-- The local variables of the search. -/
structure Tracing where
  traversedEdgeHashes : Finset String
  reachable : Finset String
  cyclePathsDetected : ℕ
  pathHashesSample : List String
  seenPathHashes : Finset String
  queue : List Trail
  visitedDepth : String → Option ℕ

def Tracing.start (identityId : String) : Tracing where
  traversedEdgeHashes := ∅
  reachable := ∅
  cyclePathsDetected := 0
  pathHashesSample := []
  seenPathHashes := ∅
  queue := [⟨identityId, 0, [], [identityId]⟩]
  visitedDepth := Function.update (fun _ => none) identityId (some 0)

namespace Tracing

/-- The first twenty different path hashes are kept. -/
def sample (tracing : Tracing) (hashedPath : String) : Tracing :=
  if hashedPath ∉ tracing.seenPathHashes ∧ tracing.pathHashesSample.length < 20 then
    { tracing with
      seenPathHashes := insert hashedPath tracing.seenPathHashes
      pathHashesSample := tracing.pathHashesSample ++ [hashedPath] }
  else tracing

def reach (tracing : Tracing) (identityId target : String) : Tracing :=
  if target ≠ identityId then
    { tracing with reachable := insert target tracing.reachable }
  else tracing

def enqueue (tracing : Tracing) (trail : Trail) : Tracing :=
  { tracing with
    visitedDepth := Function.update tracing.visitedDepth trail.node (some trail.hops)
    queue := tracing.queue ++ [trail] }

/-- The end of the loop body: a return is counted, and an identity that is new, or met by a
shorter path than before, is queued. -/
def close (tracing : Tracing) (identityId : String) (trail next : Trail) : Tracing :=
  if next.node = identityId ∨ next.node ∈ trail.pathNodes then
    { tracing with cyclePathsDetected := tracing.cyclePathsDetected + 1 }
  else
    match tracing.visitedDepth next.node with
    | none => tracing.enqueue next
    | some previous => if next.hops < previous then tracing.enqueue next else tracing

/-- The loop body for one edge that leaves `trail`; `pathHash` stands for `_sha256`. -/
def followEdge (pathHash : String → List String → String) (identityId : String) (trail : Trail)
    (tracing : Tracing) (edge : ResponsibilityEdge) : Tracing :=
  let nextPathHashes := trail.pathHashes ++ [edge.edgeHash]
  let target := edge.targetIdentityId
  let next : Trail := ⟨target, trail.hops + 1, nextPathHashes, trail.pathNodes ++ [target]⟩
  (({ tracing with
      traversedEdgeHashes := insert edge.edgeHash tracing.traversedEdgeHashes }.sample
        (pathHash identityId nextPathHashes)).reach identityId target).close identityId trail next

end Tracing

/-- The edges leaving an identity, in the order of the query. -/
def adjacency (edges : List ResponsibilityEdge) (node : String) : List ResponsibilityEdge :=
  edges.filter (·.sourceIdentityId = node)

/-- The `while` loop; `none` when the fuel is used up. -/
def trace (pathHash : String → List String → String) (edges : List ResponsibilityEdge)
    (identityId : String) (maxHops : Int) : ℕ → Tracing → Option Tracing
  | 0, _ => none
  | fuel + 1, tracing =>
      match tracing.queue with
      | [] => some tracing
      | trail :: queue =>
          if maxHops ≤ trail.hops then
            trace pathHash edges identityId maxHops fuel { tracing with queue := queue }
          else
            trace pathHash edges identityId maxHops fuel
              ((adjacency edges trail.node).foldl (Tracing.followEdge pathHash identityId trail)
                { tracing with queue := queue })

structure PathFeaturesSummary where
  identityId : String
  windowHours : Int
  maxHops : Int
  traversedEdgeCount : ℕ
  reachableIdentityCount : ℕ
  cyclePathsDetected : ℕ
  pathHashesSample : List String
  computedAt : Int

/-- The start of the window, in microseconds. -/
def windowStart (now windowHours : Int) : Int := now - windowHours * 3600000000

def summarize (identityId : String) (windowHours maxHops now : Int) (tracing : Tracing) :
    PathFeaturesSummary where
  identityId := identityId
  windowHours := windowHours
  maxHops := maxHops
  traversedEdgeCount := tracing.traversedEdgeHashes.card
  reachableIdentityCount := tracing.reachable.card
  cyclePathsDetected := tracing.cyclePathsDetected
  pathHashesSample := tracing.pathHashesSample
  computedAt := now

/-- The summary computed from the edges of the window. -/
def getIdentityPathFeatures (pathHash : String → List String → String)
    (edges : List ResponsibilityEdge) (identityId : String) (windowHours maxHops now : Int)
    (fuel : ℕ) : Option PathFeaturesSummary :=
  (trace pathHash edges identityId maxHops fuel (.start identityId)).map
    (summarize identityId windowHours maxHops now)

/-! ## What the path features say

The search keeps one path for each identity: the walk to it that is met first. These paths,
in the order in which they are queued, and the edges that prolong them account for all that
the search counts.
-/

variable {edges : List ResponsibilityEdge} {identityId : String}

/-! ## Paths as trails -/

/-- The identity in which a path from `identityId` ends. -/
def endOf (identityId : String) (path : List ResponsibilityEdge) : String :=
  (path.getLast?.map ResponsibilityEdge.targetIdentityId).getD identityId

/-- The trail that the search queues for a path. -/
def trailOf (identityId : String) (path : List ResponsibilityEdge) : Trail where
  node := endOf identityId path
  hops := path.length
  pathHashes := path.map ResponsibilityEdge.edgeHash
  pathNodes := identityId :: path.map ResponsibilityEdge.targetIdentityId

@[simp] theorem endOf_nil : endOf identityId [] = identityId := rfl

@[simp] theorem endOf_snoc (path : List ResponsibilityEdge) (edge : ResponsibilityEdge) :
    endOf identityId (path ++ [edge]) = edge.targetIdentityId := by
  simp [endOf]

theorem walk_ends {path : List ResponsibilityEdge} {finish : String}
    (walk : (graphOf edges).Walk identityId path finish) : endOf identityId path = finish := by
  induction path using List.reverseRecOn with
  | nil => exact walk.nil_eq.symm
  | append_singleton earlier edge _ =>
      rw [endOf_snoc]
      exact walk.unsnoc.2.2

/-! ## What the loop body does -/

namespace Tracing

variable {tracing : Tracing} {trail next : Trail} {edge : ResponsibilityEdge}
  {hashed target : String}

@[simp] theorem sample_traversed :
    (tracing.sample hashed).traversedEdgeHashes = tracing.traversedEdgeHashes := by
  unfold sample
  split <;> rfl

@[simp] theorem sample_reachable : (tracing.sample hashed).reachable = tracing.reachable := by
  unfold sample
  split <;> rfl

@[simp] theorem sample_cycles :
    (tracing.sample hashed).cyclePathsDetected = tracing.cyclePathsDetected := by
  unfold sample
  split <;> rfl

@[simp] theorem sample_queue : (tracing.sample hashed).queue = tracing.queue := by
  unfold sample
  split <;> rfl

@[simp] theorem sample_visited :
    (tracing.sample hashed).visitedDepth = tracing.visitedDepth := by
  unfold sample
  split <;> rfl

@[simp] theorem reach_traversed :
    (tracing.reach identityId target).traversedEdgeHashes = tracing.traversedEdgeHashes := by
  unfold reach
  split <;> rfl

@[simp] theorem reach_cycles :
    (tracing.reach identityId target).cyclePathsDetected = tracing.cyclePathsDetected := by
  unfold reach
  split <;> rfl

@[simp] theorem reach_queue : (tracing.reach identityId target).queue = tracing.queue := by
  unfold reach
  split <;> rfl

@[simp] theorem reach_visited :
    (tracing.reach identityId target).visitedDepth = tracing.visitedDepth := by
  unfold reach
  split <;> rfl

theorem mem_reach {node : String} : node ∈ (tracing.reach identityId target).reachable ↔
    node ∈ tracing.reachable ∨ node ≠ identityId ∧ target = node := by
  unfold reach
  split
  · next other =>
      rw [Finset.mem_insert]
      constructor
      · rintro (rfl | old)
        · exact .inr ⟨other, rfl⟩
        · exact .inl old
      · rintro (old | ⟨_, rfl⟩)
        · exact .inr old
        · exact .inl rfl
  · next same =>
      obtain rfl := not_not.1 same
      exact ⟨.inl, fun or => or.elim id fun ⟨other, same⟩ => absurd same.symm other⟩

/-- Closing an edge changes neither the edges met nor the identities reached. -/
theorem close_sets : (tracing.close identityId trail next).traversedEdgeHashes =
      tracing.traversedEdgeHashes ∧
    (tracing.close identityId trail next).reachable = tracing.reachable := by
  unfold close
  split
  · exact ⟨rfl, rfl⟩
  · split
    · exact ⟨rfl, rfl⟩
    · split <;> exact ⟨rfl, rfl⟩

/-- An edge that returns to its path is counted. -/
theorem close_return (returns : next.node = identityId ∨ next.node ∈ trail.pathNodes) :
    tracing.close identityId trail next =
      { tracing with cyclePathsDetected := tracing.cyclePathsDetected + 1 } :=
  if_pos returns

variable (leads : ¬(next.node = identityId ∨ next.node ∈ trail.pathNodes))

include leads

theorem close_cycles :
    (tracing.close identityId trail next).cyclePathsDetected = tracing.cyclePathsDetected := by
  rw [close, if_neg leads]
  split
  · rfl
  · split <;> rfl

/-- An edge into an identity that was met by a path that is no longer changes nothing. -/
theorem close_met {previous : ℕ} (met : tracing.visitedDepth next.node = some previous)
    (near : previous ≤ next.hops) : tracing.close identityId trail next = tracing := by
  rw [close, if_neg leads, met]
  exact if_neg (Nat.not_lt.2 near)

theorem close_new (fresh : tracing.visitedDepth next.node = none) :
    tracing.close identityId trail next = tracing.enqueue next := by
  rw [close, if_neg leads, fresh]

end Tracing

/-! ## Paths met and edges crossed -/

/-- What the sets and the count of the search say about the pairs of a path and an edge that
prolongs it that the search has crossed so far. -/
structure Tallied (identityId : String)
    (crossed : List (List ResponsibilityEdge × ResponsibilityEdge)) (tracing : Tracing) :
    Prop where
  traversed : ∀ hash, hash ∈ tracing.traversedEdgeHashes ↔
    ∃ step ∈ crossed, step.2.edgeHash = hash
  reached : ∀ node, node ∈ tracing.reachable ↔
    node ≠ identityId ∧ ∃ step ∈ crossed, step.2.targetIdentityId = node
  counted : 0 < tracing.cyclePathsDetected ↔
    ∃ step ∈ crossed, step.2.targetIdentityId ∈ (trailOf identityId step.1).pathNodes

/-- What holds of the paths queued so far, in their order. -/
structure Kept (edges : List ResponsibilityEdge) (identityId : String)
    (kept : List (List ResponsibilityEdge))
    (crossed : List (List ResponsibilityEdge × ResponsibilityEdge))
    (visitedDepth : String → Option ℕ) : Prop where
  first : ∀ path ∈ kept, (graphOf edges).First identityId path (endOf identityId path)
  sorted : kept.Pairwise (graphOf edges).Precedes
  root : [] ∈ kept
  origin : ∀ path ∈ kept, path = [] ∨ ∃ step ∈ crossed, path = step.1 ++ [step.2]
  passed : ∀ path ∈ kept, ∀ node ∈ (trailOf identityId path).pathNodes,
    ∃ other ∈ kept, endOf identityId other = node
  entered : ∀ step ∈ crossed, ∃ path ∈ kept, endOf identityId path = step.2.targetIdentityId
  visited : ∀ node depth, visitedDepth node = some depth ↔
    ∃ path ∈ kept, endOf identityId path = node ∧ path.length = depth

/-- In the middle of a round: every path of `done` is prolonged by every edge, `path` by those
of `scanned`, and `rest` is still to come. -/
structure Scanning (edges : List ResponsibilityEdge) (identityId : String)
    (done : List (List ResponsibilityEdge)) (path : List ResponsibilityEdge)
    (scanned rest : List ResponsibilityEdge)
    (crossed : List (List ResponsibilityEdge × ResponsibilityEdge)) : Prop where
  split : adjacency edges (endOf identityId path) = scanned ++ rest
  complete : ∀ other ∈ done, ∀ edge ∈ adjacency edges (endOf identityId other),
    (other, edge) ∈ crossed
  here : ∀ edge ∈ scanned, (path, edge) ∈ crossed
  source : ∀ step ∈ crossed, step.2 ∈ adjacency edges (endOf identityId step.1) ∧
    (step.1 ∈ done ∨ step.1 = path ∧ step.2 ∈ scanned)

theorem mem_adjacency {node : String} {edge : ResponsibilityEdge} :
    edge ∈ adjacency edges node ↔ edge ∈ edges ∧ edge.sourceIdentityId = node := by
  simp [adjacency]

namespace Kept

variable {kept done pending : List (List ResponsibilityEdge)}
  {crossed : List (List ResponsibilityEdge × ResponsibilityEdge)} {visitedDepth : String → Option ℕ}
  {path other : List ResponsibilityEdge} {edge : ResponsibilityEdge} {finish : String}

theorem initial : Kept edges identityId [[]] [] (Tracing.start identityId).visitedDepth where
  first path member := by
    obtain rfl := List.mem_singleton.1 member
    exact .self
  sorted := List.pairwise_singleton _ _
  root := List.mem_singleton_self _
  origin path member := .inl (List.mem_singleton.1 member)
  passed path member node passes := by
    obtain rfl := List.mem_singleton.1 member
    exact ⟨[], member, (List.mem_singleton.1 passes).symm⟩
  entered := by simp
  visited node depth := by
    by_cases here : node = identityId
    · subst here
      simp [Tracing.start, Function.update_self]
    · simp [Tracing.start, Function.update_of_ne here, Ne.symm here]

/-- Crossing an edge into an identity that is known. -/
theorem cross (kept' : Kept edges identityId kept crossed visitedDepth)
    (known : ∃ other ∈ kept, endOf identityId other = edge.targetIdentityId) :
    Kept edges identityId kept (crossed ++ [(path, edge)]) visitedDepth where
  first := kept'.first
  sorted := kept'.sorted
  root := kept'.root
  origin other member := (kept'.origin other member).imp_right fun ⟨step, before, whole⟩ =>
    ⟨step, List.mem_append_left _ before, whole⟩
  passed := kept'.passed
  entered step member := by
    rcases List.mem_append.1 member with before | new
    · exact kept'.entered step before
    · rw [List.mem_singleton.1 new]
      exact known
  visited := kept'.visited

/-- Crossing an edge into a new identity, by the first path to it. -/
theorem keep (kept' : Kept edges identityId kept crossed visitedDepth) (member : path ∈ kept)
    (fresh : ∀ other ∈ kept, endOf identityId other ≠ edge.targetIdentityId)
    (first : (graphOf edges).First identityId (path ++ [edge]) edge.targetIdentityId)
    (last : ∀ other ∈ kept, (graphOf edges).Precedes other (path ++ [edge])) :
    Kept edges identityId (kept ++ [path ++ [edge]]) (crossed ++ [(path, edge)])
      (Function.update visitedDepth edge.targetIdentityId (some (path.length + 1))) where
  first other among := by
    rcases List.mem_append.1 among with old | new
    · exact kept'.first other old
    · rw [List.mem_singleton.1 new, endOf_snoc]
      exact first
  sorted := by
    refine List.pairwise_append.2 ⟨kept'.sorted, List.pairwise_singleton _ _, ?_⟩
    intro other old new among
    rw [List.mem_singleton.1 among]
    exact last other old
  root := List.mem_append_left _ kept'.root
  origin other among := by
    rcases List.mem_append.1 among with old | new
    · exact (kept'.origin other old).imp_right fun ⟨step, before, whole⟩ =>
        ⟨step, List.mem_append_left _ before, whole⟩
    · exact .inr ⟨(path, edge), List.mem_append_right _ (List.mem_singleton_self _),
        List.mem_singleton.1 new⟩
  passed other among node passes := by
    have old : ∀ trail ∈ kept, node ∈ (trailOf identityId trail).pathNodes →
        ∃ other ∈ kept ++ [path ++ [edge]], endOf identityId other = node := by
      intro trail old passes
      obtain ⟨other, before, ends⟩ := kept'.passed trail old node passes
      exact ⟨other, List.mem_append_left _ before, ends⟩
    rcases List.mem_append.1 among with before | new
    · exact old other before passes
    · obtain rfl := List.mem_singleton.1 new
      have cases : node ∈ (trailOf identityId path).pathNodes ∨ node = edge.targetIdentityId := by
        simpa [trailOf, or_assoc] using passes
      rcases cases with passes | rfl
      · exact old path member passes
      · exact ⟨path ++ [edge], List.mem_append_right _ (List.mem_singleton_self _), endOf_snoc _ _⟩
  entered step among := by
    rcases List.mem_append.1 among with before | new
    · obtain ⟨other, old, ends⟩ := kept'.entered step before
      exact ⟨other, List.mem_append_left _ old, ends⟩
    · obtain rfl := List.mem_singleton.1 new
      exact ⟨path ++ [edge], List.mem_append_right _ (List.mem_singleton_self _), endOf_snoc _ _⟩
  visited node depth := by
    by_cases here : node = edge.targetIdentityId
    · subst here
      rw [Function.update_self]
      constructor
      · intro deep
        obtain rfl := Option.some.inj deep
        exact ⟨path ++ [edge], List.mem_append_right _ (List.mem_singleton_self _),
          endOf_snoc _ _, by simp⟩
      · intro ⟨other, among, ends, long⟩
        rcases List.mem_append.1 among with old | new
        · exact absurd ends (fresh other old)
        · obtain rfl := List.mem_singleton.1 new
          simpa using long
    · rw [Function.update_of_ne here, kept'.visited]
      constructor
      · intro ⟨other, old, found⟩
        exact ⟨other, List.mem_append_left _ old, found⟩
      · intro ⟨other, among, ends, long⟩
        rcases List.mem_append.1 among with old | new
        · exact ⟨other, old, ends, long⟩
        · rw [List.mem_singleton.1 new, endOf_snoc] at ends
          exact absurd ends.symm here

/-- Every walk ends in an identity that is done with, or comes after a path still pending. -/
theorem frontier (kept : Kept edges identityId (done ++ pending) crossed visitedDepth)
    (complete : ∀ other ∈ done, ∀ edge ∈ adjacency edges (endOf identityId other),
      (other, edge) ∈ crossed)
    (walk : (graphOf edges).Walk identityId other finish) :
    (∃ path ∈ done, endOf identityId path = finish) ∨
      ∃ path ∈ pending, path = other ∨ (graphOf edges).Precedes path other := by
  induction walk with
  | nil =>
      rcases List.mem_append.1 kept.root with known | waiting
      · exact .inl ⟨[], known, rfl⟩
      · exact .inr ⟨[], waiting, .inl rfl⟩
  | @snoc earlier middle _ edge walk step ih =>
      obtain ⟨listed, leaves, rfl⟩ := step
      rcases ih with ⟨path, known, ends⟩ | ⟨path, waiting, before⟩
      · have crosses := complete path known edge (mem_adjacency.2 ⟨listed, leaves.trans ends.symm⟩)
        obtain ⟨other, member, enters⟩ := kept.entered _ crosses
        rcases List.mem_append.1 member with known | waiting
        · exact .inl ⟨other, known, enters⟩
        · have whole := Multigraph.Walk.snoc walk listed leaves
          have least := (kept.first other member).least (earlier ++ [edge]) (enters ▸ whole)
          exact .inr ⟨other, waiting, least.imp_left Eq.symm⟩
      · refine .inr ⟨path, waiting, .inr ?_⟩
        rcases before with rfl | before
        · exact .longer
        · exact before.trans .longer

end Kept

namespace Scanning

variable {done pending : List (List ResponsibilityEdge)}
  {crossed : List (List ResponsibilityEdge × ResponsibilityEdge)}
  {visitedDepth : String → Option ℕ} {path scanned rest : List ResponsibilityEdge}
  {edge : ResponsibilityEdge}

variable (scanning : Scanning edges identityId done path scanned (edge :: rest) crossed)

include scanning

theorem listed : edge ∈ edges ∧ edge.sourceIdentityId = endOf identityId path := by
  apply mem_adjacency.1
  rw [scanning.split]
  simp

theorem next :
    Scanning edges identityId done path (scanned ++ [edge]) rest (crossed ++ [(path, edge)]) where
  split := by rw [scanning.split, List.append_assoc, List.singleton_append]
  complete other known edge leaves :=
    List.mem_append_left _ (scanning.complete other known edge leaves)
  here other member := by
    rcases List.mem_append.1 member with before | new
    · exact List.mem_append_left _ (scanning.here other before)
    · rw [List.mem_singleton.1 new]
      exact List.mem_append_right _ (List.mem_singleton_self _)
  source step member := by
    rcases List.mem_append.1 member with before | new
    · obtain ⟨leaves, known⟩ := scanning.source step before
      exact ⟨leaves, known.imp_right fun ⟨same, before⟩ => ⟨same, List.mem_append_left _ before⟩⟩
    · obtain rfl := List.mem_singleton.1 new
      exact ⟨mem_adjacency.2 scanning.listed,
        .inr ⟨rfl, List.mem_append_right _ (List.mem_singleton_self _)⟩⟩

/-- The edges of one identity are scanned in the order of the list. -/
theorem earlier (once : edges.Nodup) :
    (∀ other ∈ scanned, edges.idxOf other < edges.idxOf edge) ∧
      ∀ other ∈ rest, edges.idxOf edge < edges.idxOf other := by
  have ordered := Multigraph.pairwise_idxOf once (·.sourceIdentityId = endOf identityId path)
  have split : edges.filter (·.sourceIdentityId = endOf identityId path) =
    scanned ++ edge :: rest := scanning.split
  rw [split] at ordered
  obtain ⟨_, after, before⟩ := List.pairwise_append.1 ordered
  exact ⟨fun other member => before other member edge List.mem_cons_self,
    (List.pairwise_cons.1 after).1⟩

/-- The path through the next edge comes after every path that is kept. -/
theorem last (kept : Kept edges identityId (done ++ path :: pending) crossed visitedDepth)
    (once : edges.Nodup) :
    ∀ other ∈ done ++ path :: pending, (graphOf edges).Precedes other (path ++ [edge]) := by
  intro other member
  rcases kept.origin other member with rfl | ⟨step, crosses, rfl⟩
  · exact .of_length_lt (by simp)
  · rcases (scanning.source step crosses).2 with known | ⟨same, before⟩
    · have sorted := (List.pairwise_append.1 kept.sorted).2.2
      exact (sorted step.1 known path List.mem_cons_self).append
    · rw [same]
      exact .snoc ((scanning.earlier once).1 step.2 before)

/-- An edge into an identity that no kept path reaches gives the first path to it. -/
theorem first (kept : Kept edges identityId (done ++ path :: pending) crossed visitedDepth)
    (once : edges.Nodup) (fresh : ∀ other ∈ done ++ path :: pending,
      endOf identityId other ≠ edge.targetIdentityId) :
    (graphOf edges).First identityId (path ++ [edge]) edge.targetIdentityId where
  walk := by
    have among : path ∈ done ++ path :: pending := by simp
    exact (kept.first path among).walk.snoc scanning.listed.1 scanning.listed.2
  least other walk := by
    have unknown : ∀ step ∈ crossed, step.2.targetIdentityId ≠ edge.targetIdentityId := by
      intro step crosses
      obtain ⟨known, member, ends⟩ := kept.entered step crosses
      rw [← ends]
      exact fresh known member
    have elsewhere : identityId ≠ edge.targetIdentityId := fresh [] kept.root
    obtain ⟨before, last, rfl, walk, listed, enters⟩ := walk.exists_snoc elsewhere
    have met : path = before ∨ (graphOf edges).Precedes path before := by
      rcases kept.frontier scanning.complete walk with
        ⟨known, member, ends⟩ | ⟨waiting, member, least⟩
      · have crosses := scanning.complete known member last (mem_adjacency.2 ⟨listed, ends.symm⟩)
        exact absurd enters (unknown _ crosses)
      · rcases List.mem_cons.1 member with rfl | member
        · exact least
        · have sorted := (List.pairwise_append.1 kept.sorted).2.1
          have sooner := (List.pairwise_cons.1 sorted).1 waiting member
          rcases least with rfl | least
          · exact .inr sooner
          · exact .inr (sooner.trans least)
    rcases met with rfl | sooner
    · have leaves : last ∈ scanned ++ edge :: rest := by
        rw [← scanning.split]
        exact mem_adjacency.2 ⟨listed, (walk_ends walk).symm⟩
      rcases List.mem_append.1 leaves with before | after
      · exact absurd enters (unknown _ (scanning.here last before))
      · rcases List.mem_cons.1 after with rfl | after
        · exact .inl rfl
        · exact .inr (.snoc ((scanning.earlier once).2 last after))
    · exact .inr sooner.append

end Scanning

/-! ## One round -/

section Round

variable {pathHash : String → List String → String} {tracing : Tracing}
  {done pending : List (List ResponsibilityEdge)}
  {crossed : List (List ResponsibilityEdge × ResponsibilityEdge)}
  {path scanned rest : List ResponsibilityEdge} {edge : ResponsibilityEdge}

/-- What the loop body does to the variables before it looks at the path. -/
def Tracing.record (pathHash : String → List String → String) (identityId : String)
    (path : List ResponsibilityEdge) (tracing : Tracing) (edge : ResponsibilityEdge) : Tracing :=
  ({ tracing with
      traversedEdgeHashes := insert edge.edgeHash tracing.traversedEdgeHashes }.sample
        (pathHash identityId ((path ++ [edge]).map ResponsibilityEdge.edgeHash))).reach
          identityId edge.targetIdentityId

theorem followEdge_trailOf :
    Tracing.followEdge pathHash identityId (trailOf identityId path) tracing edge =
      (tracing.record pathHash identityId path edge).close identityId (trailOf identityId path)
        (trailOf identityId (path ++ [edge])) := by
  simp [Tracing.followEdge, Tracing.record, trailOf]

theorem record_variables :
    (tracing.record pathHash identityId path edge).cyclePathsDetected =
        tracing.cyclePathsDetected ∧
      (tracing.record pathHash identityId path edge).queue = tracing.queue ∧
      (tracing.record pathHash identityId path edge).visitedDepth = tracing.visitedDepth := by
  simp [Tracing.record]

/-- An edge returns exactly if it enters an identity on the path. -/
theorem returns_iff : ((trailOf identityId (path ++ [edge])).node = identityId ∨
      (trailOf identityId (path ++ [edge])).node ∈ (trailOf identityId path).pathNodes) ↔
    edge.targetIdentityId ∈ (trailOf identityId path).pathNodes := by
  simp [trailOf]

theorem Tallied.initial : Tallied identityId [] (.start identityId) where
  traversed := by simp [Tracing.start]
  reached := by simp [Tracing.start]
  counted := by simp [Tracing.start]

theorem Tallied.follow (tallied : Tallied identityId crossed tracing) :
    Tallied identityId (crossed ++ [(path, edge)])
      (Tracing.followEdge pathHash identityId (trailOf identityId path) tracing edge) where
  traversed hash := by
    rw [followEdge_trailOf, Tracing.close_sets.1]
    simp only [Tracing.record, Tracing.reach_traversed, Tracing.sample_traversed,
      Finset.mem_insert, tallied.traversed, List.mem_append, List.mem_singleton, or_and_right,
      exists_or, exists_eq_left]
    exact or_comm.trans (or_congr_right eq_comm)
  reached node := by
    rw [followEdge_trailOf, Tracing.close_sets.2]
    simp only [Tracing.record, Tracing.mem_reach, Tracing.sample_reachable, tallied.reached,
      List.mem_append, List.mem_singleton, or_and_right, exists_or, exists_eq_left, and_or_left]
  counted := by
    rw [followEdge_trailOf]
    simp only [List.mem_append, List.mem_singleton, or_and_right, exists_or, exists_eq_left]
    rw [← tallied.counted, ← (@record_variables identityId pathHash tracing path edge).1]
    by_cases returns : edge.targetIdentityId ∈ (trailOf identityId path).pathNodes
    · rw [Tracing.close_return (returns_iff.2 returns)]
      simp [returns]
    · rw [Tracing.close_cycles (mt returns_iff.1 returns)]
      simp [returns]

/-- One edge: an identity that is new joins the queue, by the first path to it. -/
theorem follow_kept (pathHash : String → List String → String) (once : edges.Nodup)
    (kept : Kept edges identityId (done ++ path :: pending) crossed tracing.visitedDepth)
    (scanning : Scanning edges identityId done path scanned (edge :: rest) crossed)
    (queued : tracing.queue = pending.map (trailOf identityId)) :
    ∃ pending', Kept edges identityId (done ++ path :: pending') (crossed ++ [(path, edge)])
        (Tracing.followEdge pathHash identityId (trailOf identityId path) tracing
          edge).visitedDepth ∧
      (Tracing.followEdge pathHash identityId (trailOf identityId path) tracing edge).queue =
        pending'.map (trailOf identityId) := by
  obtain ⟨_, queue, depths⟩ := @record_variables identityId pathHash tracing path edge
  have among : path ∈ done ++ path :: pending := by simp
  rw [followEdge_trailOf]
  by_cases returns : edge.targetIdentityId ∈ (trailOf identityId path).pathNodes
  · rw [Tracing.close_return (returns_iff.2 returns)]
    refine ⟨pending, ?_, queue.trans queued⟩
    rw [depths]
    exact kept.cross (kept.passed path among _ returns)
  · have leads := mt returns_iff.1 returns
    have node : (trailOf identityId (path ++ [edge])).node = edge.targetIdentityId := by
      simp [trailOf]
    by_cases known : ∃ other ∈ done ++ path :: pending,
        endOf identityId other = edge.targetIdentityId
    · obtain ⟨other, member, ends⟩ := known
      have met := (kept.visited edge.targetIdentityId other.length).2 ⟨other, member, ends, rfl⟩
      have whole : (graphOf edges).Walk identityId (path ++ [edge]) edge.targetIdentityId :=
        (kept.first path among).walk.snoc scanning.listed.1 scanning.listed.2
      have shorter := (kept.first other member).length_le (ends ▸ whole)
      rw [Tracing.close_met leads (by rw [node, depths, met]) shorter]
      refine ⟨pending, ?_, queue.trans queued⟩
      rw [depths]
      exact kept.cross ⟨other, member, ends⟩
    · have fresh : ∀ other ∈ done ++ path :: pending,
          endOf identityId other ≠ edge.targetIdentityId :=
        fun other member ends => known ⟨other, member, ends⟩
      have unmet : tracing.visitedDepth edge.targetIdentityId = none := by
        apply Option.eq_none_iff_forall_ne_some.2
        intro depth met
        obtain ⟨other, member, ends, _⟩ := (kept.visited _ _).1 met
        exact fresh other member ends
      rw [Tracing.close_new leads (by rw [node, depths, unmet])]
      refine ⟨pending ++ [path ++ [edge]], ?_, ?_⟩
      · have next := kept.keep among fresh (scanning.first kept once fresh)
          (scanning.last kept once)
        simpa [Tracing.enqueue, depths, trailOf] using next
      · simp [Tracing.enqueue, queue, queued]

/-- All edges that leave one identity. -/
theorem follow_all (pathHash : String → List String → String) (tracing : Tracing)
    (once : edges.Nodup)
    (kept : Kept edges identityId (done ++ path :: pending) crossed tracing.visitedDepth)
    (tallied : Tallied identityId crossed tracing)
    (scanning : Scanning edges identityId done path scanned rest crossed)
    (queued : tracing.queue = pending.map (trailOf identityId)) :
    ∃ pending' crossed' tracing', tracing' = rest.foldl
        (Tracing.followEdge pathHash identityId (trailOf identityId path)) tracing ∧
      Kept edges identityId (done ++ path :: pending') crossed' tracing'.visitedDepth ∧
      Tallied identityId crossed' tracing' ∧
      Scanning edges identityId done path (scanned ++ rest) [] crossed' ∧
      tracing'.queue = pending'.map (trailOf identityId) := by
  induction rest generalizing scanned pending crossed tracing with
  | nil =>
      rw [List.append_nil]
      exact ⟨pending, crossed, tracing, rfl, kept, tallied, scanning, queued⟩
  | cons edge rest ih =>
      obtain ⟨pending, kept, queued⟩ := follow_kept pathHash once kept scanning queued
      have whole := ih _ kept tallied.follow scanning.next queued
      rwa [List.append_assoc, List.singleton_append] at whole

end Round

/-! ## The search -/

/-- Between two rounds: every path of `done` is prolonged by every edge that leaves its end, and
is within the bound; the rest is queued. -/
structure Traced (edges : List ResponsibilityEdge) (identityId : String) (maxHops : Int)
    (done pending : List (List ResponsibilityEdge))
    (crossed : List (List ResponsibilityEdge × ResponsibilityEdge)) (tracing : Tracing) :
    Prop where
  kept : Kept edges identityId (done ++ pending) crossed tracing.visitedDepth
  tallied : Tallied identityId crossed tracing
  complete : ∀ path ∈ done, ∀ edge ∈ adjacency edges (endOf identityId path),
    (path, edge) ∈ crossed
  source : ∀ step ∈ crossed, step.1 ∈ done ∧ step.2 ∈ adjacency edges (endOf identityId step.1)
  near : ∀ path ∈ done, (path.length : Int) < maxHops

section Search

variable {pathHash : String → List String → String} {maxHops : Int} {tracing : Tracing}
  {done pending : List (List ResponsibilityEdge)}
  {crossed : List (List ResponsibilityEdge × ResponsibilityEdge)} {path : List ResponsibilityEdge}

theorem Traced.initial : Traced edges identityId maxHops [] [[]] [] (.start identityId) where
  kept := .initial
  tallied := .initial
  complete := by simp
  source := by simp
  near := by simp

/-- One round of the search. -/
theorem Traced.round
    (traced : Traced edges identityId maxHops done (path :: pending) crossed tracing)
    (pathHash : String → List String → String) (once : edges.Nodup)
    (near : (path.length : Int) < maxHops) (queue : List Trail)
    (queued : queue = pending.map (trailOf identityId)) :
    ∃ pending' crossed' tracing', tracing' = (adjacency edges (endOf identityId path)).foldl
        (Tracing.followEdge pathHash identityId (trailOf identityId path))
        { tracing with queue := queue } ∧
      Traced edges identityId maxHops (done ++ [path]) pending' crossed' tracing' ∧
      tracing'.queue = pending'.map (trailOf identityId) := by
  have scanning : Scanning edges identityId done path []
      (adjacency edges (endOf identityId path)) crossed :=
    ⟨rfl, traced.complete, by simp, fun step crosses =>
      ⟨(traced.source step crosses).2, .inl (traced.source step crosses).1⟩⟩
  have tallied : Tallied identityId crossed { tracing with queue := queue } :=
    ⟨traced.tallied.traversed, traced.tallied.reached, traced.tallied.counted⟩
  obtain ⟨pending', crossed', tracing', same, kept, tallied, scanning, queued⟩ :=
    follow_all pathHash { tracing with queue := queue } once
      traced.kept tallied scanning queued
  refine ⟨pending', crossed', tracing', same, ⟨?_, tallied, ?_, ?_, ?_⟩, queued⟩
  · rwa [List.append_assoc, List.singleton_append]
  · intro other member edge leaves
    rcases List.mem_append.1 member with known | new
    · exact scanning.complete other known edge leaves
    · obtain rfl := List.mem_singleton.1 new
      exact scanning.here edge leaves
  · intro step crosses
    obtain ⟨leaves, known⟩ := scanning.source step crosses
    refine ⟨?_, leaves⟩
    rcases known with known | ⟨rfl, _⟩
    · exact List.mem_append_left _ known
    · exact List.mem_append_right _ (List.mem_singleton_self _)
  · intro other member
    rcases List.mem_append.1 member with known | new
    · exact traced.near other known
    · rwa [List.mem_singleton.1 new]

end Search

section Outcome

variable {pathHash : String → List String → String} {maxHops : Int} {tracing final : Tracing}
  {done pending : List (List ResponsibilityEdge)}
  {crossed : List (List ResponsibilityEdge × ResponsibilityEdge)}
  {path other : List ResponsibilityEdge} {fuel : ℕ} {finish : String}

theorem Traced.queue (traced : Traced edges identityId maxHops done pending crossed tracing)
    (queue : List Trail) :
    Traced edges identityId maxHops done pending crossed { tracing with queue := queue } where
  kept := traced.kept
  tallied := ⟨traced.tallied.traversed, traced.tallied.reached, traced.tallied.counted⟩
  complete := traced.complete
  source := traced.source
  near := traced.near

/-- Trails beyond the bound are only taken off the queue. -/
theorem trace_far (far : ∀ trail ∈ tracing.queue, maxHops ≤ trail.hops)
    (ended : trace pathHash edges identityId maxHops fuel tracing = some final) :
    final = { tracing with queue := [] } := by
  induction fuel generalizing tracing with
  | zero => cases ended
  | succ fuel ih =>
      simp only [trace] at ended
      split at ended
      · next empty =>
          obtain rfl := Option.some.inj ended
          rw [← empty]
      · next trail queue held =>
          rw [if_pos (far trail (held ▸ List.mem_cons_self))] at ended
          have rest : ∀ other ∈ queue, maxHops ≤ other.hops := by
            intro other member
            exact far other (held ▸ List.mem_cons_of_mem _ member)
          exact @ih { tracing with queue := queue } rest ended

/-- The search stops when every path still pending is beyond the bound. -/
theorem trace_traced (once : edges.Nodup)
    (traced : Traced edges identityId maxHops done pending crossed tracing)
    (queued : tracing.queue = pending.map (trailOf identityId))
    (ended : trace pathHash edges identityId maxHops fuel tracing = some final) :
    ∃ done pending crossed, Traced edges identityId maxHops done pending crossed final ∧
      ∀ path ∈ pending, maxHops ≤ path.length := by
  induction fuel generalizing tracing done pending crossed with
  | zero => cases ended
  | succ fuel ih =>
      cases pending with
      | nil =>
          simp only [trace, queued, List.map_nil] at ended
          obtain rfl := Option.some.inj ended
          exact ⟨done, [], crossed, traced, by simp⟩
      | cons path pending =>
          by_cases near : (path.length : Int) < maxHops
          · have inside : ¬maxHops ≤ ((trailOf identityId path).hops : Int) := Int.not_le.2 near
            simp only [trace, queued, List.map_cons] at ended
            rw [if_neg inside] at ended
            obtain ⟨pending', crossed', tracing', same, traced', queued'⟩ :=
              traced.round pathHash once near _ rfl
            refine ih traced' queued' ?_
            rw [same]
            exact ended
          · have sorted := (List.pairwise_append.1 traced.kept.sorted).2.1
            have far : ∀ other ∈ path :: pending, maxHops ≤ other.length := by
              intro other member
              rcases List.mem_cons.1 member with rfl | member
              · omega
              · have := ((List.pairwise_cons.1 sorted).1 other member).length_le
                omega
            have beyond : ∀ trail ∈ tracing.queue, maxHops ≤ trail.hops := by
              intro trail member
              rw [queued] at member
              obtain ⟨other, among, rfl⟩ := List.mem_map.1 member
              exact far other among
            rw [trace_far beyond ended]
            exact ⟨done, path :: pending, crossed, traced.queue [], far⟩

namespace Traced

variable (traced : Traced edges identityId maxHops done pending crossed tracing)
  (far : ∀ path ∈ pending, maxHops ≤ path.length)

include traced far

/-- At the end, every walk below the bound ends where some path of `done` ends. -/
theorem exists_done (walk : (graphOf edges).Walk identityId other finish)
    (short : (other.length : Int) < maxHops) :
    ∃ path ∈ done, endOf identityId path = finish := by
  rcases traced.kept.frontier traced.complete walk with known | ⟨path, waiting, before⟩
  · exact known
  · have beyond := far path waiting
    have shorter : path.length ≤ other.length := by
      rcases before with rfl | before
      · exact le_rfl
      · exact before.length_le
    omega

/-- The paths of `done` are the first ones to their ends. -/
theorem mem_done :
    path ∈ done ↔ (graphOf edges).First identityId path (endOf identityId path) ∧
      (path.length : Int) < maxHops := by
  constructor
  · intro member
    exact ⟨traced.kept.first path (List.mem_append_left _ member), traced.near path member⟩
  · intro ⟨first, short⟩
    obtain ⟨known, member, ends⟩ := traced.exists_done far first.walk short
    have again := traced.kept.first known (List.mem_append_left _ member)
    rw [ends] at again
    rwa [first.unique again]

omit far in
theorem mem_crossed {step : List ResponsibilityEdge × ResponsibilityEdge} :
    step ∈ crossed ↔ step.1 ∈ done ∧ step.2 ∈ edges ∧
      step.2.sourceIdentityId = endOf identityId step.1 := by
  rw [← mem_adjacency]
  exact ⟨traced.source step, fun ⟨member, leaves⟩ => traced.complete step.1 member step.2 leaves⟩

/-- An edge is crossed exactly if its source is nearer than the bound. -/
theorem edge_crossed {edge : ResponsibilityEdge} :
    (∃ path, (path, edge) ∈ crossed) ↔ edge ∈ edges ∧ ∃ path,
      (graphOf edges).Walk identityId path edge.sourceIdentityId ∧
        (path.length : Int) < maxHops := by
  constructor
  · intro ⟨path, crosses⟩
    obtain ⟨member, listed, leaves⟩ := traced.mem_crossed.1 crosses
    obtain ⟨first, short⟩ := (traced.mem_done far).1 member
    exact ⟨listed, path, leaves ▸ first.walk, short⟩
  · intro ⟨listed, path, walk, short⟩
    obtain ⟨known, member, ends⟩ := traced.exists_done far walk short
    exact ⟨known, traced.mem_crossed.2 ⟨member, listed, ends.symm⟩⟩

theorem mem_traversed {hash : String} :
    hash ∈ tracing.traversedEdgeHashes ↔ ∃ edge ∈ edges, edge.edgeHash = hash ∧ ∃ path,
      (graphOf edges).Walk identityId path edge.sourceIdentityId ∧
        (path.length : Int) < maxHops := by
  rw [traced.tallied.traversed]
  constructor
  · intro ⟨step, crosses, same⟩
    obtain ⟨listed, near⟩ := (traced.edge_crossed far).1 ⟨step.1, crosses⟩
    exact ⟨step.2, listed, same, near⟩
  · intro ⟨edge, listed, same, near⟩
    obtain ⟨path, crosses⟩ := (traced.edge_crossed far).2 ⟨listed, near⟩
    exact ⟨(path, edge), crosses, same⟩

theorem mem_reachable {node : String} :
    node ∈ tracing.reachable ↔ node ≠ identityId ∧ ∃ path,
      (graphOf edges).Walk identityId path node ∧ (path.length : Int) ≤ maxHops := by
  rw [traced.tallied.reached]
  apply and_congr_right
  intro other
  constructor
  · intro ⟨step, crosses, enters⟩
    obtain ⟨listed, path, walk, short⟩ := (traced.edge_crossed far).1 ⟨step.1, crosses⟩
    refine ⟨path ++ [step.2], enters ▸ walk.snoc listed rfl, ?_⟩
    simp only [List.length_append, List.length_singleton]
    omega
  · intro ⟨path, walk, short⟩
    obtain ⟨earlier, edge, rfl, before, listed, enters⟩ := walk.exists_snoc other.symm
    simp only [List.length_append, List.length_singleton] at short
    obtain ⟨path, crosses⟩ := (traced.edge_crossed far).2 ⟨listed, earlier, before, by omega⟩
    exact ⟨(path, edge), crosses, enters⟩

omit traced far

/-- A return is counted exactly if an edge leads from the end of a first path below the bound
back to an identity on that path. -/
theorem counts (traced : Traced edges identityId maxHops done pending crossed tracing)
    (far : ∀ path ∈ pending, maxHops ≤ path.length) :
    0 < tracing.cyclePathsDetected ↔ ∃ edge ∈ edges, ∃ path,
      (graphOf edges).First identityId path edge.sourceIdentityId ∧
        (path.length : Int) < maxHops ∧
        edge.targetIdentityId ∈ (graphOf edges).nodes identityId path := by
  rw [traced.tallied.counted]
  constructor
  · intro ⟨step, crosses, returns⟩
    obtain ⟨member, listed, leaves⟩ := traced.mem_crossed.1 crosses
    obtain ⟨first, short⟩ := (traced.mem_done far).1 member
    exact ⟨step.2, listed, step.1, leaves ▸ first, short, returns⟩
  · intro ⟨edge, listed, path, first, short, returns⟩
    have ends := walk_ends first.walk
    have member := (traced.mem_done far).2 ⟨ends.symm ▸ first, short⟩
    exact ⟨(path, edge), traced.mem_crossed.2 ⟨member, listed, ends.symm⟩, returns⟩

end Traced

end Outcome

/-! ## The search ends -/

section Ends

variable {pathHash : String → List String → String} {maxHops : Int} {tracing found : Tracing}
  {trail : Trail} {fuel more : ℕ}

/-- One edge queues at most one trail, one hop further. -/
theorem followEdge_hops (edge : ResponsibilityEdge) : ∃ count ≤ 1,
    (Tracing.followEdge pathHash identityId trail tracing edge).queue.map Trail.hops =
      tracing.queue.map Trail.hops ++ List.replicate count (trail.hops + 1) := by
  simp only [Tracing.followEdge, Tracing.close]
  split
  · exact ⟨0, by simp⟩
  · split
    · exact ⟨1, by simp [Tracing.enqueue]⟩
    · split
      · exact ⟨1, by simp [Tracing.enqueue]⟩
      · exact ⟨0, by simp⟩

theorem foldl_hops (leaving : List ResponsibilityEdge) : ∃ count ≤ leaving.length,
    (leaving.foldl (Tracing.followEdge pathHash identityId trail) tracing).queue.map Trail.hops =
      tracing.queue.map Trail.hops ++ List.replicate count (trail.hops + 1) := by
  induction leaving generalizing tracing with
  | nil => exact ⟨0, by simp⟩
  | cons edge rest ih =>
      obtain ⟨one, atMost, single⟩ :=
        @followEdge_hops identityId pathHash tracing trail edge
      obtain ⟨count, few, whole⟩ :=
        @ih (Tracing.followEdge pathHash identityId trail tracing edge)
      refine ⟨one + count, ?_, ?_⟩
      · rw [List.length_cons]
        omega
      · rw [List.foldl_cons, whole, single, List.append_assoc, List.replicate_append_replicate]

theorem trace_ends
    (enough : outlay edges.length maxHops (tracing.queue.map Trail.hops) < fuel) :
    ∃ final, trace pathHash edges identityId maxHops fuel tracing = some final := by
  induction fuel generalizing tracing with
  | zero => exact absurd enough (Nat.not_lt_zero _)
  | succ fuel ih =>
      simp only [trace]
      split
      · exact ⟨tracing, rfl⟩
      · next trail queue held =>
          rw [held, List.map_cons] at enough
          split
          · apply ih
            exact Nat.lt_of_lt_of_le outlay_tail_lt (Nat.le_of_lt_succ enough)
          · next near =>
              apply ih
              obtain ⟨count, few, hops⟩ := @foldl_hops identityId pathHash
                { tracing with queue := queue } trail (adjacency edges trail.node)
              rw [hops]
              have bounded := few.trans (List.length_filter_le _ edges)
              exact Nat.lt_of_lt_of_le (outlay_replace_lt (Int.not_le.1 near) bounded)
                (Nat.le_of_lt_succ enough)

theorem trace_mono (le : fuel ≤ more)
    (ended : trace pathHash edges identityId maxHops fuel tracing = some found) :
    trace pathHash edges identityId maxHops more tracing = some found := by
  induction fuel generalizing more tracing with
  | zero => cases ended
  | succ fuel ih =>
      obtain ⟨more, rfl⟩ := Nat.exists_eq_add_of_le' le
      have le : fuel ≤ more + fuel := Nat.le_add_left _ _
      simp only [trace] at ended ⊢
      split at ended
      · exact ended
      · split at ended
        · next far => rw [if_pos far]; exact ih le ended
        · next near => rw [if_neg near]; exact ih le ended

end Ends

/-! ## What is reported -/

section Reported

variable {pathHash : String → List String → String} {maxHops : Int} {final : Tracing}
  {done pending : List (List ResponsibilityEdge)}
  {crossed : List (List ResponsibilityEdge × ResponsibilityEdge)}

/-- The other identities at a distance from 1 to `maxHops`. -/
def nearIdentities (edges : List ResponsibilityEdge) (identityId : String) (maxHops : Int) :
    Set String :=
  {node | node ≠ identityId ∧ ∃ distance : ℕ,
    (graphOf edges).AtDistance identityId distance node ∧ 1 ≤ distance ∧ distance ≤ maxHops}

/-- The hashes of the edges that leave an identity at a distance below `maxHops`. -/
def nearEdgeHashes (edges : List ResponsibilityEdge) (identityId : String) (maxHops : Int) :
    Set String :=
  {hash | ∃ edge ∈ edges, edge.edgeHash = hash ∧ ∃ distance : ℕ,
    (graphOf edges).AtDistance identityId distance edge.sourceIdentityId ∧ distance < maxHops}

/-- Some edge leads from an identity below `maxHops` back to an identity on the first path to
it, its ends included. -/
def ReturnsToFirstPath (edges : List ResponsibilityEdge) (identityId : String)
    (maxHops : Int) : Prop :=
  ∃ edge ∈ edges, ∃ path, (graphOf edges).First identityId path edge.sourceIdentityId ∧
    (path.length : Int) < maxHops ∧
    edge.targetIdentityId ∈ (graphOf edges).nodes identityId path

/-- Some walk of at most `maxHops` edges visits an identity twice. -/
def VisitsTwice (edges : List ResponsibilityEdge) (identityId : String) (maxHops : Int) : Prop :=
  ∃ path finish, (graphOf edges).Walk identityId path finish ∧ (path.length : Int) ≤ maxHops ∧
    ¬((graphOf edges).nodes identityId path).Nodup

/-- Some walk of at most `maxHops` edges returns to the identity. -/
def ReturnsToStart (edges : List ResponsibilityEdge) (identityId : String) (maxHops : Int) :
    Prop :=
  ∃ path, path ≠ [] ∧ (graphOf edges).Walk identityId path identityId ∧
    (path.length : Int) ≤ maxHops

theorem ReturnsToFirstPath.visitsTwice
    (returns : ReturnsToFirstPath edges identityId maxHops) :
    VisitsTwice edges identityId maxHops := by
  obtain ⟨edge, listed, path, first, short, back⟩ := returns
  refine ⟨path ++ [edge], edge.targetIdentityId, first.walk.snoc listed rfl, ?_, fun once => ?_⟩
  · simp only [List.length_append, List.length_singleton]
    omega
  · rw [Multigraph.nodes_snoc] at once
    have apart := (List.nodup_append.1 once).2.2
    exact apart _ back _ (List.mem_singleton_self _) rfl

variable (traced : Traced edges identityId maxHops done pending crossed final)
  (far : ∀ path ∈ pending, maxHops ≤ path.length)

include traced far

/-- An edge back to the identity itself is always counted. -/
theorem Traced.counts_start (returns : ReturnsToStart edges identityId maxHops) : 0 < final.cyclePathsDetected := by
  obtain ⟨path, some, walk, short⟩ := returns
  obtain ⟨earlier, edge, rfl⟩ := (List.eq_nil_or_concat path).resolve_left some
  rw [List.concat_eq_append] at walk short
  obtain ⟨before, listed, enters⟩ := walk.unsnoc
  simp only [List.length_append, List.length_singleton] at short
  obtain ⟨path, crosses⟩ := (traced.edge_crossed far).2 ⟨listed, earlier, before, by omega⟩
  apply traced.tallied.counted.2
  refine ⟨(path, edge), crosses, ?_⟩
  rw [show edge.targetIdentityId = identityId from enters]
  exact List.mem_cons_self

theorem Traced.reachable_eq :
    (final.reachable : Set String) = nearIdentities edges identityId maxHops := by
  ext node
  have closed : ∀ short long : ℕ, short ≤ long → (long : Int) ≤ maxHops → (short : Int) ≤ maxHops :=
    fun _ _ le near => (Int.ofNat_le.2 le).trans near
  rw [Finset.mem_coe, traced.mem_reachable far, nearIdentities, Set.mem_ofPred_eq]
  apply and_congr_right
  intro other
  rw [← Multigraph.exists_atDistance_iff closed]
  constructor
  · intro ⟨distance, apart, near⟩
    exact ⟨distance, apart, apart.pos other.symm, near⟩
  · intro ⟨distance, apart, _, near⟩
    exact ⟨distance, apart, near⟩

theorem Traced.traversed_eq :
    (final.traversedEdgeHashes : Set String) = nearEdgeHashes edges identityId maxHops := by
  ext hash
  have closed : ∀ short long : ℕ, short ≤ long → (long : Int) < maxHops → (short : Int) < maxHops :=
    fun _ _ le near => (Int.ofNat_le.2 le).trans_lt near
  simp only [Finset.mem_coe, traced.mem_traversed far, nearEdgeHashes, Set.mem_ofPred_eq,
    Multigraph.exists_atDistance_iff closed]

omit traced far

theorem Recent.nodup {table : EdgeTable} {since : Int} (recent : Recent table since) :
    recent.edges.Nodup := by
  have rows : table.rows.Nodup := List.Nodup.of_map _ table.unique
  exact recent.perm.nodup_iff.2 (rows.filter _)

/-- The search ends, and its summary counts the other identities within `maxHops`, the edges
that leave identities nearer than that, and some return exactly if an edge leads back to the
first path to its source. -/
theorem getIdentityPathFeatures_reports (table : EdgeTable) (now windowHours : Int)
    (recent : Recent table (windowStart now windowHours))
    (pathHash : String → List String → String) (identityId : String) (maxHops : Int) :
    ∃ summary, (∃ enough, ∀ fuel, enough ≤ fuel →
        getIdentityPathFeatures pathHash recent.edges identityId windowHours maxHops now fuel =
          some summary) ∧
      summary.reachableIdentityCount = (nearIdentities recent.edges identityId maxHops).ncard ∧
      summary.traversedEdgeCount = (nearEdgeHashes recent.edges identityId maxHops).ncard ∧
      (0 < summary.cyclePathsDetected ↔ ReturnsToFirstPath recent.edges identityId maxHops) ∧
      (0 < summary.cyclePathsDetected → VisitsTwice recent.edges identityId maxHops) ∧
      (ReturnsToStart recent.edges identityId maxHops → 0 < summary.cyclePathsDetected) := by
  let start := Tracing.start identityId
  let spent := outlay recent.edges.length maxHops (start.queue.map Trail.hops)
  have enough : spent < spent + 1 := Nat.lt_succ_self spent
  obtain ⟨final, ended⟩ := @trace_ends recent.edges identityId pathHash maxHops start _ enough
  obtain ⟨done, pending, crossed, traced, far⟩ :=
    trace_traced recent.nodup .initial rfl ended
  refine ⟨summarize identityId windowHours maxHops now final, ⟨spent + 1, ?_⟩, ?_, ?_,
    traced.counts far, fun some => ReturnsToFirstPath.visitsTwice ((traced.counts far).1 some),
    traced.counts_start far⟩
  · intro fuel le
    rw [getIdentityPathFeatures, trace_mono le ended, Option.map_some]
  · rw [← traced.reachable_eq far, Set.ncard_coe_finset]
    rfl
  · rw [← traced.traversed_eq far, Set.ncard_coe_finset]
    rfl

end Reported

namespace Demo

/-- Two colluding identities that send work to each other, and one that engages both. -/
def colluders : EdgeTable where
  rows := [⟨"e1", "buyer", "left", 1⟩, ⟨"e2", "buyer", "right", 2⟩, ⟨"e3", "left", "right", 3⟩,
    ⟨"e4", "right", "left", 4⟩]
  unique := by decide

def allColluders : Recent colluders (windowStart 5 24) where
  edges := colluders.rows
  perm := by decide

/-- The walk from the buyer over `left` and `right` back to `left` is missed. -/
theorem colluders_missed :
    (getIdentityPathFeatures (fun start hashes => start ++ String.join hashes)
        allColluders.edges "buyer" 24 4 5 8).map PathFeaturesSummary.cyclePathsDetected = some 0 ∧
      VisitsTwice allColluders.edges "buyer" 4 := by
  refine ⟨by decide, [⟨"e1", "buyer", "left", 1⟩, ⟨"e3", "left", "right", 3⟩,
    ⟨"e4", "right", "left", 4⟩], "left", ?_, by decide, by decide⟩
  have first : (graphOf allColluders.edges).Walk "buyer" [⟨"e1", "buyer", "left", 1⟩] "left" :=
    .single ⟨by decide, rfl, rfl⟩
  have second : (graphOf allColluders.edges).Walk "buyer"
      [⟨"e1", "buyer", "left", 1⟩, ⟨"e3", "left", "right", 3⟩] "right" :=
    TransitionSystem.Run.snoc first ⟨by decide, rfl, rfl⟩
  exact TransitionSystem.Run.snoc second ⟨by decide, rfl, rfl⟩

end Demo

end TrustChain.Responsibility
