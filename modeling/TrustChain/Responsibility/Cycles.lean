import TrustChain.Library.Walks

/-!
# The search for authorization cycles

An edge of the responsibility graph says that one identity answers for another in a task.
When a new edge is stored, `_detect_signals` asks `_find_cycle_path_hashes` whether its
target already leads back to its source. That is a breadth first search over the stored
edges that asks the database for the edges leaving one identity at a time.
-/

namespace TrustChain.Responsibility

open TrustChain.Library

/-- A row of `responsibility_edges`, with the columns that the searches read. -/
structure ResponsibilityEdge where
  edgeHash : String
  sourceIdentityId : String
  targetIdentityId : String
  createdAt : Int
  deriving DecidableEq, Repr

/-- Identities as nodes, rows as edges. -/
def graphOf (rows : List ResponsibilityEdge) : Multigraph String ResponsibilityEdge where
  edges := rows
  source := ResponsibilityEdge.sourceIdentityId
  target := ResponsibilityEdge.targetIdentityId

/-- The edges leaving one identity, as the query without an order may return them: the
answer at each identity and depth is the matching rows in some order. -/
structure Outgoing (rows : List ResponsibilityEdge) where
  answer : String → ℕ → List ResponsibilityEdge
  perm : ∀ node hops, (answer node hops).Perm (rows.filter (·.sourceIdentityId = node))

theorem Outgoing.mem_answer {rows : List ResponsibilityEdge} (outgoing : Outgoing rows)
    {node : String} {hops : ℕ} {edge : ResponsibilityEdge} :
    edge ∈ outgoing.answer node hops ↔ edge ∈ rows ∧ edge.sourceIdentityId = node := by
  simp [(outgoing.perm node hops).mem_iff]

/-- The rows in the order in which they are stored. -/
def Outgoing.stored (rows : List ResponsibilityEdge) : Outgoing rows where
  answer node _ := rows.filter (·.sourceIdentityId = node)
  perm _ _ := .refl _

/-- An element of the queue. -/
structure Entry where
  node : String
  pathHashes : List String
  hops : ℕ

/-- The entry for the far end of an edge. -/
def Entry.along (entry : Entry) (edge : ResponsibilityEdge) : Entry where
  node := edge.targetIdentityId
  pathHashes := entry.pathHashes ++ [edge.edgeHash]
  hops := entry.hops + 1

/-- The loop over the edges leaving `entry`: the path that reaches the target, or the queue
with the far ends appended. -/
def followEdges (target : String) (entry : Entry) :
    List ResponsibilityEdge → List Entry → List String ⊕ List Entry
  | [], queue => .inr queue
  | edge :: rest, queue =>
      if edge.targetIdentityId = target then .inl (entry.pathHashes ++ [edge.edgeHash])
      else followEdges target entry rest (queue ++ [entry.along edge])

/-- The `while` loop; `none` when the fuel is used up. -/
def search (answer : String → ℕ → List ResponsibilityEdge) (target : String) (maxHops : Int) :
    ℕ → List Entry → List (String × ℕ) → Option (List String)
  | 0, _, _ => none
  | _ + 1, [], _ => some []
  | fuel + 1, entry :: queue, visited =>
      if maxHops ≤ entry.hops then search answer target maxHops fuel queue visited
      else if (entry.node, entry.hops) ∈ visited then
        search answer target maxHops fuel queue visited
      else
        match followEdges target entry (answer entry.node entry.hops) queue with
        | .inl path => some path
        | .inr queue =>
            search answer target maxHops fuel queue ((entry.node, entry.hops) :: visited)

def findCyclePathHashes (answer : String → ℕ → List ResponsibilityEdge) (start target : String)
    (maxHops : Int) (fuel : ℕ) : Option (List String) :=
  if start = target then some [] else search answer target maxHops fuel [⟨start, [], 0⟩] []

variable {rows : List ResponsibilityEdge} {start target : String} {maxHops : Int}

/-! ## What one round does -/

section Follow

variable {entry : Entry} {edges : List ResponsibilityEdge} {queue next : List Entry}
  {path : List String}

/-- A round that ends the search took an edge into the target. -/
theorem followEdges_inl (found : followEdges target entry edges queue = .inl path) :
    ∃ edge ∈ edges, edge.targetIdentityId = target ∧
      path = entry.pathHashes ++ [edge.edgeHash] := by
  induction edges generalizing queue with
  | nil => simp [followEdges] at found
  | cons edge rest ih =>
      simp only [followEdges] at found
      split at found
      · next reaches =>
          exact ⟨edge, List.mem_cons_self, reaches, (Sum.inl.inj found).symm⟩
      · obtain ⟨other, member, reaches, whole⟩ := ih found
        exact ⟨other, List.mem_cons_of_mem _ member, reaches, whole⟩

/-- Any other round met no edge into the target, and queues every far end. -/
theorem followEdges_inr (followed : followEdges target entry edges queue = .inr next) :
    next = queue ++ edges.map entry.along ∧ ∀ edge ∈ edges, edge.targetIdentityId ≠ target := by
  induction edges generalizing queue with
  | nil => simpa [followEdges] using followed.symm
  | cons edge rest ih =>
      simp only [followEdges] at followed
      split at followed
      · cases followed
      · next passes =>
          obtain ⟨rfl, others⟩ := ih followed
          exact ⟨by simp, by simpa using ⟨passes, others⟩⟩

end Follow

/-! ## The search ends -/

theorem Outgoing.length_le (outgoing : Outgoing rows) (node : String) (hops : ℕ) :
    (outgoing.answer node hops).length ≤ rows.length :=
  (outgoing.perm node hops).length_eq.trans_le (List.length_filter_le _ _)

theorem search_ends (outgoing : Outgoing rows) {fuel : ℕ} {queue : List Entry}
    {visited : List (String × ℕ)}
    (enough : outlay rows.length maxHops (queue.map Entry.hops) < fuel) :
    ∃ path, search outgoing.answer target maxHops fuel queue visited = some path := by
  induction fuel generalizing queue visited with
  | zero => exact absurd enough (Nat.not_lt_zero _)
  | succ fuel ih =>
      cases queue with
      | nil => exact ⟨[], rfl⟩
      | cons entry queue =>
          have rest : outlay rows.length maxHops (queue.map Entry.hops) < fuel :=
            Nat.lt_of_lt_of_le outlay_tail_lt (Nat.le_of_lt_succ enough)
          simp only [search]
          split
          · exact ih rest
          · next near =>
              split
              · exact ih rest
              · split
                · exact ⟨_, rfl⟩
                · next followed =>
                    obtain ⟨rfl, _⟩ := followEdges_inr followed
                    apply ih
                    have levels : ((outgoing.answer entry.node entry.hops).map entry.along).map
                        Entry.hops = List.replicate
                          (outgoing.answer entry.node entry.hops).length (entry.hops + 1) := by
                      simp [Entry.along, Function.comp_def]
                    rw [List.map_append, levels]
                    have few := outgoing.length_le entry.node entry.hops
                    exact Nat.lt_of_lt_of_le (outlay_replace_lt (Int.not_le.1 near) few)
                      (Nat.le_of_lt_succ enough)

/-- More fuel does not change an answer. -/
theorem search_mono {answer : String → ℕ → List ResponsibilityEdge} {fuel more : ℕ}
    {queue : List Entry} {visited : List (String × ℕ)} {found : List String} (le : fuel ≤ more)
    (ended : search answer target maxHops fuel queue visited = some found) :
    search answer target maxHops more queue visited = some found := by
  induction fuel generalizing more queue visited with
  | zero => cases ended
  | succ fuel ih =>
      obtain ⟨more, rfl⟩ := Nat.exists_eq_add_of_le' le
      have le : fuel ≤ more + fuel := Nat.le_add_left _ _
      cases queue with
      | nil => exact ended
      | cons entry queue =>
          simp only [search] at ended ⊢
          split at ended
          · next far => rw [if_pos far]; exact ih le ended
          · next near =>
              rw [if_neg near]
              split at ended
              · next seen => rw [if_pos seen]; exact ih le ended
              · next fresh =>
                  rw [if_neg fresh]
                  split at ended
                  · exact ended
                  · exact ih le ended

/-! ## What the search is for -/

/-- The edges of a walk from `start` to `target` than which none is shorter. -/
def Shortest (rows : List ResponsibilityEdge) (start target : String)
    (path : List ResponsibilityEdge) : Prop :=
  (graphOf rows).Walk start path target ∧
    ∀ other, (graphOf rows).Walk start other target → path.length ≤ other.length

/-- The answer of a search that ends: no path where none is within the bound, else the hashes
of a shortest one. -/
def Exact (rows : List ResponsibilityEdge) (start target : String) (maxHops : Int)
    (found : List String) : Prop :=
  (found ≠ [] ↔ ∃ path, (graphOf rows).Walk start path target ∧ (path.length : Int) ≤ maxHops) ∧
    (found ≠ [] → ∃ path, Shortest rows start target path ∧
      found = path.map ResponsibilityEdge.edgeHash)

/-! ## What the search knows -/

/-- Between two rounds: the queue holds walks, sorted by their length up to one edge, and every
edge that leaves a visited identity leads on to a visited or a queued one, within the bound. -/
structure Explored (rows : List ResponsibilityEdge) (start target : String) (maxHops : Int)
    (queue : List Entry) (visited : List (String × ℕ)) : Prop where
  walks : ∀ entry ∈ queue, ∃ path, (graphOf rows).Walk start path entry.node ∧
    entry.pathHashes = path.map ResponsibilityEdge.edgeHash ∧ entry.hops = path.length
  sorted : queue.Pairwise fun first second =>
    first.hops ≤ second.hops ∧ second.hops ≤ first.hops + 1
  begun : (start, 0) ∈ visited ∨ (∃ entry ∈ queue, entry.node = start ∧ entry.hops = 0) ∨
    maxHops ≤ 0
  passed : ∀ key ∈ visited, ∀ edge ∈ rows, edge.sourceIdentityId = key.1 →
    edge.targetIdentityId ≠ target
  closed : ∀ key ∈ visited, ∀ edge ∈ rows, edge.sourceIdentityId = key.1 →
    (edge.targetIdentityId, key.2 + 1) ∈ visited ∨
      (∃ entry ∈ queue, entry.node = edge.targetIdentityId ∧ entry.hops = key.2 + 1) ∨
        maxHops ≤ (key.2 + 1 : ℕ)

namespace Explored

variable {queue : List Entry} {visited : List (String × ℕ)} {entry : Entry}
  {path : List ResponsibilityEdge} {finish : String}

theorem initial : Explored rows start target maxHops [⟨start, [], 0⟩] [] where
  walks entry member := by
    obtain rfl := List.mem_singleton.1 member
    exact ⟨[], .nil, rfl, rfl⟩
  sorted := List.pairwise_singleton _ _
  begun := .inr (.inl ⟨_, List.mem_singleton_self _, rfl, rfl⟩)
  passed := by simp
  closed := by simp

/-- Below the hops of everything queued, every walk ends in a visited identity. -/
theorem visited_of_walk (explored : Explored rows start target maxHops queue visited)
    {level : ℕ} (below : (level : Int) ≤ maxHops) (ahead : ∀ entry ∈ queue, level ≤ entry.hops)
    (walk : (graphOf rows).Walk start path finish) (short : path.length < level) :
    (finish, path.length) ∈ visited := by
  induction walk with
  | nil =>
      rcases explored.begun with seen | ⟨entry, member, _, zero⟩ | none
      · exact seen
      · have := ahead entry member
        simp at short
        omega
      · simp at short
        omega
  | snoc _ step ih =>
      simp only [List.length_append, List.length_singleton] at short ⊢
      obtain ⟨listed, leaves, rfl⟩ := step
      have before := ih (by omega)
      rcases explored.closed _ before _ listed leaves with seen | ⟨entry, member, _, far⟩ | far
      · exact seen
      · have := ahead entry member
        omega
      · omega

/-- So no walk of that many edges reaches the target. -/
theorem not_reached (explored : Explored rows start target maxHops queue visited)
    {level : ℕ} (below : (level : Int) ≤ maxHops) (ahead : ∀ entry ∈ queue, level ≤ entry.hops)
    (elsewhere : start ≠ target) (walk : (graphOf rows).Walk start path target) :
    level < path.length := by
  obtain ⟨earlier, edge, rfl, before, listed, reaches⟩ := walk.exists_snoc elsewhere
  by_contra short
  simp only [List.length_append, List.length_singleton, not_lt] at short
  have seen := explored.visited_of_walk below ahead before short
  exact explored.passed _ seen edge listed rfl reaches

/-- The search may forget an entry beyond the bound, or one visited before. -/
theorem skip (explored : Explored rows start target maxHops (entry :: queue) visited)
    (known : maxHops ≤ entry.hops ∨ (entry.node, entry.hops) ∈ visited) :
    Explored rows start target maxHops queue visited where
  walks other member := explored.walks other (List.mem_cons_of_mem _ member)
  sorted := (List.pairwise_cons.1 explored.sorted).2
  begun := by
    rcases explored.begun with seen | ⟨other, member, here, zero⟩ | none
    · exact .inl seen
    · rcases List.mem_cons.1 member with rfl | member
      · rw [here, zero] at known
        exact known.elim (fun none => .inr (.inr none)) .inl
      · exact .inr (.inl ⟨other, member, here, zero⟩)
    · exact .inr (.inr none)
  passed := explored.passed
  closed key member edge listed leaves := by
    rcases explored.closed key member edge listed leaves with
      seen | ⟨other, queued, there, far⟩ | far
    · exact .inl seen
    · rcases List.mem_cons.1 queued with rfl | queued
      · rw [there, far] at known
        exact known.elim (fun far => .inr (.inr far)) .inl
      · exact .inr (.inl ⟨other, queued, there, far⟩)
    · exact .inr (.inr far)

/-- A round that does not end the search. -/
theorem expand (explored : Explored rows start target maxHops (entry :: queue) visited)
    (outgoing : Outgoing rows)
    (passes : ∀ edge ∈ outgoing.answer entry.node entry.hops, edge.targetIdentityId ≠ target) :
    Explored rows start target maxHops
      (queue ++ (outgoing.answer entry.node entry.hops).map entry.along)
      ((entry.node, entry.hops) :: visited) where
  walks other member := by
    rcases List.mem_append.1 member with member | member
    · exact explored.walks other (List.mem_cons_of_mem _ member)
    · obtain ⟨edge, listed, rfl⟩ := List.mem_map.1 member
      obtain ⟨path, walk, hashes, hops⟩ := explored.walks entry List.mem_cons_self
      obtain ⟨row, leaves⟩ := outgoing.mem_answer.1 listed
      refine ⟨path ++ [edge], walk.snoc row leaves, ?_, ?_⟩
      · simp [Entry.along, hashes]
      · simp [Entry.along, hops]
  sorted := by
    obtain ⟨ahead, rest⟩ := List.pairwise_cons.1 explored.sorted
    refine List.pairwise_append.2 ⟨rest, ?_, ?_⟩
    · exact List.pairwise_map.2 (List.pairwise_of_forall fun _ _ => by simp [Entry.along])
    · intro first member second new
      obtain ⟨edge, _, rfl⟩ := List.mem_map.1 new
      have := ahead first member
      simp only [Entry.along]
      omega
  begun := by
    rcases explored.begun with seen | ⟨other, member, here, zero⟩ | none
    · exact .inl (List.mem_cons_of_mem _ seen)
    · rcases List.mem_cons.1 member with rfl | member
      · exact .inl (by simp [here, zero])
      · exact .inr (.inl ⟨other, List.mem_append_left _ member, here, zero⟩)
    · exact .inr (.inr none)
  passed key member edge listed leaves := by
    rcases List.mem_cons.1 member with rfl | member
    · exact passes edge (outgoing.mem_answer.2 ⟨listed, leaves⟩)
    · exact explored.passed key member edge listed leaves
  closed key member edge listed leaves := by
    rcases List.mem_cons.1 member with rfl | member
    · have row : edge ∈ outgoing.answer entry.node entry.hops :=
        outgoing.mem_answer.2 ⟨listed, leaves⟩
      refine .inr (.inl ⟨entry.along edge, ?_, rfl, rfl⟩)
      exact List.mem_append_right _ (List.mem_map_of_mem row)
    · rcases explored.closed key member edge listed leaves with
        seen | ⟨other, queued, there, far⟩ | far
      · exact .inl (List.mem_cons_of_mem _ seen)
      · rcases List.mem_cons.1 queued with rfl | queued
        · exact .inl (by simp [← there, ← far])
        · exact .inr (.inl ⟨other, List.mem_append_left _ queued, there, far⟩)
      · exact .inr (.inr far)

/-- A round that ends the search: the level of `entry` is the least that remains, so the path
found is a shortest one. -/
theorem found (explored : Explored rows start target maxHops (entry :: queue) visited)
    (outgoing : Outgoing rows) (elsewhere : start ≠ target)
    (near : (entry.hops : Int) < maxHops) {found : List String}
    (followed : followEdges target entry (outgoing.answer entry.node entry.hops) queue =
      .inl found) :
    Exact rows start target maxHops found := by
  obtain ⟨edge, listed, reaches, rfl⟩ := followEdges_inl followed
  obtain ⟨path, walk, hashes, hops⟩ := explored.walks entry List.mem_cons_self
  obtain ⟨row, leaves⟩ := outgoing.mem_answer.1 listed
  have whole : (graphOf rows).Walk start (path ++ [edge]) target := by
    rw [← reaches]
    exact walk.snoc row leaves
  have long : (path ++ [edge]).length = entry.hops + 1 := by simp [hops]
  have ahead : ∀ other ∈ entry :: queue, entry.hops ≤ other.hops := by
    intro other member
    rcases List.mem_cons.1 member with rfl | member
    · exact le_rfl
    · exact ((List.pairwise_cons.1 explored.sorted).1 other member).1
  have least : ∀ other, (graphOf rows).Walk start other target → entry.hops < other.length :=
    fun _ => explored.not_reached near.le ahead elsewhere
  refine ⟨⟨fun _ => ⟨path ++ [edge], whole, ?_⟩, fun _ => by simp⟩, fun _ => ?_⟩
  · omega
  · refine ⟨path ++ [edge], ⟨whole, fun other walk => ?_⟩, by simp [hashes]⟩
    exact long.trans_le (least other walk)

end Explored

/-! ## What the search finds -/

theorem search_exact (outgoing : Outgoing rows) (elsewhere : start ≠ target) {fuel : ℕ}
    {queue : List Entry} {visited : List (String × ℕ)} {found : List String}
    (explored : Explored rows start target maxHops queue visited)
    (ended : search outgoing.answer target maxHops fuel queue visited = some found) :
    Exact rows start target maxHops found := by
  induction fuel generalizing queue visited with
  | zero => cases ended
  | succ fuel ih =>
      cases queue with
      | nil =>
          obtain rfl : [] = found := Option.some.inj ended
          have none : ∀ path, (graphOf rows).Walk start path target →
              ¬(path.length : Int) ≤ maxHops := by
            intro path walk within
            have beyond := explored.not_reached within (by simp) elsewhere walk
            exact Nat.lt_irrefl _ beyond
          exact ⟨⟨fun found => absurd rfl found, fun ⟨path, walk, within⟩ =>
            absurd within (none path walk)⟩, fun found => absurd rfl found⟩
      | cons entry queue =>
          simp only [search] at ended
          split at ended
          · next far => exact ih (explored.skip (.inl far)) ended
          · next near =>
              split at ended
              · next seen => exact ih (explored.skip (.inr seen)) ended
              · split at ended
                · next followed =>
                    obtain rfl := Option.some.inj ended
                    exact explored.found outgoing elsewhere (Int.not_le.1 near) followed
                · next followed =>
                    obtain ⟨rfl, passes⟩ := followEdges_inr followed
                    exact ih (explored.expand outgoing passes) ended

/-- For two different identities and any bound, the search ends with the same answer whatever
the fuel from some amount on, and that answer is exact. -/
theorem findCyclePathHashes_exact (rows : List ResponsibilityEdge) (outgoing : Outgoing rows)
    (start target : String) (elsewhere : start ≠ target) (maxHops : Int) :
    ∃ found, (∃ enough, ∀ fuel, enough ≤ fuel →
        findCyclePathHashes outgoing.answer start target maxHops fuel = some found) ∧
      Exact rows start target maxHops found := by
  let begin : List Entry := [⟨start, [], 0⟩]
  let spent := outlay rows.length maxHops (begin.map Entry.hops)
  have enough : spent < spent + 1 := Nat.lt_succ_self spent
  obtain ⟨found, ended⟩ := @search_ends rows target maxHops outgoing _ _ [] enough
  refine ⟨found, ⟨spent + 1, ?_⟩, search_exact outgoing elsewhere .initial ended⟩
  intro fuel le
  rw [findCyclePathHashes, if_neg elsewhere]
  exact search_mono le ended

namespace Demo

/-- Two ways from the payee back to the payer, a loop and a parallel edge. -/
def authorizations : List ResponsibilityEdge :=
  [⟨"e1", "payee", "broker", 10⟩, ⟨"e2", "payee", "payee", 11⟩, ⟨"e3", "broker", "agent", 12⟩,
    ⟨"e4", "agent", "payer", 13⟩, ⟨"e5", "broker", "payer", 14⟩, ⟨"e6", "payee", "broker", 15⟩]

example : findCyclePathHashes (Outgoing.stored authorizations).answer "payee" "payer" 6 40 =
    some ["e1", "e5"] := by decide

theorem authorizations_exact :
    ∃ found, (∃ enough, ∀ fuel, enough ≤ fuel →
        findCyclePathHashes (Outgoing.stored authorizations).answer "payee" "payer" 6 fuel =
          some found) ∧
      Exact authorizations "payee" "payer" 6 found :=
  findCyclePathHashes_exact authorizations (.stored authorizations) "payee" "payer" (by decide) 6

end Demo

end TrustChain.Responsibility
