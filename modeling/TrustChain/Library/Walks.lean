import Mathlib.Data.List.Shortlex
import TrustChain.Library.Transition

/-!
# Walks in labelled multigraphs

A multigraph is a list of edges with a source and a target; parallel edges and loops
count. Its walks are the runs of the system whose steps are its edges. The walks are
ordered as a breadth first search meets them: shorter ones first, and among those of one
length by the place of their edges in the list.
-/

namespace TrustChain.Library

structure Multigraph (ν ε : Type*) where
  edges : List ε
  source : ε → ν
  target : ε → ν

namespace Multigraph

variable {ν ε : Type*} (graph : Multigraph ν ε)

/-- Nodes as states, edges as steps. -/
def system : TransitionSystem ν ε where
  Init _ := True
  Step node edge next :=
    edge ∈ graph.edges ∧ graph.source edge = node ∧ graph.target edge = next

/-- The edges of `path`, in order, lead from `start` to `finish`. -/
abbrev Walk (start : ν) (path : List ε) (finish : ν) : Prop :=
  graph.system.Run start path finish

/-- The nodes that a path from `start` passes through, in order. -/
def nodes (start : ν) (path : List ε) : List ν := start :: path.map graph.target

/-- A shortest walk from `start` to `finish` has `distance` edges. -/
def AtDistance (start : ν) (distance : ℕ) (finish : ν) : Prop :=
  (∃ path, graph.Walk start path finish ∧ path.length = distance) ∧
    ∀ path, graph.Walk start path finish → distance ≤ path.length

variable {graph} {start finish node : ν} {path other : List ε} {edge : ε}

namespace Walk

theorem snoc (walk : graph.Walk start path finish) (listed : edge ∈ graph.edges)
    (leaves : graph.source edge = finish) :
    graph.Walk start (path ++ [edge]) (graph.target edge) :=
  TransitionSystem.Run.snoc walk ⟨listed, leaves, rfl⟩

/-- The last edge of a walk, and the walk up to it. -/
theorem unsnoc (walk : graph.Walk start (path ++ [edge]) finish) :
    graph.Walk start path (graph.source edge) ∧ edge ∈ graph.edges ∧
      graph.target edge = finish := by
  obtain ⟨middle, earlier, last⟩ := walk.split
  obtain ⟨after, ⟨listed, leaves, enters⟩, rest⟩ := last.uncons
  obtain rfl := rest.nil_eq
  subst leaves enters
  exact ⟨earlier, listed, rfl⟩

/-- A walk to another node has a last edge. -/
theorem exists_snoc (walk : graph.Walk start path finish) (elsewhere : start ≠ finish) :
    ∃ earlier edge, path = earlier ++ [edge] ∧ graph.Walk start earlier (graph.source edge) ∧
      edge ∈ graph.edges ∧ graph.target edge = finish := by
  induction path using List.reverseRecOn with
  | nil => exact absurd walk.nil_eq.symm elsewhere
  | append_singleton earlier edge _ => exact ⟨earlier, edge, rfl, walk.unsnoc⟩

end Walk

theorem nodes_snoc : graph.nodes start (path ++ [edge]) =
    graph.nodes start path ++ [graph.target edge] := by
  simp [nodes]

/-- Where shorter is nearer, the distance of a node is near exactly if some walk to it is. -/
theorem exists_atDistance_iff {near : ℕ → Prop}
    (closed : ∀ short long, short ≤ long → near long → near short) :
    (∃ distance, graph.AtDistance start distance finish ∧ near distance) ↔
      ∃ path, graph.Walk start path finish ∧ near path.length := by
  constructor
  · intro ⟨distance, ⟨⟨path, walk, exactly⟩, _⟩, within⟩
    exact ⟨path, walk, exactly.symm ▸ within⟩
  · intro ⟨path, walk, within⟩
    have some : ∃ length path, graph.Walk start path finish ∧ path.length = length :=
      ⟨path.length, path, walk, rfl⟩
    classical
    refine ⟨Nat.find some, ⟨Nat.find_spec some, fun other again => ?_⟩, ?_⟩
    · exact Nat.find_min' some ⟨other, again, rfl⟩
    · exact closed _ _ (Nat.find_min' some ⟨path, walk, rfl⟩) within

/-- Another node is at least one edge away. -/
theorem AtDistance.pos {distance : ℕ} (apart : graph.AtDistance start distance finish)
    (elsewhere : start ≠ finish) : 1 ≤ distance := by
  obtain ⟨⟨path, walk, rfl⟩, _⟩ := apart
  obtain ⟨earlier, edge, rfl, _⟩ := walk.exists_snoc elsewhere
  simp

/-! ## The order of a breadth first search -/

section Order

/-- At the same length, the order of two paths decides that of their continuations. -/
theorem lex_snoc {relation : ε → ε → Prop} {last : ε}
    (lex : List.Lex relation path other) (equal : path.length = other.length) :
    List.Lex relation (path ++ [edge]) (other ++ [last]) := by
  induction lex with
  | nil => simp at equal
  | rel less => exact .rel less
  | cons _ ih => exact .cons (ih (by simpa using equal))

variable [DecidableEq ε]

variable (graph) in
/-- `path` is met before `other`: it is shorter, or of the same length and at the first
difference its edge stands earlier in the list. -/
def Precedes (path other : List ε) : Prop :=
  List.Shortlex (fun first second => graph.edges.idxOf first < graph.edges.idxOf second)
    path other

variable (graph) in
/-- The walk to `finish` that is met before every other one. -/
structure First (start : ν) (path : List ε) (finish : ν) : Prop where
  walk : graph.Walk start path finish
  least : ∀ other, graph.Walk start other finish → other = path ∨ graph.Precedes path other

namespace Precedes

variable {third : List ε} {last : ε}

theorem of_length_lt (shorter : path.length < other.length) : graph.Precedes path other :=
  List.Shortlex.of_length_lt shorter

theorem length_le (before : graph.Precedes path other) : path.length ≤ other.length :=
  (List.shortlex_def.1 before).elim Nat.le_of_lt fun equal => equal.1.le

theorem trans (first : graph.Precedes path other) (second : graph.Precedes other third) :
    graph.Precedes path third := by
  have shorter := first.length_le
  have shortest := second.length_le
  rcases List.shortlex_def.1 first with less | ⟨equal, lex⟩
  · exact of_length_lt (less.trans_le shortest)
  · rcases List.shortlex_def.1 second with less | ⟨same, after⟩
    · exact of_length_lt (equal.trans_lt less)
    · exact List.Shortlex.of_lex (equal.trans same) (List.lex_trans Nat.lt_trans lex after)

theorem irrefl : ¬graph.Precedes path path := by
  have asymmetric : Std.Asymm fun first second : ε =>
      graph.edges.idxOf first < graph.edges.idxOf second :=
    ⟨fun _ _ less more => Nat.lt_asymm less more⟩
  intro before
  exact List.Shortlex.asymm.asymm path path before before

theorem append (before : graph.Precedes path other) :
    graph.Precedes (path ++ [edge]) (other ++ [last]) := by
  rcases List.shortlex_def.1 before with less | ⟨equal, lex⟩
  · exact of_length_lt (by simpa using less)
  · exact List.Shortlex.of_lex (by simpa using equal) (lex_snoc lex equal)

theorem snoc (before : graph.edges.idxOf edge < graph.edges.idxOf last) :
    graph.Precedes (path ++ [edge]) (path ++ [last]) :=
  List.Shortlex.append_left ((List.shortlex_singleton_iff edge last).2 before) path

theorem longer : graph.Precedes path (path ++ [edge]) := of_length_lt (by simp)

end Precedes

namespace First

theorem length_le (first : graph.First start path finish)
    (walk : graph.Walk start other finish) : path.length ≤ other.length := by
  rcases first.least other walk with rfl | before
  · exact le_rfl
  · exact before.length_le

theorem unique (first : graph.First start path finish) (again : graph.First start other finish) :
    path = other := by
  rcases first.least other again.walk with same | before
  · exact same.symm
  · rcases again.least path first.walk with same | after
    · exact same
    · exact absurd (before.trans after) Precedes.irrefl

theorem self : graph.First start [] start where
  walk := .nil
  least other _ := by
    cases other with
    | nil => exact .inl rfl
    | cons edge rest => exact .inr (.of_length_lt (by simp))

end First

end Order

/-- In a list without repetitions, the edges kept by a filter stand in the order of the list. -/
theorem pairwise_idxOf [DecidableEq ε] {edges : List ε} (once : edges.Nodup) (keep : ε → Bool) :
    (edges.filter keep).Pairwise fun first second => edges.idxOf first < edges.idxOf second := by
  have whole : edges.Pairwise fun first second => edges.idxOf first < edges.idxOf second := by
    apply List.pairwise_iff_getElem.2
    intro first second below inside less
    rwa [once.idxOf_getElem, once.idxOf_getElem]
  exact whole.sublist List.filter_sublist

end Multigraph

/-! ## Fuel for a queue

A queue of entries at levels, where an entry below `bound` is replaced by at most
`branching` entries one level further, and one at `bound` or beyond by none. -/

/-- How many entries such a queue sees for one that stands `depth` levels before the bound. -/
def price (branching : ℕ) : ℕ → ℕ
  | 0 => 1
  | depth + 1 => 1 + branching * price branching depth

/-- How many it sees for all that it holds. -/
def outlay (branching : ℕ) (bound : Int) (levels : List ℕ) : ℕ :=
  (levels.map fun level : ℕ => price branching (bound - level).toNat).sum

section Fuel

variable {branching level count : ℕ} {bound : Int} {levels : List ℕ}

theorem price_pos (branching depth : ℕ) : 0 < price branching depth := by
  cases depth with
  | zero => exact Nat.one_pos
  | succ depth => exact Nat.add_pos_left Nat.one_pos _

theorem outlay_tail_lt :
    outlay branching bound levels < outlay branching bound (level :: levels) := by
  have positive := price_pos branching (bound - level).toNat
  simp only [outlay, List.map_cons, List.sum_cons]
  omega

theorem outlay_replace_lt (below : (level : Int) < bound) (few : count ≤ branching) :
    outlay branching bound (levels ++ List.replicate count (level + 1)) <
      outlay branching bound (level :: levels) := by
  have depth : (bound - level).toNat = (bound - (level + 1 : ℕ)).toNat + 1 := by omega
  have bounded := Nat.mul_le_mul_right (price branching (bound - (level + 1 : ℕ)).toNat) few
  have replaced : outlay branching bound (levels ++ List.replicate count (level + 1)) =
      outlay branching bound levels +
        count * price branching (bound - (level + 1 : ℕ)).toNat := by
    simp only [outlay, List.map_append, List.map_replicate, List.sum_append,
      List.sum_replicate_nat]
  have whole : outlay branching bound (level :: levels) =
      1 + branching * price branching (bound - (level + 1 : ℕ)).toNat +
        outlay branching bound levels := by
    simp only [outlay, List.map_cons, List.sum_cons, depth, price]
  omega

end Fuel

end TrustChain.Library
