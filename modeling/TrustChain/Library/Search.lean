import Mathlib.Data.List.Basic
import Mathlib.Logic.Relation

/-!
# Search over finite edge lists

Acyclic relations, and when one more edge keeps a relation acyclic. A search with a stack and a
set of expanded nodes, over a finite list of edges: it ends, and it finds its target exactly if
a path leads there.
-/

namespace TrustChain.Library

open Relation

variable {α : Type*}

/-! ## Acyclic relations -/

section Relations

variable {edge other : α → α → Prop} {source target first last : α}

/-- No node leads back to itself. -/
def Acyclic (edge : α → α → Prop) : Prop := ∀ node, ¬TransGen edge node node

/-- A relation with one more edge. -/
def WithEdge (edge : α → α → Prop) (source target : α) : α → α → Prop := fun first last =>
  edge first last ∨ (first = source ∧ last = target)

theorem Acyclic.mono (acyclic : Acyclic other)
    (contained : ∀ first last, edge first last → other first last) : Acyclic edge :=
  fun node cycle => acyclic node (TransGen.mono contained node node cycle)

/-- A path over the additional edge goes to its source and on from its target. -/
theorem path_withEdge (path : TransGen (WithEdge edge source target) first last) :
    TransGen edge first last ∨
      (ReflTransGen edge first source ∧ ReflTransGen edge target last) := by
  induction path with
  | single step =>
      rcases step with old | ⟨rfl, rfl⟩
      · exact .inl (.single old)
      · exact .inr ⟨.refl, .refl⟩
  | tail _ step ih =>
      rcases step with old | ⟨rfl, rfl⟩
      · exact ih.imp (·.tail old) fun around => ⟨around.1, around.2.tail old⟩
      · rcases ih with before | around
        · exact .inr ⟨before.to_reflTransGen, .refl⟩
        · exact .inr ⟨around.1, .refl⟩

/-- An edge closes a cycle exactly if a path leads from its target to its source. -/
theorem acyclic_withEdge_iff :
    Acyclic (WithEdge edge source target) ↔ Acyclic edge ∧ ¬ReflTransGen edge target source := by
  have old : ∀ first last, edge first last → WithEdge edge source target first last :=
    fun _ _ => .inl
  constructor
  · intro acyclic
    refine ⟨acyclic.mono old, fun back => acyclic source ?_⟩
    have added : WithEdge edge source target source target := .inr ⟨rfl, rfl⟩
    exact .head' added (ReflTransGen.mono old target source back)
  · rintro ⟨acyclic, open_⟩ node cycle
    rcases path_withEdge cycle with before | ⟨toSource, fromTarget⟩
    · exact acyclic node before
    · exact open_ (fromTarget.trans toSource)

end Relations

/-! ## The search -/

section Search

variable [DecidableEq α] (edges : List (α × α)) (target : α)

/-- The relation of an edge list. -/
def Adjacent (first last : α) : Prop := (first, last) ∈ edges

def successors (node : α) : List α := (edges.filter fun edge => edge.1 = node).map Prod.snd

/-- Search from the nodes on the stack, in so many rounds at most. -/
def search : Nat → List α → List α → Option Bool
  | 0, _, _ => none
  | _ + 1, [], _ => some false
  | rounds + 1, node :: stack, seen =>
      if node = target then some true
      else if node ∈ seen then search rounds stack seen
      else search rounds ((successors edges node).reverse ++ stack) (node :: seen)

/-- The rounds that a search can still take: one for each node on the stack, and one for each
edge out of a node that has not been expanded. -/
def roundsLeft (stack seen : List α) : Nat :=
  stack.length + (edges.filter fun edge => edge.1 ∉ seen).length

variable {edges target} {stack seen : List α} {node : α}

theorem mem_successors {next : α} : next ∈ successors edges node ↔ Adjacent edges node next := by
  simp [successors, Adjacent]

/-- The edges out of unexpanded nodes are those out of one such node and out of the others. -/
theorem length_unexpanded (fresh : node ∉ seen) :
    (successors edges node).length + (edges.filter fun edge => edge.1 ∉ node :: seen).length =
      (edges.filter fun edge => edge.1 ∉ seen).length := by
  simp only [successors, List.length_map]
  induction edges with
  | nil => rfl
  | cons edge rest ih =>
      by_cases here : edge.1 = node
      · subst here
        simp only [List.filter_cons_of_pos, decide_true, fresh, not_false_eq_true,
          List.length_cons, ← ih]
        simp [Nat.add_right_comm]
      · by_cases old : edge.1 ∈ seen
        · simpa [List.filter_cons, here, old] using ih
        · simp [here, old] at ih ⊢
          omega

/-- With more rounds than are left the search comes to an end. -/
theorem search_isSome {rounds : Nat} (enough : roundsLeft edges stack seen < rounds) :
    (search edges target rounds stack seen).isSome := by
  induction rounds generalizing stack seen with
  | zero => exact absurd enough (Nat.not_lt_zero _)
  | succ rounds ih =>
      match stack with
      | [] => rfl
      | node :: stack =>
          rw [search]
          split
          case isTrue => rfl
          case isFalse =>
            have fewer :
                roundsLeft edges stack seen + 1 = roundsLeft edges (node :: stack) seen := by
              simp only [roundsLeft, List.length_cons]
              omega
            split
            case isTrue => exact ih (by omega)
            case isFalse fresh =>
              apply ih
              have exchanged : (successors edges node).length +
                  (edges.filter fun edge => edge.1 ∉ node :: seen).length =
                  (edges.filter fun edge => edge.1 ∉ seen).length := length_unexpanded fresh
              simp only [roundsLeft, List.length_append, List.length_reverse] at fewer enough ⊢
              omega

/-- What was expanded leads to what was expanded or is still on the stack. -/
def Covered (edges : List (α × α)) (stack seen : List α) : Prop :=
  ∀ node ∈ seen, ∀ next, Adjacent edges node next → next ∈ seen ∨ next ∈ stack

omit [DecidableEq α] in
/-- A path out of the expanded nodes goes over the stack. -/
theorem Covered.exit (covered : Covered edges stack seen) (unseen : target ∉ seen)
    (path : ReflTransGen (Adjacent edges) node target) (expanded : node ∈ seen) :
    ∃ next ∈ stack, ReflTransGen (Adjacent edges) next target := by
  induction path using ReflTransGen.head_induction_on with
  | refl => exact absurd expanded unseen
  | head step rest ih =>
      rcases covered _ expanded _ step with inside | waiting
      · exact ih inside
      · exact ⟨_, waiting, rest⟩

/-- A finished search has found the target exactly if a path leads there from the stack. -/
theorem search_eq_some {rounds : Nat} {found : Bool} (covered : Covered edges stack seen)
    (unseen : target ∉ seen) (ended : search edges target rounds stack seen = some found) :
    found = true ↔ ∃ node ∈ stack, ReflTransGen (Adjacent edges) node target := by
  induction rounds generalizing stack seen with
  | zero => cases ended
  | succ rounds ih =>
      match stack with
      | [] =>
          obtain rfl := Option.some.inj ended
          simp
      | node :: stack =>
          rw [search] at ended
          split at ended
          case isTrue here =>
            obtain rfl := Option.some.inj ended
            exact iff_of_true rfl ⟨node, List.mem_cons_self, here ▸ .refl⟩
          case isFalse elsewhere =>
            split at ended
            case isTrue expanded =>
              -- the node has been expanded: the rest of the stack decides
              have rest : Covered edges stack seen := by
                intro inner inside next step
                rcases covered inner inside next step with old | waiting
                · exact .inl old
                · rcases List.mem_cons.mp waiting with rfl | waiting
                  · exact .inl expanded
                  · exact .inr waiting
              rw [ih rest unseen ended]
              constructor
              · rintro ⟨next, waiting, path⟩
                exact ⟨next, List.mem_cons_of_mem node waiting, path⟩
              · rintro ⟨next, waiting, path⟩
                rcases List.mem_cons.mp waiting with rfl | waiting
                · exact rest.exit unseen path expanded
                · exact ⟨next, waiting, path⟩
            case isFalse fresh =>
              have expanded : Covered edges ((successors edges node).reverse ++ stack)
                  (node :: seen) := by
                intro inner inside next step
                rcases List.mem_cons.mp inside with rfl | inside
                · exact .inr (List.mem_append_left _
                    (List.mem_reverse.mpr (mem_successors.mpr step)))
                · rcases covered inner inside next step with old | waiting
                  · exact .inl (List.mem_cons_of_mem node old)
                  · rcases List.mem_cons.mp waiting with rfl | waiting
                    · exact .inl List.mem_cons_self
                    · exact .inr (List.mem_append_right _ waiting)
              have still : target ∉ node :: seen := by
                rw [List.mem_cons, not_or]
                exact ⟨Ne.symm elsewhere, unseen⟩
              rw [ih expanded still ended]
              constructor
              · rintro ⟨next, waiting, path⟩
                rcases List.mem_append.mp waiting with successor | waiting
                · have step := mem_successors.mp (List.mem_reverse.mp successor)
                  exact ⟨node, List.mem_cons_self, .head step path⟩
                · exact ⟨next, List.mem_cons_of_mem node waiting, path⟩
              · rintro ⟨next, waiting, path⟩
                rcases List.mem_cons.mp waiting with rfl | waiting
                · rcases path.cases_head with same | ⟨after, step, rest⟩
                  · exact absurd same elsewhere
                  · exact ⟨after, List.mem_append_left _
                      (List.mem_reverse.mpr (mem_successors.mpr step)), rest⟩
                · exact ⟨next, List.mem_append_right _ waiting, path⟩

/-- From one node, as many rounds as there are edges and two more are enough. -/
theorem search_from {rounds : Nat} (enough : edges.length + 2 ≤ rounds) (source : α) :
    ∃ found, search edges target rounds [source] [] = some found ∧
      (found = true ↔ ReflTransGen (Adjacent edges) source target) := by
  have all : roundsLeft edges [source] [] = edges.length + 1 := by
    simp [roundsLeft, Nat.add_comm]
  have ends : (search edges target rounds [source] []).isSome := search_isSome (by omega)
  obtain ⟨found, ended⟩ := Option.isSome_iff_exists.mp ends
  refine ⟨found, ended, ?_⟩
  have covered : Covered edges [source] [] := by
    intro node inside
    exact absurd inside List.not_mem_nil
  rw [search_eq_some covered List.not_mem_nil ended]
  simp

end Search

end TrustChain.Library
