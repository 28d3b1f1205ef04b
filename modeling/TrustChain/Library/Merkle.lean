import Mathlib

/-!
# Merkle trees that repeat a last odd node

Trees built by combining the nodes of a level in pairs until one is left, where a last node
without a partner is combined with itself. The result says exactly when two lists have the
same root: on the height that both trees share, their levels must be the same list once
every repetition is written out. Injectivity is assumed of the pairs that are combined only.
-/

namespace TrustChain.Library.Merkle

universe u

variable {α β : Type u}

/-- The nodes in pairs; a last node without a partner is its own. -/
def pairs : List α → List (α × α)
  | [] => []
  | [last] => [(last, last)]
  | left :: right :: rest => (left, right) :: pairs rest

/-- The components of pairs, in order. -/
def flatten : List (α × α) → List α
  | [] => []
  | (left, right) :: rest => left :: right :: flatten rest

/-- The list whose nodes are paired all the way up `height` levels, with every repetition
written out. -/
def fill : Nat → {α : Type u} → List α → List α
  | 0, _, nodes => nodes
  | height + 1, _, nodes => flatten (fill height (pairs nodes))

/-- The number of levels above a list. -/
def height (nodes : List α) : Nat := Nat.clog 2 nodes.length

section Pairs

theorem pairs_length : (nodes : List α) → (pairs nodes).length = (nodes.length + 1) / 2
  | [] => by simp [pairs]
  | [_] => by simp [pairs]
  | _ :: _ :: rest => by
      simp only [pairs, List.length_cons, pairs_length rest]
      omega

theorem pairs_map (image : α → β) : (nodes : List α) →
    pairs (nodes.map image) = (pairs nodes).map (Prod.map image image)
  | [] => rfl
  | [_] => rfl
  | _ :: _ :: rest => by simp [pairs, pairs_map image rest]

theorem mem_pairs {pair : α × α} : {nodes : List α} → pair ∈ pairs nodes →
    pair.1 ∈ nodes ∧ pair.2 ∈ nodes
  | [_], member => by
      obtain rfl := List.mem_singleton.mp member
      exact ⟨List.mem_singleton_self _, List.mem_singleton_self _⟩
  | left :: right :: rest, member => by
      rcases List.mem_cons.mp member with rfl | later
      · simp
      · obtain ⟨first, second⟩ := mem_pairs later
        simp [first, second]

theorem flatten_map (image : α → β) (list : List (α × α)) :
    flatten (list.map (Prod.map image image)) = (flatten list).map image := by
  induction list with
  | nil => rfl
  | cons pair rest ih => simp [flatten, ih]

theorem flatten_inj {list other : List (α × α)} : flatten list = flatten other ↔ list = other := by
  constructor
  · intro same
    induction list generalizing other with
    | nil =>
        cases other with
        | nil => rfl
        | cons => simp [flatten] at same
    | cons pair rest ih =>
        cases other with
        | nil => simp [flatten] at same
        | cons otherPair otherRest =>
            simp only [flatten, List.cons.injEq] at same
            obtain ⟨left, right, later⟩ := same
            rw [Prod.ext left right, ih later]
  · exact congrArg flatten

theorem mem_flatten {node : α} {list : List (α × α)} (member : node ∈ flatten list) :
    ∃ pair ∈ list, node = pair.1 ∨ node = pair.2 := by
  induction list with
  | nil => cases member
  | cons pair rest ih =>
      simp only [flatten, List.mem_cons] at member
      rcases member with left | right | later
      · exact ⟨pair, List.mem_cons_self, .inl left⟩
      · exact ⟨pair, List.mem_cons_self, .inr right⟩
      · obtain ⟨found, inside, component⟩ := ih later
        exact ⟨found, List.mem_cons_of_mem _ inside, component⟩

theorem flatten_mono {list other : List (α × α)} (initial : list <+: other) :
    flatten list <+: flatten other := by
  obtain ⟨more, rfl⟩ := initial
  induction list with
  | nil => exact List.nil_prefix
  | cons pair rest ih => simpa [flatten] using ih

theorem prefix_flatten_pairs : (nodes : List α) → nodes <+: flatten (pairs nodes)
  | [] => List.prefix_rfl
  | [last] => ⟨[last], rfl⟩
  | left :: right :: rest => by simpa [pairs, flatten] using prefix_flatten_pairs rest

end Pairs

section Fill

theorem fill_map (count : Nat) (image : α → β) (nodes : List α) :
    fill count (nodes.map image) = (fill count nodes).map image := by
  induction count generalizing α β with
  | zero => rfl
  | succ count ih => simp only [fill, pairs_map, ih, flatten_map]

theorem mem_fill {count : Nat} {node : α} {nodes : List α} (member : node ∈ fill count nodes) :
    node ∈ nodes := by
  induction count generalizing α with
  | zero => exact member
  | succ count ih =>
      obtain ⟨pair, inside, component⟩ := mem_flatten member
      obtain ⟨left, right⟩ := mem_pairs (ih inside)
      rcases component with rfl | rfl
      · exact left
      · exact right

/-- Filling up only adds to a list. -/
theorem prefix_fill (count : Nat) (nodes : List α) : nodes <+: fill count nodes := by
  induction count generalizing α with
  | zero => exact List.prefix_rfl
  | succ count ih => exact (prefix_flatten_pairs nodes).trans (flatten_mono (ih (pairs nodes)))

/-- Lists of one length that fill up to the same list are the same. -/
theorem eq_of_fill_eq {count : Nat} {nodes others : List α}
    (sameLength : nodes.length = others.length) (same : fill count nodes = fill count others) :
    nodes = others := by
  have first := prefix_fill count nodes
  rw [same] at first
  exact (List.prefix_of_prefix_length_le first (prefix_fill count others) sameLength.le).eq_of_length
    sameLength

end Fill

/-! ## Levels and roots -/

section Levels

variable (combine : α → α → α)

/-- The next level up. -/
def above (nodes : List α) : List α := (pairs nodes).map fun pair => combine pair.1 pair.2

/-- The level `count` steps up. -/
def level : Nat → List α → List α
  | 0, nodes => nodes
  | count + 1, nodes => level count (above combine nodes)

/-- The pairs that are combined on the way `count` steps up. -/
def combined : Nat → List α → List (α × α)
  | 0, _ => []
  | count + 1, nodes => pairs nodes ++ combined count (above combine nodes)

/-- Go up until at most one node is left, or `fuel` runs out. -/
def climb : Nat → List α → List α
  | 0, nodes => nodes
  | fuel + 1, nodes => if 1 < nodes.length then climb fuel (above combine nodes) else nodes

/-- The node that is left at the top, if there are any. -/
def root (nodes : List α) : Option α := (climb combine nodes.length nodes).head?

variable {combine}

theorem above_length (nodes : List α) : (above combine nodes).length = (nodes.length + 1) / 2 := by
  rw [above, List.length_map, pairs_length]

theorem height_above {nodes : List α} (several : 1 < nodes.length) :
    height nodes = height (above combine nodes) + 1 := by
  rw [height, height, above_length, Nat.clog_of_one_lt (by decide) several]
  rfl

/-- Fuel for every node suffices to reach the top. -/
theorem climb_eq_level {fuel : Nat} {nodes : List α} (enough : nodes.length ≤ fuel) :
    climb combine fuel nodes = level combine (height nodes) nodes := by
  induction fuel generalizing nodes with
  | zero =>
      obtain rfl : nodes = [] := List.length_eq_zero_iff.mp (Nat.le_zero.mp enough)
      simp [climb, height, level]
  | succ fuel ih =>
      rw [climb]
      by_cases several : 1 < nodes.length
      · have fewer : (above combine nodes).length ≤ fuel := by
          rw [above_length]
          omega
        rw [if_pos several, ih fewer, height_above several, level]
      · rw [if_neg several, height, Nat.clog_of_right_le_one (not_lt.mp several), level]

theorem level_length_le_one {count : Nat} {nodes : List α} (few : nodes.length ≤ 2 ^ count) :
    (level combine count nodes).length ≤ 1 := by
  induction count generalizing nodes with
  | zero => exact few
  | succ count ih =>
      apply ih
      rw [above_length]
      rw [Nat.pow_succ] at few
      omega

theorem level_add (first second : Nat) (nodes : List α) :
    level combine (first + second) nodes = level combine second (level combine first nodes) := by
  induction first generalizing nodes with
  | zero => rw [Nat.zero_add, level]
  | succ first ih => rw [Nat.succ_add, level, ih, level]

theorem combined_add (first second : Nat) (nodes : List α) :
    combined combine (first + second) nodes =
      combined combine first nodes ++ combined combine second (level combine first nodes) := by
  induction first generalizing nodes with
  | zero => rw [Nat.zero_add, combined, level, List.nil_append]
  | succ first ih => rw [Nat.succ_add, combined, ih, combined, level, List.append_assoc]

/-- A property of the leaves that combining preserves holds of all that is combined. -/
theorem mem_combined {property : α → Prop} (closed : ∀ left right, property (combine left right))
    {count : Nat} {nodes : List α} (leaves : ∀ node ∈ nodes, property node) {pair : α × α}
    (member : pair ∈ combined combine count nodes) : property pair.1 ∧ property pair.2 := by
  induction count generalizing nodes with
  | zero => cases member
  | succ count ih =>
      rcases List.mem_append.mp member with here | higher
      · exact ⟨leaves _ (mem_pairs here).1, leaves _ (mem_pairs here).2⟩
      · refine ih (fun node inside => ?_) higher
        obtain ⟨below, -, rfl⟩ := List.mem_map.mp inside
        exact closed _ _

/-- Lists whose elements an image tells apart are told apart by it. -/
theorem map_inj_on {image : α → β} {list other : List α}
    (injective : Set.InjOn image {element | element ∈ list ∨ element ∈ other}) :
    list.map image = other.map image ↔ list = other := by
  constructor
  · intro same
    induction list generalizing other with
    | nil => exact (List.map_eq_nil_iff.mp same.symm).symm
    | cons element rest ih =>
        cases other with
        | nil => cases same
        | cons otherElement otherRest =>
            obtain ⟨here, later⟩ := List.cons.inj same
            rw [injective (.inl List.mem_cons_self) (.inr List.mem_cons_self) here]
            rw [ih (injective.mono ?_) later]
            rintro element (inside | inside)
            · exact .inl (List.mem_cons_of_mem _ inside)
            · exact .inr (List.mem_cons_of_mem _ inside)
  · exact congrArg (List.map image)

/-- Equally many steps up two lists are the same exactly if they fill up to the same list. -/
theorem level_eq_level_iff {count : Nat} {nodes others : List α}
    (injective : Set.InjOn (fun pair : α × α => combine pair.1 pair.2)
      {pair | pair ∈ combined combine count nodes ∨ pair ∈ combined combine count others}) :
    level combine count nodes = level combine count others ↔
      fill count nodes = fill count others := by
  induction count generalizing nodes others with
  | zero => exact Iff.rfl
  | succ count ih =>
      have higher : level combine count (above combine nodes) =
          level combine count (above combine others) ↔
          fill count (above combine nodes) = fill count (above combine others) := by
        apply ih
        apply injective.mono
        rintro pair (inside | inside)
        · exact .inl (List.mem_append_right _ inside)
        · exact .inr (List.mem_append_right _ inside)
      have here : Set.InjOn (fun pair : α × α => combine pair.1 pair.2)
          {pair | pair ∈ fill count (pairs nodes) ∨ pair ∈ fill count (pairs others)} := by
        apply injective.mono
        rintro pair (inside | inside)
        · exact .inl (List.mem_append_left _ (mem_fill inside))
        · exact .inr (List.mem_append_left _ (mem_fill inside))
      rw [level, level, higher, above, above, fill_map, fill_map, map_inj_on here, fill, fill,
        flatten_inj]

theorem head?_inj {list other : List α} (short : list.length ≤ 1) (otherShort : other.length ≤ 1) :
    list.head? = other.head? ↔ list = other := by
  match list, other, short, otherShort with
  | [], [], _, _ => simp
  | [], [_], _, _ => simp
  | [_], [], _, _ => simp
  | [_], [_], _, _ => simp

/-- Two lists, the first with at least as many levels, have the same root exactly if the
level of the first as high above it as its tree is higher fills up to the same list as the
second. -/
theorem root_eq_root_iff {nodes others : List α} (higher : height others ≤ height nodes)
    (injective : Set.InjOn (fun pair : α × α => combine pair.1 pair.2)
      {pair | pair ∈ combined combine (height nodes) nodes ∨
        pair ∈ combined combine (height others) others}) :
    root combine nodes = root combine others ↔
      fill (height others) (level combine (height nodes - height others) nodes) =
        fill (height others) others := by
  have split : height nodes = height nodes - height others + height others :=
    (Nat.sub_add_cancel higher).symm
  have reached : ∀ list : List α, (level combine (height list) list).length ≤ 1 :=
    fun list => level_length_le_one (Nat.le_pow_clog (by decide) _)
  rw [root, root, climb_eq_level le_rfl, climb_eq_level le_rfl,
    head?_inj (reached nodes) (reached others)]
  rw [split] at injective ⊢
  rw [combined_add] at injective
  rw [level_add, Nat.add_sub_cancel]
  apply level_eq_level_iff
  apply injective.mono
  rintro pair (inside | inside)
  · exact .inl (List.mem_append_right _ inside)
  · exact .inr inside

/-- Lists of one length have the same root only if they are the same. -/
theorem root_inj_of_length {nodes others : List α} (sameLength : nodes.length = others.length)
    (injective : Set.InjOn (fun pair : α × α => combine pair.1 pair.2)
      {pair | pair ∈ combined combine (height nodes) nodes ∨
        pair ∈ combined combine (height others) others}) :
    root combine nodes = root combine others ↔ nodes = others := by
  have sameHeight : height nodes = height others := congrArg (Nat.clog 2) sameLength
  rw [root_eq_root_iff sameHeight.ge injective, sameHeight, Nat.sub_self, level]
  exact ⟨eq_of_fill_eq sameLength, congrArg (fill _)⟩

end Levels

end TrustChain.Library.Merkle
