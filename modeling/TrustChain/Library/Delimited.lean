import Mathlib.Logic.Function.Basic
import Mathlib.Data.List.Basic

/-!
# Fields joined with a mark

A text made of fields with a mark between them shows where a field ends only as long as the
fields do not contain the mark. What can be read back are the segments between the marks, and
two lists of fields make the same text exactly if they have the same segments.
-/

namespace TrustChain.Library

variable {α : Type*} [DecidableEq α] {mark : α}

theorem splitOn_injective : Function.Injective fun text : List α => text.splitOn mark := by
  intro text other same
  have joined := congrArg [mark].intercalate same
  simpa only [List.intercalate_splitOn] using joined

/-- The segments of a text are those of its fields. -/
theorem splitOn_intercalate_fields {fields : List (List α)} (some : fields ≠ []) :
    ([mark].intercalate fields).splitOn mark = fields.flatMap (·.splitOn mark) := by
  induction fields with
  | nil => exact absurd rfl some
  | cons field rest ih =>
      cases rest with
      | nil => simp
      | cons next rest =>
          rw [List.intercalate_cons_cons, List.append_assoc, List.singleton_append,
            List.splitOn_append_cons_self, ih (List.cons_ne_nil _ _)]
          rfl

theorem intercalate_eq_iff {fields others : List (List α)} (some : fields ≠ [])
    (any : others ≠ []) :
    [mark].intercalate fields = [mark].intercalate others ↔
      fields.flatMap (·.splitOn mark) = others.flatMap (·.splitOn mark) := by
  rw [← splitOn_intercalate_fields some, ← splitOn_intercalate_fields any]
  exact splitOn_injective.eq_iff.symm

/-- A field that was joined from others can be replaced by them. -/
theorem intercalate_nested (mark : α) (before group after : List (List α)) (some : group ≠ []) :
    [mark].intercalate (before ++ [mark].intercalate group :: after) =
      [mark].intercalate (before ++ group ++ after) := by
  rw [intercalate_eq_iff (by simp) (by simp [some])]
  simp [splitOn_intercalate_fields some]

/-- A last field without the mark can be read back. -/
theorem read_last {fields others : List (List α)} {last last' : List α} (some : fields ≠ [])
    (any : others ≠ []) (plain : mark ∉ last) (plain' : mark ∉ last')
    (same : [mark].intercalate (fields ++ [last]) = [mark].intercalate (others ++ [last'])) :
    [mark].intercalate fields = [mark].intercalate others ∧ last = last' := by
  rw [intercalate_eq_iff (by simp) (by simp), List.flatMap_append, List.flatMap_append,
    List.flatMap_singleton, List.flatMap_singleton, List.splitOn_eq_singleton plain,
    List.splitOn_eq_singleton plain'] at same
  obtain ⟨front, back⟩ := List.append_inj' same rfl
  exact ⟨(intercalate_eq_iff some any).mpr front, List.singleton_inj.mp back⟩

theorem eq_of_splitOn_singleton {text segment : List α} (single : text.splitOn mark = [segment]) :
    segment = text := by
  have joined := congrArg [mark].intercalate single
  rwa [List.intercalate_splitOn, List.intercalate_singleton, eq_comm] at joined

omit [DecidableEq α] in
/-- A segment with others behind it is not the last. -/
theorem mem_dropLast {segments before after : List α} {segment : α}
    (split : segments = before ++ segment :: after) (some : after ≠ []) :
    segment ∈ segments.dropLast := by
  rw [split, List.dropLast_append_cons, List.dropLast_cons_of_ne_nil some]
  simp

/-- Two fields, one of a special kind, and a last one: they are read back uniquely where neither
of the first two contains the mark, and no segment of the last one but its last is of that kind. -/
theorem read_unique (kind : List α → Prop)
    {first second middle last first' second' middle' last' : List α}
    (plainFirst : mark ∉ first) (plainSecond : mark ∉ second) (plain : mark ∉ middle)
    (plain' : mark ∉ middle') (special : kind middle')
    (unlike : ∀ segment ∈ (last.splitOn mark).dropLast, ¬kind segment)
    (same : [mark].intercalate [first, second, middle, last] =
      [mark].intercalate [first', second', middle', last']) :
    first = first' ∧ second = second' ∧ middle = middle' ∧ last = last' := by
  have segments : first :: second :: middle :: last.splitOn mark =
      first'.splitOn mark ++ (second'.splitOn mark ++ middle' :: last'.splitOn mark) := by
    have split := (intercalate_eq_iff (by simp) (by simp)).mp same
    simpa [List.splitOn_eq_singleton plainFirst, List.splitOn_eq_singleton plainSecond,
      List.splitOn_eq_singleton plain, List.splitOn_eq_singleton plain'] using split
  -- Were the middle field of the other reading a later segment, it would be one of `last`.
  have early : ∀ before, before ≠ [] →
      middle :: last.splitOn mark ≠ before ++ middle' :: last'.splitOn mark := by
    intro before some split
    cases before with
    | nil => exact some rfl
    | cons head before =>
        have later := mem_dropLast (List.cons.inj split).2 (List.splitOn_ne_nil _ _)
        exact unlike middle' later special
  cases firsts : first'.splitOn mark with
  | nil => exact absurd firsts (List.splitOn_ne_nil _ _)
  | cons head firstRest =>
      cases seconds : second'.splitOn mark with
      | nil => exact absurd seconds (List.splitOn_ne_nil _ _)
      | cons next secondRest =>
          rw [firsts, seconds, List.cons_append, List.cons.injEq] at segments
          obtain ⟨rfl, segments⟩ := segments
          cases firstRest with
          | nil =>
              rw [List.nil_append, List.cons_append, List.cons.injEq] at segments
              obtain ⟨rfl, segments⟩ := segments
              cases secondRest with
              | nil =>
                  obtain ⟨rfl, lasts⟩ := List.cons.inj segments
                  exact ⟨eq_of_splitOn_singleton firsts, eq_of_splitOn_singleton seconds, rfl,
                    splitOn_injective lasts⟩
              | cons other rest => exact absurd segments (early _ (List.cons_ne_nil _ _))
          | cons other firstRest =>
              rw [List.cons_append, List.cons.injEq, ← List.append_assoc] at segments
              exact absurd segments.2 (early _ (by simp))

end TrustChain.Library
