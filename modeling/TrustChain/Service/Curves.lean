import TrustChain.Library.StableSort
import TrustChain.Service.Progress

/-!
# Progress curves

A piecewise rule is a curve between the first and the last of its points, which may lie a
little inside of 0 and 100. Its value at a progress is that of the first segment that contains
it; a segment shorter than a trillionth is a step to the higher of its ends.
-/

namespace TrustChain.Service

open Library

/-- A point of a curve: a progress and the value that may be claimed there. -/
abbrev CurvePoint := ℚ × ℚ

/-- The piecewise rule with the given points. -/
def piecewise (points : List CurvePoint) : ProgressRuleSpec where
  type := some "piecewise"
  points := some (points.map fun point => [point.1, point.2])

/-- The points in the order of their progress. -/
def sortedPoints (points : List CurvePoint) : List CurvePoint := sortBy Prod.fst points

/-- The progress of the first and of the last point. -/
def firstProgress (points : List CurvePoint) : ℚ :=
  ((sortedPoints points).head?.map Prod.fst).getD 0

def lastProgress (points : List CurvePoint) : ℚ :=
  ((sortedPoints points).getLast?.map Prod.fst).getD 0

/-- The value that a segment has at a progress. -/
def onSegment (left right : CurvePoint) (progress : ℚ) : ℚ :=
  if |right.1 - left.1| < 1 / 10 ^ 12 then max left.2 right.2
  else left.2 + (progress - left.1) / (right.1 - left.1) * (right.2 - left.2)

/-! ## One segment -/

section Segment

variable {left right : CurvePoint} {progress more : ℚ}

/-- A segment that is not a step has a positive length. -/
theorem length_pos (sorted : left.1 ≤ right.1) (long : ¬|right.1 - left.1| < 1 / 10 ^ 12) :
    0 < right.1 - left.1 := by
  rw [abs_of_nonneg (sub_nonneg.mpr sorted), not_lt] at long
  exact lt_of_lt_of_le (by norm_num) long

theorem onSegment_left (long : ¬|right.1 - left.1| < 1 / 10 ^ 12) :
    onSegment left right left.1 = left.2 := by
  rw [onSegment, if_neg long]
  simp

theorem onSegment_right (sorted : left.1 ≤ right.1) (long : ¬|right.1 - left.1| < 1 / 10 ^ 12) :
    onSegment left right right.1 = right.2 := by
  rw [onSegment, if_neg long, div_self (length_pos sorted long).ne']
  ring

theorem onSegment_mem (reached : left.1 ≤ progress) (ahead : progress ≤ right.1) :
    min left.2 right.2 ≤ onSegment left right progress ∧
      onSegment left right progress ≤ max left.2 right.2 := by
  rw [onSegment]
  split
  · exact ⟨(min_le_left _ _).trans (le_max_left _ _), le_rfl⟩
  · next long =>
      have positive := length_pos (reached.trans ahead) long
      have low : 0 ≤ (progress - left.1) / (right.1 - left.1) :=
        div_nonneg (sub_nonneg.mpr reached) positive.le
      have high : (progress - left.1) / (right.1 - left.1) ≤ 1 :=
        (div_le_one positive).mpr (by linarith)
      generalize (progress - left.1) / (right.1 - left.1) = share at low high
      rcases le_total left.2 right.2 with rising | falling
      · rw [min_eq_left rising, max_eq_right rising]
        constructor <;> nlinarith
      · rw [min_eq_right falling, max_eq_left falling]
        constructor <;> nlinarith

theorem onSegment_mono (sorted : left.1 ≤ right.1) (rising : left.2 ≤ right.2)
    (raised : progress ≤ more) : onSegment left right progress ≤ onSegment left right more := by
  rw [onSegment, onSegment]
  split
  · exact le_rfl
  · next long =>
      have positive := length_pos sorted long
      have nonneg : 0 ≤ right.2 - left.2 := sub_nonneg.mpr rising
      gcongr

end Segment

/-! ## All segments -/

section Segments

variable {points : List CurvePoint} {first second : CurvePoint} {progress more : ℚ}

/-- The points are in the order of their progress. -/
def Ascending (points : List CurvePoint) : Prop :=
  points.Pairwise fun left right => left.1 ≤ right.1

/-- No point is further to the right than the last one. -/
def Within (progress : ℚ) (points : List CurvePoint) : Prop := ∃ point ∈ points, progress ≤ point.1

/-- Within the points, either the first segment contains the progress or the search goes on. -/
theorem segmentValue_cons (reached : first.1 ≤ progress)
    (within : Within progress (first :: second :: points)) (sorted : Ascending (first :: second :: points)) :
    segmentValue progress (first :: second :: points) =
      if progress ≤ second.1 then some (onSegment first second progress)
      else segmentValue progress (second :: points) := by
  rw [segmentValue]
  by_cases here : progress ≤ second.1
  · rw [if_pos (.inl ⟨reached, here⟩), if_pos here, onSegment]
    split <;> rfl
  · have later : ¬points = [] := by
      rintro rfl
      obtain ⟨point, present, ahead⟩ := within
      have start := (List.rel_of_pairwise_cons sorted List.mem_cons_self)
      simp only [List.mem_cons, List.not_mem_nil, or_false] at present
      rcases present with rfl | rfl
      · exact here (ahead.trans start)
      · exact here ahead
    have elsewhere : ¬((first.1 ≤ progress ∧ progress ≤ second.1) ∨
        points = [] ∧ |progress - second.1| < epsilon) := by
      simp [here, later]
    rw [if_neg elsewhere, if_neg here]

theorem Within.tail (within : Within progress (first :: second :: points))
    (sorted : Ascending (first :: second :: points)) (past : ¬progress ≤ second.1) :
    Within progress (second :: points) := by
  obtain ⟨point, present, ahead⟩ := within
  rcases List.mem_cons.mp present with rfl | later
  · exact absurd (ahead.trans (List.rel_of_pairwise_cons sorted List.mem_cons_self)) past
  · exact ⟨point, later, ahead⟩

/-- Within the points, the value is that of the first segment that contains the progress. -/
theorem segmentValue_found (first second : CurvePoint) (points : List CurvePoint)
    (reached : first.1 ≤ progress) (within : Within progress (first :: second :: points))
    (sorted : Ascending (first :: second :: points)) :
    ∃ before left right after, first :: second :: points = before ++ left :: right :: after ∧
      left.1 ≤ progress ∧ progress ≤ right.1 ∧ (before ≠ [] → left.1 < progress) ∧
      segmentValue progress (first :: second :: points) = some (onSegment left right progress) := by
  induction points generalizing first second with
  | nil =>
      have here : progress ≤ second.1 := by
        by_contra past
        obtain ⟨point, present, ahead⟩ := within.tail sorted past
        rw [List.mem_singleton.mp present] at ahead
        exact past ahead
      refine ⟨[], first, second, [], rfl, reached, here, fun some => absurd rfl some, ?_⟩
      rw [segmentValue_cons reached within sorted, if_pos here]
  | cons third points ih =>
      by_cases here : progress ≤ second.1
      · refine ⟨[], first, second, third :: points, rfl, reached, here,
          fun some => absurd rfl some, ?_⟩
        rw [segmentValue_cons reached within sorted, if_pos here]
      · obtain ⟨before, left, right, after, whole, start, stop, strict, value⟩ :=
          ih second third (not_le.mp here).le (within.tail sorted here) sorted.of_cons
        refine ⟨first :: before, left, right, after, ?_, start, stop, fun _ => ?_, ?_⟩
        · rw [whole, List.cons_append]
        · by_cases some : before = []
          · subst some
            obtain ⟨rfl, -⟩ := List.cons.inj whole
            exact not_le.mp here
          · exact strict some
        · rw [segmentValue_cons reached within sorted, if_neg here, value]

/-- Before the first point, and not close to the last, there is no segment. -/
theorem segmentValue_before (ahead : ∀ point ∈ points, progress < point.1)
    (far : ∀ point, points.getLast? = some point → epsilon ≤ |progress - point.1|) :
    segmentValue progress points = none := by
  induction points with
  | nil => rfl
  | cons first points ih =>
      cases points with
      | nil => rfl
      | cons second points =>
          have outside : ¬((first.1 ≤ progress ∧ progress ≤ second.1) ∨
              points = [] ∧ |progress - second.1| < epsilon) := by
            rintro (⟨reached, -⟩ | ⟨rfl, close⟩)
            · exact absurd reached (not_le.mpr (ahead first List.mem_cons_self))
            · exact absurd close (not_lt.mpr (far second rfl))
          rw [segmentValue, if_neg outside]
          refine ih (fun point present => ahead point (List.mem_cons_of_mem _ present)) ?_
          intro point ending
          exact far point (by rw [List.getLast?_cons_cons, ending])

/-- The values rise with the progress. -/
def Rising (points : List CurvePoint) : Prop :=
  points.Pairwise fun left right => left.2 ≤ right.2

/-- On a rising curve no value is below that of the first point. -/
theorem le_segmentValue {value : ℚ} (reached : first.1 ≤ progress)
    (within : Within progress (first :: second :: points))
    (sorted : Ascending (first :: second :: points)) (rising : Rising (first :: second :: points))
    (found : segmentValue progress (first :: second :: points) = some value) : first.2 ≤ value := by
  obtain ⟨before, left, right, after, whole, start, stop, -, at_⟩ :=
    segmentValue_found first second points reached within sorted
  rw [at_, Option.some.injEq] at found
  have lowest : ∀ point ∈ first :: second :: points, first.2 ≤ point.2 := by
    intro point present
    rcases List.mem_cons.mp present with rfl | later
    · exact le_rfl
    · exact List.rel_of_pairwise_cons rising later
  rw [whole] at lowest
  calc
    first.2 ≤ min left.2 right.2 := le_min (lowest left (by simp)) (lowest right (by simp))
    _ ≤ onSegment left right progress := (onSegment_mem start stop).1
    _ = value := found

/-- A rising curve is monotone between its first and its last point. -/
theorem segmentValue_mono {low high : ℚ} (first second : CurvePoint) (points : List CurvePoint)
    (reached : first.1 ≤ progress) (raised : progress ≤ more)
    (within : Within more (first :: second :: points))
    (sorted : Ascending (first :: second :: points)) (rising : Rising (first :: second :: points))
    (lower : segmentValue progress (first :: second :: points) = some low)
    (upper : segmentValue more (first :: second :: points) = some high) : low ≤ high := by
  have before : Within progress (first :: second :: points) :=
    within.imp fun point ahead => ⟨ahead.1, raised.trans ahead.2⟩
  have start : first.1 ≤ second.1 := List.rel_of_pairwise_cons sorted List.mem_cons_self
  have up : first.2 ≤ second.2 := List.rel_of_pairwise_cons rising List.mem_cons_self
  rw [segmentValue_cons reached before sorted] at lower
  rw [segmentValue_cons (reached.trans raised) within sorted] at upper
  induction points generalizing first second with
  | nil =>
      have stop : more ≤ second.1 := by
        by_contra past
        obtain ⟨point, present, ahead⟩ := within.tail sorted past
        rw [List.mem_singleton.mp present] at ahead
        exact past ahead
      rw [if_pos (raised.trans stop), Option.some.injEq] at lower
      rw [if_pos stop, Option.some.injEq] at upper
      rw [← lower, ← upper]
      exact onSegment_mono start up raised
  | cons third points ih =>
      by_cases here : progress ≤ second.1
      · rw [if_pos here, Option.some.injEq] at lower
        by_cases stop : more ≤ second.1
        · rw [if_pos stop, Option.some.injEq] at upper
          rw [← lower, ← upper]
          exact onSegment_mono start up raised
        · rw [if_neg stop] at upper
          calc
            low = onSegment first second progress := lower.symm
            _ ≤ max first.2 second.2 := (onSegment_mem reached here).2
            _ = second.2 := max_eq_right up
            _ ≤ high := le_segmentValue (not_le.mp stop).le (within.tail sorted stop)
              sorted.of_cons rising.of_cons upper
      · have past : ¬more ≤ second.1 := fun stop => here (raised.trans stop)
        have reached' : second.1 ≤ progress := (not_le.mp here).le
        rw [if_neg here, segmentValue_cons reached' (before.tail sorted here) sorted.of_cons]
          at lower
        rw [if_neg past, segmentValue_cons (reached'.trans raised) (within.tail sorted past)
          sorted.of_cons] at upper
        exact ih second third reached' (within.tail sorted past) sorted.of_cons rising.of_cons
          lower upper (before.tail sorted here)
          (List.rel_of_pairwise_cons sorted.of_cons List.mem_cons_self)
          (List.rel_of_pairwise_cons rising.of_cons List.mem_cons_self)

end Segments

/-! ## The curve -/

section Curve

variable {points others : List CurvePoint} {spec : ProgressRuleSpec} {progress value : ℚ}

/-- What a piecewise rule must have: two points at least, reaching from 0 to 100 up to a
billionth. -/
structure Covering (points : List CurvePoint) : Prop where
  several : 2 ≤ points.length
  first_le : firstProgress points ≤ epsilon
  le_last : 100 - epsilon ≤ lastProgress points

theorem curvePoints_pairs (points : List CurvePoint) :
    curvePoints (points.map fun point => [point.1, point.2]) = .ok points := by
  rw [curvePoints]
  induction points with
  | nil => rfl
  | cons point points ih => simp [List.map_cons, List.mapM_cons, ih]

theorem curvePoints_eq_ok {raw : List (List ℚ)} (read : curvePoints raw = .ok points) :
    raw = points.map fun point => [point.1, point.2] := by
  rw [curvePoints] at read
  induction raw generalizing points with
  | nil =>
      cases read
      rfl
  | cons item raw ih =>
      rw [List.mapM_cons, bind_eq_ok] at read
      obtain ⟨point, taken, rest⟩ := read
      rw [bind_eq_ok] at rest
      obtain ⟨tail, others, rest⟩ := rest
      cases rest
      rw [List.map_cons, ← ih others]
      split at taken
      · cases taken
        rfl
      · cases taken

/-- The value of the curve: that of a segment or, where none applies, of the last point. -/
def curveValue (points : List CurvePoint) (progress : ℚ) : ℚ :=
  (segmentValue (max 0 (min 100 progress)) (sortedPoints points)).getD
    (((sortedPoints points).getLast?.map Prod.snd).getD 0)

/-- A piecewise rule is accepted for its points, whatever the progress. -/
theorem maxAllowed_eq_ok (kind : spec.type = some "piecewise")
    (listed : spec.points = some (points.map fun point => [point.1, point.2])) :
    maxAllowedClaimedValuePercent progress (some spec) = .ok value ↔
      Covering points ∧ value = curveValue points progress := by
  have read := curvePoints_pairs points
  simp only [maxAllowedClaimedValuePercent, Option.bind_some, kind, listed, read, ok_bind,
    require_bind_eq_ok, Except.ok.injEq, List.length_map]
  constructor
  · rintro ⟨several, ⟨first_le, le_last⟩, rfl⟩
    exact ⟨⟨several, first_le, le_last⟩, rfl⟩
  · rintro ⟨covering, rfl⟩
    exact ⟨covering.several, ⟨covering.first_le, covering.le_last⟩, rfl⟩

theorem accepted_points (kind : spec.type = some "piecewise")
    (accepted : maxAllowedClaimedValuePercent progress (some spec) = .ok value) :
    ∃ points : List CurvePoint,
      spec.points = some (points.map fun point => [point.1, point.2]) := by
  simp only [maxAllowedClaimedValuePercent, Option.bind_some, kind] at accepted
  split at accepted
  · cases accepted
  · next raw listed =>
      simp only [bind_eq_ok] at accepted
      obtain ⟨-, -, points, read, -⟩ := accepted
      exact ⟨points, by rw [listed, curvePoints_eq_ok read]⟩

/-- Sorted points are a list of at least two that ascends and has the same points. -/
theorem Covering.sorted (covering : Covering points) :
    ∃ first second rest, sortedPoints points = first :: second :: rest ∧
      Ascending (first :: second :: rest) := by
  have length := (sortBy_perm Prod.fst points).length_eq
  have several := covering.several
  have sorted : Ascending (sortedPoints points) := sortBy_sorted points
  cases listed : sortedPoints points with
  | nil =>
      rw [sortedPoints] at listed
      simp [listed] at length
      omega
  | cons first rest =>
      cases rest with
      | nil =>
          rw [sortedPoints] at listed
          simp [listed] at length
          omega
      | cons second rest => exact ⟨first, second, rest, rfl, listed ▸ sorted⟩

theorem clamp_eq {progress : ℚ} (nonneg : 0 ≤ progress) (bounded : progress ≤ 100) :
    max 0 (min 100 progress) = progress := by
  rw [min_eq_right bounded, max_eq_right nonneg]

/-- A progress up to the last point is within the points. -/
theorem within_of_le_last {first : CurvePoint} {rest : List CurvePoint}
    (listed : sortedPoints points = first :: rest) (bounded : progress ≤ lastProgress points) :
    Within progress (first :: rest) := by
  rw [lastProgress, listed, List.getLast?_cons, Option.map_some, Option.getD_some] at bounded
  exact ⟨_, List.mem_of_getLast? List.getLast?_cons, bounded⟩

theorem mem_sortedPoints {point : CurvePoint} : point ∈ sortedPoints points ↔ point ∈ points :=
  (sortBy_perm Prod.fst points).mem_iff

/-- The value lies between those of two points, up to the last one. -/
theorem curveValue_between (covering : Covering points) (nonneg : 0 ≤ progress)
    (bounded : progress ≤ 100) (short : progress ≤ lastProgress points) :
    ∃ low ∈ points, ∃ high ∈ points,
      low.2 ≤ curveValue points progress ∧ curveValue points progress ≤ high.2 := by
  obtain ⟨first, second, rest, listed, sorted⟩ := covering.sorted
  have within := within_of_le_last listed short
  rw [curveValue, clamp_eq nonneg bounded, listed]
  by_cases reached : first.1 ≤ progress
  · obtain ⟨before, left, right, after, whole, start, stop, -, value⟩ :=
      segmentValue_found first second rest reached within sorted
    have bounds := onSegment_mem start stop
    have members : left ∈ points ∧ right ∈ points := by
      have listed' := listed.trans whole
      constructor
      · exact mem_sortedPoints.mp (by rw [listed']; simp)
      · exact mem_sortedPoints.mp (by rw [listed']; simp)
    rw [value, Option.getD_some]
    rcases le_total left.2 right.2 with rising | falling
    · rw [min_eq_left rising, max_eq_right rising] at bounds
      exact ⟨left, members.1, right, members.2, bounds.1, bounds.2⟩
    · rw [min_eq_right falling, max_eq_left falling] at bounds
      exact ⟨right, members.2, left, members.1, bounds.1, bounds.2⟩
  · obtain ⟨last, final⟩ : ∃ last, (first :: second :: rest).getLast? = some last :=
      ⟨_, List.getLast?_cons⟩
    have begin : first.1 ≤ epsilon := by
      have begins := covering.first_le
      rwa [firstProgress, listed] at begins
    have ends : 100 - epsilon ≤ last.1 := by
      have ends := covering.le_last
      rwa [lastProgress, listed, final] at ends
    have nowhere : segmentValue progress (first :: second :: rest) = none := by
      refine segmentValue_before (fun point present => ?_) (fun point ending => ?_)
      · exact (not_le.mp reached).trans_le (head_le sorted present)
      · rw [final, Option.some.injEq] at ending
        have small : epsilon ≤ 1 := by norm_num [epsilon]
        rw [← ending, abs_sub_comm]
        exact le_trans (by linarith [not_le.mp reached]) (le_abs_self _)
    have member : last ∈ points := by
      rw [← mem_sortedPoints, listed]
      exact List.mem_of_getLast? final
    rw [nowhere, final]
    exact ⟨last, member, last, member, le_rfl, le_rfl⟩

/-- At a point with no other close by, the curve has the point's value. -/
theorem curveValue_point (covering : Covering points) {point : CurvePoint}
    (present : point ∈ points) (nonneg : 0 ≤ point.1) (bounded : point.1 ≤ 100)
    (alone : (points.filter fun other => |other.1 - point.1| < 1 / 10 ^ 12) = [point]) :
    curveValue points point.1 = point.2 := by
  obtain ⟨first, second, rest, listed, sorted⟩ := covering.sorted
  have here : point ∈ first :: second :: rest := listed ▸ mem_sortedPoints.mpr present
  have single : (first :: second :: rest).filter
      (fun other => |other.1 - point.1| < 1 / 10 ^ 12) = [point] := by
    rw [← listed, ← List.perm_singleton, ← alone]
    exact (sortBy_perm Prod.fst points).filter _
  have apart : ∀ left right : CurvePoint, [left, right].Sublist (first :: second :: rest) →
      |left.1 - point.1| < 1 / 10 ^ 12 → ¬|right.1 - point.1| < 1 / 10 ^ 12 := by
    intro left right both closeLeft closeRight
    have kept := both.filter fun other => |other.1 - point.1| < 1 / 10 ^ 12
    have pair : [left, right].filter (fun other => |other.1 - point.1| < 1 / 10 ^ 12) =
        [left, right] := by
      simp only [List.filter_cons, closeLeft, closeRight, decide_true, if_true, List.filter_nil]
    rw [single, pair] at kept
    exact absurd kept.length_le (by simp)
  have close : |point.1 - point.1| < 1 / 10 ^ 12 := by simp
  obtain ⟨before, left, right, after, whole, start, stop, strict, value⟩ :=
    segmentValue_found first second rest (head_le sorted here) ⟨point, here, le_rfl⟩ sorted
  have neighbours : [left, right].Sublist (first :: second :: rest) := by
    rw [whole]
    exact (((List.nil_sublist after).cons_cons right).cons_cons left).trans
      (List.sublist_append_right _ _)
  rw [curveValue, clamp_eq nonneg bounded, listed, value, Option.getD_some]
  rw [whole] at here sorted
  have order := List.pairwise_append.mp sorted
  rcases List.mem_append.mp here with early | later
  · have some : before ≠ [] := List.ne_nil_of_mem early
    exact absurd (order.2.2 point early left List.mem_cons_self) (not_le.mpr (strict some))
  · rcases List.mem_cons.mp later with rfl | later
    · exact onSegment_left (apart _ _ neighbours close)
    · rcases List.mem_cons.mp later with rfl | later
      · refine onSegment_right (List.rel_of_pairwise_cons order.2.1 List.mem_cons_self) ?_
        rw [abs_sub_comm]
        exact fun step => apart _ _ neighbours step close
      · have same : right.1 = point.1 :=
          le_antisymm (List.rel_of_pairwise_cons order.2.1.of_cons later) stop
        have both : [right, point].Sublist (first :: second :: rest) := by
          rw [whole]
          refine List.Sublist.trans ?_ (List.sublist_append_right _ _)
          exact ((List.singleton_sublist.mpr later).cons_cons right).cons left
        exact absurd close (apart _ _ both (by simp [same]))

/-- A rising curve is monotone between its first and its last point. -/
theorem curveValue_mono (covering : Covering points) (rising : Rising (sortedPoints points))
    {progress more : ℚ} (nonneg : 0 ≤ progress) (bounded : more ≤ 100)
    (reached : firstProgress points ≤ progress) (raised : progress ≤ more)
    (short : more ≤ lastProgress points) :
    curveValue points progress ≤ curveValue points more := by
  obtain ⟨first, second, rest, listed, sorted⟩ := covering.sorted
  have within := within_of_le_last listed short
  rw [firstProgress, listed] at reached
  rw [listed] at rising
  obtain ⟨low, found⟩ : ∃ low, segmentValue progress (first :: second :: rest) = some low := by
    obtain ⟨_, _, _, _, -, -, -, -, value⟩ := segmentValue_found first second rest reached
      (within.imp fun point ahead => ⟨ahead.1, raised.trans ahead.2⟩) sorted
    exact ⟨_, value⟩
  obtain ⟨high, reachedMore⟩ : ∃ high, segmentValue more (first :: second :: rest) = some high := by
    obtain ⟨_, _, _, _, -, -, -, -, value⟩ := segmentValue_found first second rest
      (le_trans reached raised) within sorted
    exact ⟨_, value⟩
  rw [curveValue, curveValue, clamp_eq nonneg (raised.trans bounded),
    clamp_eq (nonneg.trans raised) bounded, listed, found, reachedMore]
  exact segmentValue_mono first second rest reached raised within sorted rising found reachedMore

/-- The order in which points with different progress are listed does not matter. -/
theorem curveValue_congr (same : ∀ progress,
    withKey Prod.fst progress others = withKey Prod.fst progress points) :
    curveValue others progress = curveValue points progress := by
  rw [curveValue, curveValue, sortedPoints, sortedPoints, sortBy_eq same]

theorem Covering.congr (covering : Covering points) (same : ∀ progress,
    withKey Prod.fst progress others = withKey Prod.fst progress points) : Covering others := by
  have sorted : sortedPoints others = sortedPoints points := sortBy_eq same
  have length : others.length = points.length := by
    rw [← (sortBy_perm Prod.fst others).length_eq,
      ← (sortBy_perm Prod.fst points).length_eq]
    exact congrArg List.length sorted
  constructor
  · rw [length]
    exact covering.several
  · rw [firstProgress, sorted]
    exact covering.first_le
  · rw [lastProgress, sorted]
    exact covering.le_last

theorem sortedPoints_of_ascending (sorted : Ascending points) : sortedPoints points = points :=
  List.mergeSort_of_pairwise (sorted.imp decide_eq_true)

/-- The linear curve. -/
theorem curveValue_linear (nonneg : 0 ≤ progress) (bounded : progress ≤ 100) :
    curveValue [(0, 0), (100, 100)] progress = progress := by
  have sorted : Ascending [(0, 0), (100, 100)] := by simp [Ascending]
  have short : ¬|(100 : ℚ) - 0| < 1 / 10 ^ 12 := by norm_num
  rw [curveValue, clamp_eq nonneg bounded, sortedPoints_of_ascending sorted, segmentValue,
    if_pos (.inl ⟨nonneg, bounded⟩), if_neg short, Option.getD_some]
  ring

/-- An accepted piecewise rule is a curve: its value lies between those of its points up to the
last of them, is that of a point with no other close by, rises between the first and the last
point if the points do, is the progress for the linear curve, and does not depend on the order
of points with different progress. -/
theorem piecewise_is_curve {start accepted : ℚ} (kind : spec.type = some "piecewise")
    (accepts : maxAllowedClaimedValuePercent start (some spec) = .ok accepted) :
    ∃ (points : List CurvePoint) (curve : ℚ → ℚ),
      spec.points = some (points.map fun point => [point.1, point.2]) ∧
      (∀ progress, maxAllowedClaimedValuePercent progress (some spec) = .ok (curve progress)) ∧
      (∀ progress, 0 ≤ progress → progress ≤ 100 → progress ≤ lastProgress points →
        ∃ low ∈ points, ∃ high ∈ points, low.2 ≤ curve progress ∧ curve progress ≤ high.2) ∧
      (∀ point ∈ points, 0 ≤ point.1 → point.1 ≤ 100 →
        (points.filter fun other => |other.1 - point.1| < 1 / 10 ^ 12) = [point] →
        curve point.1 = point.2) ∧
      (Rising (sortedPoints points) → ∀ progress more, 0 ≤ progress → more ≤ 100 →
        firstProgress points ≤ progress → progress ≤ more → more ≤ lastProgress points →
        curve progress ≤ curve more) ∧
      (points = [(0, 0), (100, 100)] →
        ∀ progress, 0 ≤ progress → progress ≤ 100 → curve progress = progress) ∧
      ∀ (other : ProgressRuleSpec) (others : List CurvePoint), other.type = some "piecewise" →
        other.points = some (others.map fun point => [point.1, point.2]) →
        (∀ progress, withKey Prod.fst progress others = withKey Prod.fst progress points) →
        ∀ progress, maxAllowedClaimedValuePercent progress (some other) = .ok (curve progress) := by
  obtain ⟨points, listed⟩ := accepted_points kind accepts
  have covering := ((maxAllowed_eq_ok kind listed).mp accepts).1
  refine ⟨points, curveValue points, listed, ?_, ?_, ?_, ?_, ?_, ?_⟩
  · intro progress
    exact (maxAllowed_eq_ok kind listed).mpr ⟨covering, rfl⟩
  · intro progress nonneg bounded short
    exact curveValue_between covering nonneg bounded short
  · intro point present nonneg bounded alone
    exact curveValue_point covering present nonneg bounded alone
  · intro rising progress more nonneg bounded reached raised short
    exact curveValue_mono covering rising nonneg bounded reached raised short
  · rintro rfl progress nonneg bounded
    exact curveValue_linear nonneg bounded
  · intro other others otherKind otherListed same progress
    exact (maxAllowed_eq_ok otherKind otherListed).mpr
      ⟨covering.congr same, (curveValue_congr same).symm⟩

end Curve

namespace Demo

/-- The points of a curve that begins a little after 0. -/
def late : List CurvePoint := [(1 / (2 * 10 ^ 9), 0), (100, 100)]

/-- The points of a curve that ends a little before 100. -/
def early : List CurvePoint := [(0, 0), (100 - 1 / (2 * 10 ^ 9), 100)]

/-- The points of a curve with two points close to each other. -/
def close : List CurvePoint := [(0, 0), (50, 100), (50 + 1 / 10 ^ 13, 0), (100, 100)]

theorem ascending_late : Ascending late := by
  unfold Ascending
  decide +kernel

theorem ascending_early : Ascending early := by
  unfold Ascending
  decide +kernel

theorem ascending_close : Ascending close := by
  unfold Ascending
  decide +kernel

theorem evaluate {points : List CurvePoint} {progress value : ℚ} (sorted : Ascending points)
    (several : 2 ≤ points.length) (first_le : (points.head?.map Prod.fst).getD 0 ≤ epsilon)
    (le_last : 100 - epsilon ≤ (points.getLast?.map Prod.fst).getD 0)
    (found : (segmentValue (max 0 (min 100 progress)) points).getD
      ((points.getLast?.map Prod.snd).getD 0) = value) :
    maxAllowedClaimedValuePercent progress (some (piecewise points)) = .ok value := by
  have same := sortedPoints_of_ascending sorted
  refine (maxAllowed_eq_ok rfl rfl).mpr ⟨⟨several, ?_, ?_⟩, ?_⟩
  · rwa [firstProgress, same]
  · rwa [lastProgress, same]
  · rw [curveValue, same, found]

end Demo

/-- A curve that begins after 0 gives the whole value at 0 and less at 1, one that ends before
100 exceeds its highest value at 100, and a point close to another one has the other's value. -/
theorem piecewise_misses_points :
    (maxAllowedClaimedValuePercent 0 (some (piecewise Demo.late)) = .ok 100 ∧
      ∃ value, maxAllowedClaimedValuePercent 1 (some (piecewise Demo.late)) = .ok value ∧
        value < 100) ∧
    (∃ value, maxAllowedClaimedValuePercent 100 (some (piecewise Demo.early)) = .ok value ∧
      100 < value) ∧
    maxAllowedClaimedValuePercent (50 + 1 / 10 ^ 13) (some (piecewise Demo.close)) = .ok 100 ∧
    ((50 + 1 / 10 ^ 13, 0) : CurvePoint) ∈ Demo.close ∧
    withKey Prod.fst (50 + 1 / 10 ^ 13) Demo.close = [(50 + 1 / 10 ^ 13, 0)] := by
  have late := Demo.ascending_late
  have early := Demo.ascending_early
  have close := Demo.ascending_close
  refine ⟨⟨?_, (segmentValue 1 Demo.late).getD 0, ?_, ?_⟩,
    ⟨(segmentValue 100 Demo.early).getD 0, ?_, ?_⟩, ?_, ?_, ?_⟩
  · exact Demo.evaluate late (by decide) (by decide +kernel) (by decide +kernel)
      (by decide +kernel)
  · exact Demo.evaluate late (by decide) (by decide +kernel) (by decide +kernel)
      (by decide +kernel)
  · decide +kernel
  · exact Demo.evaluate early (by decide) (by decide +kernel) (by decide +kernel)
      (by decide +kernel)
  · decide +kernel
  · exact Demo.evaluate close (by decide) (by decide +kernel) (by decide +kernel)
      (by decide +kernel)
  · decide +kernel
  · decide +kernel

theorem piecewise_is_curve_late :
    ∃ (points : List CurvePoint) (curve : ℚ → ℚ),
      (piecewise Demo.late).points = some (points.map fun point => [point.1, point.2]) ∧
      ∀ progress, maxAllowedClaimedValuePercent progress (some (piecewise Demo.late)) =
        .ok (curve progress) := by
  have accepts : maxAllowedClaimedValuePercent 0 (some (piecewise Demo.late)) = .ok 100 :=
    Demo.evaluate Demo.ascending_late (by decide) (by decide +kernel) (by decide +kernel)
      (by decide +kernel)
  obtain ⟨points, curve, listed, accepted, -⟩ := piecewise_is_curve rfl accepts
  exact ⟨points, curve, listed, accepted⟩

end TrustChain.Service
