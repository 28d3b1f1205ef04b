import Mathlib.Data.List.TakeWhile
import TrustChain.Runtime.Keys

/-!
# Replayed nonces

Every runtime key has a bucket of the nonces that were accepted last, oldest first. Nonces that
are too old are dropped from the front, and so are those beyond 2000.
-/

namespace TrustChain.Runtime

open Library
open Service (HttpError)

/-- What is stored of a nonce. -/
def replayTag (endpoint nonce : String) : String := endpoint ++ ":" ++ nonce

/-- `check_replay_nonce`, with the bucket that it leaves also where it refuses. -/
def checkReplay (ttlSeconds : ℚ) (bucket : List (String × ℚ)) (endpoint nonce : String)
    (now : ℚ) : List (String × ℚ) × Except HttpError Unit :=
  if nonce = "" ∨ 128 < nonce.length then
    (bucket, .error ⟨400, "client_nonce is required (max 128 chars)"⟩)
  else
    let kept := bucket.dropWhile fun seen => ttlSeconds < now - seen.2
    let tag := replayTag endpoint nonce
    if ∃ seen ∈ kept, seen.1 = tag then
      (kept, .error ⟨409, "duplicate client_nonce (replay protection)"⟩)
    else
      let appended := kept ++ [(tag, now)]
      (appended.drop (appended.length - 2000), .ok ())

/-- A call that is accepted leaves the bucket that `checkReplayNonce` returns, which is the one
of the default time to live. -/
theorem checkReplayNonce_eq (bucket : List (String × ℚ)) (endpoint nonce : String) (now : ℚ) :
    checkReplayNonce bucket endpoint nonce now =
      (checkReplay 600 bucket endpoint nonce now).2.map
        fun _ => (checkReplay 600 bucket endpoint nonce now).1 := by
  unfold checkReplayNonce checkReplay
  by_cases bad : nonce = "" ∨ 128 < nonce.length
  · have refused : ¬(nonce ≠ "" ∧ nonce.length ≤ 128) := by
      rwa [not_and_or, not_not, Nat.not_le]
    rw [if_pos bad, require, if_neg refused]
    rfl
  · rw [if_neg bad]
    rw [not_or, Nat.not_lt] at bad
    rw [require, if_pos bad]
    dsimp only
    generalize bucket.dropWhile (fun seen => (600 : ℚ) < now - seen.2) = kept
    by_cases seen : ∃ seen ∈ kept, seen.1 = replayTag endpoint nonce
    · simp only [if_pos seen, require]
      obtain ⟨earlier, member, same⟩ := seen
      rw [if_neg fun fresh => fresh earlier member same]
      rfl
    · have fresh : ∀ seen ∈ kept, seen.1 ≠ endpoint ++ ":" ++ nonce :=
        fun earlier member same => seen ⟨earlier, member, same⟩
      simp only [if_neg seen, require, if_pos fresh]
      rfl

/-! ## Sequences of calls -/

structure NonceCall where
  keyId : KeyId
  endpoint : String
  nonce : String
  /-- The reading of `time.monotonic`. -/
  now : ℚ

namespace NonceCall

def tag (call : NonceCall) : String := replayTag call.endpoint call.nonce

/-- The nonce has from 1 to 128 characters. -/
def WellFormed (call : NonceCall) : Prop := call.nonce ≠ "" ∧ call.nonce.length ≤ 128

end NonceCall

/-- `_replay`, a bucket for each key. -/
abbrev Buckets := KeyId → List (String × ℚ)

section Calls

variable (ttlSeconds : ℚ)

def NonceCall.check (buckets : Buckets) (call : NonceCall) :
    List (String × ℚ) × Except HttpError Unit :=
  checkReplay ttlSeconds (buckets call.keyId) call.endpoint call.nonce call.now

/-- The buckets after a call. -/
def NonceCall.perform (buckets : Buckets) (call : NonceCall) : Buckets :=
  Function.update buckets call.keyId (call.check ttlSeconds buckets).1

/-- The buckets after some calls, of a process that starts with empty ones. -/
def bucketsAfter (calls : List NonceCall) : Buckets :=
  calls.foldl (NonceCall.perform ttlSeconds) fun _ => []

/-- Whether a call is accepted. -/
def NonceCall.accepted (buckets : Buckets) (call : NonceCall) : Bool :=
  (call.check ttlSeconds buckets).2.isOk

/-- The calls that are accepted, one after the other. -/
def acceptedCalls (buckets : Buckets) : List NonceCall → List NonceCall
  | [] => []
  | call :: rest =>
      let later := acceptedCalls (call.perform ttlSeconds buckets) rest
      if call.accepted ttlSeconds buckets then call :: later else later

/-- A call after some calls is accepted. -/
def Accepts (calls : List NonceCall) (call : NonceCall) : Prop :=
  call.accepted ttlSeconds (bucketsAfter ttlSeconds calls) = true

/-- A call after some calls is refused as a duplicate. -/
def RefusesDuplicate (calls : List NonceCall) (call : NonceCall) : Prop :=
  (call.check ttlSeconds (bucketsAfter ttlSeconds calls)).2 =
    .error ⟨409, "duplicate client_nonce (replay protection)"⟩

/-- What was accepted under a key, as it is stored. -/
def acceptedTags (calls : List NonceCall) (keyId : KeyId) : List (String × ℚ) :=
  ((acceptedCalls ttlSeconds (fun _ => []) calls).filter (·.keyId = keyId)).map
    fun call => (call.tag, call.now)

end Calls

/-- The last 2000 entries. -/
def lastEntries (entries : List (String × ℚ)) : List (String × ℚ) :=
  entries.drop (entries.length - 2000)

section Bucket

variable {ttlSeconds last now : ℚ} {log bucket : List (String × ℚ)} {entry : String × ℚ}
  {tag : String}

/-- A bucket is the end of what was accepted: what it lacks of the last 2000 entries is too
old. -/
structure Tracked (ttlSeconds last : ℚ) (log bucket : List (String × ℚ)) : Prop where
  split : ∃ gone, log = gone ++ bucket ∧
    ∀ entry ∈ gone.drop (log.length - 2000), ttlSeconds < last - entry.2
  short : bucket.length ≤ 2000
  sorted : log.Pairwise fun first second => first.2 ≤ second.2
  past : ∀ entry ∈ log, entry.2 ≤ last

theorem old_of_mem_takeWhile
    (dropped : entry ∈ bucket.takeWhile fun seen => ttlSeconds < now - seen.2) :
    ttlSeconds < now - entry.2 := by
  have old := List.mem_takeWhile_imp dropped
  exact of_decide_eq_true old

/-- In a bucket sorted by time, what is not dropped from the front is not too old. -/
theorem mem_dropWhile_fresh (sorted : bucket.Pairwise fun first second => first.2 ≤ second.2)
    (member : entry ∈ bucket.dropWhile fun seen => ttlSeconds < now - seen.2) :
    now - entry.2 ≤ ttlSeconds := by
  induction bucket with
  | nil => cases member
  | cons first rest ih =>
      obtain ⟨later, sorted⟩ := List.pairwise_cons.1 sorted
      rw [List.dropWhile_cons] at member
      split at member
      · exact ih sorted member
      · next fresh =>
          have young : now - first.2 ≤ ttlSeconds := not_lt.1 fun old => fresh (decide_eq_true old)
          rcases List.mem_cons.1 member with rfl | member
          · exact young
          · linarith [later entry member]

namespace Tracked

theorem initial : Tracked ttlSeconds last [] [] where
  split := ⟨[], rfl, by simp⟩
  short := Nat.zero_le _
  sorted := .nil
  past := by simp

variable (tracked : Tracked ttlSeconds last log bucket)

include tracked

theorem lastEntries_eq :
    ∃ gone, log = gone ++ bucket ∧ lastEntries log = gone.drop (log.length - 2000) ++ bucket ∧
      ∀ entry ∈ gone.drop (log.length - 2000), ttlSeconds < last - entry.2 := by
  obtain ⟨gone, rfl, old⟩ := tracked.split
  refine ⟨gone, rfl, ?_, old⟩
  have none : (gone ++ bucket).length - 2000 - gone.length = 0 := by
    have := tracked.short
    rw [List.length_append]
    omega
  rw [lastEntries, List.drop_append, none, List.drop_zero]

/-- What is left of the bucket is what is not too old of the last 2000 entries. -/
theorem mem_kept_iff (later : last ≤ now) :
    entry ∈ (bucket.dropWhile fun seen => ttlSeconds < now - seen.2) ↔
      entry ∈ lastEntries log ∧ now - entry.2 ≤ ttlSeconds := by
  obtain ⟨gone, whole, ends, old⟩ := tracked.lastEntries_eq
  have sorted := tracked.sorted
  rw [whole] at sorted
  rw [ends, List.mem_append]
  constructor
  · intro member
    have inside := (List.dropWhile_suffix _).subset member
    exact ⟨.inr inside, mem_dropWhile_fresh (List.pairwise_append.1 sorted).2.1 member⟩
  · intro ⟨place, young⟩
    rcases place with before | inside
    · have := old entry before
      linarith
    · rw [← List.takeWhile_append_dropWhile (p := fun seen => ttlSeconds < now - seen.2)
        (l := bucket)] at inside
      rcases List.mem_append.1 inside with dropped | kept
      · exact absurd (old_of_mem_takeWhile dropped) (not_lt.2 young)
      · exact kept

/-- Dropping from the front what is too old. -/
theorem expire (later : last ≤ now) :
    Tracked ttlSeconds now log (bucket.dropWhile fun seen => ttlSeconds < now - seen.2) where
  split := by
    obtain ⟨gone, whole, old⟩ := tracked.split
    refine ⟨gone ++ bucket.takeWhile fun seen => ttlSeconds < now - seen.2, ?_, ?_⟩
    · rw [List.append_assoc, List.takeWhile_append_dropWhile]
      exact whole
    · intro entry member
      rw [List.drop_append] at member
      rcases List.mem_append.1 member with before | dropped
      · have := old entry before
        linarith
      · exact old_of_mem_takeWhile (List.mem_of_mem_drop dropped)
  short := (List.dropWhile_suffix _).length_le.trans tracked.short
  sorted := tracked.sorted
  past entry member := (tracked.past entry member).trans later

theorem mono (later : last ≤ now) :
    Tracked ttlSeconds now log bucket where
  split := by
    obtain ⟨gone, whole, old⟩ := tracked.split
    refine ⟨gone, whole, fun entry member => ?_⟩
    have := old entry member
    linarith
  short := tracked.short
  sorted := tracked.sorted
  past entry member := (tracked.past entry member).trans later

omit tracked

/-- Appending an entry and dropping from the front what is beyond 2000. -/
theorem append (tracked : Tracked ttlSeconds now log bucket) :
    Tracked ttlSeconds now (log ++ [(tag, now)])
      ((bucket ++ [(tag, now)]).drop ((bucket ++ [(tag, now)]).length - 2000)) where
  split := by
    obtain ⟨gone, rfl, old⟩ := tracked.split
    have short := tracked.short
    refine ⟨gone ++ bucket.take ((bucket ++ [(tag, now)]).length - 2000), ?_, ?_⟩
    · have less : (bucket ++ [(tag, now)]).length - 2000 ≤ bucket.length := by
        rw [List.length_append, List.length_singleton]
        omega
      rw [List.append_assoc, List.append_assoc, ← List.take_append_of_le_length less,
        List.take_append_drop]
    · intro entry member
      by_cases full : bucket.length = 2000
      · have past : (gone ++ bucket.take ((bucket ++ [(tag, now)]).length - 2000)).length ≤
            (gone ++ bucket ++ [(tag, now)]).length - 2000 := by
          simp only [List.length_append, List.length_take, List.length_singleton]
          omega
        rw [List.drop_eq_nil_of_le past] at member
        cases member
      · have room : (bucket ++ [(tag, now)]).length - 2000 = 0 := by
          rw [List.length_append, List.length_singleton]
          omega
        rw [room, List.take_zero, List.append_nil] at member
        apply old entry
        have fewer : (gone ++ bucket).length - 2000 ≤
            (gone ++ bucket ++ [(tag, now)]).length - 2000 := by
          simp only [List.length_append, List.length_singleton]
          omega
        exact (List.drop_subset_drop_left gone fewer) member
  short := by
    rw [List.length_drop]
    omega
  sorted := List.pairwise_append.2 ⟨tracked.sorted, List.pairwise_singleton _ _, by
    intro first member second new
    rw [List.mem_singleton.1 new]
    exact tracked.past first member⟩
  past entry member := by
    rcases List.mem_append.1 member with before | new
    · exact tracked.past entry before
    · rw [List.mem_singleton.1 new]

end Tracked

end Bucket

/-! ## What a call finds -/

section Sequences

variable {ttlSeconds : ℚ} {calls between : List NonceCall} {call first second : NonceCall}
  {keyId : KeyId} {buckets : Buckets}

theorem bucketsAfter_snoc : bucketsAfter ttlSeconds (calls ++ [call]) =
    call.perform ttlSeconds (bucketsAfter ttlSeconds calls) := by
  rw [bucketsAfter, List.foldl_append]
  rfl

theorem acceptedCalls_append (calls more : List NonceCall) :
    acceptedCalls ttlSeconds buckets (calls ++ more) = acceptedCalls ttlSeconds buckets calls ++
      acceptedCalls ttlSeconds (calls.foldl (NonceCall.perform ttlSeconds) buckets) more := by
  induction calls generalizing buckets with
  | nil => rfl
  | cons call rest ih =>
      simp only [List.cons_append, acceptedCalls, ih, List.foldl_cons]
      split <;> rfl

theorem acceptedTags_snoc : acceptedTags ttlSeconds (calls ++ [call]) keyId =
    acceptedTags ttlSeconds calls keyId ++
      if call.accepted ttlSeconds (bucketsAfter ttlSeconds calls) ∧ call.keyId = keyId then
        [(call.tag, call.now)] else [] := by
  rw [acceptedTags, acceptedCalls_append, List.filter_append, List.map_append]
  congr 1
  simp only [acceptedCalls]
  by_cases accepted : call.accepted ttlSeconds (bucketsAfter ttlSeconds calls) = true
  · by_cases same : call.keyId = keyId <;> simp_all [bucketsAfter]
  · simp_all [bucketsAfter]

/-- The readings of the clock do not decrease. -/
def Timely (calls : List NonceCall) : Prop :=
  calls.Pairwise fun first second => first.now ≤ second.now

/-- What is left of the bucket when a call comes. -/
def NonceCall.kept (ttlSeconds : ℚ) (buckets : Buckets) (call : NonceCall) : List (String × ℚ) :=
  (buckets call.keyId).dropWhile fun seen => ttlSeconds < call.now - seen.2

inductive Checked (ttlSeconds : ℚ) (buckets : Buckets) (call : NonceCall) : Prop
  | malformed : ¬call.WellFormed →
      call.check ttlSeconds buckets = (buckets call.keyId,
        .error ⟨400, "client_nonce is required (max 128 chars)"⟩) →
      Checked ttlSeconds buckets call
  | duplicate : call.WellFormed →
      (∃ seen ∈ call.kept ttlSeconds buckets, seen.1 = call.tag) →
      call.check ttlSeconds buckets = (call.kept ttlSeconds buckets,
        .error ⟨409, "duplicate client_nonce (replay protection)"⟩) →
      Checked ttlSeconds buckets call
  | accepted : call.WellFormed →
      (∀ seen ∈ call.kept ttlSeconds buckets, seen.1 ≠ call.tag) →
      call.check ttlSeconds buckets =
        ((call.kept ttlSeconds buckets ++ [(call.tag, call.now)]).drop
          ((call.kept ttlSeconds buckets ++ [(call.tag, call.now)]).length - 2000), .ok ()) →
      Checked ttlSeconds buckets call

/-- The three outcomes of a call. -/
theorem checked (ttlSeconds : ℚ) (buckets : Buckets) (call : NonceCall) :
    Checked ttlSeconds buckets call := by
  by_cases bad : call.nonce = "" ∨ 128 < call.nonce.length
  · refine .malformed ?_ (if_pos bad)
    intro fine
    exact bad.elim fine.1 (Nat.not_lt.2 fine.2)
  · have fine : call.WellFormed := by
      push Not at bad
      exact bad
    by_cases seen : ∃ seen ∈ call.kept ttlSeconds buckets, seen.1 = call.tag
    · exact .duplicate fine seen ((if_neg bad).trans (if_pos seen))
    · have fresh : ∀ seen ∈ call.kept ttlSeconds buckets, seen.1 ≠ call.tag := by
        push Not at seen
        exact seen
      exact .accepted fine fresh ((if_neg bad).trans (if_neg seen))

/-- After any calls, the bucket of a key tracks what was accepted under it. -/
theorem tracked_bucketsAfter {last : ℚ} (timely : Timely calls)
    (past : ∀ call ∈ calls, call.now ≤ last) :
    Tracked ttlSeconds last (acceptedTags ttlSeconds calls keyId)
      (bucketsAfter ttlSeconds calls keyId) := by
  induction calls using List.reverseRecOn generalizing last with
  | nil => exact .initial
  | append_singleton calls call ih =>
      obtain ⟨timely, _, earlier⟩ := List.pairwise_append.1 timely
      have before : ∀ other ∈ calls, other.now ≤ call.now :=
        fun other member => earlier other member call (List.mem_singleton_self _)
      have tracked := ih timely before
      have reached : call.now ≤ last := past call (by simp)
      apply Tracked.mono _ reached
      rw [bucketsAfter_snoc, acceptedTags_snoc, NonceCall.perform]
      by_cases same : call.keyId = keyId
      · subst same
        rw [Function.update_self]
        cases checked ttlSeconds (bucketsAfter ttlSeconds calls) call with
        | malformed _ outcome =>
            simpa [NonceCall.accepted, outcome, Except.isOk, Except.toBool] using tracked
        | duplicate _ _ outcome =>
            simpa [NonceCall.accepted, outcome, Except.isOk, Except.toBool, NonceCall.kept] using
              tracked.expire le_rfl
        | accepted _ _ outcome =>
            have appended := @Tracked.append _ _ _ _ call.tag (tracked.expire le_rfl)
            simpa [NonceCall.accepted, outcome, Except.isOk, Except.toBool, NonceCall.kept] using
              appended
      · rw [Function.update_of_ne (Ne.symm same)]
        simpa [same] using tracked

theorem Timely.tracked (timely : Timely (calls ++ [call])) :
    Tracked ttlSeconds call.now (acceptedTags ttlSeconds calls keyId)
      (bucketsAfter ttlSeconds calls keyId) := by
  obtain ⟨earlier, _, before⟩ := List.pairwise_append.1 timely
  exact tracked_bucketsAfter earlier
    fun other member => before other member call (List.mem_singleton_self _)

/-- What a call finds in the bucket is what is young enough of the last 2000 accepted. -/
theorem Timely.mem_kept (timely : Timely (calls ++ [call])) {entry : String × ℚ} :
    entry ∈ call.kept ttlSeconds (bucketsAfter ttlSeconds calls) ↔
      entry ∈ lastEntries (acceptedTags ttlSeconds calls call.keyId) ∧
        call.now - entry.2 ≤ ttlSeconds :=
  timely.tracked.mem_kept_iff le_rfl

/-- A call is accepted exactly if its nonce is well formed and none of the last 2000 accepted
under its key has the same text and is young enough. -/
theorem accepts_iff (timely : Timely (calls ++ [call])) :
    Accepts ttlSeconds calls call ↔ call.WellFormed ∧
      ∀ entry ∈ lastEntries (acceptedTags ttlSeconds calls call.keyId),
        entry.1 = call.tag → ttlSeconds < call.now - entry.2 := by
  unfold Accepts NonceCall.accepted
  cases checked ttlSeconds (bucketsAfter ttlSeconds calls) call with
  | malformed bad outcome =>
      simp [outcome, Except.isOk, Except.toBool, bad]
  | duplicate fine seen outcome =>
      obtain ⟨entry, member, same⟩ := seen
      obtain ⟨recent, young⟩ := timely.mem_kept.1 member
      have refused : ¬∀ entry ∈ lastEntries (acceptedTags ttlSeconds calls call.keyId),
          entry.1 = call.tag → ttlSeconds < call.now - entry.2 :=
        fun all => absurd (all entry recent same) (not_lt.2 young)
      simp only [outcome, Except.isOk, Except.toBool, Bool.false_eq_true, false_iff]
      exact fun both => refused both.2
  | accepted fine fresh outcome =>
      have all : ∀ entry ∈ lastEntries (acceptedTags ttlSeconds calls call.keyId),
          entry.1 = call.tag → ttlSeconds < call.now - entry.2 := by
        intro entry recent same
        by_contra young
        exact fresh entry (timely.mem_kept.2 ⟨recent, not_lt.1 young⟩) same
      simp only [outcome, Except.isOk, Except.toBool, true_iff]
      exact ⟨fine, all⟩

/-- A call that is refused as a duplicate has the text of one of the last 2000 accepted. -/
theorem exists_of_refuses (timely : Timely (calls ++ [call]))
    (refuses : RefusesDuplicate ttlSeconds calls call) :
    ∃ entry ∈ lastEntries (acceptedTags ttlSeconds calls call.keyId),
      entry.1 = call.tag ∧ call.now - entry.2 ≤ ttlSeconds := by
  unfold RefusesDuplicate at refuses
  cases checked ttlSeconds (bucketsAfter ttlSeconds calls) call with
  | malformed _ outcome =>
      rw [outcome] at refuses
      exact absurd (Except.error.inj refuses) (by decide)
  | duplicate _ seen _ =>
      obtain ⟨entry, member, same⟩ := seen
      obtain ⟨recent, young⟩ := timely.mem_kept.1 member
      exact ⟨entry, recent, same, young⟩
  | accepted _ _ outcome =>
      rw [outcome] at refuses
      cases refuses

/-- What was accepted under a key was accepted by some call. -/
theorem exists_of_mem_acceptedTags {entry : String × ℚ}
    (member : entry ∈ acceptedTags ttlSeconds calls keyId) :
    ∃ before first rest, calls = before ++ first :: rest ∧ Accepts ttlSeconds before first ∧
      first.keyId = keyId ∧ entry = (first.tag, first.now) := by
  induction calls using List.reverseRecOn with
  | nil => cases member
  | append_singleton calls call ih =>
      rw [acceptedTags_snoc] at member
      rcases List.mem_append.1 member with old | new
      · obtain ⟨before, first, rest, whole, accepted, same, stored⟩ := ih old
        refine ⟨before, first, rest ++ [call], ?_, accepted, same, stored⟩
        rw [whole, List.append_assoc, List.cons_append]
      · split at new
        · next both =>
            exact ⟨calls, call, [], rfl, both.1, both.2, List.mem_singleton.1 new⟩
        · cases new

/-- What was accepted later stands behind. -/
theorem acceptedTags_append (more : List NonceCall) :
    acceptedTags ttlSeconds (calls ++ more) keyId = acceptedTags ttlSeconds calls keyId ++
      ((acceptedCalls ttlSeconds (bucketsAfter ttlSeconds calls) more).filter
        (·.keyId = keyId)).map fun call => (call.tag, call.now) := by
  rw [acceptedTags, acceptedCalls_append, List.filter_append, List.map_append]
  rfl

/-- Without a colon in the endpoints, the stored text tells endpoint and nonce. -/
theorem replayTag_inj {endpoint other nonce another : String}
    (plain : ':' ∉ endpoint.toList) (plain' : ':' ∉ other.toList)
    (same : replayTag endpoint nonce = replayTag other another) :
    endpoint = other ∧ nonce = another := by
  have texts := congrArg String.toList same
  simp only [replayTag, String.toList_append, List.append_assoc] at texts
  have before : ∀ text rest : List Char, ':' ∉ text →
      (text ++ (":".toList ++ rest)).takeWhile (· ≠ ':') = text := by
    intro text rest plain
    have all : ∀ char ∈ text, decide (char ≠ ':') = true := by
      intro char member
      apply decide_eq_true
      intro colon
      exact plain (colon ▸ member)
    rw [List.takeWhile_append_of_pos all]
    simp
  have heads : endpoint.toList = other.toList := by
    rw [← before _ nonce.toList plain, texts, before _ _ plain']
  rw [heads] at texts
  have tails := List.append_cancel_left (List.append_cancel_left texts)
  exact ⟨String.toList_injective heads, String.toList_injective tails⟩

/-- A nonce that was accepted is refused for the time to live, unless 2000 others of its key
were accepted meanwhile; and a nonce is refused as a duplicate only if one with the same text was
accepted under its key within that time. -/
theorem replays_refused (ttlSeconds : ℚ) :
    (∀ before first between second,
      Timely (before ++ first :: between ++ [second]) →
      Accepts ttlSeconds before first → Accepts ttlSeconds (before ++ first :: between) second →
      second.keyId = first.keyId → second.endpoint = first.endpoint →
      second.nonce = first.nonce →
      ttlSeconds < second.now - first.now ∨
        2000 ≤ (acceptedCalls ttlSeconds (bucketsAfter ttlSeconds (before ++ [first]))
          between).countP (·.keyId = first.keyId)) ∧
    ∀ calls call, Timely (calls ++ [call]) → RefusesDuplicate ttlSeconds calls call →
      ∃ before first rest, calls = before ++ first :: rest ∧ Accepts ttlSeconds before first ∧
        first.keyId = call.keyId ∧ first.tag = call.tag ∧ call.now - first.now ≤ ttlSeconds ∧
        (':' ∉ first.endpoint.toList → ':' ∉ call.endpoint.toList →
          first.endpoint = call.endpoint ∧ first.nonce = call.nonce) := by
  constructor
  · intro before first between second timely accepted again key endpoint nonce
    by_contra neither
    push Not at neither
    obtain ⟨young, few⟩ := neither
    have fresh := ((accepts_iff timely).1 again).2 (first.tag, first.now)
    have split : before ++ first :: between = before ++ [first] ++ between := by simp
    have stored : acceptedTags ttlSeconds (before ++ [first]) first.keyId =
        acceptedTags ttlSeconds before first.keyId ++ [(first.tag, first.now)] := by
      rw [acceptedTags_snoc, if_pos ⟨accepted, rfl⟩]
    have recent : (first.tag, first.now) ∈
        lastEntries (acceptedTags ttlSeconds (before ++ first :: between) second.keyId) := by
      rw [key, split, acceptedTags_append, stored, lastEntries, List.append_assoc, List.drop_append]
      apply List.mem_append_right
      rw [List.countP_eq_length_filter] at few
      have none : (acceptedTags ttlSeconds before first.keyId ++ ([(first.tag, first.now)] ++
          ((acceptedCalls ttlSeconds (bucketsAfter ttlSeconds (before ++ [first])) between).filter
            (·.keyId = first.keyId)).map fun call => (call.tag, call.now))).length - 2000 -
          (acceptedTags ttlSeconds before first.keyId).length = 0 := by
        simp only [List.length_append, List.length_map, List.length_singleton]
        omega
      rw [none]
      exact List.mem_cons_self
    have tags : first.tag = second.tag := by rw [NonceCall.tag, NonceCall.tag, endpoint, nonce]
    exact absurd (fresh recent tags) (not_lt.2 young)
  · intro calls call timely refuses
    obtain ⟨entry, recent, same, young⟩ := exists_of_refuses timely refuses
    obtain ⟨before, first, rest, whole, accepted, key, rfl⟩ :=
      exists_of_mem_acceptedTags (List.mem_of_mem_drop recent)
    exact ⟨before, first, rest, whole, accepted, key, same, young,
      fun plain plain' => replayTag_inj plain plain' same⟩

end Sequences

namespace Demo

/-- A call with the number as its nonce. -/
def use (number : ℕ) : NonceCall where
  keyId := "key"
  endpoint := "request-settlement"
  nonce := toString number
  now := 0

theorem use_wellFormed {number : ℕ} (small : number ≤ 2000) : (use number).WellFormed := by
  have length : (toString number).length = (Nat.toDigits 10 number).length := by
    rw [Nat.toString_eq_ofList_toDigits, String.length_ofList]
  constructor
  · intro empty
    have none : (toString number).toList = [] := by rw [show toString number = "" from empty]; rfl
    rw [Nat.toString_eq_ofList_toDigits, String.toList_ofList] at none
    exact Nat.toDigits_ne_nil none
  · show (toString number).length ≤ 128
    rw [length]
    apply (Nat.length_toDigits_le_iff (by decide) (by decide)).2
    exact small.trans_lt (by norm_num)

theorem use_tag_injective {number other : ℕ} (same : (use number).tag = (use other).tag) :
    number = other := by
  have nonces : toString number = toString other := (String.append_right_inj _).1 same
  rw [Nat.toString_eq_ofList_toDigits, Nat.toString_eq_ofList_toDigits] at nonces
  have digits := String.ofList_injective nonces
  rw [← @Nat.ofDigitChars_ten_toDigits number, digits, Nat.ofDigitChars_ten_toDigits]

theorem uses_timely (numbers : List ℕ) (number : ℕ) :
    Timely (numbers.map use ++ [use number]) := by
  have zero : ∀ call ∈ numbers.map use ++ [use number], call.now = 0 := by
    intro call member
    rcases List.mem_append.1 member with old | new
    · obtain ⟨_, _, rfl⟩ := List.mem_map.1 old
      rfl
    · rw [List.mem_singleton.1 new]
      rfl
  exact List.Pairwise.imp_of_mem (fun first second _ => by
    rw [zero _ first, zero _ second]) (List.pairwise_of_forall fun _ _ => trivial)

/-- Different nonces are all accepted. -/
theorem uses_accepted (count : ℕ) (few : count ≤ 2001) :
    acceptedTags 600 ((List.range count).map use) "key" =
      (List.range count).map fun number => ((use number).tag, 0) := by
  induction count with
  | zero => rfl
  | succ count ih =>
      have before := ih (Nat.le_of_succ_le few)
      have accepted : Accepts 600 ((List.range count).map use) (use count) := by
        apply (accepts_iff (uses_timely _ count)).2
        refine ⟨use_wellFormed (by omega), fun entry recent same => ?_⟩
        have listed := List.mem_of_mem_drop recent
        rw [show (use count).keyId = "key" from rfl, before] at listed
        obtain ⟨number, member, rfl⟩ := List.mem_map.1 listed
        have := use_tag_injective same
        have := List.mem_range.1 member
        omega
      rw [List.range_succ, List.map_append, List.map_append, List.map_singleton,
        List.map_singleton, acceptedTags_snoc, before, if_pos ⟨accepted, rfl⟩]
      rfl

/-- With 2000 other nonces in between, all at the same time, a nonce is accepted again. -/
theorem accepted_again :
    Timely ((List.range 2001).map use ++ [use 0]) ∧ Accepts 600 [] (use 0) ∧
      Accepts 600 ((List.range 2001).map use) (use 0) := by
  refine ⟨uses_timely _ 0, ?_, ?_⟩
  · exact (accepts_iff (uses_timely [] 0)).2 ⟨use_wellFormed (by decide), by simp [lastEntries,
      acceptedTags, acceptedCalls]⟩
  · apply (accepts_iff (uses_timely _ 0)).2
    refine ⟨use_wellFormed (by decide), fun entry recent same => ?_⟩
    have many : ((List.range 2001).map fun number => ((use number).tag, (0 : ℚ))).length - 2000 =
        1 := by simp
    rw [show (use 0).keyId = "key" from rfl, uses_accepted 2001 le_rfl, lastEntries, many,
      ← List.map_drop] at recent
    obtain ⟨number, member, rfl⟩ := List.mem_map.1 recent
    obtain rfl := use_tag_injective same
    obtain ⟨place, inside, zero⟩ := List.mem_drop_iff_getElem.1 member
    rw [List.getElem_range] at zero
    omega

end Demo

end TrustChain.Runtime
