import Mathlib.Tactic.Common
import Metering.Proofs.Statistic.Tally

/-!
# Metering — the intervals of a meter

A meter is marked and read at any time, and folds the intervals that have ended only then. What has
been folded at some time is still what a clock would have folded that rings at the end of each
interval: the events marked in each of the intervals that have ended, one after the other, from the
start of the meter on. The one condition is that fewer than 2³² intervals end between two uses.

* `interval` — the number of an interval, counted from the start of a meter;
* `Use`, `used` — marking and reading, in any order and as often as one likes;
* `markedIn` — the events that are marked in an interval;
* `Kept` — the invariant of a meter: what is folded, what is pending, and where the interval begins
  that this belongs to (`Kept.tick`, `Kept.mark`, `Kept.used`);
* `used_eq` — all of a meter after any uses;
* `used_eq_of_marks_eq` — readings in between make no difference.
-/

namespace Metering

namespace Meter

variable {A : Type} [Accumulator A]

/-! ## Intervals and uses -/

/-- The number of the interval that an instant belongs to. An interval begins with its first
instant, at which the one before has ended. -/
def interval (start now : Instant) : Nat := since start now / tickInterval

/-- What one may do with a meter. -/
inductive Use where
  | mark (n : UInt64)
  | read

/-- The meter after a use. -/
def use [DecidableEq A] (m : Meter A) (now : Instant) : Use → Meter A
  | .mark n => m.mark now n
  | .read => m.tick now

/-- The meter after some uses. -/
def used [DecidableEq A] (m : Meter A) (uses : List (Instant × Use)) : Meter A :=
  uses.foldl (fun m step => m.use step.1 step.2) m

/-- The last instant of some uses. -/
def lastUse (from_ : Instant) (uses : List (Instant × Use)) : Instant :=
  uses.foldl (fun _ step => step.1) from_

/-- The events that some uses mark in an interval, in 64 bits. -/
def markedIn (start : Instant) (k : Nat) : List (Instant × Use) → UInt64
  | [] => 0
  | (now, .mark n) :: rest =>
    (if interval start now = k then n else 0) + markedIn start k rest
  | (_, .read) :: rest => markedIn start k rest

/-- The events that some uses mark, in 64 bits. -/
def marked : List (Instant × Use) → UInt64
  | [] => 0
  | (_, .mark n) :: rest => n + marked rest
  | (_, .read) :: rest => marked rest

/-- The uses that mark something. -/
def marks (uses : List (Instant × Use)) : List (Instant × Use) :=
  uses.filter fun step => match step.2 with
    | .mark _ => true
    | .read => false

/-- One use comes after another, and fewer intervals end in between than a tick can fold. -/
def Soon (start earlier later : Instant) : Prop :=
  earlier ≤ later ∧ interval start later < interval start earlier + tickLimit

instance (start earlier later : Instant) : Decidable (Soon start earlier later) :=
  inferInstanceAs (Decidable (_ ∧ _))

theorem tickInterval_pos : 0 < tickInterval := by decide

/-! ## Numbers of intervals -/

theorem interval_self (start : Instant) : interval start start = 0 := by
  unfold interval since
  rw [Nat.sub_self, Nat.zero_div]

theorem interval_mono (start : Instant) {earlier later : Instant} (h : earlier ≤ later) :
    interval start earlier ≤ interval start later := by
  unfold interval since
  exact Nat.div_le_div_right (Nat.sub_le_sub_right h start)

/-- Since the start of an interval as many have ended as the numbers differ by. -/
theorem since_div (start now : Instant) (k : Nat) :
    since (start + tickInterval * k) now / tickInterval = interval start now - k := by
  unfold interval since
  rw [← Nat.sub_sub, Nat.sub_mul_div]

theorem div_lt_of_pause {i limit start earlier later : Nat} (hPos : 0 < i)
    (hPause : later - earlier + i ≤ i * limit) :
    (later - start) / i < (earlier - start) / i + limit := by
  have hShort : later - start + i ≤ (earlier - start) + i * limit := by omega
  have hDiv := Nat.div_le_div_right (c := i) hShort
  rw [Nat.add_div_right _ hPos, Nat.add_mul_div_left _ _ hPos] at hDiv
  omega

/-- A pause that is shorter than 2³² intervals by one at least is short enough. -/
theorem soon_of_pause (start : Instant) {earlier later : Instant} (h : earlier ≤ later)
    (hPause : since earlier later + tickInterval ≤ tickInterval * tickLimit) :
    Soon start earlier later :=
  ⟨h, div_lt_of_pause tickInterval_pos hPause⟩

/-! ## Folding -/

/-- A tick folds what is pending, and then intervals without events. -/
theorem foldTicks_succ [DecidableEq A] (a : A) (count : UInt64) (ticks : Nat) :
    foldTicks a count (ticks + 1) =
      (count :: List.replicate ticks 0).foldl Accumulator.fold a := by
  rw [foldTicks, settle_eq_repeated, List.foldl_cons]
  generalize Accumulator.fold a count = first
  induction ticks generalizing first with
  | zero => rfl
  | succ ticks ih =>
    rw [repeated, List.replicate_succ, List.foldl_cons]
    exact ih (Accumulator.fold first 0)

/-- Of counts that are zero after some place, those up to a later place are those before, the one in
this place, and zeros. -/
theorem map_range_of_later {counts : Nat → UInt64} {j k : Nat} (hZero : ∀ n, j < n → counts n = 0)
    (h : j < k) :
    (List.range k).map counts =
      (List.range j).map counts ++ counts j :: List.replicate (k - j - 1) 0 := by
  obtain ⟨d, rfl⟩ := Nat.exists_eq_add_of_lt h
  have hZeros : (List.range d).map (fun n => counts (j + 1 + n)) = List.replicate d 0 := by
    rw [List.map_eq_replicate_iff.mpr, List.length_range]
    intro n _
    exact hZero (j + 1 + n) (by omega)
  have hSplit : j + d + 1 = j + 1 + d := by omega
  have hRest : j + 1 + d - j - 1 = d := by omega
  rw [hSplit, hRest, List.range_add, List.map_append, List.map_map, List.range_succ,
    List.map_append, List.map_singleton, List.append_assoc, List.singleton_append]
  exact congrArg (fun zeros => (List.range j).map counts ++ counts j :: zeros) hZeros

/-! ## The invariant -/

/-- The meter is in an interval, with the counts of all intervals so far: those that have ended are
folded in their order, that of the interval is pending, and there are none after it. -/
structure Kept (m : Meter A) (start : Instant) (counts : Nat → UInt64) (k : Nat) : Prop where
  started : m.start = start
  lastTick : m.lastTick = start + tickInterval * k
  pending : m.pending = counts k
  folded : m.folded = ((List.range k).map counts).foldl Accumulator.fold Accumulator.start
  later : ∀ n, k < n → counts n = 0

theorem kept_new (start : Instant) : Kept (new start : Meter A) start (fun _ => 0) 0 where
  started := rfl
  lastTick := rfl
  pending := rfl
  folded := rfl
  later := fun _ _ => rfl

variable [DecidableEq A] {m : Meter A} {start now : Instant} {counts : Nat → UInt64} {k : Nat}

/-- A tick goes on to the interval of its instant, unless too many intervals have ended. -/
theorem Kept.tick (h : Kept m start counts k) (hLater : k ≤ interval start now)
    (hSoon : interval start now < k + tickLimit) :
    Kept (m.tick now) start counts (interval start now) := by
  obtain ⟨ticks, hTicks⟩ : ∃ ticks : Nat, since m.lastTick now / tickInterval = ticks := ⟨_, rfl⟩
  have hEnded : ticks = interval start now - k := by
    rw [← hTicks, h.lastTick, since_div]
  simp only [Meter.tick, hTicks]
  split
  · next hYoung =>
    -- no interval has ended since
    have hNone : ticks = 0 := by rw [← hTicks, Nat.div_eq_of_lt hYoung]
    have hSame : interval start now = k := by omega
    rw [hSame]
    exact h
  · next hOld =>
    have hSome : 0 < ticks := by
      rw [← hTicks]
      exact Nat.div_pos (Nat.le_of_not_lt hOld) tickInterval_pos
    have hAhead : k < interval start now := by omega
    -- the number of intervals fits in the bits that are kept of it
    have hFits : ticks % tickLimit = ticks := Nat.mod_eq_of_lt (by omega)
    rw [hFits]
    refine ⟨h.started, ?_, ?_, ?_, ?_⟩
    · show m.lastTick + tickInterval * ticks = _
      rw [h.lastTick, hEnded, Nat.add_assoc, ← Nat.mul_add, Nat.add_sub_cancel' hLater]
    · exact (h.later _ hAhead).symm
    · obtain ⟨more, rfl⟩ : ∃ more, ticks = more + 1 := ⟨ticks - 1, by omega⟩
      have hZeros : interval start now - k - 1 = more := by omega
      show foldTicks m.folded m.pending (more + 1) = _
      rw [map_range_of_later h.later hAhead, List.foldl_append, foldTicks_succ, ← h.folded,
        h.pending, hZeros]
    · intro n hn
      exact h.later n (by omega)

/-- Events are marked in the interval of their instant. -/
theorem Kept.mark (h : Kept m start counts k) (hLater : k ≤ interval start now)
    (hSoon : interval start now < k + tickLimit) (n : UInt64) :
    Kept (m.mark now n) start
      (fun j => counts j + if interval start now = j then n else 0) (interval start now) := by
  have hTick := h.tick hLater hSoon
  refine ⟨hTick.started, hTick.lastTick, ?_, ?_, ?_⟩
  · show (m.tick now).pending + n = _
    rw [hTick.pending, if_pos rfl]
  · show (m.tick now).folded = _
    rw [hTick.folded]
    -- the intervals that have ended are not marked any more
    refine congrArg (fun ended => List.foldl Accumulator.fold Accumulator.start ended) ?_
    refine List.map_congr_left fun j hj => ?_
    have hEnded : j < interval start now := List.mem_range.mp hj
    rw [if_neg (by omega), UInt64.add_zero]
  · intro j hj
    have hOther : interval start now ≠ j := by omega
    show counts j + (if interval start now = j then n else 0) = 0
    rw [hTick.later j hj, if_neg hOther, UInt64.add_zero]

theorem Kept.use (h : Kept m start counts k) (hLater : k ≤ interval start now)
    (hSoon : interval start now < k + tickLimit) (u : Use) :
    Kept (m.use now u) start (fun j => counts j + markedIn start j [(now, u)])
      (interval start now) := by
  cases u with
  | mark n =>
    simp only [markedIn, UInt64.add_zero]
    exact h.mark hLater hSoon n
  | read =>
    simp only [markedIn, UInt64.add_zero]
    exact h.tick hLater hSoon

theorem markedIn_cons (start : Instant) (k : Nat) (step : Instant × Use)
    (rest : List (Instant × Use)) :
    markedIn start k (step :: rest) = markedIn start k [step] + markedIn start k rest := by
  obtain ⟨now, u⟩ := step
  cases u with
  | mark n => rw [markedIn, markedIn, markedIn, UInt64.add_zero]
  | read => rw [markedIn, markedIn, markedIn, UInt64.zero_add]

/-- All uses keep the invariant, as long as each comes soon after the one before. -/
theorem Kept.used {last : Instant} (uses : List (Instant × Use))
    (h : Kept m start counts (interval start last))
    (hSoon : List.IsChain (Soon start) (last :: uses.map Prod.fst)) :
    Kept (m.used uses) start (fun j => counts j + markedIn start j uses)
      (interval start (lastUse last uses)) := by
  -- by induction on the uses, from any meter with any counts
  induction uses generalizing m counts last with
  | nil =>
    simp only [markedIn, UInt64.add_zero]
    exact h
  | cons step rest ih =>
    obtain ⟨now, u⟩ := step
    obtain ⟨hNow, hRest⟩ := List.isChain_cons_cons.mp hSoon
    have hFirst := h.use (interval_mono start hNow.1) hNow.2 u
    have hAll := ih hFirst hRest
    simp only [markedIn_cons start _ (now, u) rest, ← UInt64.add_assoc]
    exact hAll

/-! ## All of a meter -/

theorem count_used (uses : List (Instant × Use)) (m : Meter A) :
    (m.used uses).count = m.count + marked uses := by
  induction uses generalizing m with
  | nil => exact (UInt64.add_zero _).symm
  | cons step rest ih =>
    obtain ⟨now, u⟩ := step
    show ((m.use now u).used rest).count = _
    rw [ih]
    cases u with
    | mark n =>
      rw [marked, ← UInt64.add_assoc]
      show (m.mark now n).count + _ = _
      rw [count_mark]
    | read =>
      rw [marked]
      show (m.tick now).count + _ = _
      rw [count_tick]

/-- After any uses, each soon after the one before, the intervals that have ended are folded from the
first one on, each with the events that were marked in it; those of the interval of the last use are
pending, and the count is that of all events. All counts are in 64 bits. -/
theorem used_eq (start : Instant) (uses : List (Instant × Use))
    (hSoon : List.IsChain (Soon start) (start :: uses.map Prod.fst)) :
    (new start : Meter A).used uses =
      { start := start
        lastTick := start + tickInterval * interval start (lastUse start uses)
        count := marked uses
        pending := markedIn start (interval start (lastUse start uses)) uses
        folded := ((List.range (interval start (lastUse start uses))).map
          fun k => markedIn start k uses).foldl Accumulator.fold Accumulator.start } := by
  have hNew : Kept (new start : Meter A) start (fun _ => 0) (interval start start) := by
    rw [interval_self]
    exact kept_new start
  have hKept := hNew.used uses hSoon
  have hCount : ((new start : Meter A).used uses).count = marked uses := by
    rw [count_used]
    exact UInt64.zero_add _
  simp only [UInt64.zero_add] at hKept
  generalize (new start : Meter A).used uses = m at hKept hCount ⊢
  obtain ⟨first, lastTick, count, pending, folded⟩ := m
  rw [Meter.mk.injEq]
  exact ⟨hKept.started, hKept.lastTick, hCount, hKept.pending, hKept.folded⟩

/-! ## Readings in between -/

theorem lastUse_concat (first now : Instant) (uses : List (Instant × Use)) (u : Use) :
    lastUse first (uses ++ [(now, u)]) = now := by
  unfold lastUse
  rw [List.foldl_append]
  rfl

/-- Only what is marked shows in the counts of the intervals. -/
theorem markedIn_marks (start : Instant) (k : Nat) (uses : List (Instant × Use)) :
    markedIn start k (marks uses) = markedIn start k uses := by
  induction uses with
  | nil => rfl
  | cons step rest ih =>
    obtain ⟨now, u⟩ := step
    cases u with
    | mark n =>
      show markedIn start k ((now, .mark n) :: marks rest) = _
      rw [markedIn, markedIn, ih]
    | read =>
      show markedIn start k (marks rest) = _
      rw [markedIn, ih]

theorem marked_marks (uses : List (Instant × Use)) : marked (marks uses) = marked uses := by
  induction uses with
  | nil => rfl
  | cons step rest ih =>
    obtain ⟨now, u⟩ := step
    cases u with
    | mark n =>
      show marked ((now, .mark n) :: marks rest) = _
      rw [marked, marked, ih]
    | read =>
      show marked (marks rest) = _
      rw [marked, ih]

/-- Whoever marks the same events at the same times and ends with the same use has the same meter,
with all its counts and averages, whatever was read in between. -/
theorem used_eq_of_marks_eq {start now : Instant} {uses others : List (Instant × Use)} {u : Use}
    (hMarks : marks uses = marks others)
    (hSoon : List.IsChain (Soon start) (start :: (uses ++ [(now, u)]).map Prod.fst))
    (hOthers : List.IsChain (Soon start) (start :: (others ++ [(now, u)]).map Prod.fst)) :
    (new start : Meter A).used (uses ++ [(now, u)]) =
      (new start : Meter A).used (others ++ [(now, u)]) := by
  have hAll : marks (uses ++ [(now, u)]) = marks (others ++ [(now, u)]) := by
    unfold marks at hMarks ⊢
    rw [List.filter_append, List.filter_append, hMarks]
  have hIn : ∀ k, markedIn start k (uses ++ [(now, u)]) = markedIn start k (others ++ [(now, u)]) := by
    intro k
    rw [← markedIn_marks, hAll, markedIn_marks]
  have hCount : marked (uses ++ [(now, u)]) = marked (others ++ [(now, u)]) := by
    rw [← marked_marks, hAll, marked_marks]
  rw [used_eq start _ hSoon, used_eq start _ hOthers, lastUse_concat, lastUse_concat, hCount, hIn]
  simp only [hIn]

/-- To read the rates is such a use, and what is read of the averages is what has been folded. -/
theorem rates_eq (m : Meter (Averages Float)) (now : Instant) :
    m.rates now =
      (m.use now .read,
        ⟨m.meanRate now, (m.use now .read).folded.one.rate, (m.use now .read).folded.five.rate,
          (m.use now .read).folded.fifteen.rate⟩) := rfl

/-- Two readings within a long silence, and one in the end, are folded alike. -/
example :
    ((new 0 : Meter (List UInt64)).used [(1000000000, .mark 3), (4999999999, .mark 4),
        (5000000000, .mark 5), (12000000000, .read), (15000000000, .mark 1), (21000000000, .read)]) =
      ⟨0, 20000000000, 13, 0, [7, 5, 0, 1]⟩ := by
  rw [used_eq 0 _ (by decide)]
  rfl

end Meter

end Metering
