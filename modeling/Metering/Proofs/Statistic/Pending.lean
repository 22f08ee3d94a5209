import Mathlib.Data.UInt
import Metering.Proofs.Statistic.Intervals

/-!
# Metering — what becomes of pending events

A tick takes the pending events out of a meter and folds them into the first of the intervals that
have ended. How many have ended is kept in 32 bits: when it is a multiple of 2³² nothing is left of
it, and the events that were taken out are folded into no interval. They are lost, and as the meter
has not moved on, so is all that is pending at every further use, until another interval has ended.
There is no other way to lose an event: whatever is marked is folded, or pending, or lost like this.

* `closed` — the counts of the intervals that a tick folds, and `tick_eq`, all that it does;
* `folded_used` — whatever the intervals are folded into, these are the counts;
* `Overrun` — nothing is left of the number of intervals;
* `lost` — the events that are lost in the course of some uses;
* `events_accounted` — after any uses at any instants, each event is folded, pending or lost;
* `events_kept_of_soon` — none is lost unless 2³² intervals end between two uses;
* `overrun_use_iff` — a meter that has lost events goes on losing them.
-/

namespace Metering

namespace Meter

variable {A : Type} {m : Meter A} {now : Instant}

/-! ## What a tick folds -/

/-- How many intervals a tick folds. -/
def ticks (m : Meter A) (now : Instant) : Nat := since m.lastTick now / tickInterval % tickLimit

/-- The counts of the intervals that a tick folds: the first has all the events. -/
def closed (m : Meter A) (now : Instant) : List UInt64 :=
  match m.ticks now with
  | 0 => []
  | idle + 1 => m.pending :: List.replicate idle 0

theorem ticks_of_young (h : since m.lastTick now < tickInterval) : m.ticks now = 0 := by
  rw [ticks, Nat.div_eq_of_lt h, Nat.zero_mod]

section Folding

variable [Accumulator A] [DecidableEq A]

theorem foldTicks_closed (m : Meter A) (now : Instant) :
    foldTicks m.folded m.pending (m.ticks now) =
      (m.closed now).foldl Accumulator.fold m.folded := by
  unfold closed
  cases m.ticks now with
  | zero => rfl
  | succ idle => exact foldTicks_succ m.folded m.pending idle

/-- All that a tick does. -/
theorem tick_eq (m : Meter A) (now : Instant) :
    m.tick now =
      { m with
        lastTick := m.lastTick + tickInterval * m.ticks now
        pending := if since m.lastTick now < tickInterval then m.pending else 0
        folded := (m.closed now).foldl Accumulator.fold m.folded } := by
  by_cases hYoung : since m.lastTick now < tickInterval
  · rw [if_pos hYoung, ← foldTicks_closed, ticks_of_young hYoung]
    exact if_pos hYoung
  · rw [if_neg hYoung, ← foldTicks_closed]
    exact if_neg hYoung

/-! ## The counts that are folded -/

/-- What is done with a meter does not depend on what its intervals are folded into: it is in step
with one that keeps their counts. -/
structure Recorded (m : Meter A) (r : Meter (List UInt64)) : Prop where
  lastTick : m.lastTick = r.lastTick
  pending : m.pending = r.pending
  folded : m.folded = r.folded.foldl Accumulator.fold Accumulator.start

theorem fold_recorded (counts more : List UInt64) :
    more.foldl Accumulator.fold counts = counts ++ more := by
  induction more generalizing counts with
  | nil => exact (List.append_nil counts).symm
  | cons count rest ih =>
    rw [List.foldl_cons, ih, List.append_cons]
    rfl

variable {r : Meter (List UInt64)}

theorem Recorded.tick (h : Recorded m r) (now : Instant) : Recorded (m.tick now) (r.tick now) := by
  have hTicks : m.ticks now = r.ticks now := by rw [ticks, ticks, h.lastTick]
  have hClosed : m.closed now = r.closed now := by rw [closed, closed, hTicks, h.pending]
  rw [tick_eq, tick_eq]
  refine ⟨?_, ?_, ?_⟩
  · show m.lastTick + _ = r.lastTick + _
    rw [hTicks, h.lastTick]
  · show (if _ then m.pending else 0) = if _ then r.pending else 0
    rw [h.lastTick, h.pending]
  · show (m.closed now).foldl _ m.folded = ((r.closed now).foldl _ r.folded).foldl _ _
    rw [hClosed, h.folded, fold_recorded, List.foldl_append]

theorem Recorded.use (h : Recorded m r) (now : Instant) (u : Use) :
    Recorded (m.use now u) (r.use now u) := by
  have hTick := h.tick now
  cases u with
  | mark n => exact ⟨hTick.lastTick, congrArg (· + n) hTick.pending, hTick.folded⟩
  | read => exact hTick

theorem Recorded.used (h : Recorded m r) (uses : List (Instant × Use)) :
    Recorded (m.used uses) (r.used uses) := by
  induction uses generalizing m r with
  | nil => exact h
  | cons step rest ih => exact ih (h.use step.1 step.2)

omit [DecidableEq A] in
theorem recorded_new (start : Instant) : Recorded (new start : Meter A) (new start) :=
  ⟨rfl, rfl, rfl⟩

/-- The counts of the intervals that are folded in the course of some uses. -/
def recorded (start : Instant) (uses : List (Instant × Use)) : List UInt64 :=
  ((new start : Meter (List UInt64)).used uses).folded

/-- Whatever intervals are folded into, these are their counts. -/
theorem folded_used (start : Instant) (uses : List (Instant × Use)) :
    ((new start : Meter A).used uses).folded =
      (recorded start uses).foldl Accumulator.fold Accumulator.start :=
  ((recorded_new start).used uses).folded

/-! ## Events that are lost -/

/-- Intervals have ended, but nothing is left of their number in the bits that are kept of it. -/
def Overrun (m : Meter A) (now : Instant) : Prop :=
  tickInterval ≤ since m.lastTick now ∧ m.ticks now = 0

instance (m : Meter A) (now : Instant) : Decidable (m.Overrun now) :=
  inferInstanceAs (Decidable (_ ∧ _))

/-- The events that are lost at a use. -/
def dropped (m : Meter A) (now : Instant) : UInt64 := if m.Overrun now then m.pending else 0

/-- The events that are lost in the course of some uses, in 64 bits. -/
def lost (m : Meter A) : List (Instant × Use) → UInt64
  | [] => 0
  | (now, u) :: rest => m.dropped now + lost (m.use now u) rest

/-- Events that were pending are folded by a tick, or still pending, or lost. -/
theorem sum_closed (m : Meter A) (now : Instant) :
    (m.closed now).sum + (m.tick now).pending + m.dropped now = m.pending := by
  have hZeros (idle : Nat) : (List.replicate idle (0 : UInt64)).sum = 0 := by
    induction idle with
    | zero => rfl
    | succ idle ih => rw [List.replicate_succ, List.sum_cons, ih, UInt64.zero_add]
  rw [tick_eq]
  by_cases hYoung : since m.lastTick now < tickInterval
  · -- nothing is taken out
    have hKept : ¬ m.Overrun now := fun h => Nat.not_le_of_lt hYoung h.1
    rw [dropped, if_neg hKept, if_pos hYoung, closed, ticks_of_young hYoung]
    exact (UInt64.add_zero _).trans (UInt64.zero_add _)
  · rw [if_neg hYoung]
    cases hTicks : m.ticks now with
    | zero =>
      have hOverrun : m.Overrun now := ⟨Nat.le_of_not_lt hYoung, hTicks⟩
      rw [dropped, if_pos hOverrun, closed, hTicks]
      exact UInt64.zero_add _
    | succ idle =>
      have hKept : ¬ m.Overrun now := fun h => Nat.succ_ne_zero idle (hTicks.symm.trans h.2)
      rw [dropped, if_neg hKept, closed, hTicks]
      show (m.pending :: List.replicate idle 0).sum + 0 + 0 = m.pending
      rw [List.sum_cons, hZeros, UInt64.add_zero, UInt64.add_zero, UInt64.add_zero]

/-- Of the events of a meter those that are not lost are folded or pending. -/
def Accounted (r : Meter (List UInt64)) (gone : UInt64) : Prop :=
  r.folded.sum + r.pending + gone = r.count

variable {gone : UInt64}

theorem Accounted.tick (h : Accounted r gone) (now : Instant) :
    Accounted (r.tick now) (gone + r.dropped now) := by
  have hClosed := r.sum_closed now
  have hFolded : (r.tick now).folded = r.folded ++ r.closed now := by
    rw [tick_eq, ← fold_recorded]
  unfold Accounted at h ⊢
  rw [count_tick, ← h, hFolded, List.sum_append]
  generalize (r.tick now).pending = pending at hClosed ⊢
  rw [← hClosed]
  ac_rfl

theorem Accounted.use (h : Accounted r gone) (now : Instant) (u : Use) :
    Accounted (r.use now u) (gone + r.dropped now) := by
  have hTick := h.tick now
  cases u with
  | mark n =>
    show (r.tick now).folded.sum + ((r.tick now).pending + n) + _ = (r.tick now).count + n
    unfold Accounted at hTick
    rw [← hTick]
    ac_rfl
  | read => exact hTick

theorem Accounted.used (h : Accounted r gone) (uses : List (Instant × Use)) :
    Accounted (r.used uses) (gone + r.lost uses) := by
  -- by induction on the uses, from any meter and whatever it has lost
  induction uses generalizing r gone with
  | nil =>
    rw [lost, UInt64.add_zero]
    exact h
  | cons step rest ih =>
    obtain ⟨now, u⟩ := step
    rw [lost, ← UInt64.add_assoc]
    exact ih (h.use now u)

theorem Recorded.lost (h : Recorded m r) (uses : List (Instant × Use)) :
    m.lost uses = r.lost uses := by
  induction uses generalizing m r with
  | nil => rfl
  | cons step rest ih =>
    have hOverrun : m.Overrun step.1 ↔ r.Overrun step.1 := by
      rw [Overrun, Overrun, ticks, ticks, h.lastTick]
    have hDropped : m.dropped step.1 = r.dropped step.1 := if_congr hOverrun h.pending rfl
    show m.dropped step.1 + _ = r.dropped step.1 + _
    rw [hDropped, ih (h.use step.1 step.2)]

/-- After any uses of a meter at any instants, the events that were marked are those of the intervals
that were folded, those that are pending and those that were lost, all in 64 bits. -/
theorem events_accounted (start : Instant) (uses : List (Instant × Use)) :
    (recorded start uses).sum + ((new start : Meter A).used uses).pending +
      (new start : Meter A).lost uses = marked uses := by
  have hNew : Accounted (new start) 0 := rfl
  have hUsed := hNew.used uses
  have hRecorded : Recorded (new start : Meter A) (new start) := recorded_new start
  unfold Accounted at hUsed
  rw [UInt64.zero_add, count_used] at hUsed
  rw [(hRecorded.used uses).pending, hRecorded.lost uses]
  exact hUsed.trans (UInt64.zero_add _)

/-! ## When events are lost -/

/-- A meter whose tick overruns stays in the interval where it was. So the tick of the next use
overruns as well, unless another interval has ended. -/
theorem overrun_use_iff (h : m.Overrun now) (u : Use) (later : Instant) :
    (m.use now u).Overrun later ↔ m.Overrun later := by
  have hLastTick : (m.use now u).lastTick = m.lastTick := by
    have hTick : (m.tick now).lastTick = m.lastTick := by
      rw [tick_eq, h.2]
      rfl
    cases u <;> exact hTick
  rw [Overrun, Overrun, ticks, ticks, hLastTick]

/-- As long as fewer than 2³² intervals end between two uses, no event is lost. -/
theorem lost_of_soon {start last : Instant} {counts : Nat → UInt64} {uses : List (Instant × Use)}
    (h : Kept m start counts (interval start last))
    (hSoon : List.IsChain (Soon start) (last :: uses.map Prod.fst)) : m.lost uses = 0 := by
  -- by induction on the uses, from any meter in the interval of its last use
  induction uses generalizing m counts last with
  | nil => rfl
  | cons step rest ih =>
    obtain ⟨now, u⟩ := step
    obtain ⟨⟨hLater, hNow⟩, hRest⟩ := List.isChain_cons_cons.mp hSoon
    have hFits : interval start now - interval start last < tickLimit :=
      Nat.sub_lt_left_of_lt_add (interval_mono start hLater) hNow
    have hKept : ¬ m.Overrun now := by
      rintro ⟨hOld, hTicks⟩
      have hSome := Nat.div_pos hOld tickInterval_pos
      rw [h.lastTick, since_div] at hSome
      rw [ticks, h.lastTick, since_div, Nat.mod_eq_of_lt hFits] at hTicks
      omega
    rw [lost, dropped, if_neg hKept, UInt64.zero_add]
    exact ih (h.use (interval_mono start hLater) hNow u) hRest

/-- As long as fewer than 2³² intervals end between two uses, the events that were marked are those
that were folded and those that are pending. -/
theorem events_kept_of_soon (start : Instant) (uses : List (Instant × Use))
    (hSoon : List.IsChain (Soon start) (start :: uses.map Prod.fst)) :
    (recorded start uses).sum + ((new start : Meter A).used uses).pending = marked uses := by
  have hNew : Kept (new start : Meter A) start (fun _ => 0) (interval start start) := by
    rw [interval_self]
    exact kept_new start
  rw [← events_accounted (A := A) start uses, lost_of_soon hNew hSoon, UInt64.add_zero]

/-- After 2³² idle intervals, what is marked is lost as soon as the rates are read. -/
example :
    (new 0 : Meter (List UInt64)).lost
        [(21474836480000000000, .mark 60), (21474836480000000000, .read)] = 60 ∧
      recorded 0 [(21474836480000000000, .mark 60), (21474836480000000000, .read)] = [] := by
  decide

end Folding

end Meter

end Metering
