import Mathlib.Data.List.DropRight
import Metering.Proofs.Statistic.Retained

/-!
# Metering — the last values

A reservoir for the last values goes by their number alone: it never asks when a value was recorded.
So what it holds does not depend on any clock, and a snapshot lets no value go. After any uses it
holds the last values that were recorded, in their order, and no more of them than its size; a size
of zero counts as one.

* `kept_trimmed_latest` — in any window values leave from the earliest on;
* `kept_trimmed_values` — a window of the last values lets go what is too much;
* `HoldsLast` — the invariant of a reservoir for the last values (`HoldsLast.record`,
  `HoldsLast.look`, `holdsLast_used`);
* `last_values_exact` — what a histogram over such a reservoir holds, shows and counts.
-/

namespace Metering

namespace Reservoir

variable {r : Reservoir} {size : Nat} {now : Instant} {history : List Recorded}

/-! ## What leaves a window -/

/-- Values leave from the earliest on, so that what is left stands in front. -/
theorem kept_trimmed_latest (now : Instant) (fuel : Nat) (r : Reservoir) :
    (trimmed now fuel r).kept <+: r.kept := by
  induction fuel generalizing r with
  | zero => exact List.prefix_rfl
  | succ fuel ih =>
    have hDropped : r.turned.dropEarliest.kept <+: r.kept := by
      rw [kept_dropEarliest, kept_turned]
      exact List.dropLast_prefix r.kept
    rw [trimmed]
    split
    · exact (ih r.turned.dropEarliest).trans hDropped
    · exact kept_turned r ▸ List.prefix_rfl

theorem isOverfull_values (hWindow : r.window = .values size) :
    r.isOverfull now = true ↔ size < r.size := by
  unfold isOverfull
  rw [hWindow]
  exact decide_eq_true_iff

/-- A window of the last values lets go exactly as many as are too many. -/
theorem size_trimmed (fuel : Nat) (hWindow : r.window = .values size) (hFuel : r.size ≤ fuel) :
    (trimmed now fuel r).size = min size r.size := by
  -- by induction on the bound: each turn lets one value go, and the bound is enough for all of them
  induction fuel generalizing r with
  | zero =>
    rw [trimmed]
    omega
  | succ fuel ih =>
    have hTurned : r.turned.window = .values size := (turned_window r).trans hWindow
    have hDropped : r.turned.dropEarliest.window = .values size :=
      (dropEarliest_window _).trans hTurned
    have hOver_iff : r.turned.isOverfull now = true ↔ size < r.size := by
      rw [isOverfull_values hTurned, turned_size]
    have hLess : r.turned.dropEarliest.size = r.size - 1 := by rw [dropEarliest_size, turned_size]
    rw [trimmed]
    split
    · next hOver =>
      have hMany : size < r.size := hOver_iff.mp hOver
      rw [ih hDropped (by omega), hLess]
      omega
    · next hFew =>
      have hFits : ¬ size < r.size := mt hOver_iff.mpr hFew
      rw [turned_size]
      omega

/-- What is left are the last values, whenever they were recorded. -/
theorem kept_trimmed_values (hWindow : r.window = .values size) (hCounted : r.Counted) (fuel : Nat)
    (hFuel : r.size ≤ fuel) : (trimmed now fuel r).kept = r.kept.take size := by
  have hLength : (trimmed now fuel r).kept.length = min size r.kept.length := by
    rw [← hCounted.trimmed fuel, size_trimmed fuel hWindow hFuel, hCounted]
  rw [List.prefix_iff_eq_take.mp (kept_trimmed_latest now fuel r), hLength,
    List.take_eq_take_iff, Nat.min_assoc, Nat.min_self]

/-! ## Histories -/

/-- A reservoir for the last values holds those of a history, in which the latest value stands
first. -/
structure HoldsLast (r : Reservoir) (size : Nat) (history : List Recorded) : Prop where
  window_eq : r.window = .values size
  counted : r.Counted
  kept_eq : r.kept = history.take size

theorem holdsLast_empty (size : Nat) : HoldsLast (.empty (.values size)) size [] where
  window_eq := rfl
  counted := rfl
  kept_eq := List.take_nil.symm

/-- A snapshot lets no value go. -/
theorem HoldsLast.kept_look (h : HoldsLast r size history) (now : Instant) :
    (r.look now).1.kept = r.kept := by
  have hLook : (r.look now).1.kept = r.kept.take size :=
    kept_trimmed_values h.window_eq h.counted r.size (Nat.le_refl _)
  rw [hLook, h.kept_eq, List.take_take, Nat.min_self]

/-- A snapshot is taken. -/
theorem HoldsLast.look (h : HoldsLast r size history) (now : Instant) :
    HoldsLast (r.look now).1 size history where
  window_eq := (trimmed_window _ _).trans h.window_eq
  counted := h.counted.trimmed _
  kept_eq := (h.kept_look now).trans h.kept_eq

/-- A value is recorded. -/
theorem HoldsLast.record (h : HoldsLast r size history) (now : Instant) (value : Int64) :
    HoldsLast (r.record now value) size (⟨now, value⟩ :: history) where
  window_eq := (trimmed_window _ _).trans h.window_eq
  counted := (h.counted.pushed ⟨now, value⟩).trimmed _
  kept_eq := by
    have hLeft : (r.record now value).kept = (⟨now, value⟩ :: r.kept).take size :=
      kept_trimmed_values (r := r.pushed ⟨now, value⟩) h.window_eq (h.counted.pushed _) _
        (Nat.le_refl _)
    -- what had left before would leave now
    have hSame : retained (.values size) now (⟨now, value⟩ :: retained (.values size) now history) =
        retained (.values size) now (⟨now, value⟩ :: history) :=
      retained_cons_retained (Nat.le_refl now)
    rw [hLeft, h.kept_eq]
    exact hSame

/-- A reservoir for the last values shows those that it holds. -/
theorem HoldsLast.snapshot_eq (h : HoldsLast r size history) (now : Instant) :
    r.snapshot now = .ofList ((history.take size).map Recorded.value) := by
  have hAll : retained r.window now r.kept = history.take size := by
    rw [h.window_eq, h.kept_eq]
    exact List.take_take.trans (by rw [Nat.min_self])
  rw [snapshot, hAll]

theorem HoldsLast.shown (h : HoldsLast r size history) (now : Instant) :
    (r.look now).2 = .ofList ((history.take size).map Recorded.value) := by
  rw [← (h.look now).kept_eq]
  rfl

end Reservoir

/-! ## Histograms -/

namespace Histogram

open Reservoir

variable {h : Histogram} {size : Nat} {history : List Recorded}

/-- The values that some uses record, in their order. -/
def recordedValues (uses : List (Instant × Use)) : List Int64 :=
  (recorded uses).map Recorded.value

/-- The last values that some uses record, at most so many. -/
def lastRecorded (size : Nat) (uses : List (Instant × Use)) : List Int64 :=
  (recordedValues uses).rtake size

/-- Any uses at any instants keep a reservoir to its size. -/
theorem holdsLast_used (hHolds : HoldsLast h.reservoir size history)
    (uses : List (Instant × Use)) :
    HoldsLast (h.used uses).reservoir size ((recorded uses).reverse ++ history) := by
  -- by induction on the uses, from any histogram with any history
  induction uses generalizing h history with
  | nil => exact hHolds
  | cons step rest ih =>
    obtain ⟨now, u⟩ := step
    cases u with
    | update value =>
      rw [recorded, List.reverse_cons, List.append_assoc]
      exact ih (h := h.update now value) (hHolds.record now value)
    | look => exact ih (h := (h.look now).1) (hHolds.look now)

theorem holdsLast_new (n : Nat) (uses : List (Instant × Use)) :
    HoldsLast ((new (.last n)).used uses).reservoir (max n 1) (recorded uses).reverse := by
  have hHolds := holdsLast_used (h := new (.last n)) (holdsLast_empty (max n 1)) uses
  rw [List.append_nil] at hHolds
  exact hHolds

/-- The latest of some values, the latest first, are the last ones read backwards. -/
theorem map_take_reverse_recorded (size : Nat) (uses : List (Instant × Use)) :
    ((recorded uses).reverse.take size).map Recorded.value = (lastRecorded size uses).reverse := by
  rw [lastRecorded, List.rtake_eq_reverse_take_reverse, List.reverse_reverse, recordedValues,
    ← List.map_reverse, List.map_take]

theorem length_lastRecorded (size : Nat) (uses : List (Instant × Use)) :
    (lastRecorded size uses).length = min (recordedValues uses).length size := by
  rw [lastRecorded, List.rtake, List.length_drop]
  omega

/-- After any uses at any instants, a histogram over a reservoir for the last `n` values, or for the
last one if `n` is zero, shows exactly the last values that were recorded, all of them if there are
no more, each as often as it was recorded, in ascending order. It holds them in the order of their
recording, the latest first, and never more than there is room for; a snapshot lets none of them go.
The count is that of all values ever recorded, in 64 bits. -/
theorem last_values_exact (n : Nat) (uses : List (Instant × Use)) (now : Instant) :
    (((new (.last n)).used uses).look now).2.values.Perm (lastRecorded (max n 1) uses) ∧
    (((new (.last n)).used uses).look now).2.values.Pairwise (· ≤ ·) ∧
    (((new (.last n)).used uses).look now).2.size = min (recordedValues uses).length (max n 1) ∧
    ((new (.last n)).used uses).snapshot now = (((new (.last n)).used uses).look now).2 ∧
    ((new (.last n)).used uses).reservoir.kept.map Recorded.value =
      (lastRecorded (max n 1) uses).reverse ∧
    ((new (.last n)).used uses).reservoir.kept.length ≤ max n 1 ∧
    (((new (.last n)).used uses).look now).1.reservoir.kept =
      ((new (.last n)).used uses).reservoir.kept ∧
    ((new (.last n)).used uses).count = UInt64.ofNat (recordedValues uses).length := by
  have hHolds := holdsLast_new n uses
  have hLast := map_take_reverse_recorded (max n 1) uses
  have hShown : (((new (.last n)).used uses).look now).2 =
      .ofList (lastRecorded (max n 1) uses).reverse := by
    rw [← hLast]
    exact hHolds.shown now
  have hPerm : (((new (.last n)).used uses).look now).2.values.Perm
      (lastRecorded (max n 1) uses) := by
    rw [hShown]
    exact (Snapshot.perm_ofList _).trans (List.reverse_perm _)
  refine ⟨hPerm, (((new (.last n)).used uses).look now).2.ascending, ?_, ?_, ?_, ?_,
    hHolds.kept_look now, ?_⟩
  · rw [Snapshot.size, hPerm.length_eq, length_lastRecorded]
  · exact (hHolds.snapshot_eq now).trans (hHolds.shown now).symm
  · rw [hHolds.kept_eq, hLast]
  · rw [hHolds.kept_eq]
    exact List.length_take_le _ _
  · rw [count_used, recordedValues, List.length_map]
    exact UInt64.zero_add _

end Histogram

end Metering
