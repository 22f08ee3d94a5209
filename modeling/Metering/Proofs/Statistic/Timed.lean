import Metering.Proofs.Statistic.Latest
import Metering.Proofs.Statistic.Tally

/-!
# Metering — the two parts of a timer

A timer tells each event to two statistics of their own, a meter and a histogram, and each of them
does its work only when it is used. They never drift apart: whatever is recorded, shown or read in
between, both have counted the same events, and what the histogram holds are the last durations that
were recorded, in their order. A duration is kept in nanoseconds, and one that is too long counts as
the longest; so no value is negative, and a longer duration is never kept as a smaller value.

* `toInt_nanosOf`, `nanosOf_mono` — a duration as a recorded value;
* `InStep` — the invariant of a timer: both counts, and what is held (`InStep.use`);
* `parts_in_step_run` — a timer after any uses.
-/

namespace Metering

/-! ## Durations as values -/

/-- A duration is recorded in nanoseconds, up to the largest value. -/
theorem toInt_nanosOf (d : Duration) : (nanosOf d).toInt = min (d : Int) Int64.maxValue.toInt := by
  have hFits : min d (UInt64.size / 2 - 1) < 2 ^ 63 :=
    Nat.lt_of_le_of_lt (Nat.min_le_right _ _) (by decide)
  have hLargest : Int64.maxValue.toInt = ((UInt64.size / 2 - 1 : Nat) : Int) := by decide
  rw [nanosOf, Int64.toInt_ofNat_of_lt hFits, hLargest]
  omega

theorem nanosOf_nonneg (d : Duration) : 0 ≤ nanosOf d := by
  have hLargest : (0 : Int64).toInt ≤ Int64.maxValue.toInt := by decide
  rw [Int64.toInt_zero] at hLargest
  rw [Int64.le_iff_toInt_le, toInt_nanosOf, Int64.toInt_zero]
  omega

theorem nanosOf_mono {d e : Duration} (h : d ≤ e) : nanosOf d ≤ nanosOf e := by
  have hLonger : (d : Int) ≤ e := Int.ofNat_le.mpr h
  rw [Int64.le_iff_toInt_le, toInt_nanosOf, toInt_nanosOf]
  omega

namespace Reservoir

/-- After a value was recorded, what is held are this value and values that were held before. -/
theorem kept_record_latest (r : Reservoir) (now : Instant) (value : Int64) :
    (r.record now value).kept <+: ⟨now, value⟩ :: r.kept :=
  kept_trimmed_latest now _ (r.pushed ⟨now, value⟩)

end Reservoir

namespace Timer

/-! ## Uses -/

/-- What one may do with a timer. -/
inductive Use where
  | update (d : Duration)
  | look
  | rates

/-- The timer after a use. To read the mean rate alone changes nothing, and to read one of the
averages changes what to read them all does. -/
def use (t : Timer (Averages Float)) (now : Instant) : Use → Timer (Averages Float)
  | .update d => t.update now d
  | .look => { t with histogram := (t.histogram.look now).1 }
  | .rates => { t with meter := (t.meter.rates now).1 }

/-- The timer after some uses. -/
def used (t : Timer (Averages Float)) (uses : List (Instant × Use)) : Timer (Averages Float) :=
  uses.foldl (fun t step => t.use step.1 step.2) t

/-- The durations that some uses record, in their order. -/
def durations : List (Instant × Use) → List Duration
  | [] => []
  | (_, .update d) :: rest => d :: durations rest
  | (_, .look) :: rest => durations rest
  | (_, .rates) :: rest => durations rest

/-! ## The invariant -/

/-- Both parts of a timer know of the same durations: they have counted them all, in 64 bits, and the
last of them are held, the latest first. -/
structure InStep (t : Timer (Averages Float)) (recorded : List Duration) : Prop where
  meter_count : t.meter.count = UInt64.ofNat recorded.length
  histogram_count : t.histogram.count = UInt64.ofNat recorded.length
  held : t.histogram.reservoir.kept.map Recorded.value <+: (recorded.map nanosOf).reverse

variable {t : Timer (Averages Float)} {recorded : List Duration}

theorem inStep_new (start : Instant) (window : Window) : InStep (new start window) [] where
  meter_count := rfl
  histogram_count := rfl
  held := List.prefix_rfl

theorem InStep.update (h : InStep t recorded) (now : Instant) (d : Duration) :
    InStep (t.update now d) (recorded ++ [d]) where
  meter_count := by
    show (t.meter.mark now 1).count = _
    rw [Meter.count_mark, h.meter_count, List.length_append, UInt64.ofNat_add]
    rfl
  histogram_count := by
    show t.histogram.count + 1 = _
    rw [h.histogram_count, List.length_append, UInt64.ofNat_add]
    rfl
  held := by
    rw [List.map_append, List.map_singleton, List.reverse_append, List.reverse_singleton,
      List.singleton_append]
    have hRecord : (t.update now d).histogram.reservoir.kept.map Recorded.value <+:
        nanosOf d :: t.histogram.reservoir.kept.map Recorded.value :=
      (Reservoir.kept_record_latest t.histogram.reservoir now (nanosOf d)).map Recorded.value
    exact hRecord.trans ((List.prefix_cons_inj _).mpr h.held)

/-- A snapshot may let durations go, from the earliest on. -/
theorem InStep.look (h : InStep t recorded) (now : Instant) :
    InStep { t with histogram := (t.histogram.look now).1 } recorded where
  meter_count := h.meter_count
  histogram_count := h.histogram_count
  held := ((Reservoir.kept_trimmed_latest now _ t.histogram.reservoir).map Recorded.value).trans
    h.held

/-- To read the rates folds intervals and counts nothing. -/
theorem InStep.rates (h : InStep t recorded) (now : Instant) :
    InStep { t with meter := (t.meter.rates now).1 } recorded where
  meter_count := (Meter.count_tick t.meter now).trans h.meter_count
  histogram_count := h.histogram_count
  held := h.held

/-- Any uses at any instants keep the parts of a timer in step. -/
theorem InStep.used (h : InStep t recorded) (uses : List (Instant × Use)) :
    InStep (t.used uses) (recorded ++ durations uses) := by
  -- by induction on the uses, from any timer in step
  induction uses generalizing t recorded with
  | nil =>
    rw [durations, List.append_nil]
    exact h
  | cons step rest ih =>
    obtain ⟨now, u⟩ := step
    cases u with
    | update d =>
      rw [durations, List.append_cons]
      exact ih (h.update now d)
    | look => exact ih (h.look now)
    | rates => exact ih (h.rates now)

/-! ## What is held and shown -/

/-- What is held is a duration that was recorded, and what is shown is held. -/
theorem InStep.mem_held (h : InStep t recorded) {v : Int64}
    (hMem : v ∈ t.histogram.reservoir.kept.map Recorded.value) :
    ∃ d ∈ recorded, v = nanosOf d := by
  obtain ⟨d, hd, hv⟩ := List.mem_map.mp (List.mem_reverse.mp (h.held.subset hMem))
  exact ⟨d, hd, hv.symm⟩

theorem mem_held_of_mem_snapshot {now : Instant} {v : Int64}
    (hMem : v ∈ (t.snapshot now).values) :
    v ∈ t.histogram.reservoir.kept.map Recorded.value :=
  (Reservoir.retained_sublist.map Recorded.value).subset
    ((Snapshot.perm_ofList _).mem_iff.mp hMem)

/-- After any uses at any instants, whatever values the reservoir is for, a timer and both its parts
have counted the durations that were recorded, in 64 bits. The values that are held are the last of
these durations in their order, each in nanoseconds and up to the largest value, and a snapshot shows
none but these. No value is negative, and none of a longer duration is smaller. -/
theorem parts_in_step_run (start : Instant) (window : Window) (uses : List (Instant × Use)) :
    ((new start window).used uses).count = UInt64.ofNat (durations uses).length ∧
    ((new start window).used uses).meter.count = UInt64.ofNat (durations uses).length ∧
    ((new start window).used uses).histogram.count = UInt64.ofNat (durations uses).length ∧
    (((new start window).used uses).histogram.reservoir.kept.map Recorded.value).reverse <:+
      (durations uses).map nanosOf ∧
    (∀ now, ∀ v ∈ (((new start window).used uses).snapshot now).values,
      ∃ d ∈ durations uses, v = nanosOf d) ∧
    ∀ d : Duration, (nanosOf d).toInt = min (d : Int) Int64.maxValue.toInt ∧ 0 ≤ nanosOf d ∧
      ∀ e, d ≤ e → nanosOf d ≤ nanosOf e := by
  have hStep := (inStep_new start window).used uses
  rw [List.nil_append] at hStep
  refine ⟨hStep.histogram_count, hStep.meter_count, hStep.histogram_count, ?_, ?_, ?_⟩
  · rw [← List.reverse_prefix, List.reverse_reverse]
    exact hStep.held
  · intro now v hMem
    exact hStep.mem_held (mem_held_of_mem_snapshot hMem)
  · intro d
    exact ⟨toInt_nanosOf d, nanosOf_nonneg d, fun e h => nanosOf_mono h⟩

end Timer

end Metering
