import Metering.Proofs.LevelMap
import Metering.Proofs.Registry.Coherence

/-!
# Metering — what a change of levels reaches

A level that is configured for a name applies to the names below, too, as far as no nearer one does.
So one request may switch any number of metrics, and it does so by a refresh of them all. Which ones
it switches can be said beforehand: the names that it reaches had one and the same level, and from
then on have the new one. All other metrics are as if nothing had been asked for.

* `Relevelled` — the same metrics, brought up to date with other levels;
* `relevelled_setLevel`, `relevelled_setRoot` — this is all that the two requests do;
* `LevelShift` — the names that a change reaches, their level before and afterwards, and what stays;
* `levelShift_setLevel`, `levelShift_setRoot` — the level of a name reaches those that inherit it,
  the root level those that no configured name covers;
* `level_shift_run` — so it is after every run.
-/

namespace Metering.Registry

variable {r r' : Registry} {name : String} {level : Level} {reached : String → Prop}
  {old new : Level} {change : Option Change} {id : InstrumentId}

/-! ## Metrics brought up to date -/

/-- The later registry has the metrics of the earlier one with flags by its own levels, and its
switch is where it was. Metrics that were removed have been left alone. -/
structure Relevelled (r r' : Registry) : Prop where
  switch : r'.enabled = r.enabled
  coherent : Coherent r'
  records : ∀ name, r'.record? name =
    (r.record? name).map fun i => { i with enabled := r'.admits name i.level }
  removed : ∀ id, (∀ name, r.records.get? name ≠ some id) → r'.instrument? id = r.instrument? id

theorem Coherent.record?_eq (h : Coherent r) (name : String) :
    r.record? name = (r.record? name).map fun i => { i with enabled := r.admits name i.level } := by
  cases hRecord : r.record? name with
  | none => rfl
  | some i =>
    obtain ⟨id, hId, hAt⟩ := Option.bind_eq_some_iff.mp hRecord
    rw [Option.map_some, ← h hId hAt]

theorem record?_refreshed (hSound : Sound r) (name : String) :
    r.refreshed.record? name =
      (r.record? name).map fun i => { i with enabled := r.admits name i.level } := by
  have hRecords : r.refreshed.records = r.records := by rw [refreshed_eq]
  rw [record?, record?, hRecords]
  cases hId : r.records.get? name with
  | none => rfl
  | some id =>
    obtain ⟨i, hAt, -⟩ := hSound.recorded hId
    rw [Option.bind_some, Option.bind_some, hAt, Option.map_some]
    exact instrument?_refreshed_of_record (fun _ hOther => hSound.name_unique hId hOther) hId hAt

theorem instrument?_refreshed_of_removed (h : ∀ name, r.records.get? name ≠ some id) :
    r.refreshed.instrument? id = r.instrument? id := by
  refine instrument?_foldl_refreshOne_of_notMem ?_ r
  rintro ⟨name, other⟩ hMem rfl
  exact h name (NameMap.get?_eq_some_iff.mpr hMem)

theorem relevelled_self (h : Coherent r) : Relevelled r r :=
  ⟨rfl, h, h.record?_eq, fun _ _ => rfl⟩

theorem relevelled_configured (hSound : Sound r) (levels : LevelMap) (trail : List Notice) :
    Relevelled r ({ r with levels := levels, trail := trail } : Registry).refreshed := by
  have hSound' : Sound { r with levels := levels, trail := trail } :=
    hSound.configured r.enabled levels trail
  refine ⟨?_, coherent_refreshed hSound', ?_, ?_⟩
  · rw [refreshed_eq]
  · intro name
    rw [record?_refreshed hSound', refreshed_eq]
    rfl
  · intro id hRemoved
    exact instrument?_refreshed_of_removed hRemoved

/-- To configure the level of a registered metric brings all metrics up to date with it; if it has
this level already, they are. -/
theorem relevelled_setLevel (hSound : Sound r) (hCoherent : Coherent r)
    (h : r.setLevel name level = (r', .ok change)) :
    Relevelled r r' ∧
      ∀ other, r'.levels.effective other = (r.levels.set name level).effective other := by
  simp only [setLevel] at h
  split at h
  · split at h
    · next hSame =>
      cases h
      refine ⟨relevelled_self hCoherent, fun other => ?_⟩
      -- to set a level to what it is changes no look-up
      refine LevelMap.effective_congr rfl fun key own => and_congr_right fun _ => ?_
      by_cases hKey : key = name
      · rw [hKey, hSame, LevelMap.level?_set_self]
      · rw [LevelMap.level?_set_of_ne _ hKey]
    · cases h
      refine ⟨relevelled_configured hSound _ _, fun other => ?_⟩
      rw [refreshed_eq]
      rfl
  · cases h

theorem relevelled_setRoot (hSound : Sound r) (hCoherent : Coherent r) (level : Level) :
    Relevelled r (r.setRoot level).1 ∧
      (r.setRoot level).1.levels = r.levels.setRoot level := by
  simp only [setRoot]
  split
  · next hSame =>
    refine ⟨relevelled_self hCoherent, ?_⟩
    rw [← hSame]
    rfl
  · refine ⟨relevelled_configured hSound _ _, ?_⟩
    rw [refreshed_eq]
    rfl

/-! ## Which metrics count -/

/-- Where the registered metrics are up to date, it is the level of a metric that decides. -/
theorem Coherent.counts_eq (h : Coherent r) (name : String) :
    r.counts name =
      ((r.record? name).map Instrument.level).elim false fun own => r.admits name own := by
  rw [counts_eq_getD, h.record?_eq name]
  cases r.record? name <;> rfl

/-- A metric that counts goes on to do so where its name has a level that is not lower. -/
theorem Coherent.counts_mono {low high : Registry} (hLow : Coherent low) (hHigh : Coherent high)
    (hSwitch : high.enabled = low.enabled)
    (hMetric : (high.record? name).map Instrument.level = (low.record? name).map Instrument.level)
    (hLevel : low.levels.effective name ≤ high.levels.effective name)
    (h : low.counts name = true) : high.counts name = true := by
  rw [hLow.counts_eq] at h
  rw [hHigh.counts_eq, hMetric]
  cases hOwn : (low.record? name).map Instrument.level with
  | none => rw [hOwn] at h; cases h
  | some own =>
    rw [hOwn] at h
    obtain ⟨hOn, hAdmits⟩ := Bool.and_eq_true_iff.mp h
    exact Bool.and_eq_true_iff.mpr ⟨hSwitch.trans hOn, Level.admits_mono hLevel hAdmits⟩

theorem Relevelled.map_level (h : Relevelled r r') (name : String) :
    (r'.record? name).map Instrument.level = (r.record? name).map Instrument.level := by
  rw [h.records, Option.map_map]
  rfl

/-! ## The reach of a change -/

/-- A change of levels: the names that it reaches had one level and have another one from then on,
which their metrics are switched by. All other names keep their level, and metrics whose names
keep their level are as they were, as are those that were removed. A change upwards switches no
metric off, and one downwards switches none on. -/
structure LevelShift (r r' : Registry) (reached : String → Prop) (old new : Level) : Prop where
  was : ∀ name, reached name → r.levels.effective name = old
  becomes : ∀ name, reached name → r'.levels.effective name = new
  switched : ∀ name, reached name → r'.record? name =
    (r.record? name).map fun i => { i with enabled := r.enabled && new.admits i.level }
  stays : ∀ name, ¬ reached name → r'.levels.effective name = r.levels.effective name
  kept : ∀ name, r'.levels.effective name = r.levels.effective name →
    r'.record? name = r.record? name
  removed : ∀ id, (∀ name, r.records.get? name ≠ some id) → r'.instrument? id = r.instrument? id
  raised : old ≤ new → ∀ name, r.counts name = true → r'.counts name = true
  lowered : new ≤ old → ∀ name, r'.counts name = true → r.counts name = true

/-- Once it is known what a change makes of the levels, its effect on the metrics is, too. -/
theorem Relevelled.levelShift (h : Relevelled r r') (hCoherent : Coherent r)
    (hWas : ∀ name, reached name → r.levels.effective name = old)
    (hBecomes : ∀ name, reached name → r'.levels.effective name = new)
    (hStays : ∀ name, ¬ reached name → r'.levels.effective name = r.levels.effective name) :
    LevelShift r r' reached old new where
  was := hWas
  becomes := hBecomes
  switched name hReached := by
    rw [h.records, ← h.switch, ← hBecomes name hReached]
    rfl
  stays := hStays
  kept name hSame := by
    rw [h.records, hCoherent.record?_eq name, Option.map_map]
    congr 1
    funext i
    simp only [Function.comp_apply, admits, LevelMap.enables, hSame, h.switch]
  removed := h.removed
  raised hUp name hCounts := by
    refine Coherent.counts_mono hCoherent h.coherent h.switch (h.map_level name) ?_ hCounts
    by_cases hReached : reached name
    · rw [hWas name hReached, hBecomes name hReached]
      exact hUp
    · rw [hStays name hReached]
      exact Nat.le_refl _
  lowered hDown name hCounts := by
    refine Coherent.counts_mono h.coherent hCoherent h.switch.symm (h.map_level name).symm ?_
      hCounts
    by_cases hReached : reached name
    · rw [hWas name hReached, hBecomes name hReached]
      exact hDown
    · rw [hStays name hReached]
      exact Nat.le_refl _

/-- A level that is configured for a name reaches the name and those below it without a nearer
level, all of which had the level of the name. -/
theorem levelShift_setLevel (hSound : Sound r) (hCoherent : Coherent r)
    (h : r.setLevel name level = (r', .ok change)) :
    LevelShift r r' (r.levels.Inherits name) (r.levels.effective name) level := by
  obtain ⟨hRelevelled, hLevels⟩ := relevelled_setLevel hSound hCoherent h
  refine hRelevelled.levelShift hCoherent ?_ ?_ ?_
  · intro other hInherits
    exact hInherits.effective_eq
  · intro other hInherits
    rw [hLevels, LevelMap.effective_set_of_inherits hInherits]
  · intro other hApart
    rw [hLevels, LevelMap.effective_set_of_not_inherits hApart]

/-- A root level reaches the names that no configured name covers. -/
theorem levelShift_setRoot (hSound : Sound r) (hCoherent : Coherent r) (level : Level) :
    LevelShift r (r.setRoot level).1 r.levels.LeftToRoot r.levels.root level := by
  obtain ⟨hRelevelled, hLevels⟩ := relevelled_setRoot hSound hCoherent level
  refine hRelevelled.levelShift hCoherent ?_ ?_ ?_
  · intro other hLeft
    exact LevelMap.effective_of_leftToRoot hLeft
  · intro other hLeft
    rw [hLevels, LevelMap.effective_setRoot_of_leftToRoot hLeft]
  · intro other hCovered
    rw [hLevels, LevelMap.effective_setRoot_of_not_leftToRoot hCovered]

/-! ## All runs -/

/-- After every run, to configure the level of a registered metric reaches its name and the names
below that have no nearer level, which all had the level that applied to the metric; to configure
the root level reaches the names that no configured name covers. Nothing else changes: neither the
level of another name nor a metric whose name keeps its level, nor one that was removed. To raise a
level switches no metric off, and to lower it switches none on. -/
theorem level_shift_run (levels : LevelMap) (window : Window) (on : Bool)
    (steps : List (Instant × Request)) :
    let r := Usage.after levels window on steps
    (∀ name level r' change, r.setLevel name level = (r', .ok change) →
      LevelShift r r' (r.levels.Inherits name) (r.levels.effective name) level) ∧
    ∀ level, LevelShift r (r.setRoot level).1 r.levels.LeftToRoot r.levels.root level := by
  intro r
  have hSound : Sound r := (Usage.valid_run levels window on steps).sound
  have hCoherent : Coherent r := coherent_after levels window on steps
  constructor
  · intro name level r' change hServed
    exact levelShift_setLevel hSound hCoherent hServed
  · intro level
    exact levelShift_setRoot hSound hCoherent level

/-- Raised for a name, the level reaches a name below but none behind a nearer level, and no name
that begins with the same letters alone. Lowered to where it was, it takes back what it gave. -/
theorem level_shift_below :
    let r := Usage.after default (.values 1028) true
      [(0, .metric .counter "a.b" .debug []), (0, .metric .counter "a.b.c" .trace []),
        (0, .metric .counter "a.b.d" .debug []), (0, .metric .counter "a.bc" .debug []),
        (0, .setLevel "a.b.d" .info)]
    let raised := (r.setLevel "a.b" .trace).1
    LevelShift r raised (r.levels.Inherits "a.b") .info .trace ∧
      r.records.names.filter r.counts = [] ∧
      raised.records.names.filter raised.counts = ["a.b", "a.b.c"] ∧
      LevelShift raised (raised.setLevel "a.b" .info).1 (raised.levels.Inherits "a.b") .trace
        .info ∧
      LevelShift r (r.setRoot .debug).1 r.levels.LeftToRoot .info .debug := by
  intro r raised
  obtain ⟨hLevel, hRoot⟩ := level_shift_run default (.values 1028) true
    [(0, .metric .counter "a.b" .debug []), (0, .metric .counter "a.b.c" .trace []),
      (0, .metric .counter "a.b.d" .debug []), (0, .metric .counter "a.bc" .debug []),
      (0, .setLevel "a.b.d" .info)]
  have hRaised := (level_shift_run default (.values 1028) true
    [(0, .metric .counter "a.b" .debug []), (0, .metric .counter "a.b.c" .trace []),
      (0, .metric .counter "a.b.d" .debug []), (0, .metric .counter "a.bc" .debug []),
      (0, .setLevel "a.b.d" .info), (0, .setLevel "a.b" .trace)]).1
  refine ⟨?_, rfl, rfl, ?_, hRoot .debug⟩
  · exact hLevel "a.b" .trace raised (some (.metric "a.b" none .trace)) rfl
  · exact hRaised "a.b" .info _ (some (.metric "a.b" (some .trace) .info)) rfl

end Metering.Registry
