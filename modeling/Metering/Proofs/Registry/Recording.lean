import Metering.Proofs.Registry.Sound

/-!
# Metering — what an update reaches

An update is told to the instruments of a handle one after another. It changes statistics and
nothing else, and of these the ones of the instruments that count, each once.

* `update_eq` — an update changes statistics only;
* `tally?_record_self`, `tally?_record_of_ne` — what one instrument makes of an update;
* `tally?_update` — each instrument that is reached and counts has its tally moved once.
-/

namespace Metering.Registry

variable {r : Registry} {id other : InstrumentId} {i j : Instrument}

/-! ## Nothing but statistics -/

theorem update_eq_foldl (r : Registry) (now : Instant) (h : Handle) (u : Update) :
    r.update now h u = h.targets.foldl (record now u) r := by
  rw [update, fanOut_map_some]

theorem record_eq (now : Instant) (u : Update) (r : Registry) (id : InstrumentId) :
    r.record now u id = { r with statistics := (r.record now u id).statistics } := by
  unfold record
  split
  · split
    · split <;> rfl
    · rfl
  · rfl

theorem foldl_record_eq (now : Instant) (u : Update) (ids : List InstrumentId) (r : Registry) :
    ids.foldl (record now u) r =
      { r with statistics := (ids.foldl (record now u) r).statistics } := by
  induction ids generalizing r with
  | nil => rfl
  | cons id rest ih =>
    rw [List.foldl_cons, ih, record_eq]

theorem update_eq (r : Registry) (now : Instant) (h : Handle) (u : Update) :
    r.update now h u = { r with statistics := (r.update now h u).statistics } := by
  rw [update_eq_foldl]
  exact foldl_record_eq now u h.targets r

/-! ## One instrument -/

/-- An instrument that counts has its tally moved. -/
theorem tally?_record_self (hAt : r.instrument? id = some i) (hOn : i.enabled = true)
    (now : Instant) (u : Update) :
    (r.record now u id).statistics.tally? i.statistic =
      (r.statistics.tally? i.statistic).map u.moved := by
  simp only [record, hAt, hOn, if_true]
  cases hStat : r.statistics.get? i.statistic with
  | none => rw [Statistics.tally?, hStat]; rfl
  | some s =>
    rw [Statistics.tally?_set_self hStat, Statistics.tally?_eq_some hStat, Option.map_some,
      Statistic.tally_updated]

/-- An instrument that does not count ignores what it is told. -/
theorem record_of_off (hAt : r.instrument? id = some i) (hOff : i.enabled = false)
    (now : Instant) (u : Update) : r.record now u id = r := by
  simp only [record, hAt, hOff, Bool.false_eq_true, if_false]

/-- What is told to one instrument does not show with another. -/
theorem tally?_record_of_ne (hSound : Sound r) (hAt : r.instrument? other = some j)
    (hne : id ≠ other) (now : Instant) (u : Update) :
    (r.record now u id).statistics.tally? j.statistic = r.statistics.tally? j.statistic := by
  unfold record
  split
  · next i hi =>
    split
    · split
      · refine Statistics.tally?_set_of_ne (fun hPlace => ?_) _ _
        exact hne (hSound.apart hi hAt hPlace.symm)
      · rfl
    · rfl
  · rfl

theorem Sound.record (h : Sound r) (now : Instant) (u : Update) (id : InstrumentId) :
    Sound (r.record now u id) := by
  rw [record_eq]
  refine h.of_statistics fun {place kind n} hTally => ?_
  unfold Registry.record
  split
  · next i _ =>
    split
    · split
      · next s hStat =>
        by_cases hPlace : place = i.statistic
        · rw [hPlace, Statistics.tally?_eq_some hStat] at hTally
          refine ⟨(s.updated now u).count, ?_⟩
          rw [hPlace, Statistics.tally?_set_self hStat, Statistic.tally, Statistic.kind_updated,
            ← (Prod.mk.inj (Option.some.inj hTally)).1]
        · exact ⟨n, by rw [Statistics.tally?_set_of_ne hPlace, hTally]⟩
      · exact ⟨n, hTally⟩
    · exact ⟨n, hTally⟩
  · exact ⟨n, hTally⟩

/-! ## All instruments of a handle -/

theorem Sound.foldl_record (ids : List InstrumentId) (h : Sound r) (now : Instant)
    (u : Update) : Sound (ids.foldl (Registry.record now u) r) := by
  induction ids generalizing r with
  | nil => exact h
  | cons id rest ih => exact ih (h.record now u id)

theorem Sound.update (h : Sound r) (now : Instant) (handle : Handle) (u : Update) :
    Sound (r.update now handle u) := by
  rw [update_eq_foldl]
  exact h.foldl_record handle.targets now u

theorem Grouped.update (h : Grouped r) (now : Instant) (handle : Handle) (u : Update) :
    Grouped (r.update now handle u) := by
  rw [update_eq]
  exact fun _ _ hGroup => (h hGroup).imp fun _ _ _ hServes => hServes

theorem instrument?_record (now : Instant) (u : Update) (r : Registry)
    (id other : InstrumentId) :
    (r.record now u id).instrument? other = r.instrument? other := by
  rw [record_eq]
  rfl

theorem tally?_foldl_record {ids : List InstrumentId} (hApart : ids.Nodup) (hSound : Sound r)
    (hAt : r.instrument? id = some i) (now : Instant) (u : Update) :
    (ids.foldl (record now u) r).statistics.tally? i.statistic =
      if id ∈ ids ∧ i.enabled = true then (r.statistics.tally? i.statistic).map u.moved
      else r.statistics.tally? i.statistic := by
  -- by induction on the instruments that are told, of which each is told once
  induction ids generalizing r with
  | nil => rw [List.foldl_nil, if_neg (fun h => List.not_mem_nil h.1)]
  | cons first rest ih =>
    obtain ⟨hNotIn, hRestApart⟩ := List.nodup_cons.mp hApart
    have hStill : (r.record now u first).instrument? id = some i := by
      rw [instrument?_record, hAt]
    rw [List.foldl_cons, ih hRestApart (hSound.record now u first) hStill]
    by_cases hFirst : first = id
    · -- the instrument is reached now and not again
      rw [hFirst] at hNotIn ⊢
      rw [if_neg (fun h => hNotIn h.1)]
      by_cases hOn : i.enabled = true
      · rw [tally?_record_self hAt hOn, if_pos ⟨List.mem_cons_self, hOn⟩]
      · rw [record_of_off hAt (Bool.eq_false_iff.mpr hOn), if_neg (fun h => hOn h.2)]
    · rw [tally?_record_of_ne hSound hAt hFirst]
      have hMem : id ∈ first :: rest ↔ id ∈ rest := by
        rw [List.mem_cons]
        exact ⟨fun h => h.resolve_left (Ne.symm hFirst), .inr⟩
      simp only [hMem]

/-- Of all instruments exactly those that a handle reaches and that count have their tallies
moved by an update, each once. -/
theorem tally?_update {handle : Handle} (hApart : handle.targets.Nodup) (hSound : Sound r)
    (hAt : r.instrument? id = some i) (now : Instant) (u : Update) :
    (r.update now handle u).statistics.tally? i.statistic =
      if id ∈ handle.targets ∧ i.enabled = true then
        (r.statistics.tally? i.statistic).map u.moved
      else r.statistics.tally? i.statistic := by
  rw [update_eq_foldl]
  exact tally?_foldl_record hApart hSound hAt now u

end Metering.Registry
