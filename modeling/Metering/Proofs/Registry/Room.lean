import Metering.Proofs.Registry.Refusal
import Metering.Settings

/-!
# Metering — requests for which there is no room

Room for the last values is set aside when a histogram or timer is made, and there may be none: then
the request breaks off. The values of the last time take their room as they come.

* `ReservoirSettings.fits_window_iff` — the settings for which there is room;
* `Available.of_not_conflicting`, `Servable.of_not_refusable` — a request with no reason against it
  is served if there is room for what it makes;
* `served_or_brokenOff`, `brokenOff_iff` — otherwise it breaks off;
* `requests_break_off_run` — so it is after every run, in terms of what is configured.
-/

namespace Metering

/-- There is room for all windows of time, and for fewer than `2 ^ 60` of the last values. -/
theorem ReservoirSettings.fits_window_iff (s : ReservoirSettings) :
    s.window.fits = true ↔ s.kind = .lastTime ∨ s.size.toNat < 2 ^ 60 := by
  obtain ⟨kind, size, seconds⟩ := s
  cases kind with
  | lastTime => simp [window, Window.fits]
  | lastValues =>
    have hMost : Window.maxRoom = 2 ^ 60 - 1 := by rw [Window.maxRoom, Nat.one_shiftLeft]
    simp only [window, Window.last, Window.fits, hMost, decide_eq_true_eq, reduceCtorEq, false_or]
    omega

namespace Registry

variable {r : Registry} {measure : Measure} {now : Instant} {part : String × Level} {w : Wanted}

/-- Only histograms and timers need room. -/
theorem hasRoom_iff :
    r.hasRoom measure = true ↔
      (measure = .histogram ∨ measure = .timer → r.window.fits = true) := by
  cases measure <;> simp [hasRoom, blank]

/-! ## One request -/

/-- What is in conflict with nothing can be had if there is room for it. -/
theorem Available.of_not_conflicting (hFree : ¬ r.Conflicting measure part)
    (hRoom : r.profile? part.1 = none → r.hasRoom measure = true) : r.Available measure part := by
  rw [Conflicting, not_or] at hFree
  obtain ⟨hPlain, hSame⟩ := hFree
  refine ⟨Bool.eq_false_iff.mpr hPlain, fun hProfile => ?_, hRoom⟩
  obtain ⟨i, hRecord, rfl⟩ := Option.map_eq_some_iff.mp hProfile
  constructor
  · exact not_not.mp fun hKind => hSame ⟨i, hRecord, .inl hKind⟩
  · exact not_not.mp fun hLevel => hSame ⟨i, hRecord, .inr hLevel⟩

/-- A request with no reason against it is proper. -/
theorem proper_of_not_refusable (hFair : ¬ r.Refusable w) : w.Proper := by
  by_cases hAncestors : w.ancestors = []
  · have hPlain : ¬ Name.isMarked w.name = true := fun hMarked =>
      hFair (.inl ⟨hAncestors, .inl hMarked⟩)
    exact .inl ⟨hAncestors, Bool.eq_false_iff.mpr hPlain⟩
  · cases hName : Name.hierarchy w.name with
    | error fault => exact absurd (.inr ⟨hAncestors, .inl ⟨fault, hName⟩⟩) hFair
    | ok members =>
      have hCount : members.length = w.ancestors.length + 1 := not_not.mp fun hCount =>
        hFair (.inr ⟨hAncestors, .inr (.inl ⟨members, hName, hCount⟩)⟩)
      exact .inr ⟨hAncestors, members, hName, hCount⟩

/-- Where there is no group of a name, none of the parts of a request with no reason against it is
in conflict with anything. -/
theorem not_conflicting_of_not_refusable (hFair : ¬ r.Refusable w)
    (hNone : r.entered? w.name = none) (hMem : part ∈ w.parts) :
    ¬ r.Conflicting w.measure part := by
  intro hConflicting
  rcases proper_of_not_refusable hFair with
    ⟨hSingle, hPlain⟩ | ⟨hAncestors, members, hName, hCount⟩
  · rw [Wanted.parts, Name.standsFor_of_plain hPlain, hSingle, List.zip_cons_cons,
      List.zip_nil_right, List.mem_singleton] at hMem
    exact hFair (.inl ⟨hSingle, hMem ▸ hConflicting⟩)
  · have hProper : w.Proper := .inr ⟨hAncestors, members, hName, hCount⟩
    rw [Wanted.parts, (hProper.group hAncestors hName).2] at hMem
    exact hFair (.inr ⟨hAncestors, .inr (.inr (.inr
      ⟨entered?_eq_none_iff.mp hNone, members, hName, part, hMem, hConflicting⟩))⟩)

/-- A request with no reason against it will be served if there is room for what it makes. -/
theorem Servable.of_not_refusable (hGrouped : Grouped r) (hFair : ¬ r.Refusable w)
    (hRoom : r.entered? w.name = none → ∀ part ∈ w.parts, r.profile? part.1 = none →
      r.hasRoom w.measure = true) : Servable r w where
  proper := proper_of_not_refusable hFair
  group := by
    intro e hEntry
    obtain ⟨g, hGroup, rfl⟩ := Option.map_eq_some_iff.mp hEntry
    have hAncestors : w.ancestors ≠ [] := by
      intro hSingle
      -- the name of a group has markers, and a name with markers needs ancestors
      exact hFair (.inl ⟨hSingle, .inl (hGrouped hGroup).marked⟩)
    have hMeasure : g.measure = w.measure := not_not.mp fun hMeasure =>
      hFair (.inr ⟨hAncestors, .inr (.inr (.inl ⟨g, hGroup, hMeasure⟩))⟩)
    exact ⟨hMeasure, hAncestors⟩
  parts hNone part hMem :=
    .of_not_conflicting (not_conflicting_of_not_refusable hFair hNone hMem)
      (hRoom hNone part hMem)

/-- A request with no reason against it is served, or it breaks off. -/
theorem served_or_brokenOff (hSound : Sound r) (hFair : ¬ r.Refusable w) (now : Instant) :
    (∃ handle, (r.want now w).2 = .ok handle) ∨ (r.want now w).2 = .error .brokenOff := by
  cases hOutcome : (r.want now w).2 with
  | ok handle => exact .inl ⟨handle, rfl⟩
  | error failure =>
    have hFailed : r.want now w = ((r.want now w).1, .error failure) := Prod.ext rfl hOutcome
    rcases refusal_of_want hSound hFailed with rfl | ⟨fault, before, -, hRefusal, -⟩
    · exact .inr rfl
    · exact absurd hRefusal.refusable hFair

/-- A request with no reason against it breaks off just if it has something to make and there is no
room. -/
theorem brokenOff_iff (hSound : Sound r) (hGrouped : Grouped r) (hFair : ¬ r.Refusable w)
    (now : Instant) :
    (r.want now w).2 = .error .brokenOff ↔ r.hasRoom w.measure = false ∧
      r.entered? w.name = none ∧ ∃ part ∈ w.parts, r.profile? part.1 = none := by
  constructor
  · intro hBroken
    -- if there were room, or nothing to make, the request would be served
    by_contra hSpared
    have hServable : Servable r w := by
      refine .of_not_refusable hGrouped hFair fun hNone part hMem hFree => ?_
      rw [← Bool.not_eq_false]
      exact fun hRoom => hSpared ⟨hRoom, hNone, part, hMem, hFree⟩
    obtain ⟨r', handle, hServed⟩ := want_of_servable hSound hServable now
    rw [hServed] at hBroken
    cases hBroken
  · rintro ⟨hRoom, hNone, part, hMem, hFree⟩
    refine (served_or_brokenOff hSound hFair now).resolve_left ?_
    rintro ⟨handle, hHandle⟩
    have hServed : r.want now w = ((r.want now w).1, .ok handle) := Prod.ext rfl hHandle
    have hServable := (served_of_want hSound hGrouped hServed).1
    rw [(hServable.parts hNone part hMem).room hFree] at hRoom
    cases hRoom

/-! ## All runs -/

theorem window_after (levels : LevelMap) (window : Window) (on : Bool)
    (steps : List (Instant × Request)) : (Usage.after levels window on steps).window = window :=
  Usage.after_keeps (P := fun r => r.window = window) levels window on
    (fun hMove _ hWindow => hMove.window_eq.trans hWindow) (fun _ hWindow => hWindow) rfl steps

/-- After every run, a request with no reason against it is served, or it breaks off. It breaks off
just if it is for a histogram or timer that must be made, and the settings ask for room for `2 ^ 60`
or more of the last values. -/
theorem requests_break_off_run (s : Settings) (on : Bool) (steps : List (Instant × Request))
    (now : Instant) (w : Wanted)
    (hFair : ¬ (Usage.after s.levels s.reservoir.window on steps).Refusable w) :
    let r := Usage.after s.levels s.reservoir.window on steps
    let outcome := (r.want now w).2
    ((∃ handle, outcome = .ok handle) ∨ outcome = .error .brokenOff) ∧
    (outcome = .error .brokenOff ↔ (w.measure = .histogram ∨ w.measure = .timer) ∧
      s.reservoir.kind = .lastValues ∧ 2 ^ 60 ≤ s.reservoir.size.toNat ∧
      r.entered? w.name = none ∧ ∃ part ∈ w.parts, r.profile? part.1 = none) := by
  intro r outcome
  have hSound : Sound r := (Usage.valid_run s.levels s.reservoir.window on steps).sound
  have hGrouped : Grouped r := (Usage.valid_run s.levels s.reservoir.window on steps).grouped
  have hRoom : r.hasRoom w.measure = false ↔ (w.measure = .histogram ∨ w.measure = .timer) ∧
      s.reservoir.kind = .lastValues ∧ 2 ^ 60 ≤ s.reservoir.size.toNat := by
    have hKinds : ¬ s.reservoir.kind = .lastTime ↔ s.reservoir.kind = .lastValues := by
      cases s.reservoir.kind <;> decide
    rw [← Bool.not_eq_true, hasRoom_iff, window_after, s.reservoir.fits_window_iff,
      Classical.not_imp, not_or, hKinds, Nat.not_lt]
  refine ⟨served_or_brokenOff hSound hFair now, ?_⟩
  have hBroken := brokenOff_iff hSound hGrouped hFair now
  rwa [hRoom, and_assoc, and_assoc] at hBroken

/-- The first histogram of a registry that is to keep the last `2 ^ 60` values. -/
example :
    let window := ReservoirSettings.window ⟨.lastValues, 1152921504606846976, 60⟩
    let r := Usage.after default window true []
    (r.want 0 ⟨.histogram, "a", .info, []⟩).2 = .error .brokenOff := by
  decide

end Registry

end Metering
