import Metering.Proofs.NameMap
import Metering.Proofs.Report.Reporter
import Metering.Proofs.Subscriptions
import Metering.Supervisor

/-!
# Metering — what the supervisor does to its reporters

* `get?_attendAll` — when all reporters are called in turn, each is called once, up to the one
  that breaks off;
* `attendAll_ends` — calls of reporters none of which breaks off come to their end;
* `Steady` — the supervisor has reliable reporters only, which run if and only if metrics are
  switched on;
* `steady_heed_switch` — reporters become so when metrics are switched on or off;
* `Steady.register`, `Steady.discharge`, `Steady.restartListening`, … — and stay so.
-/

namespace Metering

open Report

namespace Reporters

variable {rs : Reporters} {r : Reporter} {name : String}
  {visit : Reporter → Site → Site × Reporter × Outcome} {wording : String → ReportFault → String}

/-! ## Calls of many -/

section Attend

variable (visit wording)

theorem attend_none (h : rs.byName.get? name = none) :
    attend visit wording name rs = (rs, true) := by
  rw [attend, h]

/-- A call of one reporter changes the site as the call does, up to an entry of the log. -/
theorem attend_some (h : rs.byName.get? name = some r) :
    (attend visit wording name rs).1.byName = rs.byName.insert name (visit r rs.site).2.1 ∧
      (attend visit wording name rs).1.site.registry = (visit r rs.site).1.registry ∧
      ((attend visit wording name rs).2 = true ↔ (visit r rs.site).2.2 ≠ .brokenOff) := by
  rw [attend, h]
  dsimp only
  split <;> (next hEnd => exact ⟨rfl, rfl, by simp [hEnd]⟩)

/-- Only the reporter of the name is called. -/
theorem get?_attend_of_ne {other : String} (h : other ≠ name) :
    (attend visit wording name rs).1.byName.get? other = rs.byName.get? other := by
  cases hAt : rs.byName.get? name with
  | none => rw [attend_none _ _ hAt]
  | some r => rw [(attend_some _ _ hAt).1, NameMap.get?_insert_of_ne _ h]

end Attend

theorem get?_inTurn_attend_of_notMem {names : List String} (h : name ∉ names) :
    (inTurn (attend visit wording) names rs).1.byName.get? name = rs.byName.get? name := by
  refine inTurn_keeps (P := fun now : Reporters => now.byName.get? name = rs.byName.get? name)
    names (fun other hOther now hSame => ?_) rfl
  have hNe : name ≠ other := by
    rintro rfl
    exact h hOther
  rw [get?_attend_of_ne _ _ hNe, hSame]

/-- Of reporters that are called in turn each is called, unless an earlier one broke off. If all
come through, then none broke off. -/
theorem get?_inTurn_attend {names : List String} (hNodup : names.Nodup) (hMem : name ∈ names)
    (hAt : rs.byName.get? name = some r) :
    let outcome := inTurn (attend visit wording) names rs
    (∃ site, outcome.1.byName.get? name = some (visit r site).2.1 ∧
      (outcome.2 = true → (visit r site).2.2 ≠ .brokenOff)) ∨
    (outcome.2 = false ∧ outcome.1.byName.get? name = some r) := by
  -- by induction on the names; the first one does not come again
  induction names generalizing rs with
  | nil => cases hMem
  | cons first rest ih =>
    obtain ⟨hNotIn, hRest⟩ := List.nodup_cons.mp hNodup
    rw [inTurn_cons]
    by_cases hFirst : name = first
    · subst hFirst
      obtain ⟨hMap, -, hEnds⟩ := attend_some visit wording hAt
      have hCalled : (attend visit wording name rs).1.byName.get? name =
          some (visit r rs.site).2.1 := by
        rw [hMap, NameMap.get?_insert_self]
      refine .inl ⟨rs.site, ?_⟩
      split
      · next hOn =>
        rw [get?_inTurn_attend_of_notMem hNotIn]
        exact ⟨hCalled, fun _ => hEnds.mp hOn⟩
      · exact ⟨hCalled, hEnds.mp⟩
    · have hOther := (get?_attend_of_ne visit wording hFirst).trans hAt
      split
      · exact ih hRest ((List.mem_cons.mp hMem).resolve_left hFirst) hOther
      · next hBroken => exact .inr ⟨Bool.eq_false_iff.mpr hBroken, hOther⟩

/-- If something is true of the registry that lets no reporter break off, and every call keeps it,
then all are called. -/
theorem inTurn_attend_ends {P : Registry → Prop} {names : List String} (hNodup : names.Nodup)
    (h : ∀ name ∈ names, ∀ r, rs.byName.get? name = some r → ∀ site, P site.registry →
      (visit r site).2.2 ≠ .brokenOff ∧ P (visit r site).1.registry)
    (hP : P rs.site.registry) : (inTurn (attend visit wording) names rs).2 = true := by
  induction names generalizing rs with
  | nil => rfl
  | cons first rest ih =>
    obtain ⟨hNotIn, hRest⟩ := List.nodup_cons.mp hNodup
    obtain ⟨hFirst, hOthers⟩ := List.forall_mem_cons.mp h
    have hThrough : (attend visit wording first rs).2 = true ∧
        P (attend visit wording first rs).1.site.registry := by
      cases hAt : rs.byName.get? first with
      | none =>
        rw [attend_none _ _ hAt]
        exact ⟨rfl, hP⟩
      | some r =>
        obtain ⟨hReturns, hKept⟩ := hFirst r hAt rs.site hP
        obtain ⟨-, hRegistry, hEnds⟩ := attend_some visit wording hAt
        exact ⟨hEnds.mpr hReturns, hRegistry ▸ hKept⟩
    rw [inTurn_cons, if_pos hThrough.1]
    refine ih hRest (fun name hMem r hAt => hOthers name hMem r ?_) hThrough.2
    -- the others are as they were before the first was called
    have hNe : name ≠ first := by
      rintro rfl
      exact hNotIn hMem
    rw [← hAt, get?_attend_of_ne _ _ hNe]

theorem nodup_names (rs : Reporters) : rs.byName.names.Nodup :=
  (NameMap.pairwise_names rs.byName).imp ne_of_lt

/-- When all reporters are called, each is called, unless an earlier one broke off. If all come
through, then none broke off. -/
theorem get?_attendAll (visit : Reporter → Site → Site × Reporter × Outcome)
    (wording : String → ReportFault → String) (hAt : rs.byName.get? name = some r) :
    let outcome := rs.attendAll visit wording
    (∃ site, outcome.1.byName.get? name = some (visit r site).2.1 ∧
      (outcome.2 = true → (visit r site).2.2 ≠ .brokenOff)) ∨
    (outcome.2 = false ∧ outcome.1.byName.get? name = some r) :=
  get?_inTurn_attend rs.nodup_names
    (NameMap.mem_names_iff.mpr (NameMap.contains_eq_true_iff.mpr ⟨r, hAt⟩)) hAt

/-- Whoever is there after all were called was called, or was there as it is when an earlier one
broke off. -/
theorem attendAll_cases {r' : Reporter}
    (hAt' : (rs.attendAll visit wording).1.byName.get? name = some r') :
    ∃ r, rs.byName.get? name = some r ∧
      ((∃ site, r' = (visit r site).2.1) ∨ ((rs.attendAll visit wording).2 = false ∧ r' = r)) := by
  cases hAt : rs.byName.get? name with
  | none =>
    have hNotIn : name ∉ rs.byName.names := by
      rw [NameMap.mem_names_iff, NameMap.contains, hAt]
      exact Bool.false_ne_true
    rw [attendAll, get?_inTurn_attend_of_notMem hNotIn, hAt] at hAt'
    cases hAt'
  | some r =>
    refine ⟨r, rfl, ?_⟩
    rcases get?_attendAll visit wording hAt with
      ⟨site, hCalled, -⟩ | ⟨hBroken, hSame⟩
    · rw [hCalled] at hAt'
      exact .inl ⟨site, (Option.some.inj hAt').symm⟩
    · rw [hSame] at hAt'
      exact .inr ⟨hBroken, (Option.some.inj hAt').symm⟩

/-- If no reporter breaks off, all are called. -/
theorem attendAll_ends (h : ∀ name r, rs.byName.get? name = some r →
    ∀ site, (visit r site).2.2 ≠ .brokenOff) : (rs.attendAll visit wording).2 = true :=
  inTurn_attend_ends (P := fun _ => True) rs.nodup_names
    (fun name _ r hAt site _ => ⟨h name r hAt site, trivial⟩) trivial

theorem enabled_attend
    (hVisit : ∀ r site, (visit r site).1.registry.enabled = site.registry.enabled)
    (name : String) (rs : Reporters) :
    (attend visit wording name rs).1.site.registry.enabled = rs.site.registry.enabled := by
  cases hAt : rs.byName.get? name with
  | none => rw [attend_none _ _ hAt]
  | some r => rw [(attend_some _ _ hAt).2.1, hVisit]

theorem enabled_attendAll
    (hVisit : ∀ r site, (visit r site).1.registry.enabled = site.registry.enabled)
    (rs : Reporters) :
    (rs.attendAll visit wording).1.site.registry.enabled = rs.site.registry.enabled :=
  inTurn_keeps (P := fun now : Reporters => now.site.registry.enabled = rs.site.registry.enabled)
    _ (fun name _ now hSame => (enabled_attend hVisit name now).trans hSame) rfl

/-! ## One reporter -/

/-- A reporter that has left is stopped, which changes nothing for the others. -/
theorem dismiss_spec {wording : ReportFault → String} {after : Reporters} {left : Reporter}
    {whole : Bool} (h : rs.dismiss r wording = (after, left, whole)) :
    after.byName = rs.byName ∧ after.site.registry = rs.site.registry ∧
      (r.Reliable → whole = true) := by
  have hSite := Reporter.registry_stop r rs.site
  rw [dismiss] at h
  split at h
  · next site r' hStop =>
    rw [hStop] at hSite
    cases h
    exact ⟨rfl, (left.registry_giveUp site).trans hSite, fun _ => rfl⟩
  · next site r' fault hStop =>
    rw [hStop] at hSite
    cases h
    exact ⟨rfl, (left.registry_giveUp _).trans hSite, fun _ => rfl⟩
  · next site r' hStop =>
    rw [hStop] at hSite
    cases h
    refine ⟨rfl, (left.registry_giveUp site).trans hSite, fun hReliable => ?_⟩
    -- a reliable reporter does not break off when it is stopped
    have hDone := (hReliable.stop rs.site).1
    rw [hStop] at hDone
    cases hDone

theorem dismissReplaced_spec {old : Option Reporter} {after : Reporters} {whole : Bool}
    (h : rs.dismissReplaced old = (after, whole)) :
    after.byName = rs.byName ∧ after.site.registry = rs.site.registry ∧
      ((∀ r ∈ old, r.Reliable) → whole = true) := by
  cases old with
  | none =>
    cases h
    exact ⟨rfl, rfl, fun _ => rfl⟩
  | some r =>
    simp only [dismissReplaced, Prod.mk.injEq] at h
    obtain ⟨rfl, rfl⟩ := h
    obtain ⟨hMap, hSite, hEnds⟩ := dismiss_spec rfl
    exact ⟨hMap, hSite, fun hReliable => hEnds (hReliable r rfl)⟩

/-! ## Steady reporters -/

/-- All reporters are reliable, and they run if and only if metrics are switched on. -/
def Steady (rs : Reporters) : Prop :=
  ∀ name r, rs.byName.get? name = some r → r.Reliable ∧ r.running = rs.site.registry.enabled

/-- Reliable reporters become steady when all of them are brought to where the switch is, and this
comes to its end. -/
theorem steady_attendAll {on : Bool}
    (hSwitch : ∀ r site, (visit r site).1.registry.enabled = site.registry.enabled)
    (hVisit : ∀ r site, r.Reliable → (visit r site).2.2 = .done ∧
      (visit r site).2.1.running = on ∧ (visit r site).2.1.Reliable)
    (hReliable : ∀ name r, rs.byName.get? name = some r → r.Reliable)
    (hOn : rs.site.registry.enabled = on) :
    (rs.attendAll visit wording).1.Steady ∧ (rs.attendAll visit wording).2 = true := by
  have hEnds : (rs.attendAll visit wording).2 = true := by
    refine attendAll_ends fun name r hAt site hBroken => ?_
    rw [(hVisit r site (hReliable name r hAt)).1] at hBroken
    cases hBroken
  refine ⟨fun name r' hAt' => ?_, hEnds⟩
  rw [enabled_attendAll hSwitch, hOn]
  obtain ⟨r, hAt, ⟨site, rfl⟩ | ⟨hBroken, -⟩⟩ := attendAll_cases hAt'
  · obtain ⟨-, hRuns, hStill⟩ := hVisit r site (hReliable name r hAt)
    exact ⟨hStill, hRuns⟩
  · rw [hEnds] at hBroken
    cases hBroken

/-- Reliable reporters become steady when the supervisor hears that the switch has moved. -/
theorem steady_heed_switch {on : Bool}
    (hReliable : ∀ name r, rs.byName.get? name = some r → r.Reliable)
    (hOn : rs.site.registry.enabled = on) :
    (rs.heed (.switch on)).1.Steady ∧ (rs.heed (.switch on)).2 = true := by
  cases on with
  | true =>
    exact steady_attendAll (fun r site => congrArg Registry.enabled (r.registry_start site))
      (fun _ site h => h.start site) hReliable hOn
  | false =>
    exact steady_attendAll (fun r site => congrArg Registry.enabled (r.registry_stop site))
      (fun _ site h => h.stop site) hReliable hOn

namespace Steady

theorem of_same {after : Reporters} (h : rs.Steady) (hMap : after.byName = rs.byName)
    (hSwitch : after.site.registry.enabled = rs.site.registry.enabled) : after.Steady := by
  rw [Steady, hMap, hSwitch]
  exact h

/-- Calls that leave running reporters running and resting ones resting keep reporters steady, even
if one of them breaks off. -/
theorem attendAll (h : rs.Steady)
    (hSwitch : ∀ r site, (visit r site).1.registry.enabled = site.registry.enabled)
    (hVisit : ∀ r site, r.Reliable →
      (visit r site).2.1.running = r.running ∧ (visit r site).2.1.Reliable) :
    (rs.attendAll visit wording).1.Steady := by
  intro name r' hAt'
  rw [enabled_attendAll hSwitch]
  obtain ⟨r, hAt, ⟨site, rfl⟩ | ⟨-, rfl⟩⟩ := attendAll_cases hAt'
  · obtain ⟨hReliable, hRuns⟩ := h name r hAt
    obtain ⟨hSame, hStill⟩ := hVisit r site hReliable
    exact ⟨hStill, hSame.trans hRuns⟩
  · exact h name r' hAt

/-- Reporters that start anew run again. -/
theorem restartListening (h : rs.Steady) : rs.restartListening.1.Steady := by
  refine h.attendAll (fun r site => ?_) fun r site hReliable => ?_
  · rw [restartIfListening]
    split
    · rw [Reporter.registry_restart]
      rfl
    · rfl
  · rw [restartIfListening]
    split
    · next hRuns =>
      obtain ⟨-, hAgain, hStill⟩ :=
        hReliable.restart (site.say .debug s!"Restarting listening reporter '{r.name}'.")
      exact ⟨hAgain.trans hRuns.2.symm, hStill⟩
    · exact ⟨rfl, hReliable⟩

theorem reportAll (h : rs.Steady) : rs.reportAll.1.Steady := by
  refine h.attendAll (fun r site => ?_) fun r site hReliable => ?_
  · rw [reportIfScheduled]
    split
    · exact r.enabled_report site
    · rfl
  · rw [reportIfScheduled]
    split
    · exact ⟨r.running_report site, hReliable.report site⟩
    · exact ⟨rfl, hReliable⟩

/-- Reporters stay steady if a reliable one that is where the switch is takes a place. -/
theorem replace {after : Reporters} (h : rs.Steady) (name : String)
    (hSwitch : after.site.registry.enabled = rs.site.registry.enabled)
    (hAt : after.byName.get? name = some r)
    (hOthers : ∀ other, other ≠ name → after.byName.get? other = rs.byName.get? other)
    (hReliable : r.Reliable) (hRuns : r.running = rs.site.registry.enabled) : after.Steady := by
  intro other r' hAt'
  rw [hSwitch]
  by_cases hName : other = name
  · rw [hName, hAt] at hAt'
    cases hAt'
    exact ⟨hReliable, hRuns⟩
  · rw [hOthers other hName] at hAt'
    exact h other r' hAt'

theorem callReport (h : rs.Steady) (name : String) :
    (rs.callOne Reporter.report name).1.Steady := by
  rw [callOne]
  split
  · exact h
  · next r hAt =>
    obtain ⟨hReliable, hRuns⟩ := h name r hAt
    have hAfter : Steady ⟨(r.report rs.site).1, rs.byName.insert name (r.report rs.site).2.1⟩ :=
      h.replace name (r.enabled_report rs.site) (NameMap.get?_insert_self _ _ _)
        (fun _ hNe => NameMap.get?_insert_of_ne _ hNe _) (hReliable.report rs.site)
        ((r.running_report rs.site).trans hRuns)
    dsimp only
    split <;> exact hAfter

/-- A reporter that is registered at rest is started if metrics are switched on, and the one whose
place it takes does not count any more. -/
theorem register (h : rs.Steady) (hReliable : r.Reliable) (hRests : r.running = false) :
    (rs.register r).1.Steady := by
  rw [Reporters.register]
  split
  · next after hReplaced =>
    -- the one that was there is reliable, too
    cases (dismissReplaced_spec hReplaced).2.2 fun old hOld => (h r.name old hOld).1
  · next after hReplaced =>
    obtain ⟨hMap, hSite, -⟩ := dismissReplaced_spec hReplaced
    have hAt : after.byName.get? r.name = some r := by
      rw [hMap, NameMap.get?_insert_self]
    have hOthers : ∀ other, other ≠ r.name →
        after.byName.get? other = rs.byName.get? other := by
      intro other hNe
      rw [hMap, NameMap.get?_insert_of_ne _ hNe]
    split
    · next hOn =>
      obtain ⟨-, hStarted, hStill⟩ := hReliable.start after.site
      refine h.replace r.name ?_ ?_ ?_ hStill (hStarted.trans (hOn.symm.trans ?_))
      · rw [enabled_attend fun r site => congrArg Registry.enabled (r.registry_start site), hSite]
      · rw [(attend_some _ _ hAt).1, NameMap.get?_insert_self]
      · intro other hNe
        rw [get?_attend_of_ne _ _ hNe, hOthers other hNe]
      · rw [hSite]
    · next hOff =>
      refine h.replace r.name (congrArg Registry.enabled hSite) hAt hOthers hReliable ?_
      rw [hRests, ← Bool.eq_false_iff.mpr hOff, hSite]

theorem discharge (h : rs.Steady) (name : String) : (rs.discharge name).1.Steady := by
  rw [Reporters.discharge]
  split
  · exact h
  · next r hAt =>
    -- without the one that leaves the others are as they were
    have hErased {after : Reporters} (hMap : after.byName = rs.byName.erase name)
        (hSite : after.site.registry = rs.site.registry) : after.Steady := by
      intro other r' hAt'
      rw [hMap, NameMap.get?_erase] at hAt'
      rw [hSite]
      split at hAt'
      · cases hAt'
      · exact h other r' hAt'
    dsimp only
    split <;>
    · next hDismiss =>
      obtain ⟨hMap, hSite, -⟩ := dismiss_spec hDismiss
      exact hErased hMap hSite

end Steady

end Reporters

end Metering
