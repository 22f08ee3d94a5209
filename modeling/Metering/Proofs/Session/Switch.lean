import Metering.Proofs.Session.Attended

/-!
# Metering — what the switch does to reporters

Reporters may be started and stopped one by one, and a start may fail. The supervisor brings them
all to where the switch is when the switch moves, but only then: to move the switch to where it is
does nothing to a reporter that was started or stopped by itself, or whose start failed.

* `Attended.stopped`, `Attended.started` — the reporters after the switch was moved;
* `switch_moved_run` — both for every session, and what happens if the switch is where it is.
-/

namespace Metering

open Report

namespace Service

variable {s : Service}

theorem running?_eq_ok_iff {name : String} {on : Bool} :
    s.reporters.running? name = .ok on ↔
      ∃ r, s.reporters.byName.get? name = some r ∧ r.running = on := by
  rw [Reporters.running?]
  split
  · next r hAt => simp [hAt]
  · next hAt => simp [hAt]

theorem mem_reporterNames_iff {name : String} :
    name ∈ s.reporterNames ↔ ∃ r, s.reporters.byName.get? name = some r := by
  rw [reporterNames, NameMap.mem_names_iff, NameMap.contains_eq_true_iff]

/-- When the switch was moved from on to off, no reporter runs that does not run after a stop. -/
theorem Attended.stopped (h : s.Attended) (hOn : s.registry.enabled = true)
    (hEnds : (s.setEnabled false).2 = true)
    (hStops : ∀ name r, s.reporters.byName.get? name = some r →
      ∀ site, (r.stop site).2.1.running = false) :
    ∀ name ∈ (s.setEnabled false).1.reporterNames,
      (s.setEnabled false).1.reporters.running? name = .ok false := by
  obtain ⟨now, hSame, -, hBroken | ⟨hHeeded, hAfter, -⟩⟩ := h.setEnabled_moved false hOn
  · rw [hEnds] at hBroken
    cases hBroken
  · intro name hName
    obtain ⟨r', hAt'⟩ := mem_reporterNames_iff.mp hName
    refine running?_eq_ok_iff.mpr ⟨r', hAt', ?_⟩
    rw [hAfter] at hAt'
    obtain ⟨r, hAt, ⟨site, rfl⟩ | ⟨hBroken, -⟩⟩ := Reporters.attendAll_cases hAt'
    · exact hStops name r (hSame ▸ hAt) site
    · cases hHeeded.symm.trans hBroken

/-- When the switch was moved from off to on, every reporter runs whose start succeeds. -/
theorem Attended.started (h : s.Attended) (hOff : s.registry.enabled = false)
    (hEnds : (s.setEnabled true).2 = true) {name : String} {r : Reporter}
    (hAt : s.reporters.byName.get? name = some r)
    (hStarts : ∀ site, (r.start site).2.2 = .done) :
    (s.setEnabled true).1.reporters.running? name = .ok true := by
  obtain ⟨now, hSame, -, hBroken | ⟨hHeeded, hAfter, -⟩⟩ := h.setEnabled_moved true hOff
  · rw [hEnds] at hBroken
    cases hBroken
  · rw [← hSame] at hAt
    rcases Reporters.get?_attendAll _ _ hAt with ⟨site, hCalled, -⟩ | ⟨hBroken, -⟩
    · refine running?_eq_ok_iff.mpr ⟨_, hAfter ▸ hCalled, ?_⟩
      exact Reporter.running_of_started (hStarts site)
    · cases hHeeded.symm.trans hBroken

end Service

/-- In every session with a supervisor, whatever was done to reporters one by one: when the switch
is moved to off and this comes to its end, no reporter runs that does not run after a stop; when it
is moved to on, every reporter runs whose start succeeds. To move the switch to where it is comes
to its end without a change to any reporter. -/
theorem Session.switch_moved_run (start st : Session) (hNone : start.service.supervisor = none)
    (hQuiet : ∀ channel, (start.service.listeners channel).Quiet)
    (hSteps : Steps (fun _ c => c.Tame) (start.run .renewSupervisor).1 st) (on : Bool) :
    let s := st.service
    let after := s.setEnabled on
    (s.registry.enabled = on →
      after.2 = true ∧ after.1.reporters.byName = s.reporters.byName) ∧
    (s.registry.enabled = true → on = false → after.2 = true →
      (∀ name r, s.reporters.byName.get? name = some r →
        ∀ site, (r.stop site).2.1.running = false) →
      ∀ name ∈ after.1.reporterNames, after.1.reporters.running? name = .ok false) ∧
    (s.registry.enabled = false → on = true → after.2 = true →
      ∀ name r, s.reporters.byName.get? name = some r →
        (∀ site, (r.start site).2.2 = .done) → after.1.reporters.running? name = .ok true) := by
  intro s after
  have hAttended : s.Attended :=
    hSteps.keep (P := fun st => st.service.Attended) (fun hTame h => h.run hTame)
      (Service.Attended.renewed hNone hQuiet)
  refine ⟨fun hSame => ?_, ?_, ?_⟩
  · obtain ⟨hEnds, hAlike⟩ := Service.setEnabled_same hSame
    exact ⟨hEnds, hAlike.reporters⟩
  · rintro hOn rfl hEnds hStops
    exact hAttended.stopped hOn hEnds hStops
  · rintro hOff rfl hEnds name r hAt hStarts
    exact hAttended.started hOff hEnds hAt hStarts

/-- A reporter that was started by itself while metrics are off goes on when they are switched off,
and one whose first start failed rests when metrics are switched on that are on. -/
example :
    let start : Session := .new (.new ⟨0, ⟨.empty⟩, "", []⟩ 0 .usual)
    let after (commands : List Command) := commands.foldl (fun st c => (st.run c).1)
      (start.run .renewSupervisor).1
    let failing : Reporter := .scripted ⟨"f", "f", .scheduled, false, [.failing], [], []⟩
    let willing : Reporter := .scripted ⟨"w", "w", .scheduled, false, [], [], []⟩
    (after [.act (.setEnabled false), .register willing, .call .start "w",
      .act (.setEnabled false)]).service.reporters.running? "w" = .ok true ∧
    (after [.register failing, .act (.setEnabled true)]).service.reporters.running? "f" =
      .ok false := by decide +kernel

end Metering
