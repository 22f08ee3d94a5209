import Metering.Proofs.Session.Switch

/-!
# Metering — reporters follow the switch

If nobody starts or stops reporters one by one, they run while metrics are switched on and rest
while they are switched off. Reporters come to know of the switch in two ways, by being registered
and through the supervisor, and those that follow the metrics are stopped and started in between
when levels change.

* `Command.Ordinary`, `Session.Ordinary` — what may happen meanwhile: whoever is registered rests
  and can be started and stopped, and the switch is moved without breaking off;
* `Following` — the invariant: the supervisor hears of all changes, and its reporters are steady;
* `Following.run` — every ordinary command keeps it;
* `reporters_follow_run` — where reporters are after every run of ordinary commands.
-/

namespace Metering

open Report

/-- Whether a command moves the switch. -/
def Command.switches : Command → Bool
  | .act (.setEnabled _) | .activate | .deactivate => true
  | _ => false

/-- A command that is tame, and neither starts nor stops a reporter by itself. Reporters that it
registers rest, and can be started and stopped. -/
def Command.Ordinary : Command → Prop
  | .register r => r.Reliable ∧ r.running = false
  | .addBuiltIn b => ∀ host p, (b.build host none).2 = .ok p → canWork p.name = true
  | .call kind _ | .callAll kind => kind = .report
  | c => c.Tame

/-- An ordinary command which, if it moves the switch, does not break off. -/
def Session.Ordinary (st : Session) (c : Command) : Prop :=
  c.Ordinary ∧ (c.switches = true → (st.run c).2 ≠ .error (.failed .brokenOff))

namespace Session

variable {st : Session} {on : Bool}

theorem ends_of_ended {outcome : Service × Bool}
    (h : (st.ended outcome).2 ≠ .error (.failed .brokenOff)) : outcome.2 = true := by
  cases hOutcome : outcome.2 with
  | true => rfl
  | false => exact absurd (by rw [ended, hOutcome]; rfl) h

theorem ends_of_setEnabled
    (h : (st.act (.setEnabled on)).2 ≠ .error (.failed .brokenOff)) :
    (st.service.setEnabled on).2 = true := by
  cases hOutcome : st.service.setEnabled on with
  | mk s whole =>
    cases whole with
    | true => rfl
    | false =>
      have hDeed : st.service.perform Service.announce (.setEnabled on) = (s, none) := by
        show Service.deedOf (st.service.setEnabled on) = _
        rw [hOutcome]
        rfl
      exact absurd (by rw [act, hDeed]; rfl) h

end Session

namespace Service

variable {s s' : Service} {st st' : Session} {c : Command}

/-- The supervisor hears of all changes, and its reporters are reliable and run if and only if
metrics are switched on. -/
structure Following (s : Service) : Prop where
  attended : s.Attended
  steady : s.reporters.Steady

namespace Following

theorem alike (h : s.Following) (hAlike : s.Alike s') : s'.Following :=
  ⟨h.attended.alike hAlike, h.steady.of_same hAlike.reporters hAlike.enabled⟩

theorem supervised {α : Type} (h : s.Following) (deal : Reporters → Reporters × α)
    (hDeal : (deal s.reporters).1.Steady) : (s.supervised deal).1.Following := by
  refine ⟨h.attended.supervised deal, ?_⟩
  rw [reporters_supervised h.attended.hired]
  exact hDeal

theorem subscribe {o : Observer} (h : s.Following) (channel : Channel) (hQuiet : o.Quiet) :
    (s.subscribe channel o).Following := by
  refine ⟨h.attended.subscribe channel hQuiet, h.steady.of_same ?_ ?_⟩
  · cases channel <;> rfl
  · cases channel <;> rfl

/-- Whoever answers for the running reporters is told so. -/
theorem running?_eq (h : s.Following) :
    ∀ name ∈ s.reporterNames, s.reporters.running? name = .ok s.registry.enabled := by
  intro name hName
  obtain ⟨r, hAt⟩ := mem_reporterNames_iff.mp hName
  exact running?_eq_ok_iff.mpr ⟨r, hAt, (h.steady name r hAt).2⟩

/-! ## Changes -/

/-- When a level has changed, reporters that follow the metrics are started anew at most. -/
theorem announce {change : Change} (h : s.Following) (hLevel : change.channel ≠ .switch) :
    (announce change s).1.Following := by
  rcases h.attended.announce_cases change with ⟨-, hAlike⟩ | ⟨now, hNow, hAfter, -⟩
  · exact h.alike hAlike
  · have hThen : now.Following := h.alike hNow
    refine Following.alike (hThen.supervised _ ?_) hAfter
    cases change with
    | switch on => exact absurd rfl hLevel
    | root | metric => exact hThen.steady.restartListening

theorem changed {outcome : Registry × Option Change} (h : s.Following)
    (hSwitch : outcome.1.enabled = s.registry.enabled)
    (hLevel : ∀ change, outcome.2 = some change → change.channel ≠ .switch) :
    (s.changed Service.announce outcome).1.Following := by
  have hAdopted : (s.adopt outcome.1).Following := h.alike (alike_adopt hSwitch)
  rw [Service.changed]
  split
  · next change hChange => exact hAdopted.announce (hLevel change hChange)
  · exact hAdopted

theorem setRoot (h : s.Following) (level : Level) : (s.setRoot level).1.Following := by
  refine h.changed (Registry.enabled_setRoot _ _) fun change hChange => ?_
  rw [Registry.channel_setRoot hChange]
  decide

theorem setLevel (h : s.Following) (name : String) (level : Level) :
    (s.setLevel name level).1.Following := by
  have hSwitch := Registry.enabled_setLevel s.registry name level
  rcases changedLevel_cases Service.announce s name level with
    ⟨r, fault, hRefused, hAfter⟩ | ⟨r, change, hOutcome, hAfter⟩
  · rw [hRefused] at hSwitch
    rw [Service.setLevel, hAfter]
    exact h.alike (alike_adopt hSwitch)
  · rw [hOutcome] at hSwitch
    rw [Service.setLevel, hAfter]
    refine h.changed hSwitch fun told hTold => ?_
    cases hTold
    rw [Registry.channel_setLevel hOutcome]
    decide

/-- When the switch was moved, all reporters are where it is. -/
theorem setEnabled {on : Bool} (h : s.Following) (hEnds : (s.setEnabled on).2 = true) :
    (s.setEnabled on).1.Following := by
  by_cases hSame : s.registry.enabled = on
  · exact h.alike (setEnabled_same hSame).2
  · obtain ⟨now, hMap, hOn, hBroken | ⟨-, hAfter, hSwitch⟩⟩ :=
      h.attended.setEnabled_moved on (Bool.eq_not.mpr hSame)
    · rw [hEnds] at hBroken
      cases hBroken
    · have hReliable : ∀ name r, now.byName.get? name = some r → r.Reliable :=
        fun name r hAt => (h.steady name r (hMap ▸ hAt)).1
      exact ⟨h.attended.setEnabled on,
        (Reporters.steady_heed_switch hReliable hOn).1.of_same hAfter hSwitch⟩

/-- The switch can be moved, unless an observer breaks off. -/
theorem setEnabled_ends (h : s.Following) (on : Bool)
    (hSilent : ∀ o, .observer o ∈ s.switchListeners.subscribers → o.actions = []) :
    (s.setEnabled on).2 = true := by
  refine h.attended.setEnabled_ends hSilent fun now hMap hOn => ?_
  exact (Reporters.steady_heed_switch
    (fun name r hAt => (h.steady name r (hMap ▸ hAt)).1) hOn).2

theorem activate (h : s.Following) (hEnds : s.activate.2 = true) : s.activate.1.Following := by
  rw [Service.activate] at hEnds ⊢
  split
  · next hAllowed =>
    rw [if_pos hAllowed] at hEnds
    exact h.setEnabled hEnds
  · exact h.alike (alike_onSite _ rfl)

/-! ## Commands -/

/-- Every ordinary command keeps the reporters where the switch is. -/
theorem run (h : st.service.Following) (hOrdinary : st.Ordinary c) :
    (st.run c).1.service.Following := by
  obtain ⟨hCommand, hReturns⟩ := hOrdinary
  -- most commands leave the service alike; those that concern reporters are taken one by one
  by_cases hConcerns : c.concerns = true
  · cases c with
    | act action =>
      cases action with
      | subscribe channel label actions =>
        rw [Session.run, Session.service_act]
        exact h.subscribe channel hCommand
      | setEnabled on =>
        have hEnds := Session.ends_of_setEnabled (hReturns rfl)
        rw [Session.run, Session.service_act, Session.service_setEnabled]
        exact h.setEnabled hEnds
      | setRoot level =>
        rw [Session.run, Session.service_act, Session.service_setRoot]
        exact h.setRoot level
      | setLevel name level =>
        rw [Session.run, Session.service_act, Session.service_setLevel]
        exact h.setLevel name level
      | leave label among => exact hCommand.elim
      | probe | count | counter | remove | breakOff => cases hConcerns
    | register r =>
      exact h.supervised (fun rs => rs.register r)
        (h.steady.register hCommand.1 hCommand.2)
    | addBuiltIn b =>
      show (st.service.addBuiltIn b).1.Following
      obtain ⟨host, hSame | ⟨p, hBuilt, hAdded⟩⟩ := Session.addBuiltIn_cases st.service b
      · rw [hSame]
        exact h.alike (alike_onSite _ rfl)
      · rw [hAdded]
        have hNow := h.alike (alike_onSite (s := st.service)
          { st.service.site with host := host } rfl)
        exact hNow.supervised _ (hNow.steady.register (hCommand _ p hBuilt)
          (BuiltIn.build_running hBuilt))
    | discharge name =>
      exact h.supervised (fun rs => rs.discharge name) (h.steady.discharge name)
    | call kind name =>
      cases hCommand
      exact h.supervised (fun rs => rs.callOne Reporter.report name)
        (h.steady.callReport name)
    | callAll kind =>
      cases hCommand
      exact h.supervised Reporters.reportAll h.steady.reportAll
    | activate => exact h.activate (Session.ends_of_ended (hReturns rfl))
    | deactivate => exact h.setEnabled (Session.ends_of_ended (hReturns rfl))
    | dropSupervisor | renewSupervisor => exact hCommand.elim
    | _ => cases hConcerns
  · exact h.alike (Session.alike_run st (Bool.eq_false_iff.mpr hConcerns))

/-- A supervisor that was just hired has no reporters. -/
theorem renewed (hNone : s.supervisor = none)
    (hQuiet : ∀ channel, (s.listeners channel).Quiet) : s.renewSupervisor.1.Following := by
  refine ⟨.renewed hNone hQuiet, fun name r hAt => ?_⟩
  rw [renewSupervisor, hNone] at hAt
  cases hAt

end Following

end Service

namespace Session

/-- In every session, from the moment a supervisor is hired where only observers were listening
that do not call back: after any ordinary commands every reporter runs if and only if metrics are
switched on. The switch can be moved then, unless an observer breaks off. -/
theorem reporters_follow_run (start st : Session) (hNone : start.service.supervisor = none)
    (hQuiet : ∀ channel, (start.service.listeners channel).Quiet)
    (hSteps : Steps Ordinary (start.run .renewSupervisor).1 st) :
    (∀ name ∈ st.service.reporterNames,
      st.service.reporters.running? name = .ok st.service.registry.enabled) ∧
    ∀ on, (∀ o, .observer o ∈ st.service.switchListeners.subscribers → o.actions = []) →
      (st.service.setEnabled on).2 = true := by
  have hFollowing : st.service.Following :=
    hSteps.keep (P := fun st => st.service.Following) (fun hOrdinary h => h.run hOrdinary)
      (Service.Following.renewed hNone hQuiet)
  exact ⟨hFollowing.running?_eq, hFollowing.setEnabled_ends⟩

/-- A reporter that follows the metrics is registered while they are on, is replaced by another,
and rests after they were switched off, off again, and the root level was changed. -/
theorem reporters_follow_off :
    let start : Session := .new (.new ⟨0, ⟨.empty⟩, "", []⟩ 0 .usual)
    let reporter (tag : String) : Reporter := .scripted ⟨"m", tag, .listening, false, [], [], []⟩
    let after := [.register (reporter "first"), .register (reporter "second"),
      .act (.setEnabled false), .deactivate, .act (.setRoot .debug)].foldl
        (fun st (c : Command) => (st.run c).1) (start.run .renewSupervisor).1
    after.service.reporters.running? "m" = .ok false ∧ (after.service.setEnabled true).2 = true := by
  intro start reporter after
  have hReliable : ∀ tag, (reporter tag).Reliable := fun tag => by
    constructor <;> exact nofun
  have hWell {st : Session} {c : Command} (h : (st.run c).2.isOk = true) :
      (st.run c).2 ≠ .error (.failed .brokenOff) := by
    intro hBroken
    rw [hBroken] at h
    cases h
  have hSteps : Steps Ordinary (start.run .renewSupervisor).1 after := by
    refine .tail (.tail (.tail (.tail (.tail .refl ⟨.register (reporter "first"), ?_, rfl⟩)
      ⟨.register (reporter "second"), ?_, rfl⟩) ⟨.act (.setEnabled false), ?_, rfl⟩)
      ⟨.deactivate, ?_, rfl⟩) ⟨.act (.setRoot .debug), ?_, rfl⟩
    · exact ⟨⟨hReliable _, rfl⟩, nofun⟩
    · exact ⟨⟨hReliable _, rfl⟩, nofun⟩
    · exact ⟨trivial, fun _ => hWell (by decide +kernel)⟩
    · exact ⟨trivial, fun _ => hWell (by decide +kernel)⟩
    · exact ⟨trivial, nofun⟩
  have hQuiet : ∀ channel, (start.service.listeners channel).Quiet := by
    intro channel
    exact ⟨[], by cases channel <;> rfl, nofun⟩
  have hAlone : after.service.switchListeners.subscribers.all (fun
      | .supervisor => true
      | .observer _ => false) = true := by decide +kernel
  obtain ⟨hFollow, hEnds⟩ := reporters_follow_run start after rfl hQuiet hSteps
  have hOff : after.service.registry.enabled = false := by decide +kernel
  refine ⟨hOff ▸ hFollow "m" (by decide +kernel), hEnds true fun o ho => ?_⟩
  cases List.all_eq_true.mp hAlone _ ho

end Session

end Metering
