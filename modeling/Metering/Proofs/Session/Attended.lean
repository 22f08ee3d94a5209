import Mathlib.Logic.Relation
import Metering.Proofs.Service.Announcement
import Metering.Session

/-!
# Metering — sessions with a supervisor

Most commands do not concern the reporters at all. Of those that do, some may come at any time
without the supervisor missing any change.

* `Command.concerns` — whether a command may matter to reporters; `framed_run`, `alike_run` — what
  one that does not leaves alone;
* `Command.Tame` — the commands that leave the supervisor and its listening in place;
* `Session.after` — the session after some commands, and `Session.Steps` — sessions after commands,
  each of which is allowed in its turn;
* `Attended.renewed`, `Attended.run` — a new supervisor hears of all changes, and goes on doing so.
-/

namespace Metering

/-! ## Commands -/

/-- Whether an action may change the listeners, the switch or a level. -/
def Action.concerns : Action → Bool
  | .subscribe .. | .leave .. | .setRoot _ | .setLevel .. | .setEnabled _ => true
  | .probe _ | .count | .counter .. | .remove _ | .breakOff => false

/-- Whether a command may change the reporters, the listeners, the switch or a level. -/
def Command.concerns : Command → Bool
  | .act action => action.concerns
  | .register _ | .addBuiltIn _ | .discharge _ | .call .. | .callAll _ | .dropSupervisor
  | .renewSupervisor | .activate | .deactivate => true
  | _ => false

/-- A command after which the supervisor still hears of all changes, with observers beside it that
do not call back. -/
def Command.Tame : Command → Prop
  | .act (.subscribe _ _ actions) => ∀ a ∈ actions, a.callsBack = false
  | .act (.leave ..) | .dropSupervisor | .renewSupervisor => False
  | _ => True

namespace Session

variable {st st' : Session} {c : Command}

/-- The session after some commands. -/
def after (st : Session) (commands : List Command) : Session :=
  commands.foldl (fun st c => (st.run c).1) st

/-- A session and one after a command that is allowed. -/
def Step (allowed : Session → Command → Prop) (st st' : Session) : Prop :=
  ∃ c, allowed st c ∧ (st.run c).1 = st'

/-- A session and one after some commands, each of which is allowed in its turn. -/
abbrev Steps (allowed : Session → Command → Prop) : Session → Session → Prop :=
  Relation.ReflTransGen (Step allowed)

/-- What every allowed command keeps, allowed commands one after another keep. -/
theorem Steps.keep {allowed : Session → Command → Prop} {P : Session → Prop}
    (hRun : ∀ {st c}, allowed st c → P st → P (st.run c).1) (h : Steps allowed st st')
    (hP : P st) : P st' := by
  induction h with
  | refl => exact hP
  | tail _ hLast ih =>
    obtain ⟨c, hAllowed, rfl⟩ := hLast
    exact hRun hAllowed ih

/-! ## Commands that do not concern reporters -/

theorem service_got (st : Session) (label : String)
    (outcome : Service × Except Failure Handle) : (st.got label outcome).1.service = outcome.1 := by
  obtain ⟨s, result⟩ := outcome
  cases result <;> rfl

theorem service_sampled (st : Session) (outcome : Service × Option (List Sample)) :
    (st.sampled outcome).1.service = outcome.1 := by
  obtain ⟨s, samples⟩ := outcome
  cases samples <;> rfl

theorem service_act (st : Session) (action : Action) :
    (st.act action).1.service = (st.service.perform Service.announce action).1 := by
  rw [act]
  split <;> (next h => rw [h]; rfl)

/-- What every use of a metric keeps, the use of the metric under a label keeps. -/
theorem withMetric_keeps {P : Session → Prop} {use : Handle → Outcome} (label : String)
    (fits : Handle → Bool) (hUse : ∀ h, P (use h).1) (hP : P st) :
    P (st.withMetric label fits use).1 := by
  rw [withMetric]
  split
  · exact hP
  · exact hP
  · split
    · exact hUse _
    · exact hP

theorem framed_update (s : Service) (h : Handle) (u : Update) : s.Framed (s.update h u) :=
  Service.framed_configured (Registry.configuration_update _ _ _ _)

theorem framed_reading (s : Service) (h : Handle) : s.Framed (s.reading h).1 :=
  Service.framed_configured (Registry.configuration_reading _ _ _)

theorem framed_read (st : Session) (h : Handle) : st.service.Framed (st.read h).1.service := by
  have hReading := framed_reading st.service h
  rw [read]
  split
  · exact .refl _
  · exact .refl _
  · exact .refl _
  · exact .refl _
  · split
    · next hShown =>
      rw [hShown] at hReading
      exact hReading
    · next hShown =>
      rw [hShown] at hReading
      exact hReading

theorem framed_rates (st : Session) (h : Handle) : st.service.Framed (st.rates h).1.service := by
  have hReading := framed_reading st.service h
  rw [rates]
  split <;>
  · next hShown =>
    rw [hShown] at hReading
    exact hReading

theorem framed_later (s : Service) (d : Duration) :
    s.Framed { s with site := s.site.later d } := ⟨rfl, rfl, rfl⟩

theorem framed_timed (st : Session) (took : Duration) (breaks : Bool) (h : Handle) :
    st.service.Framed (st.timed took breaks h).1.service :=
  (framed_later st.service took).trans (framed_update _ h _)

theorem framed_runStored (st : Session) (c : StoreCommand) :
    st.service.Framed (st.runStored c).1.service := by
  cases c with
  | remove name => exact Service.framed_adopt rfl
  | clear => exact Service.framed_adopt rfl
  | samples names =>
    rw [runStored, service_sampled]
    exact Service.framed_adopt rfl
  | _ => exact .refl _

theorem framed_perform (s : Service) {action : Action} (h : action.concerns = false) :
    s.Framed (s.perform Service.announce action).1 := by
  cases action with
  | counter name level =>
    have hCounter := Service.framed_configured (s := s)
      (Registry.configuration_metric s.registry s.site.now .counter name level [])
    rw [Service.perform]
    split <;>
    · next hMetric =>
      rw [hMetric] at hCounter
      exact hCounter
  | remove name =>
    have hRemove := Service.framed_configured (s := s)
      (Registry.configuration_remove s.registry name)
    rw [Service.perform]
    split <;>
    · next hRemoved =>
      rw [hRemoved] at hRemove
      exact hRemove
  | probe name =>
    rw [Service.perform]
    split <;> exact .refl s
  | count | breakOff => exact .refl s
  | subscribe | leave | setRoot | setLevel | setEnabled => cases h

/-- A command that does not concern reporters changes only the site, and on it neither the switch nor
the journal. -/
theorem framed_run (st : Session) (h : c.concerns = false) :
    st.service.Framed (st.run c).1.service := by
  cases c with
  | metric label measure name level ancestors =>
    rw [run, service_got]
    exact Service.framed_configured (Registry.configuration_metric _ _ _ _ _ _)
  | gauge label name level timeout supplier =>
    have hSource : st.service.Framed st.service.addSource.1 := Service.framed_adopt rfl
    rw [run, service_got]
    refine hSource.trans ?_
    cases timeout with
    | some timeout =>
      exact Service.framed_configured (Registry.configuration_cachedGauge _ _ _ _ _ _)
    | none => exact Service.framed_configured (Registry.configuration_gauge _ _ _ _ _)
  | find label kind name =>
    rw [run]
    split <;> exact .refl _
  | update label u =>
    exact withMetric_keeps (P := fun now => st.service.Framed now.service) label _
      (fun h => framed_update st.service h u) (.refl _)
  | timed label took breaks =>
    exact withMetric_keeps (P := fun now => st.service.Framed now.service) label _
      (framed_timed st took breaks) (.refl _)
  | read label =>
    exact withMetric_keeps (P := fun now => st.service.Framed now.service) label _
      (framed_read st) (.refl _)
  | rates label =>
    exact withMetric_keeps (P := fun now => st.service.Framed now.service) label _
      (framed_rates st) (.refl _)
  | accepted label names =>
    rw [run]
    split <;> exact .refl _
  | timesAsked label =>
    rw [run]
    split <;> exact .refl _
  | act action =>
    rw [run, service_act]
    exact framed_perform _ h
  | countingSamples =>
    rw [run, service_sampled]
    exact Service.framed_adopt rfl
  | stored command => exact framed_runStored st command
  | advance d => exact framed_later st.service d
  | setWall seconds => exact ⟨rfl, rfl, rfl⟩
  | isRunning name =>
    rw [run]
    split <;> exact .refl _
  | filter | isEnabled | rootLevel | levelOf | sizes | registryShown | status | reporterNames
  | supervisorShown | settings => exact .refl _
  | register | addBuiltIn | discharge | call | callAll | dropSupervisor | renewSupervisor
  | activate | deactivate => cases h

/-- Thus it leaves everything alone that reporters depend on. -/
theorem alike_run (st : Session) (h : c.concerns = false) :
    st.service.Alike (st.run c).1.service := (framed_run st h).alike

/-! ## Commands that concern reporters -/

theorem service_setEnabled (s : Service) (on : Bool) :
    (s.perform Service.announce (.setEnabled on)).1 = (s.setEnabled on).1 := Service.deedOf_fst _

theorem service_setRoot (s : Service) (level : Level) :
    (s.perform Service.announce (.setRoot level)).1 = (s.setRoot level).1 := Service.deedOf_fst _

theorem service_setLevel (s : Service) (name : String) (level : Level) :
    (s.perform Service.announce (.setLevel name level)).1 = (s.setLevel name level).1 := by
  rw [Service.perform, Service.setLevel]
  split <;> (next h => rw [h])

/-- A reporter is built on the host before it is registered. -/
theorem addBuiltIn_eq (s : Service) (b : BuiltIn) :
    let built := b.build s.site.host none
    let now : Service := { s with site := { s.site with host := built.1 } }
    (s.addBuiltIn b).1 = match built.2 with
      | .ok p => (now.supervised fun rs => rs.register (.polled p)).1
      | .error _ => now := by
  simp only [Service.addBuiltIn]
  split
  · next hBuilt => simp only [hBuilt]
  · next hBuilt =>
    simp only [hBuilt]
    split <;> (next h => rw [h])

theorem addBuiltIn_cases (s : Service) (b : BuiltIn) : ∃ host,
    let now : Service := { s with site := { s.site with host := host } }
    (s.addBuiltIn b).1 = now ∨
    ∃ p, (b.build s.site.host none).2 = .ok p ∧
      (s.addBuiltIn b).1 = (now.supervised fun rs => rs.register (.polled p)).1 := by
  refine ⟨(b.build s.site.host none).1, ?_⟩
  have hAdded := addBuiltIn_eq s b
  dsimp only at hAdded ⊢
  split at hAdded
  · next p hBuilt => exact .inr ⟨p, hBuilt, hAdded⟩
  · exact .inl hAdded

end Session

namespace Service.Attended

variable {s : Service} {st st' : Session} {c : Command}

theorem setEnabled (h : s.Attended) (on : Bool) : (s.setEnabled on).1.Attended := h.changed _

theorem activate (h : s.Attended) : s.activate.1.Attended := by
  rw [Service.activate]
  split
  · exact h.setEnabled true
  · exact h.onSite _

/-- A tame command leaves the supervisor where it is. -/
theorem run (h : st.service.Attended) (hTame : c.Tame) : (st.run c).1.service.Attended := by
  by_cases hConcerns : c.concerns = true
  · cases c with
    | act action =>
      rw [Session.run, Session.service_act]
      cases action with
      | subscribe channel label actions => exact h.subscribe channel hTame
      | setEnabled on =>
        rw [Session.service_setEnabled]
        exact h.setEnabled on
      | setRoot level =>
        rw [Session.service_setRoot]
        exact h.changed _
      | setLevel name level =>
        rw [Session.service_setLevel]
        exact h.changedLevel name level
      | leave label among => exact hTame.elim
      | probe | count | counter | remove | breakOff => cases hConcerns
    | register r => exact h.supervised fun rs => rs.register r
    | addBuiltIn b =>
      obtain ⟨host, hSame | ⟨p, -, hAdded⟩⟩ := Session.addBuiltIn_cases st.service b
      · show (st.service.addBuiltIn b).1.Attended
        rw [hSame]
        exact h.onSite _
      · show (st.service.addBuiltIn b).1.Attended
        rw [hAdded]
        exact (h.onSite _).supervised _
    | discharge name => exact h.supervised fun rs => rs.discharge name
    | call kind name => exact h.supervised fun rs => rs.callOne (Session.visitOf kind) name
    | callAll kind => exact h.supervised (Session.visitAll kind)
    | activate => exact h.activate
    | deactivate => exact h.setEnabled false
    | dropSupervisor | renewSupervisor => exact hTame.elim
    | _ => cases hConcerns
  · exact h.alike (Session.alike_run st (Bool.eq_false_iff.mpr hConcerns))

/-- A supervisor that was just hired where only quiet observers were listening hears of all
changes. -/
theorem renewed (hNone : s.supervisor = none)
    (hQuiet : ∀ channel, (s.listeners channel).Quiet) : s.renewSupervisor.1.Attended := by
  have hRenewed : s.renewSupervisor.1 =
      { s with
        switchListeners := (s.switchListeners.add .supervisor).1
        rootListeners := (s.rootListeners.add .supervisor).1
        metricListeners := (s.metricListeners.add .supervisor).1
        supervisor := some s.hire.2 } := by
    rw [renewSupervisor, hNone]
    rfl
  refine ⟨by rw [hRenewed]; rfl, fun channel => ?_⟩
  have hAdded : (s.renewSupervisor.1.listeners channel).subscribers =
      (s.listeners channel).subscribers ++ [.supervisor] := by
    rw [hRenewed, ← subscribers_add]
    cases channel <;> rfl
  obtain ⟨os, hObservers, hAll⟩ := hQuiet channel
  exact ⟨os, [], by rw [hAdded, hObservers]; rfl, hAll, by simp⟩

end Service.Attended

end Metering
