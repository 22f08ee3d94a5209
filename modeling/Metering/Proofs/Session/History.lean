import Metering.Proofs.Service.Observation
import Metering.Proofs.Session.Attended

/-!
# Metering — the history that observers hear

Where everybody only looks, the journal is a history of what is configured: whatever a call changed
was told once, to everybody who hears of such changes, in the order of coming; and what a call left
as it was, or was refused, was told to nobody.

* `Command.Watchable` — the commands that configure, make and remove metrics, ask about them, and let
  observers come and go that only look;
* `Session.trace` — the service before and after each command of a run;
* `Watched.run` — what one such command tells, and `Watched.runAll` — what a run tells;
* `change_history_run` — the journal, and what an observer that was there throughout has heard.
-/

namespace Metering

/-- An action after which everybody who hears of changes only looks. -/
def Action.Watchable : Action → Prop
  | .subscribe _ _ actions => ∀ a ∈ actions, a.observes = true
  | _ => True

/-- A command that does not concern reporters, and after which everybody who hears of changes only
looks. -/
def Command.Watchable : Command → Prop
  | .act action => action.Watchable
  | .metric .. | .gauge .. | .find .. | .filter _ | .accepted .. | .timesAsked _ | .isEnabled
  | .rootLevel | .levelOf _ | .sizes | .registryShown => True
  | _ => False

namespace Service.Watched

variable {s : Service} {st : Session} {c : Command}

theorem tells_perform (h : s.Watched) {action : Action} (hAction : action.Watchable) :
    s.Tells (s.perform Service.announce action).1 := by
  cases action with
  | probe name =>
    rw [perform]
    split <;> exact h.tells_self
  | count | breakOff => exact h.tells_self
  | subscribe channel label actions => exact h.tells_subscribe channel hAction
  | leave label among =>
    have hLeave := h.tells_leave label among
    rw [perform]
    split <;>
    · next hOutcome =>
      rw [hOutcome] at hLeave
      exact hLeave
  | setRoot level =>
    rw [Session.service_setRoot]
    exact h.tells_setRoot level
  | setEnabled on =>
    rw [Session.service_setEnabled]
    exact h.tells_setEnabled on
  | setLevel name level =>
    rw [Session.service_setLevel]
    exact h.tells_setLevel name level
  | counter name level =>
    have hCounter := h.tells_adopt
      (Registry.metric_moves s.registry s.site.now .counter name level [])
      (Registry.configuration_metric s.registry s.site.now .counter name level [])
    rw [perform]
    split <;>
    · next hMetric =>
      rw [hMetric] at hCounter
      exact hCounter
  | remove name =>
    have hRemove := h.tells_adopt (Registry.remove_moves s.registry name)
      (Registry.configuration_remove s.registry name)
    rw [perform]
    split <;>
    · next hRemoved =>
      rw [hRemoved] at hRemove
      exact hRemove

theorem tells_metric (h : s.Watched) (measure : Measure) (name : String) (level : Level)
    (ancestors : List Level) : s.Tells (s.metric measure name level ancestors).1 :=
  h.tells_adopt (Registry.metric_moves _ _ _ _ _ _) (Registry.configuration_metric _ _ _ _ _ _)

/-- A gauge is asked for after its supplier has got a place among the sources. -/
theorem tells_gauge (h : s.Watched) (name : String) (level : Level) (timeout : Option Duration)
    (supplier : Supplier) :
    s.Tells (match timeout with
      | some timeout => s.addSource.1.cachedGauge name level timeout supplier s.addSource.2
      | none => s.addSource.1.gauge name level supplier s.addSource.2).1 := by
  have hSource : s.addSource.1.Watched := h.adopt (Registry.addSource_moves s.registry)
  cases timeout with
  | some timeout =>
    exact .of_same (hSource.adopt (Registry.cachedGauge_moves _ _ _ _ _ _))
      (Registry.configuration_cachedGauge _ _ _ _ _ _) rfl
  | none =>
    exact .of_same (hSource.adopt (Registry.gauge_moves _ _ _ _ _))
      (Registry.configuration_gauge _ _ _ _ _) rfl

/-- What a watchable command tells. -/
theorem run (h : st.service.Watched) (hCommand : c.Watchable) :
    st.service.Tells (st.run c).1.service := by
  cases c with
  | act action =>
    rw [Session.run, Session.service_act]
    exact h.tells_perform hCommand
  | metric label measure name level ancestors =>
    rw [Session.run, Session.service_got]
    exact h.tells_metric measure name level ancestors
  | gauge label name level timeout supplier =>
    rw [Session.run, Session.service_got]
    exact h.tells_gauge name level timeout supplier
  | find label kind name =>
    rw [Session.run]
    split <;> exact h.tells_self
  | accepted label names =>
    rw [Session.run]
    split <;> exact h.tells_self
  | timesAsked label =>
    rw [Session.run]
    split <;> exact h.tells_self
  | filter | isEnabled | rootLevel | levelOf | sizes | registryShown => exact h.tells_self
  | _ => exact hCommand.elim

end Service.Watched

/-! ## Runs -/

namespace Session

/-- The service before and after each of some commands. -/
def trace (st : Session) : List Command → List (Service × Service)
  | [] => []
  | c :: rest => (st.service, (st.run c).1.service) :: (st.run c).1.trace rest

/-- The changes that some commands told of, in their order. -/
def tellings (st : Session) (commands : List Command) : List Change :=
  (st.trace commands).flatMap fun step => step.1.registry.told step.2.registry

/-- What everybody puts into the journal during some commands. -/
def chronicle (st : Session) (commands : List Command) : List Note :=
  (st.trace commands).flatMap fun step =>
    (step.1.registry.told step.2.registry).flatMap step.2.heeded

end Session

open Service

/-- What a run of watchable commands tells. -/
structure Session.TellsAll (st : Session) (commands : List Command) : Prop where
  watched : (st.after commands).service.Watched
  steps : ∀ step ∈ st.trace commands, step.1.Tells step.2
  journal : (st.after commands).service.site.journal =
    st.service.site.journal ++ st.chronicle commands
  switch : Linked st.service.registry.enabled ((st.tellings commands).filterMap Change.switched?)
    (st.after commands).service.registry.enabled
  root : Linked st.service.registry.levels.root ((st.tellings commands).filterMap Change.root?)
    (st.after commands).service.registry.levels.root
  level : ∀ name, Linked (st.service.registry.levels.level? name)
    ((st.tellings commands).filterMap (Change.level? name))
    ((st.after commands).service.registry.levels.level? name)

/-- By induction on the commands: each begins where the ones before it have ended. -/
theorem Service.Watched.runAll {st : Session} {commands : List Command} (h : st.service.Watched)
    (hCommands : ∀ c ∈ commands, c.Watchable) : st.TellsAll commands := by
  induction commands generalizing st with
  | nil =>
    have hNone : ∀ step ∈ st.trace [], step.1.Tells step.2 :=
      fun _ hMem => absurd hMem List.not_mem_nil
    exact ⟨h, hNone, (List.append_nil _).symm, .none _, .none _, fun _ => .none _⟩
  | cons c rest ih =>
    obtain ⟨hFirst, hRest⟩ := List.forall_mem_cons.mp hCommands
    have hTells := h.run hFirst
    have hThen := ih hTells.watched hRest
    have hTellings : st.tellings (c :: rest) =
        st.service.registry.told (st.run c).1.service.registry ++ (st.run c).1.tellings rest := by
      rw [Session.tellings, Session.trace, List.flatMap_cons]
      rfl
    refine ⟨hThen.watched, List.forall_mem_cons.mpr ⟨hTells, hThen.steps⟩, ?_, ?_, ?_,
      fun name => ?_⟩
    · rw [Session.chronicle, Session.trace, List.flatMap_cons, ← List.append_assoc,
        ← hTells.journal]
      exact hThen.journal
    · rw [hTellings, List.filterMap_append]
      exact (Registry.linked_switch _ _).append hThen.switch
    · rw [hTellings, List.filterMap_append]
      exact (Registry.linked_root _ _).append hThen.root
    · rw [hTellings, List.filterMap_append]
      exact (Registry.linked_level hTells.keepsLevels name).append (hThen.level name)

/-! ## What one observer hears -/

theorem heardBy_notes (label : String) (r : Registry) (change : Change) (l : Listener) :
    (l.notes r change).filterMap (Note.heardBy label) =
      if l.bears label then [change] else [] := by
  cases l with
  | supervisor => rfl
  | observer o =>
    have hSeen : ((o.actions.map fun a => Note.acted o.label a (r.sight a)).filterMap
        (Note.heardBy label)) = [] := by
      rw [List.filterMap_map, List.filterMap_eq_nil_iff]
      exact fun _ _ => rfl
    rw [Listener.notes, List.filterMap_cons, hSeen, Note.heardBy, Listener.bears]
    by_cases hLabel : o.label = label <;> simp [hLabel]

/-- An announcement is heard once by each observer of a label. -/
theorem heardBy_heeded (s : Service) (label : String) (change : Change) :
    (s.heeded change).filterMap (Note.heardBy label) =
      List.replicate (s.bearers change.channel label) change := by
  rw [heeded, bearers]
  induction (s.listeners change.channel).subscribers with
  | nil => rfl
  | cons l rest ih =>
    rw [List.flatMap_cons, List.filterMap_append, heardBy_notes, ih, List.countP_cons]
    by_cases hBears : l.bears label = true
    · rw [if_pos hBears, if_pos hBears, List.replicate_succ]
      rfl
    · rw [if_neg hBears, if_neg hBears]
      rfl

/-- Whoever is the only observer of a label, among those who hear of one kind of change, hears of
each change of this kind once. -/
theorem heardBy_told {s : Service} {channel : Channel} {label : String}
    (hThere : ∀ other, s.bearers other label = if other = channel then 1 else 0)
    (changes : List Change) :
    (changes.flatMap s.heeded).filterMap (Note.heardBy label) =
      changes.filter fun change => change.channel = channel := by
  induction changes with
  | nil => rfl
  | cons change rest ih =>
    rw [List.flatMap_cons, List.filterMap_append, heardBy_heeded, hThere, ih, List.filter_cons]
    by_cases hChannel : change.channel = channel
    · simp [hChannel]
    · simp [hChannel]

/-- Whoever was there throughout has heard of everything that was told. -/
theorem heardBy_chronicle {st : Session} {commands : List Command} {channel : Channel}
    {label : String}
    (hThere : ∀ n other, (st.after (commands.take n)).service.bearers other label =
      if other = channel then 1 else 0) :
    (st.chronicle commands).filterMap (Note.heardBy label) =
      (st.tellings commands).filter fun change => change.channel = channel := by
  induction commands generalizing st with
  | nil => rfl
  | cons c rest ih =>
    have hNext : ∀ other, (st.run c).1.service.bearers other label =
        if other = channel then 1 else 0 := hThere 1
    have hRest : ((st.run c).1.chronicle rest).filterMap (Note.heardBy label) =
        ((st.run c).1.tellings rest).filter fun change => change.channel = channel :=
      ih fun n => hThere (n + 1)
    rw [Session.chronicle, Session.tellings, Session.trace, List.flatMap_cons, List.flatMap_cons,
      List.filterMap_append, List.filter_append, heardBy_told hNext]
    exact congrArg _ hRest

theorem Change.switched?_of_channel {change : Change} (h : change.channel ≠ .switch) :
    change.switched? = none := by
  cases change with
  | switch on => exact absurd rfl h
  | root | metric => rfl

theorem Change.root?_of_channel {change : Change} (h : change.channel ≠ .root) :
    change.root? = none := by
  cases change with
  | root old new => exact absurd rfl h
  | switch | metric => rfl

theorem Change.level?_of_channel {change : Change} (h : change.channel ≠ .metric) (name : String) :
    change.level? name = none := by
  cases change with
  | metric other old new => exact absurd rfl h
  | switch | root => rfl

/-- A view of one kind of change does not see the others. -/
theorem filterMap_filter_channel {α : Type} {view : Change → Option α} {channel : Channel}
    (hView : ∀ change : Change, change.channel ≠ channel → view change = none)
    (changes : List Change) :
    (changes.filter fun change => change.channel = channel).filterMap view =
      changes.filterMap view := by
  rw [List.filterMap_filter]
  congr 1
  funext change
  by_cases hChannel : change.channel = channel
  · rw [if_pos (decide_eq_true hChannel)]
  · rw [if_neg (by simpa using hChannel), hView change hChannel]

/-- A service is made and used by whatever watchable commands there are, and then some more. The
journal of these tells, call by call, what is configured differently afterwards; of each change
all who hear of its kind are told in the order of their coming, and what they see is what is
configured since. An observer that was there throughout has heard of each change of its kind once,
in the order of the calls, and what it heard leads without a gap from what was configured at first
to what is configured in the end. A level that is refused is told to nobody. -/
theorem change_history_run (host : Host) (now : Instant) (levels : LevelMap) (window : Window)
    (on : Bool) (before commands : List Command) (hBefore : ∀ c ∈ before, c.Watchable)
    (hCommands : ∀ c ∈ commands, c.Watchable) :
    let start := (Session.new (.new host now (.new levels window on))).after before
    let final := start.after commands
    let first := start.service.registry
    let last := final.service.registry
    final.service.site.journal = start.service.site.journal ++ start.chronicle commands ∧
    (∀ step ∈ start.trace commands, (step.1.registry.told step.2.registry).length ≤ 1 ∧
      ∀ channel, (step.2.listeners channel).InOrder) ∧
    (∀ name level, last.has name = false →
      (final.run (.act (.setLevel name level))).2 =
        .error (.failed (.refused (.notFound name))) ∧
      (final.run (.act (.setLevel name level))).1.service.site.journal =
        final.service.site.journal) ∧
    ∀ (channel : Channel) (label : String),
      (∀ n other, (start.after (commands.take n)).service.bearers other label =
        if other = channel then 1 else 0) →
      let since := final.service.site.journal.drop start.service.site.journal.length
      let heard := since.filterMap (Note.heardBy label)
      heard = (start.tellings commands).filter (fun change => change.channel = channel) ∧
      (channel = .switch → Linked first.enabled (heard.filterMap Change.switched?) last.enabled) ∧
      (channel = .root →
        Linked first.levels.root (heard.filterMap Change.root?) last.levels.root) ∧
      (channel = .metric → ∀ name, Linked (first.levels.level? name)
        (heard.filterMap (Change.level? name)) (last.levels.level? name)) := by
  intro start final first last
  have hStart : start.service.Watched :=
    ((watched_new host now levels window on).runAll hBefore).watched
  have hTells := hStart.runAll hCommands
  refine ⟨hTells.journal, fun step hStep => ?_, fun name level hMissing => ?_,
    fun channel label hThere => ?_⟩
  · have hStep := hTells.steps step hStep
    exact ⟨hStep.single, hStep.watched.inOrder⟩
  · rcases last.setLevel_cases name level with ⟨-, hRefused⟩ | ⟨hRegistered, -⟩
    · have hPerformed : final.service.perform announce (.setLevel name level) =
          (final.service.adopt last, some (.error (.refused (.notFound name)))) := by
        have hLast : final.service.registry.setLevel name level = _ := hRefused
        rw [perform, changedLevel, hLast]
      rw [Session.run, Session.act, hPerformed]
      exact ⟨rfl, rfl⟩
    · cases hMissing.symm.trans hRegistered
  · intro since heard
    have hSince : since = start.chronicle commands := by
      show List.drop _ final.service.site.journal = _
      rw [hTells.journal, List.drop_left]
    have hHeard : heard =
        (start.tellings commands).filter fun change => change.channel = channel := by
      show List.filterMap _ since = _
      rw [hSince, heardBy_chronicle hThere]
    refine ⟨hHeard, ?_, ?_, ?_⟩
    · rintro rfl
      rw [hHeard, filterMap_filter_channel fun _ h => Change.switched?_of_channel h]
      exact hTells.switch
    · rintro rfl
      rw [hHeard, filterMap_filter_channel fun _ h => Change.root?_of_channel h]
      exact hTells.root
    · rintro rfl name
      rw [hHeard, filterMap_filter_channel fun _ h => Change.level?_of_channel h name]
      exact hTells.level name

/-- An observer that hears of levels, where a level is configured twice, a metric without a name of
its own is refused, and a metric is removed and made anew before its level changes again. -/
theorem change_history_heard :
    let before : List Command := [.metric "c" .counter "a.b" .debug [],
      .act (.subscribe .metric "ear" [.probe "a.b", .count])]
    let commands : List Command := [.act (.setLevel "a.b" .debug), .act (.setLevel "a.b" .debug),
      .act (.setRoot .all), .act (.setLevel "x" .off), .act (.remove "a.b"),
      .metric "c" .counter "a.b" .debug [], .act (.setLevel "a.b" .off)]
    let start := (Session.new (.new ⟨0, ⟨.empty⟩, "", []⟩ 0 (.new default (.values 4) true))).after
      before
    let final := start.after commands
    let since := final.service.site.journal.drop start.service.site.journal.length
    since.filterMap (Note.heardBy "ear") =
      [.metric "a.b" none .debug, .metric "a.b" (some .debug) .off] ∧
    Linked none [(none, some .debug), (some .debug, some .off)]
      (final.service.registry.levels.level? "a.b") := by
  intro before commands start final since
  have hBefore : ∀ c ∈ before, c.Watchable := by
    simp [before, Command.Watchable, Action.Watchable, Action.observes]
  have hCommands : ∀ c ∈ commands, c.Watchable := by
    simp [commands, Command.Watchable, Action.Watchable]
  have hThere : ∀ n other, (start.after (commands.take n)).service.bearers other "ear" =
      if other = .metric then 1 else 0 := by
    have hShort : ∀ n < 8, (start.after (commands.take n)).service.bearers .switch "ear" = 0 ∧
        (start.after (commands.take n)).service.bearers .root "ear" = 0 ∧
        (start.after (commands.take n)).service.bearers .metric "ear" = 1 := by
      decide +kernel
    intro n other
    have hTake : commands.take n = commands.take (min n 7) := by
      rw [List.take_eq_take_iff]
      simp [commands]
    obtain ⟨hSwitch, hRoot, hMetric⟩ := hShort (min n 7) (by omega)
    rw [hTake]
    cases other with
    | switch => exact hSwitch
    | root => exact hRoot
    | metric => exact hMetric
  have hTold : (start.tellings commands).filter (fun change => change.channel = .metric) =
      [.metric "a.b" none .debug, .metric "a.b" (some .debug) .off] := by decide +kernel
  have hFirst : start.service.registry.levels.level? "a.b" = none := by decide +kernel
  obtain ⟨-, -, -, hHeard⟩ :=
    change_history_run ⟨0, ⟨.empty⟩, "", []⟩ 0 default (.values 4) true before commands hBefore
      hCommands
  obtain ⟨hHistory, -, -, hLinked⟩ := hHeard .metric "ear" hThere
  have hLevels := hLinked rfl "a.b"
  rw [hTold] at hHistory
  rw [hHistory, hFirst] at hLevels
  -- the two sessions are spelled out, or else they would be compared by running the commands
  dsimp only [since, final, start]
  exact ⟨hHistory, hLevels⟩

end Metering
