import Metering.Proofs.Report.Restart
import Metering.Proofs.Service.Wiring
import Metering.Proofs.Session.Turnover

/-!
# Metering — what a change of levels does to reporters

Whatever was done to reporters one by one: when a level changes, the supervisor stops and starts
those that follow the metrics and run, once each, in the order of their names. Nobody else is
called, and afterwards the same reporters run. To configure a level that is configured already, or
the level of a metric that is not there, does not get as far as the supervisor.

* `Listener.StandsBy` — who hears of a change and makes none;
* `Service.Untouched` — no reporter was called meanwhile;
* `Service.Restarted` — reporters started anew that had to, and no other was called;
* `Leveled.announce_restarts`, `Leveled.announce_returns` — what the announcement of a new level
  comes to;
* `wired_run` — commands by which the supervisor goes on hearing;
* `level_changes_restart_run` — all of this for every session.
-/

namespace Metering

open Report

/-! ## Those who stand by -/

/-- Somebody who hears of a change makes none. The supervisor never does. -/
def Listener.StandsBy : Listener → Prop
  | .observer o => ∀ a ∈ o.actions, a.announces = false
  | .supervisor => True

instance : DecidablePred Listener.StandsBy
  | .observer o => inferInstanceAs (Decidable (∀ a ∈ o.actions, a.announces = false))
  | .supervisor => inferInstanceAs (Decidable True)

/-- Somebody who hears of a change does not break off. All other actions ask something of the
service. -/
def Listener.Returns : Listener → Prop
  | .observer o => ∀ a ∈ o.actions, a.callsBack = true
  | .supervisor => True

instance : DecidablePred Listener.Returns
  | .observer o => inferInstanceAs (Decidable (∀ a ∈ o.actions, a.callsBack = true))
  | .supervisor => inferInstanceAs (Decidable True)

/-- Whether an entry of the journal tells of a call. -/
def Note.isCall : Note → Bool
  | .called .. => true
  | .heard .. | .acted .. => false

namespace Service

variable {s s' s'' : Service} {o : Observer} {change : Change} {level : Level}
  {announcing : Change → Service → Service × Bool}

/-- No reporter was called: reporters are what they were, the log has got notices of the registry at
most, and the journal tells of no call. -/
structure Untouched (s s' : Service) : Prop where
  supervisor : s'.supervisor = s.supervisor
  host : ∃ notices : List Notice, s'.site.host =
    { s.site.host with log := s.site.host.log ++ notices.map Notice.entry }
  journal : ∃ notes : List Note, s'.site.journal = s.site.journal ++ notes ∧
    ∀ n ∈ notes, n.isCall = false

/-- The reporters that had to start anew did, in the order of their names, and no other was called:
so the journal tells and the log. The same reporters are there, and the same of them run. -/
structure Restarted (s s' : Service) : Prop where
  names : s'.reporterNames = s.reporterNames
  running : ∀ name, s'.reporters.running? name = s.reporters.running? name
  others : ∀ name r, s.reporters.byName.get? name = some r → ¬ r.Follows →
    s'.reporters.byName.get? name = some r
  host : ∃ before after : List Notice, s'.site.host =
    { s.site.host with log := s.site.host.log ++ (before.map Notice.entry ++
      s.reporters.byName.values.flatMap Reporter.restartLines ++ after.map Notice.entry) }
  journal : ∃ before after : List Note, s'.site.journal = s.site.journal ++ (before ++
      s.reporters.byName.values.flatMap Reporter.restartCalls ++ after) ∧
    ∀ n ∈ before ++ after, n.isCall = false

namespace Untouched

theorem of_same (hSite : s'.site = s.site) (hSupervisor : s'.supervisor = s.supervisor) :
    s.Untouched s' :=
  ⟨hSupervisor, ⟨[], by rw [hSite, List.map_nil, List.append_nil]⟩,
    [], by rw [hSite, List.append_nil], nofun⟩

theorem refl (s : Service) : s.Untouched s := of_same rfl rfl

theorem trans (h : s.Untouched s') (h' : s'.Untouched s'') : s.Untouched s'' := by
  obtain ⟨notices, hHost⟩ := h.host
  obtain ⟨notices', hHost'⟩ := h'.host
  obtain ⟨notes, hJournal, hNotes⟩ := h.journal
  obtain ⟨notes', hJournal', hNotes'⟩ := h'.journal
  refine ⟨h'.supervisor.trans h.supervisor, ⟨notices ++ notices', ?_⟩, notes ++ notes', ?_,
    List.forall_mem_append.mpr ⟨hNotes, hNotes'⟩⟩
  · rw [hHost', hHost, List.map_append, List.append_assoc]
  · rw [hJournal', hJournal, List.append_assoc]

theorem reporters (h : s.Untouched s') : s'.reporters.byName = s.reporters.byName := by
  rw [Service.reporters, Service.reporters, h.supervisor]

/-- The registry has changed; its notices go into the log. -/
theorem adopt (s : Service) (r : Registry) : s.Untouched (s.adopt r) where
  supervisor := rfl
  host := ⟨r.trail, rfl⟩
  journal := ⟨[], (List.append_nil _).symm, nofun⟩

theorem note (s : Service) {n : Note} (h : n.isCall = false) :
    s.Untouched { s with site := s.site.note n } where
  supervisor := rfl
  host := ⟨[], by rw [List.map_nil, List.append_nil]; rfl⟩
  journal := ⟨[n], rfl, fun n' hMem => List.mem_singleton.mp hMem ▸ h⟩

/-! ## Observers -/

theorem subscribe (s : Service) (channel : Channel) (o : Observer) :
    s.Untouched (s.subscribe channel o) := by
  cases channel <;> exact of_same rfl rfl

theorem leave (s : Service) (label : String) (among : Option Channel) :
    s.Untouched (s.leave label among).1 := by
  rw [Service.leave]
  split
  · next channel _ _ => cases among.getD channel <;> exact of_same rfl rfl
  · exact refl s

/-- Observers that make no changes call no reporter. -/
theorem kept (s : Service) (announcing : Change → Service → Service × Bool) :
    Kept s.Untouched (fun a => a.announces = false) announcing where
  adopt now r h := h.trans (adopt now r)
  note now n hCall h := by
    refine h.trans (note now ?_)
    cases n with
    | called tag call well => exact absurd rfl (hCall tag call well)
    | heard | acted => rfl
  subscribe now channel label actions _ h := h.trans (subscribe now channel ⟨label, actions⟩)
  leave now label among _ h := h.trans (leave now label among)
  announce _ hAnnounces hNot := absurd hAnnounces (Bool.eq_false_iff.mp hNot)

theorem observers {os : List Observer} (h : ∀ o ∈ os, (Listener.observer o).StandsBy)
    (announcing : Change → Service → Service × Bool) (change : Change) (s : Service) :
    s.Untouched (inTurn (Service.respond announcing change) (os.map .observer) s).1 := by
  refine inTurn_keeps (P := s.Untouched) _ (fun l hMem now hNow => ?_) (refl s)
  obtain ⟨o, ho, rfl⟩ := List.mem_map.mp hMem
  exact (kept s announcing).respond (h o ho) change hNow

end Untouched

/-! ## The supervisor's turn -/

theorem running?_congr {rs rs' : Reporters} {name : String}
    (h : Option.Rel Reporter.Again (rs.byName.get? name) (rs'.byName.get? name)) :
    rs'.running? name = rs.running? name := by
  rw [Reporters.running?, Reporters.running?]
  generalize rs.byName.get? name = before at h
  generalize rs'.byName.get? name = after at h
  cases h with
  | none => rfl
  | some hAgain =>
    dsimp only
    rw [hAgain.running]

/-- The supervisor hears of a new level. -/
theorem restarted_supervised (hHired : s.supervisor.isSome = true)
    (hReliable : ∀ name r, s.reporters.byName.get? name = some r → r.Reliable) :
    (s.supervised Reporters.restartListening).2 = true ∧
      s.Restarted (s.supervised Reporters.restartListening).1 := by
  obtain ⟨rs', hListening, hRestarted⟩ := Reporters.restarted_restartListening hReliable
  have hThere : (s.supervised Reporters.restartListening).1.reporters = rs' := by
    rw [reporters_supervised hHired, hListening]
  have hSite : (s.supervised Reporters.restartListening).1.site = rs'.site := by
    rw [← hThere]
    rfl
  refine ⟨by rw [supervised, hListening], ?_, fun name => ?_, fun name r hAt hNot => ?_,
    ⟨[], [], ?_⟩, [], [], ?_, nofun⟩
  · rw [reporterNames, reporterNames, hThere]
    refine NameMap.names_eq_of_contains_eq fun name => ?_
    have hAgain := hRestarted.again name
    rw [NameMap.contains, NameMap.contains]
    generalize s.reporters.byName.get? name = before at hAgain
    generalize rs'.byName.get? name = after at hAgain
    cases hAgain <;> rfl
  · rw [hThere]
    exact running?_congr (hRestarted.again name)
  · have hAgain := hRestarted.again name
    rw [hThere]
    rw [hAt] at hAgain
    cases hAfter : rs'.byName.get? name with
    | none =>
      rw [hAfter] at hAgain
      cases hAgain
    | some r' =>
      rw [hAfter] at hAgain
      cases hAgain with
      | some hSame => rw [hSame.same hNot]
  · rw [hSite, hRestarted.site, List.map_nil, List.nil_append, List.append_nil]
    rfl
  · rw [hSite, hRestarted.site, List.nil_append, List.append_nil]
    rfl

/-- What others do before makes no difference. -/
theorem Untouched.restarted (h : s.Untouched s') (h' : s'.Restarted s'') : s.Restarted s'' := by
  have hThere := h.reporters
  obtain ⟨notices, hHost⟩ := h.host
  obtain ⟨notes, hJournal, hNotes⟩ := h.journal
  obtain ⟨before, after, hHost'⟩ := h'.host
  obtain ⟨ahead, behind, hJournal', hNotes'⟩ := h'.journal
  refine ⟨h'.names.trans (congrArg NameMap.names hThere), fun name => ?_,
    fun name r hAt hNot => ?_, ⟨notices ++ before, after, ?_⟩, notes ++ ahead, behind, ?_, ?_⟩
  · rw [h'.running, Reporters.running?, Reporters.running?, hThere]
  · exact h'.others name r (by rw [hThere, hAt]) hNot
  · rw [hHost', hHost, hThere]
    simp only [List.map_append, List.append_assoc]
  · rw [hJournal', hJournal, hThere]
    simp only [List.append_assoc]
  · rw [List.append_assoc]
    exact List.forall_mem_append.mpr ⟨hNotes, hNotes'⟩

/-- Neither does what others do afterwards. -/
theorem Restarted.untouched (h : s.Restarted s') (h' : s'.Untouched s'') : s.Restarted s'' := by
  have hThere := h'.reporters
  obtain ⟨before, after, hHost⟩ := h.host
  obtain ⟨ahead, behind, hJournal, hNotes⟩ := h.journal
  obtain ⟨notices, hHost'⟩ := h'.host
  obtain ⟨notes, hJournal', hNotes'⟩ := h'.journal
  refine ⟨(congrArg NameMap.names hThere).trans h.names, fun name => ?_,
    fun name r hAt hNot => ?_, ⟨before, after ++ notices, ?_⟩, ahead, behind ++ notes, ?_, ?_⟩
  · rw [← h.running, Reporters.running?, Reporters.running?, hThere]
  · rw [hThere]
    exact h.others name r hAt hNot
  · rw [hHost', hHost]
    simp only [List.map_append, List.append_assoc]
  · rw [hJournal', hJournal]
    simp only [List.append_assoc]
  · rw [← List.append_assoc]
    exact List.forall_mem_append.mpr ⟨hNotes, hNotes'⟩

/-! ## Announcements -/

/-- A supervisor that hears of levels, with reporters that can be started and stopped, among
observers that make no changes. -/
structure Leveled (s : Service) : Prop where
  hired : s.supervisor.isSome = true
  reliable : ∀ name r, s.reporters.byName.get? name = some r → r.Reliable
  heard : ∀ channel, ∃ ahead behind : List Observer, (s.listeners channel).subscribers =
    ahead.map .observer ++ .supervisor :: behind.map .observer
  standBy : ∀ channel, channel ≠ .switch →
    ∀ l ∈ (s.listeners channel).subscribers, l.StandsBy

theorem Leveled.adopt (h : s.Leveled) (r : Registry) : (s.adopt r).Leveled where
  hired := h.hired
  reliable := h.reliable
  heard channel := listeners_onSite s _ channel ▸ h.heard channel
  standBy channel := listeners_onSite s _ channel ▸ h.standBy channel

theorem heed_level (hLevel : change.channel ≠ .switch) (rs : Reporters) :
    rs.heed change = rs.restartListening := by
  cases change with
  | switch on => exact absurd rfl hLevel
  | root | metric => rfl

/-- The announcement of a new level gets to the supervisor by way of those ahead of it, and then on
to those behind it, unless somebody ahead breaks off. -/
theorem Leveled.announce_eq (h : s.Leveled) (hLevel : change.channel ≠ .switch) :
    ∃ ahead behind : List Observer, (s.listeners change.channel).subscribers =
        ahead.map .observer ++ .supervisor :: behind.map .observer ∧
      (∀ o ∈ ahead, (Listener.observer o).StandsBy) ∧
      (∀ o ∈ behind, (Listener.observer o).StandsBy) ∧
      let first := inTurn (respond (announceTo 999) change) (ahead.map .observer) s
      let heeded := (first.1.supervised Reporters.restartListening).1
      s.Restarted heeded ∧
      announce change s = if first.2 then
          inTurn (respond (announceTo 999) change) (behind.map .observer) heeded
        else first := by
  obtain ⟨ahead, behind, hSubscribers⟩ := h.heard change.channel
  have hStandBy := h.standBy _ hLevel
  rw [hSubscribers, List.forall_mem_append, List.forall_mem_cons, List.forall_mem_map,
    List.forall_mem_map] at hStandBy
  obtain ⟨hAhead, -, hBehind⟩ := hStandBy
  refine ⟨ahead, behind, hSubscribers, hAhead, hBehind, ?_⟩
  intro first heeded
  have hFirst : s.Untouched first.1 := .observers hAhead (announceTo 999) change s
  obtain ⟨hThrough, hRestarted⟩ := restarted_supervised (s := first.1)
    (by rw [hFirst.supervisor, h.hired]) (by rw [hFirst.reporters]; exact h.reliable)
  -- it makes no difference which level has changed
  have hRespond : respond (announceTo 999) change .supervisor first.1 =
      first.1.supervised Reporters.restartListening := by
    rw [respond]
    exact congrArg first.1.supervised (funext (heed_level hLevel))
  refine ⟨hFirst.restarted hRestarted, ?_⟩
  rw [Service.announce_eq, hSubscribers, inTurn_append, inTurn_cons, hRespond, if_pos hThrough]

theorem Leveled.announce_restarts (h : s.Leveled) (hLevel : change.channel ≠ .switch) :
    s.Restarted (announce change s).1 ∨
      (announce change s).2 = false ∧ s.Untouched (announce change s).1 := by
  obtain ⟨ahead, behind, -, hAhead, hBehind, hHeeded, hAnnounce⟩ := h.announce_eq hLevel
  rw [hAnnounce]
  split
  · exact .inl (hHeeded.untouched (.observers hBehind _ change _))
  · next hBroken =>
    exact .inr ⟨Bool.eq_false_iff.mpr hBroken, .observers hAhead (announceTo 999) change s⟩

/-! ## Announcements that return -/

theorem performNoted_returns (label : String) {action : Action} (h : action.announces = false)
    (hOn : action ≠ .breakOff) (s : Service) :
    (performNoted announcing label action s).2 = true := by
  have hPerform : (s.perform announcing action).2.isSome = true := by
    cases action with
    | probe name =>
      rw [perform]
      split <;> rfl
    | count | subscribe => rfl
    | leave label among =>
      rw [perform]
      split <;> rfl
    | counter name level =>
      rw [perform]
      split <;> rfl
    | remove name =>
      rw [perform]
      split <;> rfl
    | breakOff => exact absurd rfl hOn
    | setRoot | setLevel | setEnabled => cases h
  rw [performNoted]
  split
  · rfl
  · next hOutcome =>
    rw [hOutcome] at hPerform
    cases hPerform

theorem observers_return {os : List Observer} (h : ∀ o ∈ os, (Listener.observer o).StandsBy)
    (hReturn : ∀ o ∈ os, (Listener.observer o).Returns) (s : Service) :
    (inTurn (respond announcing change) (os.map .observer) s).2 = true := by
  refine inTurn_returns (fun l hMem now => ?_) s
  obtain ⟨o, ho, rfl⟩ := List.mem_map.mp hMem
  refine inTurn_returns (fun action hAction then_ => ?_) _
  refine performNoted_returns o.label (h o ho action hAction) ?_ then_
  rintro rfl
  cases hReturn o ho _ hAction

/-- The announcement of a new level comes to its end if nobody breaks off. -/
theorem Leveled.announce_returns (h : s.Leveled) (hLevel : change.channel ≠ .switch)
    (hReturn : ∀ l ∈ (s.listeners change.channel).subscribers, l.Returns) :
    (announce change s).2 = true := by
  obtain ⟨ahead, behind, hSubscribers, hAhead, hBehind, -, hAnnounce⟩ := h.announce_eq hLevel
  rw [hSubscribers, List.forall_mem_append, List.forall_mem_cons, List.forall_mem_map,
    List.forall_mem_map] at hReturn
  rw [hAnnounce, if_pos (observers_return hAhead hReturn.1 s)]
  exact observers_return hBehind hReturn.2.2 _

/-! ## Levels -/

/-- What a call comes to that may change a level: whether it returned, and the service
afterwards. -/
theorem Leveled.changed (h : s.Leveled) {r : Registry} (hLevel : change.channel ≠ .switch) :
    let after := s.changed announce (r, some change)
    (s.Restarted after.1 ∨ after.2 = false ∧ s.Untouched after.1) ∧
      ((∀ l ∈ (s.listeners change.channel).subscribers, l.Returns) → after.2 = true) := by
  have hAdopted := Untouched.adopt s r
  refine ⟨?_, fun hReturn => ?_⟩
  · obtain hRestarted | ⟨hBroken, hUntouched⟩ := (h.adopt r).announce_restarts hLevel
    · exact .inl (hAdopted.restarted hRestarted)
    · exact .inr ⟨hBroken, hAdopted.trans hUntouched⟩
  · refine (h.adopt r).announce_returns hLevel ?_
    rw [Service.adopt, listeners_onSite]
    exact hReturn

theorem Leveled.setRoot (h : s.Leveled) (hNew : s.registry.levels.root ≠ level) :
    let after := s.setRoot level
    (s.Restarted after.1 ∨ after.2 = false ∧ s.Untouched after.1) ∧
      ((∀ l ∈ s.rootListeners.subscribers, l.Returns) → after.2 = true) := by
  rw [Service.setRoot, Registry.setRoot, if_neg hNew]
  exact h.changed fun hSame => by cases hSame

theorem setRoot_same (hSame : s.registry.levels.root = level) :
    (s.setRoot level).2 = true ∧ s.Untouched (s.setRoot level).1 := by
  rw [Service.setRoot, Registry.setRoot, if_pos hSame]
  exact ⟨rfl, .adopt s s.registry⟩

/-- The answer says whether the announcement came to its end. -/
theorem changedLevel_eq {name : String} {r : Registry} {change : Option Change}
    (h : s.registry.setLevel name level = (r, .ok change)) :
    s.changedLevel announcing name level = ((s.changed announcing (r, change)).1,
      if (s.changed announcing (r, change)).2 then .ok () else .error .brokenOff) := by
  rw [changedLevel, h]
  dsimp only
  split <;> (next hChanged => rw [hChanged]; rfl)

theorem Leveled.setLevel (h : s.Leveled) {name : String} (hThere : s.registry.has name = true)
    (hNew : s.registry.levels.level? name ≠ some level) :
    let after := s.setLevel name level
    (s.Restarted after.1 ∨ after.2 = .error .brokenOff ∧ s.Untouched after.1) ∧
      ((∀ l ∈ s.metricListeners.subscribers, l.Returns) → after.2 = .ok ()) := by
  have hOutcome : ∃ r, s.registry.setLevel name level =
      (r, .ok (some (.metric name (s.registry.levels.level? name) level))) := by
    rw [Registry.setLevel, if_pos hThere, if_neg hNew]
    exact ⟨_, rfl⟩
  obtain ⟨r, hOutcome⟩ := hOutcome
  have hLevel : (Change.metric name (s.registry.levels.level? name) level).channel ≠ .switch := by
    intro hSame
    cases hSame
  obtain ⟨hAfter, hReturns⟩ := h.changed (r := r) hLevel
  rw [Service.setLevel, changedLevel_eq hOutcome]
  refine ⟨hAfter.imp_right fun hBroken => ⟨?_, hBroken.2⟩, fun hReturn => ?_⟩
  · rw [if_neg (Bool.eq_false_iff.mp hBroken.1)]
  · rw [if_pos (hReturns hReturn)]

theorem setLevel_same {name : String} (hThere : s.registry.has name = true)
    (hSame : s.registry.levels.level? name = some level) :
    (s.setLevel name level).2 = .ok () ∧ s.Untouched (s.setLevel name level).1 := by
  have hOutcome : s.registry.setLevel name level = (s.registry, .ok none) := by
    rw [Registry.setLevel, if_pos hThere, if_pos hSame]
  rw [Service.setLevel, changedLevel_eq hOutcome]
  exact ⟨rfl, .adopt s s.registry⟩

theorem setLevel_refused {name : String} (hGone : s.registry.has name = false) :
    (s.setLevel name level).2 = .error (.refused (.notFound name)) ∧
      s.Untouched (s.setLevel name level).1 := by
  have hOutcome : s.registry.setLevel name level = (s.registry, .error (.notFound name)) := by
    rw [Registry.setLevel, if_neg (Bool.eq_false_iff.mp hGone)]
  rw [Service.setLevel, changedLevel, hOutcome]
  exact ⟨rfl, .adopt s s.registry⟩

end Service

/-! ## Sessions -/

/-- A command by which nobody, now or later, leaves by a number from another kind of change. -/
def Command.Own : Command → Prop
  | .act action => action.Own
  | _ => True

namespace Session

variable {st : Session} {c : Command}

theorem wired_activate {s : Service} (h : s.Wired) : s.activate.1.Wired := by
  rw [Service.activate]
  split
  · exact h.changed _
  · exact h.onSite _

/-- The supervisor goes on hearing of all changes, if there is one. -/
theorem wired_run (h : st.service.Wired) (hOwn : c.Own) : (st.run c).1.service.Wired := by
  by_cases hConcerns : c.concerns = true
  · cases c with
    | act action =>
      rw [run, service_act]
      exact h.perform hOwn
    | register r => exact h.supervised fun rs => rs.register r
    | addBuiltIn b =>
      obtain ⟨host, hSame | ⟨p, -, hAdded⟩⟩ := addBuiltIn_cases st.service b
      · show (st.service.addBuiltIn b).1.Wired
        rw [hSame]
        exact h.onSite _
      · show (st.service.addBuiltIn b).1.Wired
        rw [hAdded]
        exact (h.onSite _).supervised _
    | discharge name => exact h.supervised fun rs => rs.discharge name
    | call kind name => exact h.supervised fun rs => rs.callOne (visitOf kind) name
    | callAll kind => exact h.supervised (visitAll kind)
    | activate => exact wired_activate h
    | deactivate => exact h.changed _
    | dropSupervisor => exact h.dropSupervisor
    | renewSupervisor => exact h.renewSupervisor
    | _ => cases hConcerns
  · have hFramed := framed_run st (Bool.eq_false_iff.mpr hConcerns)
    rw [hFramed.site]
    exact h.onSite _

theorem wired_after {commands : List Command} (h : st.service.Wired)
    (hOwn : ∀ c ∈ commands, c.Own) : (st.after commands).service.Wired := by
  induction commands generalizing st with
  | nil => exact h
  | cons c rest ih =>
    obtain ⟨hFirst, hRest⟩ := List.forall_mem_cons.mp hOwn
    exact ih (wired_run h hFirst) hRest

theorem wired_opened (host : Host) (now : Instant) (registry : Registry)
    (settings : Option Settings) : (opened host now registry settings).service.Wired := by
  have hNew := Service.wired_new host now registry
  exact hNew.of_same (fun channel => by cases channel <;> rfl) rfl rfl

/-- In every session, whatever was done before, in which nobody has left by a number from another
kind of change: where there is a supervisor with reporters that can be started and stopped, and
those who hear of levels make no changes themselves, every call that changes the root level or the
level of a registered metric has the reporters start anew that follow the metrics and run, one after
another, and nobody else called; unless an observer ahead of the supervisor breaks off, when the
call does not return and nobody is called. If nobody breaks off, the call returns. A call that
configures what is configured already, or that is refused, has nobody called. -/
theorem level_changes_restart_run (host : Host) (now : Instant) (registry : Registry)
    (settings : Option Settings) (commands : List Command) (hOwn : ∀ c ∈ commands, c.Own) :
    let st := (opened host now registry settings).after commands
    let s := st.service
    s.supervisor.isSome = true → (∀ r ∈ st.there, r.Reliable) →
    (∀ channel, channel ≠ .switch → ∀ l ∈ (s.listeners channel).subscribers, l.StandsBy) →
    (∀ level, let after := s.setRoot level
      (s.registry.levels.root ≠ level →
        (s.Restarted after.1 ∨ after.2 = false ∧ s.Untouched after.1) ∧
        ((∀ l ∈ s.rootListeners.subscribers, l.Returns) → after.2 = true)) ∧
      (s.registry.levels.root = level → after.2 = true ∧ s.Untouched after.1)) ∧
    ∀ name level, let after := s.setLevel name level
      (s.registry.has name = true → s.registry.levels.level? name ≠ some level →
        (s.Restarted after.1 ∨ after.2 = .error .brokenOff ∧ s.Untouched after.1) ∧
        ((∀ l ∈ s.metricListeners.subscribers, l.Returns) → after.2 = .ok ())) ∧
      (s.registry.has name = true → s.registry.levels.level? name = some level →
        after.2 = .ok () ∧ s.Untouched after.1) ∧
      (s.registry.has name = false →
        after.2 = .error (.refused (.notFound name)) ∧ s.Untouched after.1) := by
  intro st s hHired hReliable hStandBy
  -- the supervisor has gone on hearing, and nobody else hears in its place
  have hWired : s.Wired := wired_after (wired_opened host now registry settings) hOwn
  have hListening : s.Listening := by
    refine listening_after ?_ commands
    have hNew := Service.listening_new host now registry
    exact ⟨hNew.inOrder, hNew.own⟩
  have hLeveled : s.Leveled :=
    ⟨hHired, fun name r hAt => hReliable r (NameMap.mem_values_iff.mpr ⟨name, hAt⟩),
      hWired.subscribers_eq hListening hHired, hStandBy⟩
  exact ⟨fun level => ⟨hLeveled.setRoot, Service.setRoot_same⟩, fun name level =>
    ⟨hLeveled.setLevel, Service.setLevel_same, Service.setLevel_refused⟩⟩

/-- Of a reporter that polls, two that follow the metrics and one that does so and was stopped by
itself, the two that run start anew in the order of their names, while an observer looks on and
another one leaves. -/
theorem level_changes_restart_two :
    let reporter (name : String) (mode : Mode) : Reporter :=
      .scripted ⟨name, name, mode, false, [], [], []⟩
    let commands : List Command := [.act (.subscribe .root "look" [.count, .leave "look" none]),
      .renewSupervisor, .register (reporter "d" .listening), .register (reporter "c" .scheduled),
      .register (reporter "b" .listening), .register (reporter "a" .listening), .call .stop "b"]
    let s := ((opened ⟨0, ⟨.empty⟩, "", []⟩ 0 (.new ⟨.info, .empty⟩ (.values 4) true) none).after
      commands).service
    s.Restarted (s.setRoot .debug).1 ∧ (s.setRoot .debug).2 = true ∧
    (s.reporters.byName.values.filter fun r => r.Follows).map Reporter.name = ["a", "d"] ∧
    s.Untouched (s.setRoot .info).1 ∧ s.Untouched (s.setLevel "m" .debug).1 := by
  intro reporter commands s
  have hOwn : ∀ c ∈ commands, c.Own := by
    have hLook : Action.Own (.subscribe .root "look" [.count, .leave "look" none]) :=
      .subscribe (List.forall_mem_cons.mpr ⟨.other rfl, List.forall_mem_singleton.mpr .leave⟩)
    intro c hMem
    simp only [commands, List.mem_cons, List.not_mem_nil, or_false] at hMem
    rcases hMem with rfl | rfl | rfl | rfl | rfl | rfl | rfl <;> first | exact hLook | trivial
  have hReliable : ∀ r ∈ s.reporters.byName.values, r.Reliable := by decide +kernel
  have hStandBy : ∀ channel, channel ≠ .switch →
      ∀ l ∈ (s.listeners channel).subscribers, l.StandsBy := by
    intro channel _
    cases channel <;> decide +kernel
  obtain ⟨hRoot, hLevel⟩ := level_changes_restart_run _ _ _ _ commands hOwn (by decide +kernel)
    hReliable hStandBy
  obtain ⟨hRestarted, hReturns⟩ := (hRoot .debug).1 (by decide +kernel)
  have hThrough := hReturns (by decide +kernel)
  refine ⟨hRestarted.resolve_right fun hBroken => ?_, hThrough, by decide +kernel,
    ((hRoot .info).2 (by decide +kernel)).2, ((hLevel "m" .debug).2.2 (by decide +kernel)).2⟩
  cases hThrough.symm.trans hBroken.1

end Session

end Metering
