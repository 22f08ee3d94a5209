import Metering.Proofs.Report.BuiltIn
import Metering.Proofs.Report.Round
import Metering.Proofs.Service.Announcement
import Metering.Service.Metrics
import Metering.Service.Setup

/-!
# Metering — the reporters of the settings

A service that is set up registers the reporters of its settings one after another, each under its
name, in place of one that had the name before. They rest until the service is switched on.

* `BuiltIn.Holds` — a reporter that is as settings say, and runs or rests;
* `Prepared` — the invariant: for each name the reporter of the last settings that are on;
* `Prepared.addAll` — setting up keeps it;
* `Prepared.activate` — when the service is switched on, all these reporters run;
* `configured_reporters_report` — so it is for all settings, and one report is one round of them;
* `silent_of_shared_name` — the reporter of settings that share their name may be replaced.
-/

namespace Metering

open Report

/-! ## Reporters as settings say -/

section Rel

variable {α β : Type} {R : α → β → Prop} {o : Option α} {q : Option β} {a : α} {b : β}

theorem exists_of_rel_some (h : Option.Rel R o (some b)) : ∃ a, o = some a ∧ R a b := by
  cases h with
  | some h => exact ⟨_, rfl, h⟩

theorem exists_of_some_rel (h : Option.Rel R (some a) q) : ∃ b, q = some b ∧ R a b := by
  cases h with
  | some h => exact ⟨_, rfl, h⟩

theorem eq_none_of_rel_none (h : Option.Rel R o none) : o = none := by
  cases h
  rfl

end Rel

/-- A reporter that is as settings say, and that runs or rests. -/
def BuiltIn.Holds (on : Bool) (b : BuiltIn) (r : Reporter) : Prop :=
  ∃ p, r = .polled p ∧ b.Describes p ∧ p.running = on

/-- A reporter that rests is started where a thread can be named after it. -/
theorem BuiltIn.Holds.start {b : BuiltIn} {r : Reporter} (h : b.Holds false r)
    (hWork : canWork b.common.name = true) (site : Site) :
    (r.start site).2.2 = .done ∧ b.Holds true (r.start site).2.1 := by
  obtain ⟨p, rfl, hDescribes, hRests⟩ := h
  have hName : canWork p.name = true := hDescribes.name ▸ hWork
  rcases p.start_cases site.host with ⟨hRuns, -⟩ | ⟨-, host, hStart⟩ | ⟨hCannot, -⟩
  · rw [hRests] at hRuns
    cases hRuns
  · rw [Reporter.start, hStart]
    exact ⟨rfl, _, rfl, ⟨hDescribes.name, hDescribes.period, hDescribes.selection,
      hDescribes.sink⟩, rfl⟩
  · rw [hName] at hCannot
    cases hCannot

/-! ## Registering and starting -/

/-- While metrics are switched off, a reporter that is registered just takes its place. -/
theorem Reporters.register_off {rs : Reporters} (hOff : rs.site.registry.enabled = false)
    (r : Reporter) :
    (rs.register r).1.byName = rs.byName.insert r.name r ∧
      (rs.register r).1.site.registry = rs.site.registry := by
  rw [register]
  split
  · next after hReplaced =>
    obtain ⟨hMap, hSite, -⟩ := dismissReplaced_spec hReplaced
    exact ⟨hMap, hSite⟩
  · next after hReplaced =>
    obtain ⟨hMap, hSite, -⟩ := dismissReplaced_spec hReplaced
    -- whoever is registered is started only while metrics are on
    have hStill : ¬ after.site.registry.enabled = true := by
      rw [hSite]
      exact Bool.eq_false_iff.mp hOff
    rw [if_neg hStill]
    exact ⟨hMap, hSite⟩

/-- To start reporters changes nothing of the registry. -/
theorem Reporters.registry_startAll (rs : Reporters) :
    rs.startAll.1.site.registry = rs.site.registry := by
  refine inTurn_keeps (P := fun now : Reporters => now.site.registry = rs.site.registry) _
    (fun name _ now hSame => ?_) rfl
  cases hAt : now.byName.get? name with
  | none => rw [Reporters.attend_none _ _ hAt, hSame]
  | some r => rw [(Reporters.attend_some _ _ hAt).2.1, Reporter.registry_start, hSame]

/-- Reporters that rest and are as settings say run after all of them were started. -/
theorem Reporters.startAll_holds {rs : Reporters} {asked : List BuiltIn}
    (h : ∀ name, Option.Rel (BuiltIn.Holds false) (BuiltIn.last? asked name)
      (rs.byName.get? name))
    (hThreads : ∀ b ∈ asked, b.common.enabled = true → canWork b.common.name = true) :
    rs.startAll.2 = true ∧ ∀ name, Option.Rel (BuiltIn.Holds true) (BuiltIn.last? asked name)
      (rs.startAll.1.byName.get? name) := by
  have hStart : ∀ name r, rs.byName.get? name = some r → ∃ b, BuiltIn.last? asked name = some b ∧
      ∀ site, (r.start site).2.2 = .done ∧ b.Holds true (r.start site).2.1 := by
    intro name r hAt
    obtain ⟨b, hLast, hHolds⟩ := exists_of_rel_some (hAt ▸ h name)
    obtain ⟨hMem, hOn, -⟩ := BuiltIn.mem_of_last? hLast
    exact ⟨b, hLast, hHolds.start (hThreads b hMem hOn)⟩
  -- no thread is refused, so that every reporter has its turn
  have hEnds : rs.startAll.2 = true := Reporters.attendAll_ends fun name r hAt site hBroken => by
    obtain ⟨b, -, hStarts⟩ := hStart name r hAt
    rw [(hStarts site).1] at hBroken
    cases hBroken
  refine ⟨hEnds, fun name => ?_⟩
  cases hAt : rs.byName.get? name with
  | some r =>
    obtain ⟨b, hLast, hStarts⟩ := hStart name r hAt
    rcases Reporters.get?_attendAll Reporter.start (fun name fault =>
      s!"Failed to start reporter '{name}': {fault.message}") hAt with
      ⟨site, hCalled, -⟩ | ⟨hBroken, -⟩
    · have hCalled : rs.startAll.1.byName.get? name = some (r.start site).2.1 := hCalled
      rw [hLast, hCalled]
      exact .some (hStarts site).2
    · cases hEnds.symm.trans hBroken
  | none =>
    -- nobody is there who was not there before
    have hNone : rs.startAll.1.byName.get? name = none := by
      cases hAfter : rs.startAll.1.byName.get? name with
      | none => rfl
      | some r' =>
        obtain ⟨r, hBefore, -⟩ := Reporters.attendAll_cases hAfter
        cases hAt.symm.trans hBefore
    have hLast : BuiltIn.last? asked name = none := eq_none_of_rel_none (hAt ▸ h name)
    rw [hNone, hLast]
    exact .none

/-! ## Setting up -/

namespace Service

variable {s s' : Service} {settings : Settings} {asked : List BuiltIn} {on : Bool} {b : BuiltIn}

/-- A service without metrics, of whose changes only its supervisor hears. Under each name there is
the reporter of the last settings that are on, among those that were asked for. -/
structure Prepared (settings : Settings) (asked : List BuiltIn) (on : Bool) (s : Service) :
    Prop where
  settings : s.settings = some settings
  hired : s.supervisor.isSome = true
  heard : s.switchListeners.subscribers = [.supervisor]
  enabled : s.registry.enabled = on
  store : s.registry.store = .empty
  reporters : ∀ name,
    Option.Rel (BuiltIn.Holds on) (BuiltIn.last? asked name) (s.reporters.byName.get? name)

/-- Only what is asked of the host has changed. -/
theorem Prepared.onHost (h : s.Prepared settings asked on) (host : Host) :
    Prepared settings asked on { s with site := { s.site with host := host } } :=
  ⟨h.settings, h.hired, h.heard, h.enabled, h.store, h.reporters⟩

theorem prepared_new (host : Host) (now : Instant) (settings : Settings) :
    Prepared settings [] false { (new host now
      (.new settings.levels settings.reservoir.window false)).renewSupervisor.1 with
      settings := some settings } :=
  ⟨rfl, rfl, rfl, rfl, rfl, fun _ => .none⟩

/-- The reporters of a service after one of them took its place. -/
theorem Prepared.registered (h : s.Prepared settings asked false)
    (hOn : b.common.enabled = true) {p : Polled} (hDescribes : b.Describes p)
    (hRests : p.running = false) :
    Prepared settings (asked ++ [b]) false (s.supervised fun rs => rs.register (.polled p)).1 := by
  have hOff : s.reporters.site.registry.enabled = false := h.enabled
  obtain ⟨hMap, hSite⟩ := Reporters.register_off hOff (.polled p)
  have hReporters := reporters_supervised h.hired fun rs => rs.register (.polled p)
  have hRegistry : (s.supervised fun rs => rs.register (.polled p)).1.registry = s.registry :=
    hSite
  have hHired : (s.supervised fun rs => rs.register (.polled p)).1.supervisor.isSome = true := by
    show (s.supervisor.map _).isSome = true
    rw [Option.isSome_map, h.hired]
  refine ⟨h.settings, hHired, h.heard, hRegistry ▸ h.enabled, hRegistry ▸ h.store, fun name => ?_⟩
  rw [hReporters, hMap, NameMap.get?_insert, BuiltIn.last?_append_singleton]
  have hName : (Reporter.polled p).name = b.common.name := hDescribes.name
  rw [hName]
  by_cases hSame : name = b.common.name
  · rw [if_pos hSame, if_pos ⟨hOn, hSame.symm⟩]
    exact .some ⟨p, rfl, hDescribes, hRests⟩
  · rw [if_neg hSame, if_neg fun hBoth => hSame hBoth.2.symm]
    exact h.reporters name

/-- Settings that are off are passed over, and the reporter of others takes its place. -/
theorem Prepared.add (h : s.Prepared settings asked false)
    (hAdded : allowDisabled (s.addBuiltIn b) = (s', .ok ())) :
    Prepared settings (asked ++ [b]) false s' := by
  cases hOn : b.common.enabled with
  | false =>
    have hOff : ¬ (b.common.enabled = true) := Bool.eq_false_iff.mp hOn
    -- the service is as it was, and so are the last ones of each name
    rw [addBuiltIn, BuiltIn.build_off hOn] at hAdded
    cases hAdded
    refine ⟨h.settings, h.hired, h.heard, h.enabled, h.store, fun name => ?_⟩
    rw [BuiltIn.last?_append_singleton, if_neg fun hBoth => hOff hBoth.1]
    exact h.reporters name
  | true =>
    have hOutcome := BuiltIn.build_on hOn s.site.host
    cases hBuilt : b.build s.site.host none with
    | mk host built =>
    rw [hBuilt] at hOutcome
    rw [addBuiltIn, hBuilt] at hAdded
    rcases hOutcome with ⟨fault, rfl, hFault⟩ | ⟨p, rfl, hDescribes⟩
    · -- only that settings are off is passed over
      cases fault with
      | disabled name => exact absurd rfl (hFault name)
      | build | notFound | io | failed => cases hAdded
    · have hMade : (b.build s.site.host none).2 = .ok p := by rw [hBuilt]
      have hNow := (h.onHost host).registered hOn hDescribes (BuiltIn.build_running hMade)
      dsimp only at hAdded
      split at hAdded
      · next after hDone =>
        cases hAdded
        rw [hDone] at hNow
        exact hNow
      · cases hAdded

theorem Prepared.addAll (bs : List BuiltIn) (h : s.Prepared settings asked false)
    (hAdded : s.addAll bs = (s', .ok ())) : Prepared settings (asked ++ bs) false s' := by
  -- by induction on what is still to be added, with what was added so far carried along
  induction bs generalizing s asked with
  | nil =>
    cases hAdded
    rw [List.append_nil]
    exact h
  | cons b rest ih =>
    rw [Service.addAll] at hAdded
    split at hAdded
    · next after hFirst =>
      have hRest := ih (h.add hFirst) hAdded
      rwa [List.append_assoc, List.singleton_append] at hRest
    · cases hAdded

/-! ## Switching on -/

/-- When a service that is prepared is switched on, all its reporters are started. -/
theorem Prepared.activate (h : s.Prepared settings asked false) (hEnabled : settings.enabled = true)
    (hThreads : ∀ b ∈ asked, b.common.enabled = true → canWork b.common.name = true) :
    s.activate.2 = true ∧ Prepared settings asked true s.activate.1 := by
  have hAllowed : s.settings.all Settings.enabled = true := by
    rw [h.settings]
    exact hEnabled
  have hChanged : s.registry.setEnabled true =
      ((s.registry.setEnabled true).1, some (.switch true)) := by
    rw [Registry.setEnabled, if_neg (by rw [h.enabled]; exact Bool.false_ne_true)]
  generalize (s.registry.setEnabled true).1 = r at hChanged
  -- there are no metrics yet that the switch could reach
  have hSwitched : r.enabled = true ∧ r.store = .empty := by
    rw [Registry.setEnabled, if_neg (by rw [h.enabled]; exact Bool.false_ne_true)] at hChanged
    rw [← (Prod.mk.inj hChanged).1, Registry.refreshed_eq]
    exact ⟨rfl, h.store⟩
  -- nobody but the supervisor hears of the change
  have hHeard : s.activate = (s.adopt r).supervised fun rs => rs.heed (.switch true) := by
    have hOnly : ((s.adopt r).listeners (Change.switch true).channel).subscribers =
        [.supervisor] := h.heard
    rw [Service.activate, if_pos hAllowed, Service.setEnabled, changed, hChanged]
    show announce (.switch true) (s.adopt r) = _
    rw [announce_eq, hOnly, inTurn_cons, inTurn, respond]
    split
    · next hDone => exact Prod.ext rfl hDone.symm
    · rfl
  have hReporters := reporters_supervised (s := s.adopt r) h.hired fun rs => rs.heed (.switch true)
  have hRest : ∀ name, Option.Rel (BuiltIn.Holds false) (BuiltIn.last? asked name)
      ((s.adopt r).reporters.byName.get? name) := h.reporters
  obtain ⟨hEnds, hRun⟩ := Reporters.startAll_holds hRest hThreads
  have hRegistry : s.activate.1.registry = { r with trail := [] } := by
    rw [hHeard]
    exact Reporters.registry_startAll (s.adopt r).reporters
  have hHired : s.activate.1.supervisor.isSome = true := by
    rw [hHeard]
    show (s.supervisor.map _).isSome = true
    rw [Option.isSome_map, h.hired]
  refine ⟨?_, ?_, hHired, ?_, ?_, ?_, fun name => ?_⟩
  · rw [hHeard]
    exact hEnds
  · rw [hHeard]
    exact h.settings
  · rw [hHeard]
    exact h.heard
  · rw [hRegistry]
    exact hSwitched.1
  · rw [hRegistry]
    exact hSwitched.2
  · rw [hHeard, hReporters]
    exact hRun name

/-! ## All settings -/

/-- The reporters of a service that was switched on, in the order of their names. -/
theorem Prepared.polled (h : s.Prepared settings asked on) :
    ∃ ps : List Polled, ps.map Polled.name = s.reporterNames ∧
      ∀ p ∈ ps, s.reporters.byName.get? p.name = some (.polled p) := by
  have hNamed : ∀ name ∈ s.reporterNames, ∃ p : Polled, p.name = name ∧
      s.reporters.byName.get? name = some (.polled p) := by
    intro name hName
    obtain ⟨r, hAt⟩ := NameMap.contains_eq_true_iff.mp (NameMap.mem_names_iff.mp hName)
    obtain ⟨b, hLast, p, rfl, hDescribes, -⟩ := exists_of_rel_some (hAt ▸ h.reporters name)
    exact ⟨p, hDescribes.name.trans (BuiltIn.mem_of_last? hLast).2.2, hAt⟩
  -- one reporter is chosen for each name, in the order of the names
  generalize s.reporterNames = names at hNamed
  induction names with
  | nil => exact ⟨[], rfl, nofun⟩
  | cons name rest ih =>
    obtain ⟨⟨p, hName, hAt⟩, hRest⟩ := List.forall_mem_cons.mp hNamed
    obtain ⟨ps, hNames, hAll⟩ := ih hRest
    exact ⟨p :: ps, by rw [List.map_cons, hName, hNames],
      List.forall_mem_cons.mpr ⟨by rw [hName, hAt], hAll⟩⟩

/-- For all settings that are on, if a service can be set up from them and threads can be named
after its reporters: when it was switched on, there is under each name the running reporter of the
last settings that are on, among those of the name, and no other reporter. So all settings that are
on have their reporter if no two of them have a name in common. One report then is one round of all
these reporters, whatever was recorded meanwhile, unless the supplier of a gauge breaks off. -/
theorem configured_reporters_report (host : Host) (now : Instant) (settings : Settings)
    (hSetUp : (ofSettings host now settings).2 = .ok ()) (hEnabled : settings.enabled = true)
    (hThreads : ∀ b ∈ settings.reporting.builtIns, b.common.enabled = true →
      canWork b.common.name = true) :
    let asked := settings.reporting.builtIns
    let s := (ofSettings host now settings).1.activate.1
    (ofSettings host now settings).1.activate.2 = true ∧
    (∀ name, Option.Rel (BuiltIn.Holds true) (BuiltIn.last? asked name)
      (s.reporters.byName.get? name)) ∧
    (((asked.filter fun b => b.common.enabled).map fun b => b.common.name).Nodup →
      ∀ b ∈ asked, b.common.enabled = true →
        ∃ r, s.reporters.byName.get? b.common.name = some r ∧ b.Holds true r) ∧
    s.registry.Answering ∧
    ∀ t : Service, t.supervisor = s.supervisor → t.registry.Answering →
      (t.supervised Reporters.reportAll).2 = true ∧
      ∃ ps : List Polled, ps.map Polled.name = s.reporterNames ∧
        (∀ p ∈ ps, s.reporters.byName.get? p.name = some (.polled p)) ∧
        Round ps t.site (t.supervised Reporters.reportAll).1.site := by
  intro asked s
  have hPrepared : Prepared settings asked false (ofSettings host now settings).1 :=
    (prepared_new host now settings).addAll asked (Prod.ext rfl hSetUp)
  obtain ⟨hEnds, hOn⟩ := hPrepared.activate hEnabled hThreads
  refine ⟨hEnds, hOn.reporters, fun hNodup b hMem hb => ?_, ?_, fun t hSame hAnswering => ?_⟩
  · have hHolds := hOn.reporters b.common.name
    rw [BuiltIn.last?_of_nodup hNodup hMem hb] at hHolds
    exact exists_of_some_rel hHolds
  · intro name id hStored
    rw [hOn.store] at hStored
    cases hStored
  · obtain ⟨ps, hNames, hAt⟩ := hOn.polled
    have hMap : t.reporters.byName = s.reporters.byName := by
      rw [reporters, reporters, hSame]
    have hThere : ps.map Polled.name = t.reporters.byName.names := by
      rw [hMap]
      exact hNames
    rw [← hMap] at hAt
    obtain ⟨hDone, hRound⟩ := Reporters.round_reportAll hThere hAt hAnswering
    exact ⟨hDone, ps, hNames, hMap ▸ hAt, hRound⟩

/-- Metrics are made without the supervisor. -/
theorem supervisor_metric (s : Service) (measure : Measure) (name : String) (level : Level)
    (ancestors : List Level) : (s.metric measure name level ancestors).1.supervisor =
      s.supervisor := rfl

theorem eq_ok_of_isOk {outcome : Except Failure Unit} (h : outcome.isOk = true) :
    outcome = .ok () := by
  cases outcome with
  | ok => rfl
  | error => cases h

/-- Pages and lines are reported under different names. One report of a metric that was made later
writes both of them. -/
theorem configured_reporters_report_apart :
    let common (name : String) : ReporterSettings := ⟨name, true, 60, .all⟩
    let settings : Settings := { Settings.usual with
      reporting := ⟨common "pages", ⟨common "lines", "metrics", .text⟩, .usual⟩ }
    let s := (ofSettings ⟨0, ⟨.empty⟩, "", []⟩ 0 settings).1.activate.1
    let t := (s.metric .counter "hits" .info []).1
    let after := (t.supervised Reporters.reportAll).1.site
    (∃ r, s.reporters.byName.get? "pages" = some r ∧
      (BuiltIn.console (common "pages")).Holds true r) ∧
    (∃ r, s.reporters.byName.get? "lines" = some r ∧
      (BuiltIn.log ⟨common "lines", "metrics", .text⟩).Holds true r) ∧
    (t.supervised Reporters.reportAll).2 = true ∧
    (∃ ps : List Polled, ps.map Polled.name = ["lines", "pages"] ∧ Round ps t.site after) ∧
    after.host.output = page 0 [⟨"hits", .counter 0⟩] ∧
    .line "metrics" (LineFormat.text.line ⟨"hits", .counter 0⟩) ∈ after.host.log := by
  intro common settings s t after
  have hThreads : ∀ b ∈ settings.reporting.builtIns, b.common.enabled = true →
      canWork b.common.name = true := by
    intro b hMem hOn
    rcases List.mem_cons.mp hMem with rfl | hMem
    · decide
    · rcases List.mem_cons.mp hMem with rfl | hMem
      · decide
      · rw [List.mem_singleton.mp hMem] at hOn
        cases hOn
  have hSetUp : (ofSettings ⟨0, ⟨.empty⟩, "", []⟩ 0 settings).2 = .ok () :=
    eq_ok_of_isOk (by decide +kernel)
  obtain ⟨-, -, hAll, -, hReports⟩ :=
    configured_reporters_report ⟨0, ⟨.empty⟩, "", []⟩ 0 settings hSetUp rfl hThreads
  have hNodup : ((settings.reporting.builtIns.filter fun b => b.common.enabled).map
      fun b => b.common.name).Nodup := by decide
  have hPages := hAll hNodup (.console (common "pages")) List.mem_cons_self rfl
  have hLines := hAll hNodup (.log ⟨common "lines", "metrics", .text⟩)
    (List.mem_cons_of_mem _ List.mem_cons_self) rfl
  have hAnswering : t.registry.Answering := Registry.answering_of_no_gauge (by decide +kernel)
  obtain ⟨hDone, ps, hNames, -, hRound⟩ :=
    hReports t (supervisor_metric s .counter "hits" .info []) hAnswering
  have hBoth : s.reporterNames = ["lines", "pages"] := by decide +kernel
  have hOutput : after.host.output = page 0 [⟨"hits", .counter 0⟩] := by decide +kernel
  have hLine : .line "metrics" (LineFormat.text.line ⟨"hits", .counter 0⟩) ∈
      after.host.log := by decide +kernel
  exact ⟨hPages, hLines, hDone, ⟨ps, hNames.trans hBoth, hRound⟩, hOutput, hLine⟩

/-- Of two settings that are on and have their name in common, the first has no reporter, and a
report does not write its page. -/
theorem silent_of_shared_name :
    let common : ReporterSettings := ⟨"x", true, 60, .all⟩
    let settings : Settings := { Settings.usual with
      reporting := ⟨common, ⟨common, "metrics", .text⟩, .usual⟩ }
    let outcome := ofSettings ⟨0, ⟨.empty⟩, "", []⟩ 0 settings
    let s := outcome.1.activate.1
    outcome.2 = .ok () ∧ settings.enabled = true ∧ canWork "x" = true ∧
      (∀ name r, s.reporters.byName.get? name = some r → ¬ (BuiltIn.console common).Holds true r) ∧
      (s.supervised Reporters.reportAll).1.site.host.output = "" := by
  intro common settings outcome s
  have hSinks : (s.reporters.byName.toList.all fun
      | (_, .polled ⟨_, _, _, .console, _⟩) => false
      | _ => true) = true := by decide +kernel
  have hOutput : (s.supervised Reporters.reportAll).1.site.host.output = "" := by decide +kernel
  refine ⟨eq_ok_of_isOk (by decide +kernel), rfl, by decide, fun name r hAt hHolds => ?_, hOutput⟩
  -- a reporter that is as the first settings say would write pages, and none does
  obtain ⟨⟨_, _, _, sink, _⟩, rfl, hDescribes, -⟩ := hHolds
  cases (hDescribes.sink : sink = .console)
  cases List.all_eq_true.mp hSinks _ (NameMap.get?_eq_some_iff.mp hAt)

end Service

end Metering
