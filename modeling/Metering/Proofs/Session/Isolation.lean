import Metering.Proofs.Report.Onward
import Metering.Proofs.Report.Round
import Metering.Proofs.Service.Announcement
import Metering.Session

/-!
# Metering — failures that stay where they are

When all reporters are started, stopped or asked to report, one that fails gets a line in the log,
and the next has its turn. Nothing that others do makes a reporter run or rest: it ends up as it
would if there were no other.

* `Call.concerns` — whom a call of all is for;
* `CallsMade` — one call after another was made, and each came back, with success or without;
* `Reporter.Returns` — a reporter that does not break off when it is called;
* `callsMade_visitAll`, `running_visitAll`, `visitAll_ends` — what to call all comes to;
* `failures_isolated` — the main result.
-/

namespace Metering

open Report

/-! ## One call -/

/-- Whether a call of all reporters is for those of a mode: only those that poll are asked to
report. -/
def Call.concerns : Call → Mode → Bool
  | .start, _ | .stop, _ => true
  | .report, mode => mode = .scheduled

/-- Makes a call of a reporter that it is for. -/
def Call.visit (c : Call) (r : Reporter) (site : Site) : Site × Reporter × Outcome :=
  if c.concerns r.mode then Session.visitOf c r site else (site, r, .done)

/-- The words for a call that failed. -/
def Call.failed : Call → String → ReportFault → String
  | .start, name, fault => s!"Failed to start reporter '{name}': {fault.message}"
  | .stop, name, fault => s!"Failed to stop reporter '{name}': {fault.message}"
  | .report, name, fault => s!"Reporter '{name}' failed to report: {fault.message}"

/-- The site after a call has come back, with a line in the log if it failed. -/
def Site.returned (site : Site) (c : Call) (name : String) : Outcome → Site
  | .failed fault => site.say .error (c.failed name fault)
  | .done | .brokenOff => site

theorem visitAll_eq (c : Call) (rs : Reporters) :
    Session.visitAll c rs = rs.attendAll c.visit c.failed := by
  cases c with
  | start => rfl
  | stop => rfl
  | report =>
    have hVisit : Reporters.reportIfScheduled = Call.visit .report := by
      funext r site
      simp only [Reporters.reportIfScheduled, Call.visit, Call.concerns, decide_eq_true_eq]
      rfl
    rw [Session.visitAll, Reporters.reportAll, hVisit]
    rfl

namespace Report.Reporter

variable {r : Reporter} {c : Call}

/-- What a reporter puts into the journal when it is called, if the call is for it. -/
def callNotes (c : Call) : Reporter → List Note
  | polled _ => []
  | scripted s =>
    if c.concerns s.mode then [.called s.tag c ((s.verdicts c).headD .well = .well)] else []

/-- A reporter that comes back when it is called: a thread can be named after one that polls and is
to be started, and no scripted call breaks off. -/
def Returns (c : Call) : Reporter → Prop
  | polled p => c = .start → p.running = true ∨ canWork p.name = true
  | scripted s => (s.verdicts c).headD .well ≠ .breaking

instance (c : Call) : DecidablePred (Returns c)
  | polled p => inferInstanceAs (Decidable (c = .start → p.running = true ∨ canWork p.name = true))
  | scripted s => inferInstanceAs (Decidable ((s.verdicts c).headD .well ≠ .breaking))

theorem visitOf_scripted (c : Call) (s : Scripted) (site : Site) :
    Session.visitOf c (scripted s) site =
      ((s.call c site).1, scripted (s.call c site).2.1, (s.call c site).2.2) := by
  cases c <;> rfl

/-- A call adds to the journal what the reporter puts down. -/
theorem journal_visit (c : Call) (r : Reporter) (site : Site) :
    (c.visit r site).1.journal = site.journal ++ r.callNotes c := by
  rw [Call.visit]
  cases r with
  | polled p =>
    rw [callNotes, List.append_nil]
    split
    · cases c with
      | start => rfl
      | stop => rfl
      | report =>
        obtain ⟨host, statistics, sink, outcome, hReport⟩ := report_polled p site
        rw [Session.visitOf, hReport]
    · rfl
  | scripted s =>
    rw [callNotes, mode]
    split
    · rw [visitOf_scripted]
      rfl
    · exact (List.append_nil _).symm

/-- Whether a reporter runs after a call does not depend on anything but the reporter. -/
theorem running_visit (c : Call) (r : Reporter) (site other : Site) :
    (c.visit r site).2.1.running = (c.visit r other).2.1.running := by
  rw [Call.visit, Call.visit]
  split
  · cases r with
    | polled p =>
      cases c with
      | start =>
        simp only [Session.visitOf, start, Polled.start]
        split
        · rfl
        · split <;> rfl
      | stop =>
        simp only [Session.visitOf, stop, Polled.stop]
        split <;> rfl
      | report => rw [Session.visitOf, running_report, running_report]
    | scripted s =>
      rw [visitOf_scripted, visitOf_scripted]
      rfl
  · rfl

theorem Returns.start {p : Polled} (h : (polled p).Returns .start) (site : Site) :
    ((polled p).start site).2.2 = .done := by
  have hWell : (p.start site.host).2.2 = true := by
    rw [Polled.start]
    split
    · rfl
    · next hRests => rw [if_pos ((h rfl).resolve_left hRests)]
  show (if (p.start site.host).2.2 then Outcome.done else .brokenOff) = .done
  rw [if_pos hWell]

theorem Returns.scripted {s : Scripted} (h : (scripted s).Returns c) (site : Site) :
    (s.call c site).2.2 ≠ .brokenOff := by
  show (s.spent c).outcome c ((s.verdicts c).headD .well) ≠ .brokenOff
  cases hVerdict : (s.verdicts c).headD .well with
  | breaking => exact absurd hVerdict h
  | well | disabled | failing | grudging => exact nofun

/-- Where gauges answer, a report of one that polls does not break off, and they answer on. -/
theorem report_answers (p : Polled) {site : Site} (h : site.registry.Answering) :
    ((polled p).report site).2.2 ≠ .brokenOff ∧
      ((polled p).report site).1.registry.Answering := by
  obtain ⟨⟨samples, hSome⟩, hStill⟩ :=
    h.samples site.now (p.selection.accepts site.registry.counts)
  cases hSamples : site.registry.samples site.now
      (p.selection.accepts site.registry.counts) with
  | mk registry found =>
    rw [hSamples] at hSome hStill
    obtain rfl : found = some samples := hSome
    simp only [report, hSamples]
    split <;> exact ⟨by simp, hStill⟩

/-- A reporter that returns does not break off, and where it asks gauges, they answer on. -/
theorem Returns.visit (h : r.Returns c) {site : Site}
    (hAnswering : c = .report → site.registry.Answering) :
    (c.visit r site).2.2 ≠ .brokenOff ∧
      (c = .report → (c.visit r site).1.registry.Answering) := by
  rw [Call.visit]
  split
  · cases r with
    | polled p =>
      cases c with
      | start =>
        refine ⟨?_, nofun⟩
        rw [Session.visitOf, h.start site]
        exact nofun
      | stop => exact ⟨nofun, nofun⟩
      | report =>
        obtain ⟨hReturns, hStill⟩ := report_answers p (hAnswering rfl)
        exact ⟨hReturns, fun _ => hStill⟩
    | scripted s =>
      rw [visitOf_scripted]
      exact ⟨h.scripted site, hAnswering⟩
  · exact ⟨nofun, hAnswering⟩

end Report.Reporter

/-! ## One call after another -/

/-- Those who are concerned got one call each, in their order, on the site that the one before left
behind. Every call came back, with success or without. Nothing happened to the others. -/
inductive CallsMade (c : Call) :
    List (String × Reporter) → Site → List (String × Reporter) → Site → Prop
  | none (site : Site) : CallsMade c [] site [] site
  | called {name : String} {r r' : Reporter} {outcome : Outcome} {site now after : Site}
      {rest rest' : List (String × Reporter)} (hConcerned : c.concerns r.mode = true)
      (hCall : Session.visitOf c r site = (now, r', outcome)) (hReturned : outcome ≠ .brokenOff)
      (hRest : CallsMade c rest (now.returned c name outcome) rest' after) :
      CallsMade c ((name, r) :: rest) site ((name, r') :: rest') after
  | passed {name : String} {r : Reporter} {site after : Site}
      {rest rest' : List (String × Reporter)} (hNot : c.concerns r.mode = false)
      (hRest : CallsMade c rest site rest' after) :
      CallsMade c ((name, r) :: rest) site ((name, r) :: rest') after

theorem Site.journal_returned (site : Site) (c : Call) (name : String) (outcome : Outcome) :
    (site.returned c name outcome).journal = site.journal := by
  cases outcome <;> rfl

/-- The journal tells which calls were made. -/
theorem CallsMade.journal {c : Call} {es es' : List (String × Reporter)} {site after : Site}
    (h : CallsMade c es site es' after) :
    after.journal = site.journal ++ (es.map Prod.snd).flatMap (Reporter.callNotes c) := by
  induction h with
  | none site => rw [List.map_nil, List.flatMap_nil, List.append_nil]
  | @called name r r' outcome site now after rest rest' hConcerned hCall hReturned hRest ih =>
    have hNotes := r.journal_visit c site
    rw [Call.visit, if_pos hConcerned, hCall] at hNotes
    rw [ih, Site.journal_returned, hNotes, List.map_cons, List.flatMap_cons, List.append_assoc]
  | @passed name r site after rest rest' hNot hRest ih =>
    have hNotes := r.journal_visit c site
    rw [Call.visit, if_neg (Bool.eq_false_iff.mp hNot)] at hNotes
    rw [ih, List.map_cons, List.flatMap_cons, List.self_eq_append_right.mp hNotes,
      List.nil_append]

/-- A call, or none if the reporter is not concerned, comes before the others. -/
theorem CallsMade.visit {c : Call} {name : String} {r : Reporter} {site after : Site}
    {rest rest' : List (String × Reporter)} (hReturned : (c.visit r site).2.2 ≠ .brokenOff)
    (hRest : CallsMade c rest ((c.visit r site).1.returned c name (c.visit r site).2.2) rest'
      after) :
    CallsMade c ((name, r) :: rest) site ((name, (c.visit r site).2.1) :: rest') after := by
  rw [Call.visit] at hReturned hRest ⊢
  split at hRest
  · next hConcerned =>
    rw [if_pos hConcerned] at hReturned ⊢
    exact .called hConcerned rfl hReturned hRest
  · next hNot =>
    rw [if_neg hNot]
    exact .passed (Bool.eq_false_iff.mpr hNot) hRest

namespace Reporters

variable {rs : Reporters} {c : Call} {name : String}

/-- The reporter of a name without the others. -/
def alone (rs : Reporters) (name : String) : Reporters :=
  ⟨rs.site, (rs.byName.get? name).elim .empty fun r => NameMap.empty.insert name r⟩

theorem attend_visit {r : Reporter} (hAt : rs.byName.get? name = some r) :
    attend c.visit c.failed name rs =
      (⟨(c.visit r rs.site).1.returned c name (c.visit r rs.site).2.2,
        rs.byName.insert name (c.visit r rs.site).2.1⟩,
        decide ((c.visit r rs.site).2.2 ≠ .brokenOff)) := by
  rw [attend, hAt]
  dsimp only
  split <;> (next hEnd => rw [hEnd]; rfl)

/-- All reporters of some entries are called, by induction on the entries. -/
theorem callsMade_inTurn {es : List (String × Reporter)} (hNodup : (es.map Prod.fst).Nodup)
    (hAt : ∀ e ∈ es, rs.byName.get? e.1 = some e.2)
    (hWhole : (inTurn (attend c.visit c.failed) (es.map Prod.fst) rs).2 = true) :
    let after := (inTurn (attend c.visit c.failed) (es.map Prod.fst) rs).1
    ∃ es', CallsMade c es rs.site es' after.site ∧ es'.map Prod.fst = es.map Prod.fst ∧
      ∀ e ∈ es', after.byName.get? e.1 = some e.2 := by
  induction es generalizing rs with
  | nil => exact ⟨[], .none rs.site, rfl, nofun⟩
  | cons e rest ih =>
    obtain ⟨name, r⟩ := e
    obtain ⟨hNotIn, hRest⟩ := List.nodup_cons.mp hNodup
    obtain ⟨hFirst, hOthers⟩ := List.forall_mem_cons.mp hAt
    rw [List.map_cons, inTurn_cons, attend_visit hFirst] at hWhole ⊢
    dsimp only at hWhole ⊢
    -- as all were called, the first one did not break off
    split at hWhole
    · next hReturned =>
      rw [if_pos hReturned]
      have hOthers' : ∀ e ∈ rest, (rs.byName.insert name (c.visit r rs.site).2.1).get? e.1 =
          some e.2 := by
        intro e hMem
        have hNe : e.1 ≠ name := fun hSame => hNotIn (List.mem_map.mpr ⟨e, hMem, hSame⟩)
        rw [NameMap.get?_insert_of_ne _ hNe, hOthers e hMem]
      obtain ⟨es', hCalls, hNames, hAfter⟩ := @ih ⟨_, _⟩ hRest hOthers' hWhole
      refine ⟨(name, (c.visit r rs.site).2.1) :: es', ?_, ?_, ?_⟩
      · exact .visit (of_decide_eq_true hReturned) hCalls
      · rw [List.map_cons, hNames]
      · refine List.forall_mem_cons.mpr ⟨?_, hAfter⟩
        rw [get?_inTurn_attend_of_notMem hNotIn]
        exact NameMap.get?_insert_self _ _ _
    · next hBroken => exact absurd hWhole hBroken

theorem contains_visitAll (c : Call) (rs : Reporters) (name : String) :
    (Session.visitAll c rs).1.byName.contains name = rs.byName.contains name := by
  rw [visitAll_eq, Bool.eq_iff_iff, NameMap.contains_eq_true_iff, NameMap.contains_eq_true_iff]
  constructor
  · rintro ⟨r', hAt'⟩
    obtain ⟨r, hAt, -⟩ := attendAll_cases hAt'
    exact ⟨r, hAt⟩
  · rintro ⟨r, hAt⟩
    rcases get?_attendAll c.visit c.failed hAt with ⟨site, hCalled, -⟩ | ⟨-, hSame⟩
    · exact ⟨_, hCalled⟩
    · exact ⟨r, hSame⟩

/-- No reporter comes or goes. -/
theorem names_visitAll (c : Call) (rs : Reporters) :
    (Session.visitAll c rs).1.byName.names = rs.byName.names :=
  NameMap.names_eq_of_contains_eq (contains_visitAll c rs)

/-- If all come through, then each of those concerned was called once, in the order of names. -/
theorem callsMade_visitAll (hWhole : (Session.visitAll c rs).2 = true) :
    CallsMade c rs.byName.toList rs.site (Session.visitAll c rs).1.byName.toList
      (Session.visitAll c rs).1.site := by
  have hNames := names_visitAll c rs
  rw [visitAll_eq] at hWhole hNames ⊢
  have hAt : ∀ e ∈ rs.byName.toList, rs.byName.get? e.1 = some e.2 := fun e hMem =>
    NameMap.get?_eq_some_iff.mpr hMem
  obtain ⟨es', hCalls, hSame, hAfter⟩ := callsMade_inTurn rs.nodup_names hAt hWhole
  have hEntries := NameMap.toList_eq_of_names (hNames.trans hSame.symm) hAfter
  rw [hEntries]
  exact hCalls

/-- If all come through, then each runs or rests as it would if there were no other. -/
theorem running_visitAll (hWhole : (Session.visitAll c rs).2 = true) (name : String) :
    (Session.visitAll c rs).1.running? name =
      (Session.visitAll c (rs.alone name)).1.running? name := by
  rw [visitAll_eq] at hWhole ⊢
  rw [visitAll_eq]
  cases hAt : rs.byName.get? name with
  | none =>
    have hGone := contains_visitAll c rs name
    rw [visitAll_eq, NameMap.contains_eq_false_iff.mpr hAt, NameMap.contains_eq_false_iff] at hGone
    rw [running?, hGone, alone, hAt]
    rfl
  | some r =>
    have hAlone : (rs.alone name).byName.get? name = some r := by
      rw [alone, hAt]
      exact NameMap.get?_insert_self _ _ _
    have hOnly : ((rs.alone name).attendAll c.visit c.failed).1.byName.get? name =
        some (c.visit r rs.site).2.1 := by
      have hTurn : (rs.alone name).attendAll c.visit c.failed =
          inTurn (attend c.visit c.failed) [name] (rs.alone name) := by
        rw [attendAll, alone, hAt]
        rfl
      rw [hTurn, inTurn_cons, attend_visit hAlone]
      split <;> exact NameMap.get?_insert_self _ _ _
    rcases get?_attendAll c.visit c.failed hAt with ⟨site, hCalled, -⟩ | ⟨hBroken, -⟩
    · rw [running?, hCalled, running?, hOnly]
      exact congrArg Except.ok (r.running_visit c site rs.site)
    · rw [hBroken] at hWhole
      cases hWhole

/-- If reporters return, and gauges answer where they are asked, then all come through. -/
theorem visitAll_ends (h : ∀ r ∈ rs.byName.values, r.Returns c)
    (hAnswering : c = .report → rs.site.registry.Answering) :
    (Session.visitAll c rs).2 = true := by
  rw [visitAll_eq]
  exact inTurn_attend_ends (P := fun registry => c = .report → registry.Answering) rs.nodup_names
    (fun name _ r hAt site hP => (h r (NameMap.mem_values_iff.mpr ⟨name, hAt⟩)).visit hP) hAnswering

end Reporters

/-! ## All calls -/

/-- What the supervisor does when all its reporters are started, stopped or asked to report, as it
is told to or because the switch was moved. Unless one breaks off, each that is concerned is called
once, in the ascending order of their names, and those that fail get a line in the log. Nobody comes
or goes, and each runs or rests as it would if there were no other. None breaks off if they only
return errors, and reports find no gauge whose supplier breaks off. -/
theorem failures_isolated (s : Service) (c : Call) (hHired : s.supervisor.isSome = true) :
    let rs := s.reporters
    let after := (s.supervised (Session.visitAll c)).1.reporters
    let whole := (s.supervised (Session.visitAll c)).2
    (whole = true →
      rs.byName.names.Pairwise (· < ·) ∧
      CallsMade c rs.byName.toList rs.site after.byName.toList after.site ∧
      after.site.journal = rs.site.journal ++ rs.byName.values.flatMap (Reporter.callNotes c) ∧
      after.byName.names = rs.byName.names ∧
      ∀ name, after.running? name = (Session.visitAll c (rs.alone name)).1.running? name) ∧
    ((∀ r ∈ rs.byName.values, r.Returns c) → (c = .report → s.registry.Answering) →
      whole = true) ∧
    ∀ announcing on, Service.respond announcing (.switch on) .supervisor s =
      s.supervised (Session.visitAll (if on then .start else .stop)) := by
  intro rs after whole
  have hAfter : after = (Session.visitAll c rs).1 :=
    Service.reporters_supervised hHired (Session.visitAll c)
  refine ⟨fun hWhole => ?_, Reporters.visitAll_ends, fun announcing on => ?_⟩
  · have hCalls := Reporters.callsMade_visitAll hWhole
    rw [hAfter]
    exact ⟨rs.byName.pairwise_names, hCalls, hCalls.journal, Reporters.names_visitAll c rs,
      Reporters.running_visitAll hWhole⟩
  · cases on <;> rfl

/-- Of three scripted reporters the first cannot be started, the second can, and the third starts
but fails all the same, while the one that polls is started between them. The second fails to
report, and the third, which follows the metrics, is not asked. -/
theorem failures_isolated_of_four :
    let reporter (name : String) (mode : Mode) (starts reports : List Verdict) : Reporter :=
      .scripted ⟨name, name, mode, false, starts, [], reports⟩
    let polled : Reporter := .polled ⟨"p", 60, ⟨.exact .empty, .exact .empty⟩, .console, false⟩
    let reporters : NameMap Reporter := ⟨[("n", reporter "n" .scheduled [.disabled] []),
      ("o", reporter "o" .scheduled [] [.failing]), ("p", polled),
      ("r", reporter "r" .listening [.grudging] [])], by decide⟩
    let s : Service :=
      { Service.new ⟨0, ⟨.empty⟩, "", []⟩ 0 .usual with supervisor := some ⟨reporters, 0, 0, 0⟩ }
    let started := (s.supervised (Session.visitAll .start)).1.reporters
    let reported := (s.supervised (Session.visitAll .report)).1.reporters
    started.site.journal =
      [.called "n" .start false, .called "o" .start true, .called "r" .start false] ∧
    started.byName.names.map started.running? = [.ok false, .ok true, .ok true, .ok true] ∧
    reported.site.journal = [.called "n" .report true, .called "o" .report false] ∧
    reported.byName.names = ["n", "o", "p", "r"] := by
  intro reporter polled reporters s started reported
  obtain ⟨hStarted, hStarts, -⟩ := failures_isolated s .start rfl
  obtain ⟨hReported, hReports, -⟩ := failures_isolated s .report rfl
  obtain ⟨-, -, hNotes, hNames, hRunning⟩ := hStarted (hStarts (by decide +kernel) nofun)
  have hAnswering : s.registry.Answering := fun name id hStored => nomatch hStored
  obtain ⟨-, -, hNotes', hNames', -⟩ := hReported (hReports (by decide +kernel) fun _ => hAnswering)
  refine ⟨hNotes.trans rfl, ?_, hNotes'.trans rfl, hNames'.trans rfl⟩
  rw [List.map_congr_left fun name _ => hRunning name, hNames]
  decide +kernel

end Metering
