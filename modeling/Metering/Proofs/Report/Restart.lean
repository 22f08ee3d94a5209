import Metering.Proofs.Report.Onward
import Metering.Proofs.Supervisor

/-!
# Metering — reporters that start anew

When levels change, the supervisor goes through its reporters in the order of their names. It stops
and starts each one that follows the metrics and runs, and calls nobody else.

* `Reporter.Follows` — a running reporter that follows the metrics;
* `Reporter.restartCalls`, `Reporter.restartLines` — what shows of one restart in the journal and in
  the log;
* `Reporter.Again` — what has become of a reporter, which runs if and only if it ran before;
* `Reporters.Restarted` — reporters after a round, and `restarted_restartListening`.
-/

namespace Metering

open Report

/-- The site with more entries in the log and in the journal. -/
def Site.extended (site : Site) (lines : List LogEntry) (notes : List Note) : Site :=
  { site with
    host := { site.host with log := site.host.log ++ lines }
    journal := site.journal ++ notes }

theorem Site.extended_nil (site : Site) : site.extended [] [] = site := by
  rw [extended, List.append_nil, List.append_nil]

theorem Site.extended_extended (site : Site) (lines lines' : List LogEntry)
    (notes notes' : List Note) :
    (site.extended lines notes).extended lines' notes' =
      site.extended (lines ++ lines') (notes ++ notes') := by
  simp only [extended, List.append_assoc]

namespace Report.Reporter

variable {r r' : Reporter}

/-- A reporter that follows the metrics and runs, and so has to start anew when levels change. -/
def Follows (r : Reporter) : Prop := r.mode = .listening ∧ r.running = true

instance (r : Reporter) : Decidable r.Follows := inferInstanceAs (Decidable (_ ∧ _))

instance : DecidablePred Reliable
  | polled p => inferInstanceAs (Decidable (canWork p.name = true))
  | scripted s =>
    inferInstanceAs (Decidable ((∀ v ∈ s.starts, v = .well) ∧ ∀ v ∈ s.stops, v = .well))

/-- What a reporter puts into the journal when it starts anew: one stop and then one start, both
with success. -/
def restartCalls (r : Reporter) : List Note :=
  if r.Follows then
    r.tag?.toList.flatMap fun tag => [.called tag .stop true, .called tag .start true]
  else []

/-- What the supervisor puts into the log when a reporter starts anew. -/
def restartLines (r : Reporter) : List LogEntry :=
  if r.Follows then [.event .debug s!"Restarting listening reporter '{r.name}'."] else []

/-- A reporter before and after a round: it runs if and only if it ran before, and is the same if it
did not have to start anew. -/
structure Again (r r' : Reporter) : Prop where
  running : r'.running = r.running
  same : ¬ r.Follows → r' = r

theorem restartIfListening_of_follows (h : r.Follows) (site : Site) :
    Reporters.restartIfListening r site =
      r.restart (site.say .debug s!"Restarting listening reporter '{r.name}'.") := if_pos h

theorem restartIfListening_of_not (h : ¬ r.Follows) (site : Site) :
    Reporters.restartIfListening r site = (site, r, .done) := if_neg h

theorem start_scripted {s : Scripted} (h : ∀ v ∈ s.starts, v = .well) (site : Site) :
    (scripted s).start site = (site.note (.called s.tag .start true),
      scripted { s with running := true, starts := s.starts.tail }, .done) := by
  rw [start, Scripted.call_well (c := .start) h]
  rfl

theorem stop_scripted {s : Scripted} (h : ∀ v ∈ s.stops, v = .well) (site : Site) :
    (scripted s).stop site = (site.note (.called s.tag .stop true),
      scripted { s with running := false, stops := s.stops.tail }, .done) := by
  rw [stop, Scripted.call_well (c := .stop) h]
  rfl

/-- A scripted reporter whose calls are to end well is stopped and started. -/
theorem restart_scripted {s : Scripted} (h : (scripted s).Reliable) (site : Site) :
    (scripted s).restart site =
      (site.extended [] [.called s.tag .stop true, .called s.tag .start true],
        scripted { s with running := true, starts := s.starts.tail, stops := s.stops.tail },
        .done) := by
  have hStart := start_scripted (s := { s with running := false, stops := s.stops.tail }) h.1
  rw [restart, stop_scripted h.2]
  dsimp only
  rw [hStart]
  simp only [Site.note, Site.extended, List.append_assoc, List.append_nil, List.cons_append,
    List.nil_append]

/-- A reliable reporter that has to start anew is stopped and started, once each, and nothing
happens to any other. -/
theorem Reliable.restarts (h : r.Reliable) (site : Site) :
    ∃ r', Reporters.restartIfListening r site =
      (site.extended r.restartLines r.restartCalls, r', .done) ∧ r.Again r' := by
  by_cases hFollows : r.Follows
  · rw [restartIfListening_of_follows hFollows, restartLines, restartCalls, if_pos hFollows,
      if_pos hFollows]
    cases r with
    | polled p => cases hFollows.1
    | scripted s =>
      rw [restart_scripted h]
      refine ⟨scripted { s with running := true, starts := s.starts.tail, stops := s.stops.tail },
        ?_, hFollows.2.symm, fun hNot => absurd hFollows hNot⟩
      simp only [Site.say, Host.say, Site.extended, List.append_nil, tag?, Option.toList_some,
        List.flatMap_singleton]
  · rw [restartIfListening_of_not hFollows, restartLines, restartCalls, if_neg hFollows,
      if_neg hFollows, Site.extended_nil]
    exact ⟨r, rfl, rfl, fun _ => rfl⟩

end Report.Reporter

namespace Reporters

variable {rs rs' : Reporters} {names : List String} {wording : String → ReportFault → String}

/-- What each of some names shows of a restart, if there is a reporter under it. -/
def shownOf {α : Type} (rs : Reporters) (shows : Reporter → List α) (name : String) : List α :=
  (rs.byName.get? name).elim [] shows

/-- Reporters before and after the supervisor went through some names. -/
structure Passed (names : List String) (rs rs' : Reporters) : Prop where
  site : rs'.site = rs.site.extended (names.flatMap (rs.shownOf Reporter.restartLines))
    (names.flatMap (rs.shownOf Reporter.restartCalls))
  again : ∀ name ∈ names, Option.Rel Reporter.Again (rs.byName.get? name) (rs'.byName.get? name)
  others : ∀ name, name ∉ names → rs'.byName.get? name = rs.byName.get? name

theorem passed_nil (rs : Reporters) : Passed [] rs rs where
  site := rs.site.extended_nil.symm
  again := nofun
  others _ _ := rfl

/-- The supervisor goes on with a name that has not come yet. -/
theorem Passed.cons {first : String} {rest : List String} {now : Reporters}
    (hNotIn : first ∉ rest) (hFirst : Passed [first] rs now) (hRest : Passed rest now rs') :
    Passed (first :: rest) rs rs' := by
  -- the rest find their reporters as they were before the first one was called
  have hOthers : ∀ name ∈ rest, now.byName.get? name = rs.byName.get? name := by
    intro name hMem
    refine hFirst.others name fun hSame => hNotIn ?_
    exact List.mem_singleton.mp hSame ▸ hMem
  have hShown {α : Type} (shows : Reporter → List α) :
      rest.flatMap (now.shownOf shows) = rest.flatMap (rs.shownOf shows) := by
    refine List.flatMap_congr fun name hMem => ?_
    rw [shownOf, hOthers name hMem, shownOf]
  refine ⟨?_, fun name hMem => ?_, fun name hNot => ?_⟩
  · rw [hRest.site, hFirst.site, Site.extended_extended, hShown, hShown]
    simp only [List.flatMap_cons, List.flatMap_nil, List.append_nil]
  · obtain rfl | hMem := List.mem_cons.mp hMem
    · rw [hRest.others name hNotIn]
      exact hFirst.again name (List.mem_singleton_self name)
    · rw [← hOthers name hMem]
      exact hRest.again name hMem
  · rw [List.mem_cons, not_or] at hNot
    rw [hRest.others name hNot.2]
    exact hFirst.others name fun hSame => hNot.1 (List.mem_singleton.mp hSame)

/-- The supervisor comes to the reporter of a name. -/
theorem passed_attend (wording : String → ReportFault → String) (name : String)
    (h : ∀ r, rs.byName.get? name = some r → r.Reliable) :
    ∃ rs', attend restartIfListening wording name rs = (rs', true) ∧ Passed [name] rs rs' := by
  cases hAt : rs.byName.get? name with
  | none =>
    refine ⟨rs, attend_none _ _ hAt, ?_, fun other hMem => ?_, fun _ _ => rfl⟩
    · simp only [List.flatMap_cons, List.flatMap_nil, shownOf, hAt, Option.elim_none,
        List.append_nil, Site.extended_nil]
    · rw [List.mem_singleton.mp hMem, hAt]
      exact .none
  | some r =>
    obtain ⟨r', hVisit, hAgain⟩ := (h r hAt).restarts rs.site
    refine ⟨⟨rs.site.extended r.restartLines r.restartCalls, rs.byName.insert name r'⟩, ?_, ?_,
      fun other hMem => ?_, fun other hNot => ?_⟩
    · rw [attend, hAt]
      dsimp only
      rw [hVisit]
    · simp only [List.flatMap_cons, List.flatMap_nil, shownOf, hAt, Option.elim_some,
        List.append_nil]
    · rw [List.mem_singleton.mp hMem, hAt]
      show Option.Rel _ _ ((rs.byName.insert name r').get? name)
      rw [NameMap.get?_insert_self]
      exact .some hAgain
    · exact NameMap.get?_insert_of_ne _ (fun hSame => hNot (List.mem_singleton.mpr hSame)) _

/-- The supervisor goes through the reporters of some names, by induction on the names. -/
theorem passed_inTurn (hNodup : names.Nodup)
    (h : ∀ name ∈ names, ∀ r, rs.byName.get? name = some r → r.Reliable) :
    ∃ rs', inTurn (attend restartIfListening wording) names rs = (rs', true) ∧
      Passed names rs rs' := by
  induction names generalizing rs with
  | nil => exact ⟨rs, rfl, passed_nil rs⟩
  | cons first rest ih =>
    obtain ⟨hNotIn, hRest⟩ := List.nodup_cons.mp hNodup
    obtain ⟨hFirst, hOthers⟩ := List.forall_mem_cons.mp h
    obtain ⟨now, hAttend, hPassed⟩ := passed_attend wording first hFirst
    -- names differ, so that the others are as reliable as before
    have hReliable : ∀ name ∈ rest, ∀ r, now.byName.get? name = some r → r.Reliable := by
      intro name hMem r hAt
      refine hOthers name hMem r ?_
      rw [← hPassed.others name (fun hSame => hNotIn (List.mem_singleton.mp hSame ▸ hMem)), hAt]
    obtain ⟨rs', hTurn, hAll⟩ := ih hRest hReliable
    refine ⟨rs', ?_, hPassed.cons hNotIn hAll⟩
    rw [inTurn_cons, hAttend, if_pos rfl, hTurn]

/-- Reporters after levels have changed: those that had to start anew were stopped and started, in
the order of names, and nobody else was called. -/
structure Restarted (rs rs' : Reporters) : Prop where
  site : rs'.site = rs.site.extended (rs.byName.values.flatMap Reporter.restartLines)
    (rs.byName.values.flatMap Reporter.restartCalls)
  again : ∀ name, Option.Rel Reporter.Again (rs.byName.get? name) (rs'.byName.get? name)

theorem flatMap_names {α β : Type} (m : NameMap α) (f : α → List β) :
    (m.names.flatMap fun name => (m.get? name).elim [] f) = m.values.flatMap f := by
  rw [NameMap.names, NameMap.values, List.flatMap_map, List.flatMap_map]
  refine List.flatMap_congr fun e hMem => ?_
  rw [NameMap.get?_eq_some_iff.mpr hMem, Option.elim_some]

/-- When levels change, reliable reporters start anew that follow the metrics and run. -/
theorem restarted_restartListening
    (h : ∀ name r, rs.byName.get? name = some r → r.Reliable) :
    ∃ rs', rs.restartListening = (rs', true) ∧ rs.Restarted rs' := by
  obtain ⟨rs', hTurn, hPassed⟩ := passed_inTurn rs.nodup_names fun name _ => h name
  refine ⟨rs', hTurn, ?_, fun name => ?_⟩
  · rw [hPassed.site, ← flatMap_names, ← flatMap_names]
    rfl
  · by_cases hMem : name ∈ rs.byName.names
    · exact hPassed.again name hMem
    · rw [hPassed.others name hMem]
      rw [NameMap.mem_names_iff, Bool.not_eq_true, NameMap.contains_eq_false_iff] at hMem
      rw [hMem]
      exact .none

end Reporters

end Metering
