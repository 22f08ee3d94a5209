import Mathlib.Data.Multiset.AddSub
import Metering.Proofs.Report.Reporter
import Metering.Supervisor

/-!
# Metering — reporters in the course of time

A reporter is what its calls have made of it. Whoever has it may call it at any time, so what is
said of a reporter for good must be said of all that it may become.

* `Reporter.Onward` — a reporter and what some calls have made of it;
* `Reporter.Stoppable` — a reporter that never runs after a stop, whatever the stop reports;
  `stoppable_polled`, `stoppable_scripted`;
* `GoOn` — several reporters, each of which goes on as one of several others;
* `Site.CallsOnly` — of all reporters only some are called meanwhile;
* `Visit` — what calls one reporter and nobody else, and the calls that are made of all reporters.
-/

namespace Metering

open Report

/-! ## One reporter -/

/-- A call with a verdict that the reporter obeys does not break off. -/
theorem Report.Scripted.outcome_ne_brokenOff {s : Scripted} {v : Verdict} {c : Call}
    (h : v.obeys = true) : s.outcome c v ≠ .brokenOff := by
  cases v with
  | breaking => cases h
  | well | disabled | failing | grudging => exact fun hBroken => by cases hBroken

namespace Report.Reporter

/-- A reporter and what some calls have made of it. -/
inductive Onward (r : Reporter) : Reporter → Prop where
  | same : Onward r r
  | started {now : Reporter} (h : Onward r now) (site : Site) : Onward r (now.start site).2.1
  | stopped {now : Reporter} (h : Onward r now) (site : Site) : Onward r (now.stop site).2.1
  | reported {now : Reporter} (h : Onward r now) (site : Site) : Onward r (now.report site).2.1

variable {r r' r'' : Reporter}

theorem Onward.trans (h : r.Onward r') (h' : r'.Onward r'') : r.Onward r'' := by
  induction h' with
  | same => exact h
  | started _ site ih => exact ih.started site
  | stopped _ site ih => exact ih.stopped site
  | reported _ site ih => exact ih.reported site

instance : IsTrans Reporter Onward := ⟨fun _ _ _ => Onward.trans⟩

/-- The tag under which a reporter puts down its calls, if it does. -/
def tag? : Reporter → Option String
  | polled _ => none
  | scripted s => some s.tag

/-- Calls change neither the name of a reporter nor its tag. -/
theorem Onward.name_eq (h : r.Onward r') : r'.name = r.name ∧ r'.tag? = r.tag? := by
  induction h with
  | same => exact ⟨rfl, rfl⟩
  | @started now _ site ih =>
    rw [← ih.1, ← ih.2]
    cases now with
    | polled p =>
      rcases p.start_cases site.host with ⟨-, hStart⟩ | ⟨-, host, hStart⟩ | ⟨-, hStart⟩ <;>
        simp only [start, hStart, name, tag?, and_self]
    | scripted s =>
      simp only [start, Scripted.call]
      split <;> exact ⟨rfl, rfl⟩
  | @stopped now _ site ih =>
    rw [← ih.1, ← ih.2]
    cases now with
    | polled p =>
      simp only [stop, Polled.stop]
      split <;> exact ⟨rfl, rfl⟩
    | scripted s =>
      simp only [stop, Scripted.call]
      split <;> exact ⟨rfl, rfl⟩
  | @reported now _ site ih =>
    rw [← ih.1, ← ih.2]
    cases now with
    | polled p =>
      obtain ⟨host, statistics, sink, outcome, h⟩ := report_polled p site
      rw [h]
      exact ⟨rfl, rfl⟩
    | scripted s =>
      obtain ⟨note, outcome, h⟩ := report_scripted s site
      rw [h]
      exact ⟨rfl, rfl⟩

/-- A reporter that does not run after a stop, at any time and whether the stop succeeds or
reports a failure. A stop that breaks off would not count as one. -/
def Stoppable (r : Reporter) : Prop :=
  ∀ now, r.Onward now → ∀ site, (now.stop site).2.1.running = false ∧
    (now.stop site).2.2 ≠ .brokenOff

theorem Stoppable.onward (h : r.Stoppable) (hOnward : r.Onward r') : r'.Stoppable :=
  fun now hNow => h now (hOnward.trans hNow)

theorem exists_polled {p : Polled} (h : (polled p).Onward r) : ∃ p', r = polled p' := by
  induction h with
  | same => exact ⟨p, rfl⟩
  | started _ site ih | stopped _ site ih =>
    obtain ⟨p', rfl⟩ := ih
    exact ⟨_, rfl⟩
  | reported _ site ih =>
    obtain ⟨p', rfl⟩ := ih
    obtain ⟨host, statistics, sink, outcome, h⟩ := report_polled p' site
    exact ⟨_, congrArg (fun o => o.2.1) h⟩

/-- Reporters that poll can be stopped at any time. -/
theorem stoppable_polled (p : Polled) : (polled p).Stoppable := by
  intro now hOnward site
  obtain ⟨p', rfl⟩ := exists_polled hOnward
  refine ⟨?_, nofun⟩
  simp only [stop, Polled.stop]
  split
  · rfl
  · next hRests => exact Bool.eq_false_iff.mpr hRests

/-- A call uses up one verdict at most. -/
theorem stops_call (s : Scripted) (c : Call) (site : Site) :
    (s.call c site).2.1.stops <:+ s.stops := by
  have hFollowed (s' : Scripted) : (s'.followed c).stops = s'.stops := by cases c <;> rfl
  have hSpent : (s.spent c).stops <:+ s.stops := by
    cases c with
    | stop => exact List.tail_suffix s.stops
    | start | report => exact List.suffix_rfl
  simp only [Scripted.call]
  split
  · rw [hFollowed]
    exact hSpent
  · exact hSpent

/-- A scripted reporter goes on as one with the same verdicts for its stops, or fewer. -/
theorem exists_scripted {s : Scripted} (h : (scripted s).Onward r) :
    ∃ s', r = scripted s' ∧ s'.stops <:+ s.stops := by
  induction h with
  | same => exact ⟨s, rfl, List.suffix_rfl⟩
  | started _ site ih =>
    obtain ⟨s', rfl, hSuffix⟩ := ih
    exact ⟨(s'.call .start site).2.1, rfl, (stops_call s' .start site).trans hSuffix⟩
  | stopped _ site ih =>
    obtain ⟨s', rfl, hSuffix⟩ := ih
    exact ⟨(s'.call .stop site).2.1, rfl, (stops_call s' .stop site).trans hSuffix⟩
  | reported _ site ih =>
    obtain ⟨s', rfl, hSuffix⟩ := ih
    exact ⟨(s'.call .report site).2.1, rfl, (stops_call s' .report site).trans hSuffix⟩

/-- Scripted reporters can be stopped if none of their verdicts for a stop is against it. -/
theorem stoppable_scripted {s : Scripted} (h : ∀ v ∈ s.stops, v.obeys = true) :
    (scripted s).Stoppable := by
  intro now hOnward site
  obtain ⟨s', rfl, hSuffix⟩ := exists_scripted hOnward
  have hObeys : (s'.stops.headD .well).obeys = true := by
    cases hStops : s'.stops with
    | nil => rfl
    | cons v rest =>
      have hMem : v ∈ s'.stops := hStops ▸ List.mem_cons_self
      exact h v (hSuffix.subset hMem)
  refine ⟨?_, ?_⟩
  · simp only [stop, Scripted.call, Scripted.verdicts, hObeys, if_true]
    rfl
  · exact Scripted.outcome_ne_brokenOff hObeys

end Report.Reporter

/-! ## Several reporters -/

/-- Each of some reporters goes on as one of some others, and nobody else is among these. -/
def GoOn (before after : List Reporter) : Prop :=
  Multiset.Rel Reporter.Onward (before : Multiset Reporter) (after : Multiset Reporter)

/-- A tag is that of one of some reporters. -/
def Tagged (rs : List Reporter) (tag : String) : Prop := ∃ r ∈ rs, r.tag? = some tag

namespace GoOn

variable {before after later : List Reporter} {r r' : Reporter}

theorem of_perm (h : before.Perm after) : GoOn before after := by
  rw [GoOn, Multiset.coe_eq_coe.mpr h]
  exact Multiset.rel_refl_of_refl_on fun _ _ => .same

theorem refl (rs : List Reporter) : GoOn rs rs := of_perm (.refl rs)

theorem trans (h : GoOn before after) (h' : GoOn after later) : GoOn before later :=
  Multiset.Rel.trans _ h h'

theorem append {before' after' : List Reporter} (h : GoOn before after)
    (h' : GoOn before' after') : GoOn (before ++ before') (after ++ after') := by
  rw [GoOn, ← Multiset.coe_add, ← Multiset.coe_add]
  exact Multiset.Rel.add h h'

theorem cons (hOne : r.Onward r') (h : GoOn before after) : GoOn (r :: before) (r' :: after) :=
  Multiset.Rel.cons hOne h

/-- Whoever is among the later ones has been among the earlier ones. -/
theorem exists_of_mem (h : GoOn before after) (hMem : r' ∈ after) :
    ∃ r ∈ before, r.Onward r' := by
  obtain ⟨r, hr, hOnward⟩ :=
    Multiset.exists_mem_of_rel_of_mem (Multiset.rel_flip.mpr h) (Multiset.mem_coe.mpr hMem)
  exact ⟨r, Multiset.mem_coe.mp hr, hOnward⟩

theorem tagged {tag : String} (h : GoOn before after) (hTag : Tagged after tag) :
    Tagged before tag := by
  obtain ⟨r', hMem, hAt⟩ := hTag
  obtain ⟨r, hr, hOnward⟩ := h.exists_of_mem hMem
  exact ⟨r, hr, hOnward.name_eq.2 ▸ hAt⟩

end GoOn

/-! ## Calls of reporters in the journal -/

/-- The journal has grown, and of all reporters that put down their calls only some were called. -/
def Site.CallsOnly (site site' : Site) (tags : String → Prop) : Prop :=
  ∃ notes, site'.journal = site.journal ++ notes ∧
    ∀ tag call well, .called tag call well ∈ notes → tags tag

namespace Site.CallsOnly

variable {site site' site'' : Site} {tags tags' : String → Prop}

theorem of_same (h : site'.journal = site.journal) : site.CallsOnly site' tags :=
  ⟨[], by rw [h, List.append_nil], nofun⟩

theorem imp (h : site.CallsOnly site' tags) (hTags : ∀ tag, tags tag → tags' tag) :
    site.CallsOnly site' tags' := by
  obtain ⟨notes, hJournal, hCalls⟩ := h
  exact ⟨notes, hJournal, fun tag call well hMem => hTags tag (hCalls tag call well hMem)⟩

theorem trans (h : site.CallsOnly site' tags) (h' : site'.CallsOnly site'' tags) :
    site.CallsOnly site'' tags := by
  obtain ⟨first, hFirst, hCalls⟩ := h
  obtain ⟨second, hSecond, hCalls'⟩ := h'
  refine ⟨first ++ second, by rw [hSecond, hFirst, List.append_assoc], fun tag call well hMem => ?_⟩
  rcases List.mem_append.mp hMem with hMem | hMem
  · exact hCalls tag call well hMem
  · exact hCalls' tag call well hMem

/-- One more entry, which is a call of one of them or no call at all. -/
theorem note (site : Site) (n : Note) (h : ∀ tag call well, n = .called tag call well → tags tag) :
    site.CallsOnly (site.note n) tags :=
  ⟨[n], rfl, fun tag call well hMem => h tag call well (List.mem_singleton.mp hMem).symm⟩

end Site.CallsOnly

/-! ## Visits -/

/-- What calls one reporter, as often as it likes, and nobody else. -/
structure Visit (visit : Reporter → Site → Site × Reporter × Outcome) : Prop where
  onward : ∀ (r : Reporter) (site : Site), r.Onward (visit r site).2.1
  calls : ∀ (r : Reporter) (site : Site), site.CallsOnly (visit r site).1 (Tagged [r])

theorem Report.Scripted.callsOnly_call (s : Scripted) (c : Call) (site : Site) :
    site.CallsOnly (s.call c site).1 (Tagged [.scripted s]) := by
  refine .note site (.called s.tag c ((s.verdicts c).headD .well = .well)) ?_
  intro tag call well hNote
  cases hNote
  exact ⟨.scripted s, List.mem_singleton_self _, rfl⟩

namespace Visit

theorem start : Visit Reporter.start where
  onward r site := .started .same site
  calls r site := by
    cases r with
    | polled p => exact .of_same rfl
    | scripted s => exact s.callsOnly_call .start site

theorem stop : Visit Reporter.stop where
  onward r site := .stopped .same site
  calls r site := by
    cases r with
    | polled p => exact .of_same rfl
    | scripted s => exact s.callsOnly_call .stop site

theorem report : Visit Reporter.report where
  onward r site := .reported .same site
  calls r site := by
    cases r with
    | polled p =>
      obtain ⟨host, statistics, sink, outcome, h⟩ := Reporter.report_polled p site
      rw [h]
      exact .of_same rfl
    | scripted s => exact s.callsOnly_call .report site

/-- A stop and then a start, unless the stop has failed. -/
theorem restart : Visit Reporter.restart := by
  have hCases : ∀ (r : Reporter) (site : Site), (r.restart site = r.stop site) ∨
      r.restart site = (r.stop site).2.1.start (r.stop site).1 := by
    intro r site
    rw [Reporter.restart]
    split
    · next h =>
      rw [h]
      exact .inr rfl
    · exact .inl rfl
  refine ⟨fun r site => ?_, fun r site => ?_⟩
  · rcases hCases r site with h | h <;> rw [h]
    · exact stop.onward r site
    · exact (stop.onward r site).started _
  · rcases hCases r site with h | h <;> rw [h]
    · exact stop.calls r site
    · refine (stop.calls r site).trans ((start.calls _ _).imp fun tag hTag => ?_)
      exact (GoOn.cons (stop.onward r site) (.refl [])).tagged hTag

theorem restartIfListening : Visit Reporters.restartIfListening := by
  refine ⟨fun r site => ?_, fun r site => ?_⟩ <;> rw [Reporters.restartIfListening] <;> split
  · exact restart.onward r _
  · exact .same
  · exact .trans (.of_same rfl) (restart.calls r _)
  · exact .of_same rfl

theorem reportIfScheduled : Visit Reporters.reportIfScheduled := by
  refine ⟨fun r site => ?_, fun r site => ?_⟩ <;> rw [Reporters.reportIfScheduled] <;> split
  · exact report.onward r site
  · exact .same
  · exact report.calls r site
  · exact .of_same rfl

end Visit

end Metering
