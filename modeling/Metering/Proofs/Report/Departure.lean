import Metering.Proofs.Session.Isolation

/-!
# Metering — stops and what shows them

Whoever leaves a supervisor is stopped, and is seen no more. That it was stopped can be told from
what a stop leaves behind: scripted reporters put it into the journal, those that poll into the log.

* `Site.Leads` — a site and what has come of it, of whose journal and log nothing is lost;
* `StopsMade` — reporters were stopped one after another between two sites, which the later one
  shows, and what has become of them; `StopsMade.goOn`, `StopsMade.rests`;
* `StopsMade.count_le` — the journal tells of a stop for each of them that puts down its calls;
* `stopsMade_dismiss`, `stopsMade_close` — whoever is dismissed is stopped, and so are all when a
  supervisor ends, unless one breaks off.
-/

namespace Metering

open Report

/-! ## What is left behind -/

/-- Nothing of the journal or of the log is lost. -/
structure Site.Leads (site site' : Site) : Prop where
  journal : site.journal <+: site'.journal
  log : site.host.log <+: site'.host.log

namespace Site.Leads

variable {site site' site'' : Site}

theorem refl (site : Site) : site.Leads site := ⟨List.prefix_rfl, List.prefix_rfl⟩

theorem trans (h : site.Leads site') (h' : site'.Leads site'') : site.Leads site'' :=
  ⟨h.journal.trans h'.journal, h.log.trans h'.log⟩

theorem say (site : Site) (severity : Severity) (message : String) :
    site.Leads (site.say severity message) :=
  ⟨List.prefix_rfl, List.prefix_append _ _⟩

theorem start (r : Reporter) (site : Site) : site.Leads (r.start site).1 := by
  cases r with
  | polled p =>
    refine ⟨List.prefix_rfl, ?_⟩
    simp only [Reporter.start, Polled.start]
    split
    · exact List.prefix_rfl
    · split
      · exact List.prefix_append _ _
      · exact List.prefix_rfl
  | scripted s => exact ⟨List.prefix_append _ _, List.prefix_rfl⟩

theorem stop (r : Reporter) (site : Site) : site.Leads (r.stop site).1 := by
  cases r with
  | polled p =>
    refine ⟨List.prefix_rfl, ?_⟩
    simp only [Reporter.stop, Polled.stop]
    split
    · exact List.prefix_append _ _
    · exact List.prefix_rfl
  | scripted s => exact ⟨List.prefix_append _ _, List.prefix_rfl⟩

theorem giveUp (r : Reporter) (site : Site) : site.Leads (r.giveUp site) := by
  cases r with
  | polled p => exact stop (.polled p) site
  | scripted s => exact refl site

theorem giveUpAll (gone : List Reporter) (site : Site) :
    site.Leads (gone.foldl (fun site r => r.giveUp site) site) := by
  induction gone generalizing site with
  | nil => exact refl site
  | cons r rest ih => exact (giveUp r site).trans (ih _)

theorem returned (site : Site) (c : Call) (name : String) (outcome : Outcome) :
    site.Leads (site.returned c name outcome) := by
  cases outcome with
  | failed fault => exact say site _ _
  | done | brokenOff => exact refl site

theorem attend {visit : Reporter → Site → Site × Reporter × Outcome}
    (hVisit : ∀ (r : Reporter) (site : Site), site.Leads (visit r site).1)
    (wording : String → ReportFault → String)
    (name : String) (rs : Reporters) :
    rs.site.Leads (Reporters.attend visit wording name rs).1.site := by
  rw [Reporters.attend]
  split
  · exact refl rs.site
  · next r _ =>
    dsimp only
    split
    · exact hVisit r rs.site
    · exact (hVisit r rs.site).trans (say _ _ _)
    · exact hVisit r rs.site

end Site.Leads

/-! ## Stops -/

/-- Reporters were stopped one after another from a site on, and this has become of them. The site
at the end still has all that the stops have put into the journal and into the log. -/
inductive StopsMade (after : Site) : Site → List Reporter → List Reporter → Prop where
  | none (site : Site) : StopsMade after site [] []
  | next {site now : Site} {r : Reporter} {rest left : List Reporter} (hSince : site.Leads now)
      (hKept : (r.stop now).1.Leads after) (hRest : StopsMade after (r.stop now).1 rest left) :
      StopsMade after site (r :: rest) ((r.stop now).2.1 :: left)

/-- An entry of the journal tells that a reporter of a tag was stopped. -/
def Note.isStop (tag : String) : Note → Bool
  | .called other .stop _ => other = tag
  | _ => false

/-- A stop is put down by reporters that put down their calls. -/
theorem Report.Reporter.count_stop_le (r : Reporter) (site : Site) (tag : String) :
    site.journal.countP (Note.isStop tag) +
        [(r.stop site).2.1].countP (fun left => left.tag? = some tag) ≤
      (r.stop site).1.journal.countP (Note.isStop tag) := by
  have hTag : (r.stop site).2.1.tag? = r.tag? := (Onward.stopped .same site).name_eq.2
  rw [List.countP_singleton, hTag]
  cases r with
  -- one that polls has no tag, and puts nothing into the journal
  | polled p => simp [tag?, stop]
  | scripted s =>
    by_cases hSame : s.tag = tag <;>
      simp [stop, Scripted.call, Site.note, tag?, Note.isStop, hSame]

namespace StopsMade

variable {site site' after after' : Site} {rs left : List Reporter}

theorem since (hSince : site'.Leads site) (h : StopsMade after site rs left) :
    StopsMade after site' rs left := by
  cases h with
  | none => exact .none site'
  | next hFirst hKept hRest => exact .next (hSince.trans hFirst) hKept hRest

theorem leads (h : StopsMade after site rs left) (hAfter : after.Leads after') :
    StopsMade after' site rs left := by
  induction h with
  | none site => exact .none site
  | next hSince hKept _ ih => exact .next hSince (hKept.trans hAfter) ih

/-- Whoever is stopped goes on as one that was stopped. -/
theorem goOn (h : StopsMade after site rs left) : GoOn rs left := by
  induction h with
  | none => exact .refl []
  | next _ _ _ ih => exact .cons (.stopped .same _) ih

/-- Whoever can be stopped rests then. -/
theorem rests (h : StopsMade after site rs left) (hStops : ∀ r ∈ rs, r.Stoppable) :
    ∀ r ∈ left, r.running = false := by
  induction h with
  | none => exact nofun
  | @next site now r rest left _ _ _ ih =>
    obtain ⟨hFirst, hOthers⟩ := List.forall_mem_cons.mp hStops
    exact List.forall_mem_cons.mpr ⟨(hFirst r .same now).1, ih hOthers⟩

/-- Calls do not change the tags of reporters. -/
theorem tags (h : StopsMade after site rs left) :
    left.map Reporter.tag? = rs.map Reporter.tag? := by
  induction h with
  | none => rfl
  | @next site now r rest left _ _ _ ih =>
    rw [List.map_cons, List.map_cons, ih, (Reporter.Onward.stopped .same now).name_eq.2]

/-- The journal has at least as many new entries on stops under a tag as reporters of this tag were
stopped. -/
theorem count_le (h : StopsMade after site rs left) (hGrows : site.journal <+: after.journal)
    (tag : String) :
    site.journal.countP (Note.isStop tag) + left.countP (fun r => r.tag? = some tag) ≤
      after.journal.countP (Note.isStop tag) := by
  induction h with
  | none site => exact hGrows.sublist.countP_le
  | @next site now r rest left hSince hKept _ ih =>
    -- the entries at the start are there before the stop, which adds its own, and those last
    have hBefore : site.journal.countP (Note.isStop tag) ≤ now.journal.countP (Note.isStop tag) :=
      hSince.journal.sublist.countP_le
    have hStop := r.count_stop_le now tag
    have hRest := ih hKept.journal
    rw [List.countP_singleton] at hStop
    rw [List.countP_cons]
    omega

/-- Where each of several reporters got one call, which was to stop, all were stopped. -/
theorem of_callsMade {now : Site} {es es' : List (String × Reporter)}
    (h : CallsMade .stop es site es' now) (hAfter : now.Leads after) :
    StopsMade after site (es.map Prod.snd) (es'.map Prod.snd) := by
  -- that nothing is lost on the way is carried along: the first stop shows through the others
  suffices hAll : site.Leads now ∧ StopsMade after site (es.map Prod.snd) (es'.map Prod.snd) from
    hAll.2
  induction h with
  | none site => exact ⟨.refl site, .none site⟩
  | @called name r r' outcome site now _ rest rest' _ hCall _ _ ih =>
    obtain ⟨hLeads, hRest⟩ := ih hAfter
    have hStop : r.stop site = (now, r', outcome) := hCall
    have hThen := (Site.Leads.returned now .stop name outcome).trans hLeads
    have hFirst := Site.Leads.stop r site
    rw [hStop] at hFirst
    refine ⟨hFirst.trans hThen, ?_⟩
    have hNext : StopsMade after site (r :: rest.map Prod.snd)
        ((r.stop site).2.1 :: rest'.map Prod.snd) := by
      refine .next (.refl site) ?_ ?_ <;> rw [hStop]
      · exact hThen.trans hAfter
      · exact hRest.since (.returned now .stop name outcome)
    rwa [hStop] at hNext
  | passed hNot => cases hNot

end StopsMade

/-! ## Leaving -/

namespace Reporters

/-- Whoever is dismissed is stopped. -/
theorem stopsMade_dismiss (rs : Reporters) (r : Reporter) (wording : ReportFault → String) :
    StopsMade (rs.dismiss r wording).1.site rs.site [r] [(r.stop rs.site).2.1] := by
  refine .next (.refl rs.site) ?_ (.none _)
  -- whatever the stop comes to, the reporter is given up after it
  rw [dismiss]
  split
  · next hStop =>
    rw [hStop]
    exact .giveUp _ _
  · next hStop =>
    rw [hStop]
    exact (Site.Leads.say _ _ _).trans (.giveUp _ _)
  · next hStop =>
    rw [hStop]
    exact .giveUp _ _

/-- All are stopped when a supervisor ends, unless one breaks off. -/
theorem stopsMade_close (rs : Reporters) (h : ∀ r ∈ rs.byName.values, r.Stoppable) :
    StopsMade rs.close.1 rs.site rs.byName.values rs.stopAll.1.byName.values := by
  have hWhole : rs.stopAll.2 = true := attendAll_ends fun name r hAt site =>
    (h r (NameMap.mem_values_iff.mpr ⟨name, hAt⟩) r .same site).2
  exact .of_callsMade (callsMade_visitAll hWhole) (.giveUpAll rs.stopAll.1.byName.values _)

end Reporters

end Metering
