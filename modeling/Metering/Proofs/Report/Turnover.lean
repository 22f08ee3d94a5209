import Metering.Proofs.Report.Departure

/-!
# Metering — reporters that come and leave

Reporters come to a supervisor one by one, and leave it because they are discharged, because another
takes their name, or because the supervisor ends. Nobody gets lost or is there twice meanwhile, only
the reporters of the supervisor are called, and whoever leaves is stopped.

* `Reporters.named` — the reporter of a name, if there is one;
* `Turnover` — what becomes of those that were there and those that come;
* `Turnover.attendAll`, `Turnover.register`, `Turnover.discharge`, `Turnover.close` — one lemma for
  each thing that a supervisor does, and who is stopped with it.
-/

namespace Metering

open Report

namespace Reporters

variable {rs rs' rs'' : Reporters} {r : Reporter} {name : String} {came left : List Reporter}
  {visit : Reporter → Site → Site × Reporter × Outcome} {wording : String → ReportFault → String}

/-- The reporter of a name, if there is one. -/
def named (rs : Reporters) (name : String) : List Reporter := (rs.byName.get? name).toList

theorem named_of_some (hAt : rs.byName.get? name = some r) : rs.named name = [r] := by
  rw [named, hAt, Option.toList_some]

theorem named_of_none (hAt : rs.byName.get? name = none) : rs.named name = [] := by
  rw [named, hAt, Option.toList_none]

/-! ## Turnover -/

/-- Those that were there and those that came go on as those that are there now and those that left,
and nobody else was called. -/
structure Turnover (rs : Reporters) (came : List Reporter) (rs' : Reporters)
    (left : List Reporter) : Prop where
  goOn : GoOn (rs.byName.values ++ came) (rs'.byName.values ++ left)
  calls : rs.site.CallsOnly rs'.site (Tagged (rs.byName.values ++ came))

/-- Nobody came, and nobody left. -/
abbrev Stays (rs rs' : Reporters) : Prop := rs.Turnover [] rs' []

theorem Stays.of_goOn (hGoOn : GoOn rs.byName.values rs'.byName.values)
    (hCalls : rs.site.CallsOnly rs'.site (Tagged rs.byName.values)) : rs.Stays rs' := by
  refine ⟨?_, ?_⟩
  · rw [List.append_nil, List.append_nil]
    exact hGoOn
  · rw [List.append_nil]
    exact hCalls

theorem Stays.there (h : rs.Stays rs') :
    GoOn rs.byName.values rs'.byName.values ∧
      rs.site.CallsOnly rs'.site (Tagged rs.byName.values) := by
  obtain ⟨hGoOn, hCalls⟩ := h
  rw [List.append_nil, List.append_nil] at hGoOn
  rw [List.append_nil] at hCalls
  exact ⟨hGoOn, hCalls⟩

theorem Stays.refl (rs : Reporters) : rs.Stays rs := .of_goOn (.refl _) (.of_same rfl)

/-- After a turnover those that are there may be called. -/
theorem Turnover.trans (h : rs.Turnover came rs' left) (h' : rs'.Stays rs'') :
    rs.Turnover came rs'' left := by
  obtain ⟨hThere, hCalls⟩ := h'.there
  refine ⟨h.goOn.trans (hThere.append (.refl left)), h.calls.trans (hCalls.imp fun tag hTag => ?_)⟩
  -- whoever is there now was there before, or came
  obtain ⟨r, hMem, hAt⟩ := hTag
  exact h.goOn.tagged ⟨r, List.mem_append_left _ hMem, hAt⟩

/-! ## Calls -/

/-- One of those that are there may go on as another, under its name. -/
theorem goOn_insert {r' : Reporter} (hAt : rs.byName.get? name = some r) (hOnward : r.Onward r') :
    GoOn rs.byName.values (rs.byName.insert name r').values := by
  have hBefore := GoOn.of_perm (NameMap.values_erase_perm hAt)
  have hAfter := GoOn.of_perm (rs.byName.values_insert_perm name r').symm
  exact hBefore.trans ((GoOn.cons hOnward (.refl _)).trans hAfter)

theorem tagged_of_get? (hAt : rs.byName.get? name = some r) {tag : String} (h : Tagged [r] tag) :
    Tagged rs.byName.values tag := by
  obtain ⟨r', hMem, hTag⟩ := h
  rw [List.mem_singleton.mp hMem] at hTag
  exact ⟨r, NameMap.mem_values_iff.mpr ⟨name, hAt⟩, hTag⟩

theorem Turnover.attend (hVisit : Visit visit) (wording : String → ReportFault → String)
    (name : String) (rs : Reporters) : rs.Stays (attend visit wording name rs).1 := by
  rw [Reporters.attend]
  split
  · exact .refl rs
  · next r hAt =>
    have hGoOn := goOn_insert hAt (hVisit.onward r rs.site)
    have hCalls := (hVisit.calls r rs.site).imp fun _ hTag => tagged_of_get? hAt hTag
    dsimp only
    split
    · exact .of_goOn hGoOn hCalls
    · exact .of_goOn hGoOn (hCalls.trans (.of_same rfl))
    · exact .of_goOn hGoOn hCalls

theorem Turnover.attendAll (hVisit : Visit visit) (wording : String → ReportFault → String)
    (rs : Reporters) : rs.Stays (rs.attendAll visit wording).1 :=
  inTurn_keeps (P := rs.Stays) _
    (fun name _ now hStays => hStays.trans (.attend hVisit wording name now)) (.refl rs)

theorem Turnover.heed (rs : Reporters) (change : Change) : rs.Stays (rs.heed change).1 := by
  cases change with
  | switch on =>
    cases on with
    | true => exact .attendAll .start _ rs
    | false => exact .attendAll .stop _ rs
  | root | metric => exact .attendAll .restartIfListening _ rs

theorem Turnover.callOne (hVisit : Visit visit) (rs : Reporters) (name : String) :
    rs.Stays (rs.callOne visit name).1 := by
  rw [Reporters.callOne]
  split
  · exact .refl rs
  · next r hAt =>
    have hStays : rs.Stays ⟨(visit r rs.site).1, rs.byName.insert name (visit r rs.site).2.1⟩ :=
      .of_goOn (goOn_insert hAt (hVisit.onward r rs.site))
        ((hVisit.calls r rs.site).imp fun _ hTag => tagged_of_get? hAt hTag)
    dsimp only
    split <;> exact hStays

/-! ## Leaving -/

theorem journal_giveUp (r : Reporter) (site : Site) : (r.giveUp site).journal = site.journal := by
  cases r <;> rfl

theorem journal_giveUpAll (gone : List Reporter) (site : Site) :
    (gone.foldl (fun site r => r.giveUp site) site).journal = site.journal := by
  induction gone generalizing site with
  | nil => rfl
  | cons r rest ih => exact (ih _).trans (journal_giveUp r site)

/-- Whoever is dismissed is not kept, and nobody else is called. -/
theorem dismiss_eq (rs : Reporters) (r : Reporter) (wording : ReportFault → String) :
    (rs.dismiss r wording).1.byName = rs.byName ∧
      rs.site.CallsOnly (rs.dismiss r wording).1.site (Tagged [r]) := by
  have hCalls := Visit.stop.calls r rs.site
  rw [dismiss]
  split
  · next site after hStop =>
    rw [hStop] at hCalls
    exact ⟨rfl, hCalls.trans (.of_same (journal_giveUp after _))⟩
  · next site after fault hStop =>
    rw [hStop] at hCalls
    exact ⟨rfl, hCalls.trans (.of_same (journal_giveUp after _))⟩
  · next site after hStop =>
    rw [hStop] at hCalls
    exact ⟨rfl, hCalls.trans (.of_same (journal_giveUp after _))⟩

/-- A reporter comes, and takes the place of the one of its name, which is stopped. -/
theorem Turnover.replaced (rs : Reporters) (r : Reporter) :
    let entered : Reporters := { rs with byName := rs.byName.insert r.name r }
    let after := (entered.dismissReplaced (rs.byName.get? r.name)).1
    ∃ left, rs.Turnover [r] after left ∧ StopsMade after.site rs.site (rs.named r.name) left := by
  intro entered after
  have hEntered := GoOn.of_perm (rs.byName.values_insert_perm r.name r).symm
  cases hAt : rs.byName.get? r.name with
  | none =>
    have hAfter : after = entered := by simp only [after, hAt, dismissReplaced]
    rw [hAfter, named_of_none hAt]
    refine ⟨[], ⟨?_, .of_same rfl⟩, .none _⟩
    rw [List.append_nil]
    have hBefore := GoOn.of_perm (NameMap.values_erase_of_none hAt)
    have hLast := GoOn.of_perm (List.perm_append_singleton r (rs.byName.erase r.name).values)
    exact (hBefore.append (.refl [r])).trans (hLast.trans hEntered)
  | some old =>
    let told : Reporters :=
      { entered with site := entered.site.say .debug s!"Replacing reporter '{old.name}'." }
    let wording (fault : ReportFault) : String :=
      s!"Failed to stop replaced reporter '{old.name}': {fault.message}"
    have hAfter : after = (told.dismiss old wording).1 := by
      simp only [after, hAt, dismissReplaced]
      rfl
    obtain ⟨hMap, hCalls⟩ := dismiss_eq told old wording
    have hStops := told.stopsMade_dismiss old wording
    rw [hAfter, named_of_some hAt]
    refine ⟨_, ⟨?_, ?_⟩, hStops.since (.say _ _ _)⟩
    · rw [hMap]
      -- the old one is stopped, and the new one has its place
      have hBefore := GoOn.of_perm (NameMap.values_erase_perm hAt)
      have hStopped := hStops.goOn.append (.refl (rs.byName.erase r.name).values)
      have hLast := GoOn.of_perm (List.perm_append_singleton r (rs.byName.erase r.name).values)
      refine ((hBefore.trans hStopped).append (.refl [r])).trans ?_
      rw [List.append_assoc]
      exact (GoOn.of_perm List.perm_append_comm).trans ((hLast.trans hEntered).append (.refl _))
    · refine .trans (.of_same rfl) (hCalls.imp fun tag hTag => ?_)
      obtain ⟨r', hMem, hTag'⟩ := tagged_of_get? hAt hTag
      exact ⟨r', List.mem_append_left _ hMem, hTag'⟩

theorem Turnover.register (rs : Reporters) (r : Reporter) :
    ∃ left, rs.Turnover [r] (rs.register r).1 left ∧
      StopsMade (rs.register r).1.site rs.site (rs.named r.name) left := by
  obtain ⟨left, hReplaced, hStops⟩ := replaced rs r
  refine ⟨left, ?_⟩
  rw [Reporters.register]
  split
  · next after hOutcome =>
    rw [hOutcome] at hReplaced hStops
    exact ⟨hReplaced, hStops⟩
  · next after hOutcome =>
    rw [hOutcome] at hReplaced hStops
    split
    · exact ⟨hReplaced.trans (.attend .start _ r.name after),
        hStops.leads (.attend Site.Leads.start _ r.name after)⟩
    · exact ⟨hReplaced, hStops⟩

theorem Turnover.discharge (rs : Reporters) (name : String) :
    ∃ left, rs.Turnover [] (rs.discharge name).1 left ∧
      StopsMade (rs.discharge name).1.site rs.site (rs.named name) left := by
  rw [Reporters.discharge]
  split
  · next hAt =>
    rw [named_of_none hAt]
    exact ⟨[], Stays.refl rs, .none _⟩
  · next r hAt =>
    let without : Reporters := { rs with byName := rs.byName.erase name }
    let wording (fault : ReportFault) : String :=
      s!"Failed to stop reporter '{name}': {fault.message}"
    obtain ⟨hMap, hCalls⟩ := dismiss_eq without r wording
    have hStops := without.stopsMade_dismiss r wording
    have hTurnover : rs.Turnover [] (without.dismiss r wording).1
        [(r.stop without.site).2.1] := by
      refine ⟨?_, ?_⟩
      · rw [hMap, List.append_nil]
        have hBefore := GoOn.of_perm (NameMap.values_erase_perm hAt)
        have hStopped := hStops.goOn.append (.refl (rs.byName.erase name).values)
        exact hBefore.trans (hStopped.trans (.of_perm List.perm_append_comm))
      · rw [List.append_nil]
        exact hCalls.imp fun _ hTag => tagged_of_get? hAt hTag
    rw [named_of_some hAt]
    dsimp only
    split <;>
    · next hDismiss =>
      rw [hDismiss] at hTurnover hStops
      exact ⟨_, hTurnover, hStops⟩

/-- When a supervisor ends, its reporters are called as when all are stopped. If all of them can be
stopped, they are. -/
theorem Turnover.close (rs : Reporters) :
    ∃ left, GoOn rs.byName.values left ∧ rs.site.CallsOnly rs.close.1 (Tagged rs.byName.values) ∧
      ((∀ r ∈ rs.byName.values, r.Stoppable) →
        StopsMade rs.close.1 rs.site rs.byName.values left) := by
  obtain ⟨hGoOn, hCalls⟩ := Stays.there (.attendAll .stop
    (fun name fault => s!"Failed to stop reporter '{name}': {fault.message}") rs)
  exact ⟨_, hGoOn, hCalls.trans (.of_same (journal_giveUpAll rs.stopAll.1.byName.values _)),
    rs.stopsMade_close⟩

end Reporters

end Metering
