import Metering.Proofs.Registry.Binding
import Metering.Proofs.Registry.Grant
import Metering.Proofs.Registry.Stored

/-!
# Metering — what a removal takes away

To remove a name with markers is to drop its group and then to remove the metrics behind it one by
one, each with all groups that it is a member of. Some of these metrics may be gone already, and
what is removed first may take away groups that a later one belongs to. All the same it can be said
beforehand what is missing in the end, and whether anything was there is decided by the metrics
alone: a group without them cannot be.

* `Lacks` — one registry is another one without the metrics of some names;
* `lacks_removeAll`, `snd_removeAll` — what the removal of several names comes to;
* `removal_exact_run` — what a request to remove a name does after every run.
-/

namespace Metering

namespace Registry

variable {r r₁ r₂ : Registry} {name : String} {names more : List String}

/-! ## Registries without some metrics -/

/-- The later registry is the earlier one without the metrics of some plain names, without what the
store has under these names, and without the groups whose names stand for one of them. All else is
the same: the instruments with their flags, what they have recorded, and what is configured. -/
structure Lacks (r : Registry) (names : List String) (r' : Registry) : Prop where
  records : ∀ x, r'.records.get? x = if x ∈ names then none else r.records.get? x
  store : ∀ x, r'.store.get? x = if x ∈ names then none else r.store.get? x
  groups : ∀ key g, r'.groups.get? key = some g ↔
    r.groups.get? key = some g ∧ ∀ x ∈ names, x ∉ Name.standsFor key
  others : r' = { r with
    records := r'.records, store := r'.store, groups := r'.groups, trail := r'.trail }

theorem Lacks.nothing (r : Registry) : Lacks r [] r where
  records x := by simp
  store x := by simp
  groups key g := by simp
  others := rfl

/-- What lacks some names of what lacks others lacks them all. -/
theorem Lacks.append (h : Lacks r names r₁) (h' : Lacks r₁ more r₂) :
    Lacks r (names ++ more) r₂ where
  records := by
    intro x
    rw [h'.records, h.records]
    by_cases hMore : x ∈ more <;> by_cases hNames : x ∈ names <;> simp [hMore, hNames]
  store := by
    intro x
    rw [h'.store, h.store]
    by_cases hMore : x ∈ more <;> by_cases hNames : x ∈ names <;> simp [hMore, hNames]
  groups := by
    intro key g
    rw [h'.groups, h.groups, List.forall_mem_append, and_assoc]
  others := by
    rw [h'.others, h.others]

/-- Notices are no part of what is removed. -/
theorem Lacks.tell (h : Lacks r names r₁) (n : Notice) : Lacks r names (r₁.tell n) where
  records := h.records
  store := h.store
  groups := h.groups
  others := by
    rw [h.others]
    rfl

/-! ## Removing metrics -/

/-- Whatever a group's name stands for is registered. -/
theorem has_of_group (hGrouped : Grouped r) {g : Group} {key x : String}
    (hGroup : r.groups.get? key = some g) (hMem : x ∈ Name.standsFor key) : r.has x = true := by
  obtain ⟨level, i, hRecord, -⟩ := granted_of_intact (hGrouped hGroup) x hMem
  obtain ⟨id, hId, -⟩ := record?_eq_some_iff.mp hRecord
  exact NameMap.contains_eq_true_iff.mpr ⟨id, hId⟩

theorem lacks_without (h : Grouped r) (name : String) : Lacks r [name] (r.without name) where
  records := by
    intro x
    simp only [List.mem_singleton]
    exact NameMap.get?_erase r.records name x
  store := by
    intro x
    simp only [List.mem_singleton]
    exact NameMap.get?_erase r.store name x
  groups := by
    intro key g
    rw [List.forall_mem_singleton]
    show (r.groups.keep fun _ g => !g.members.contains name).get? key = some g ↔ _
    rw [NameMap.get?_keep, Option.filter_eq_some_iff]
    refine and_congr_right fun hGroup => ?_
    rw [(h hGroup).standsFor_eq]
    simp
  others := rfl

/-- To remove the metric of a plain name is to be without it, whether it was there or not. -/
theorem lacks_removeMetric (h : Whole r) (name : String) :
    Lacks r [name] (r.removeMetric name).1 := by
  rw [removeMetric_eq]
  split
  · exact lacks_without h.grouped name
  · next hHas =>
    -- nothing is done, and nothing need be done: a name that is free is in none of the tables
    have hHas : r.has name = false := Bool.eq_false_iff.mpr hHas
    have hRecord : r.records.get? name = none := NameMap.contains_eq_false_iff.mp hHas
    have hStore : r.store.get? name = none := by
      rw [h.stored name, record?, hRecord]
      rfl
    refine ⟨fun x => ?_, fun x => ?_, fun key g => ?_, rfl⟩
    · by_cases hx : x = name
      · simp [hx, hRecord]
      · simp [hx]
    · by_cases hx : x = name
      · simp [hx, hStore]
      · simp [hx]
    · rw [List.forall_mem_singleton]
      refine ⟨fun hGroup => ⟨hGroup, fun hMem => ?_⟩, And.left⟩
      rw [has_of_group h.grouped hGroup hMem] at hHas
      cases hHas

/-- To remove the metrics of several names is to be without them all. -/
theorem lacks_removeAll (names : List String) (h : Whole r) :
    Lacks r names (r.removeAll names).1 := by
  -- by induction on the names; the registry is whole again after each of them
  induction names generalizing r with
  | nil => exact .nothing r
  | cons first rest ih =>
    have hFirst := lacks_removeMetric h first
    have hRest := ih (h.moves (removeMetric_moves r first))
    exact hFirst.append hRest

/-- The removal of several names says whether one of them was registered at first. -/
theorem snd_removeAll (names : List String) (r : Registry) :
    (r.removeAll names).2 = names.any r.has := by
  induction names generalizing r with
  | nil => rfl
  | cons first rest ih =>
    show ((r.removeMetric first).2 || ((r.removeMetric first).1.removeAll rest).2) = _
    rw [ih, List.any_cons, removeMetric_eq]
    cases hHas : r.has first with
    | true =>
      -- the first one decides, whatever its removal does to the others
      rw [if_pos rfl, Bool.true_or, Bool.true_or]
    | false => rw [if_neg Bool.false_ne_true]

/-! ## Removing a name with markers -/

/-- A name with markers that can be expanded is removed with all metrics of its expansion, and there
was something if one of these was registered. -/
theorem lacks_remove (h : Whole r) (hMarked : Name.isMarked name = true) {members : List String}
    (hMembers : Name.hierarchy name = .ok members) :
    Lacks r members (r.remove name).1 ∧ (r.remove name).2 = .ok (members.any r.has) := by
  have hStands : Name.standsFor name = members := Name.standsFor_of_marked hMembers hMarked
  let ungrouped : Registry := { r with groups := r.groups.erase name }
  have hWhole : Whole ungrouped := h.moves (.single (.ungrouped name))
  have hLacks : Lacks ungrouped members (ungrouped.removeAll members).1 :=
    lacks_removeAll members hWhole
  -- the group of the name itself would also have gone with its members
  have hAll : Lacks r members (ungrouped.removeAll members).1 := by
    refine ⟨hLacks.records, hLacks.store, fun key g => ?_, ?_⟩
    · rw [hLacks.groups]
      refine and_congr_left fun hApart => ?_
      show (r.groups.erase name).get? key = some g ↔ _
      rw [NameMap.get?_erase, if_neg]
      rintro rfl
      obtain ⟨first, rest, hFirst⟩ := List.exists_cons_of_ne_nil (Name.hierarchy_ne_nil hMembers)
      have hMem : first ∈ members := by simp [hFirst]
      exact hApart first hMem (hStands ▸ hMem)
    · rw [hLacks.others]
  have hFound : (ungrouped.removeAll members).2 = members.any r.has := snd_removeAll members _
  -- where there is a group, its metrics are registered
  have hGroup : r.groups.contains name = true → members.any r.has = true := by
    intro hThere
    obtain ⟨g, hg⟩ := NameMap.contains_eq_true_iff.mp hThere
    obtain ⟨first, rest, hFirst⟩ := List.exists_cons_of_ne_nil (Name.hierarchy_ne_nil hMembers)
    have hMem : first ∈ members := by simp [hFirst]
    exact List.any_eq_true.mpr ⟨first, hMem, has_of_group h.grouped hg (hStands ▸ hMem)⟩
  have hEither : (r.groups.contains name || (ungrouped.removeAll members).2) =
      members.any r.has := by
    rw [hFound]
    cases hThere : r.groups.contains name with
    | false => exact Bool.false_or _
    | true => rw [hGroup hThere, Bool.true_or]
  rw [remove, if_pos hMarked, hMembers]
  simp only
  rw [hEither]
  split
  · next hAny => exact ⟨hAll.tell _, by rw [hAny]⟩
  · next hAny => exact ⟨hAll, by rw [Bool.eq_false_iff.mpr hAny]⟩

/-- After every run, to remove a plain name removes its metric, what the store has under the name
and the groups that stand for it, and says whether the metric was there. To remove a name with
markers that can be expanded does the same for all names of its expansion, so that its own group is
gone as well, and says whether one of the metrics was there. One that cannot be expanded is refused,
and nothing happens. All other metrics, groups, flags and levels are as they were. -/
theorem removal_exact_run (levels : LevelMap) (window : Window) (on : Bool)
    (steps : List (Instant × Request)) (name : String) :
    let r := Usage.after levels window on steps
    let outcome := r.remove name
    (Name.isMarked name = false → Lacks r [name] outcome.1 ∧ outcome.2 = .ok (r.has name)) ∧
    (∀ members, Name.isMarked name = true → Name.hierarchy name = .ok members →
      Lacks r members outcome.1 ∧ outcome.2 = .ok (members.any r.has)) ∧
    (∀ fault, Name.isMarked name = true → Name.hierarchy name = .error fault →
      outcome = (r, .error fault) ∧ ∃ defect, fault = .invalidName name defect) := by
  intro r outcome
  have hWhole : Whole r := whole_after levels window on steps
  refine ⟨fun hPlain => ?_, fun members hMarked hMembers => ?_, fun fault hMarked hFault => ?_⟩
  · have hOutcome : outcome = ((r.removeMetric name).1, .ok (r.removeMetric name).2) := by
      show r.remove name = _
      rw [remove, hPlain, if_neg Bool.false_ne_true]
    rw [hOutcome]
    refine ⟨lacks_removeMetric hWhole name, ?_⟩
    rw [removeMetric_eq]
    split
    · next hHas => rw [hHas]
    · next hHas => rw [Bool.eq_false_iff.mpr hHas]
  · exact lacks_remove hWhole hMarked hMembers
  · refine ⟨?_, Name.eq_invalidName_of_hierarchy hFault⟩
    show r.remove name = _
    rw [remove, if_pos hMarked, hFault]

/-- Two groups with one name in common: whoever removes the first leaves no group behind. -/
example :
    let r := Usage.after default (.values 8) true
      [(0, .metric .counter "a[+].b.c" .info [.info]),
        (0, .metric .counter "a[+].d.c" .info [.info])]
    let outcome := r.remove "a[+].b.c"
    outcome.2 = .ok true ∧ outcome.1.records.names = ["a.d.c"] ∧ outcome.1.groups.names = [] := by
  decide

end Registry

end Metering
