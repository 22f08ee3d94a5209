import Metering.Proofs.Registry.Usage

/-!
# Metering — what a name is bound to

A plain name is bound to the instrument that is registered under it, a name with markers to the
instruments of the group that is entered under it. Only removals loosen a binding, and only those
that remove one of the plain names behind the name: whatever else is asked of a registry, all
bindings are kept.

* `Keeps` — one registry has all bindings of another, and `keeps_*`: every operation but removal
  keeps them;
* `bound?` — what a name is bound to;
* `Request.Removes` — a request removes a plain name that a name stands for;
* `bound?_perform`, `bound?_run` — a binding outlasts every request and every run that does not
  remove it.
-/

namespace Metering

namespace Registry

variable {r r' r'' : Registry} {name : String} {id : InstrumentId} {g : Group}

/-! ## Keeping all bindings -/

/-- What is registered and what is entered in a registry is so in another one, too. -/
structure Keeps (r r' : Registry) : Prop where
  records : ∀ {name id}, r.records.get? name = some id → r'.records.get? name = some id
  groups : ∀ {name g}, r.groups.get? name = some g → r'.groups.get? name = some g

theorem Keeps.refl (r : Registry) : Keeps r r := ⟨id, id⟩

theorem Keeps.trans (h : Keeps r r') (h' : Keeps r' r'') : Keeps r r'' :=
  ⟨fun hRecord => h'.records (h.records hRecord), fun hGroup => h'.groups (h.groups hGroup)⟩

/-- Nothing is lost if neither table of names has changed. -/
theorem Keeps.of_eq (hRecords : r'.records = r.records) (hGroups : r'.groups = r.groups) :
    Keeps r r' := by
  constructor
  · intro name id hRecord
    rw [hRecords, hRecord]
  · intro name g hGroup
    rw [hGroups, hGroup]

/-! ### Making metrics -/

/-- A metric is only made under a name that was free. -/
theorem keeps_make {level : Level} {initial : Statistic} (hFree : r.records.get? name = none) :
    Keeps r (r.make name level initial).1 := by
  refine ⟨fun {other id} hRecord => ?_, fun hGroup => hGroup⟩
  have hne : other ≠ name := by
    rintro rfl
    rw [hFree] at hRecord
    cases hRecord
  rw [records_make, NameMap.get?_insert_of_ne _ hne, hRecord]

theorem keeps_obtain (r : Registry) (name : String) (kind : Kind) (level : Level)
    (initial : Option Statistic) : Keeps r (r.obtain name kind level initial).1 := by
  rcases obtain_cases r name kind level initial with
    ⟨failure, h⟩ | ⟨found, i, h, -⟩ | ⟨s, h, -, hFree, -⟩
  · rw [h]
    exact .refl r
  · rw [h]
    exact .refl r
  · rw [h]
    exact keeps_make hFree

theorem keeps_obtainAll (r : Registry) (now : Instant) (measure : Measure)
    (requests : List (String × Level)) : Keeps r (r.obtainAll now measure requests).1 :=
  obtainAll_keeps (P := Keeps r)
    (fun name level h => h.trans (keeps_obtain _ name measure.kind level _)) requests (.refl r)

theorem groups_obtain (r : Registry) (name : String) (kind : Kind) (level : Level)
    (initial : Option Statistic) : (r.obtain name kind level initial).1.groups = r.groups := by
  rcases obtain_cases r name kind level initial with ⟨failure, h⟩ | ⟨found, i, h, -⟩ | ⟨s, h, -⟩
  · rw [h]
  · rw [h]
  · rw [h]
    rfl

/-- Members are looked up or made without any group being entered. -/
theorem groups_obtainAll (r : Registry) (now : Instant) (measure : Measure)
    (requests : List (String × Level)) :
    (r.obtainAll now measure requests).1.groups = r.groups :=
  obtainAll_keeps (P := fun r' => r'.groups = r.groups)
    (fun name level h => (groups_obtain _ name measure.kind level _).trans h) requests rfl

/-- A group is only entered under a name that was free of groups. -/
theorem keeps_group (r : Registry) (now : Instant) (measure : Measure) (name : String)
    (levels : List Level) : Keeps r (r.group now measure name levels).1 := by
  rw [group]
  split
  · exact .refl r
  · next members _ =>
    split
    · exact .refl r
    · split
      · split <;> exact .refl r
      · next hNone =>
        have hAll := keeps_obtainAll r now measure (members.zip levels)
        have hGroups := groups_obtainAll r now measure (members.zip levels)
        split
        · next r' failure hRefused =>
          rw [hRefused] at hAll
          exact hAll
        · next r' targets hMade =>
          rw [hMade] at hAll hGroups
          refine ⟨hAll.records, fun {other g} hGroup => ?_⟩
          have hne : other ≠ name := by
            rintro rfl
            rw [hNone] at hGroup
            cases hGroup
          show (r'.groups.insert name _).get? other = some g
          have hStill : r'.groups = r.groups := hGroups
          rw [NameMap.get?_insert_of_ne _ hne, hStill, hGroup]

theorem keeps_metric (r : Registry) (now : Instant) (measure : Measure) (name : String)
    (level : Level) (ancestors : List Level) :
    Keeps r (r.metric now measure name level ancestors).1 := by
  rw [metric]
  split
  · rw [single_fst]
    exact keeps_obtain r name measure.kind level _
  · exact keeps_group r now measure name _

theorem keeps_gauge (r : Registry) (name : String) (level : Level) (supplier : Supplier)
    (source : Nat) : Keeps r (r.gauge name level supplier source).1 := by
  rw [gauge, single_fst]
  exact keeps_obtain r name .gauge level _

theorem keeps_cachedGauge (r : Registry) (name : String) (level : Level) (timeout : Duration)
    (supplier : Supplier) (source : Nat) :
    Keeps r (r.cachedGauge name level timeout supplier source).1 := by
  rw [cachedGauge, single_fst]
  exact keeps_obtain r name .cachedGauge level _

/-! ### Configuring, recording and reading -/

theorem keeps_configured (r : Registry) (on : Bool) (levels : LevelMap) (trail : List Notice) :
    Keeps r ({ r with enabled := on, levels := levels, trail := trail } : Registry).refreshed := by
  rw [refreshed_eq]
  exact .of_eq rfl rfl

theorem keeps_setEnabled (r : Registry) (on : Bool) : Keeps r (r.setEnabled on).1 := by
  rw [setEnabled]
  split
  · exact .refl r
  · exact keeps_configured r on r.levels _

theorem keeps_setRoot (r : Registry) (level : Level) : Keeps r (r.setRoot level).1 := by
  simp only [setRoot]
  split
  · exact .refl r
  · exact keeps_configured r r.enabled _ _

theorem keeps_setLevel (r : Registry) (name : String) (level : Level) :
    Keeps r (r.setLevel name level).1 := by
  simp only [setLevel]
  split
  · split
    · exact .refl r
    · exact keeps_configured r r.enabled _ _
  · exact .refl r

theorem keeps_update (r : Registry) (now : Instant) (h : Handle) (u : Update) :
    Keeps r (r.update now h u) := by
  rw [update_eq]
  exact .of_eq rfl rfl

theorem keeps_reading (r : Registry) (now : Instant) (h : Handle) :
    Keeps r (r.reading now h).1 := by
  rw [reading]
  split
  · exact .of_eq rfl rfl
  · exact .refl r

/-! ## Removals -/

/-- The removal of some names leaves all other names alone. -/
theorem records_removeAll_of_notMem {names : List String} (hNot : name ∉ names)
    (r : Registry) : (r.removeAll names).1.records.get? name = r.records.get? name := by
  induction names generalizing r with
  | nil => rfl
  | cons first rest ih =>
    rw [List.mem_cons, not_or] at hNot
    show ((r.removeMetric first).1.removeAll rest).1.records.get? name = _
    rw [ih hNot.2, removeMetric_eq]
    split
    · show (r.records.erase first).get? name = _
      rw [NameMap.get?_erase, if_neg hNot.1]
    · rfl

/-- A group outlasts the removal of names that are not among its members. -/
theorem groups_removeMetric_of_notMem (hGroup : r.groups.get? name = some g) {member : String}
    (hNot : member ∉ g.members) : (r.removeMetric member).1.groups.get? name = some g := by
  rw [removeMetric_eq]
  split
  · show (r.groups.keep fun _ g => !g.members.contains member).get? name = some g
    rw [NameMap.get?_keep, hGroup]
    simp [Option.filter, hNot]
  · exact hGroup

theorem groups_removeAll_of_notMem {names : List String}
    (hNot : ∀ member ∈ names, member ∉ g.members) (hGroup : r.groups.get? name = some g) :
    (r.removeAll names).1.groups.get? name = some g := by
  induction names generalizing r with
  | nil => exact hGroup
  | cons first rest ih =>
    have hFirst := groups_removeMetric_of_notMem hGroup (hNot first List.mem_cons_self)
    exact ih (fun member hMem => hNot member (List.mem_cons_of_mem _ hMem)) hFirst

/-- A removal is that of the metric of a plain name, is refused because a name with markers cannot
be expanded, or drops a group and removes all metrics of the expansion of its name. -/
theorem remove_cases (r : Registry) (x : String) :
    (Name.isMarked x = false ∧
      r.remove x = ((r.removeMetric x).1, .ok (r.removeMetric x).2)) ∨
    (∃ fault, Name.isMarked x = true ∧ Name.hierarchy x = .error fault ∧
      r.remove x = (r, .error fault)) ∨
    (∃ members trail found, Name.isMarked x = true ∧ Name.hierarchy x = .ok members ∧
      r.remove x =
        ({ (({ r with groups := r.groups.erase x } : Registry).removeAll members).1 with
            trail := trail }, .ok found)) := by
  rw [remove]
  split
  · next hMarked =>
    split
    · next fault hRefused => exact .inr (.inl ⟨fault, hMarked, hRefused, rfl⟩)
    · next members hMembers =>
      simp only
      split
      · exact .inr (.inr ⟨members, _, true, hMarked, hMembers, rfl⟩)
      · exact .inr (.inr ⟨members, _, false, hMarked, hMembers, rfl⟩)
  · next hPlain => exact .inl ⟨Bool.eq_false_iff.mpr hPlain, rfl⟩

/-- A plain name stays registered unless a name is removed that stands for it. -/
theorem records_remove_of_notMem {x : String} (hNot : name ∉ Name.standsFor x) (r : Registry) :
    (r.remove x).1.records.get? name = r.records.get? name := by
  rcases remove_cases r x with
    ⟨hPlain, h⟩ | ⟨fault, -, -, h⟩ | ⟨members, trail, found, hMarked, hMembers, h⟩
  · rw [Name.standsFor_of_plain hPlain] at hNot
    rw [h]
    -- the removal of one name is that of a list of one name
    exact records_removeAll_of_notMem hNot r
  · rw [h]
  · rw [Name.standsFor_of_marked hMembers hMarked] at hNot
    rw [h]
    exact records_removeAll_of_notMem hNot { r with groups := r.groups.erase x }

/-- A group stays entered unless a name is removed that stands for one of its members. -/
theorem groups_remove_of_notMem {x : String} (hGroup : r.groups.get? name = some g)
    (hOther : name ≠ x) (hNot : ∀ member ∈ Name.standsFor x, member ∉ g.members) :
    (r.remove x).1.groups.get? name = some g := by
  rcases remove_cases r x with
    ⟨hPlain, h⟩ | ⟨fault, -, -, h⟩ | ⟨members, trail, found, hMarked, hMembers, h⟩
  · rw [Name.standsFor_of_plain hPlain] at hNot
    rw [h]
    exact groups_removeMetric_of_notMem hGroup (hNot x List.mem_cons_self)
  · rw [h]
    exact hGroup
  · rw [Name.standsFor_of_marked hMembers hMarked] at hNot
    have hErased : ({ r with groups := r.groups.erase x } : Registry).groups.get? name = some g := by
      show (r.groups.erase x).get? name = some g
      rw [NameMap.get?_erase, if_neg hOther, hGroup]
    rw [h]
    exact groups_removeAll_of_notMem hNot hErased

/-- Each of the names that are removed together is free afterwards. -/
theorem has_removeAll_of_mem {names : List String} (hMem : name ∈ names) (r : Registry) :
    (r.removeAll names).1.has name = false := by
  induction names generalizing r with
  | nil => cases hMem
  | cons first rest ih =>
    show ((r.removeMetric first).1.removeAll rest).1.has name = false
    by_cases hLater : name ∈ rest
    · exact ih hLater _
    · -- the name is removed here and is not made again by the removal of the rest
      have hFirst : name = first := (List.mem_cons.mp hMem).resolve_right hLater
      rw [has, NameMap.contains_eq_false_iff, records_removeAll_of_notMem hLater, removeMetric_eq,
        hFirst]
      split
      · show (r.records.erase first).get? first = none
        rw [NameMap.get?_erase, if_pos rfl]
      · next hHas => exact NameMap.contains_eq_false_iff.mp (Bool.eq_false_iff.mpr hHas)

/-- Every name that a removed name stands for is free. -/
theorem has_remove_of_mem {x : String} (hMem : name ∈ Name.standsFor x) (r : Registry) :
    (r.remove x).1.has name = false := by
  rcases remove_cases r x with
    ⟨hPlain, h⟩ | ⟨fault, hMarked, hRefused, -⟩ | ⟨members, trail, found, hMarked, hMembers, h⟩
  · rw [Name.standsFor_of_plain hPlain] at hMem
    rw [h]
    exact has_removeAll_of_mem hMem r
  · rw [Name.standsFor, hMarked, if_pos rfl, hRefused] at hMem
    cases hMem
  · rw [Name.standsFor_of_marked hMembers hMarked] at hMem
    rw [h]
    exact has_removeAll_of_mem hMem { r with groups := r.groups.erase x }

/-! ## Bindings -/

/-- The instruments that a name is bound to: that of a plain name, and those of the group of a name
with markers. -/
def bound? (r : Registry) (name : String) : Option (List InstrumentId) :=
  if Name.isMarked name then (r.groups.get? name).map Group.targets
  else (r.records.get? name).map fun id => [id]

theorem bound?_of_plain (hPlain : Name.isMarked name = false) (r : Registry) :
    r.bound? name = (r.records.get? name).map fun id => [id] := by
  rw [bound?, hPlain, if_neg Bool.false_ne_true]

theorem bound?_of_marked (hMarked : Name.isMarked name = true) (r : Registry) :
    r.bound? name = (r.groups.get? name).map Group.targets := by
  rw [bound?, if_pos hMarked]

theorem Keeps.bound? {ids : List InstrumentId} (h : Keeps r r') (hBound : r.bound? name = some ids) :
    r'.bound? name = some ids := by
  cases hMarked : Name.isMarked name with
  | true =>
    rw [bound?_of_marked hMarked] at hBound ⊢
    obtain ⟨g, hGroup, hTargets⟩ := Option.map_eq_some_iff.mp hBound
    rw [h.groups hGroup, Option.map_some, hTargets]
  | false =>
    rw [bound?_of_plain hMarked] at hBound ⊢
    obtain ⟨id, hRecord, hOne⟩ := Option.map_eq_some_iff.mp hBound
    rw [h.records hRecord, Option.map_some, hOne]

/-- A removal that concerns none of the plain names behind a name does not loosen its binding. -/
theorem bound?_remove {x : String} {ids : List InstrumentId} (hGrouped : Grouped r)
    (hApart : ∀ member ∈ Name.standsFor name, member ∉ Name.standsFor x)
    (hBound : r.bound? name = some ids) : (r.remove x).1.bound? name = some ids := by
  cases hMarked : Name.isMarked name with
  | true =>
    rw [bound?_of_marked hMarked] at hBound ⊢
    obtain ⟨g, hGroup, hTargets⟩ := Option.map_eq_some_iff.mp hBound
    have hIntact := hGrouped hGroup
    have hMembers : Name.standsFor name = g.members := hIntact.standsFor_eq
    -- a name with markers stands for something, so that it is not the one that is removed
    have hOther : name ≠ x := by
      rintro rfl
      obtain ⟨first, rest, hNames⟩ :=
        List.exists_cons_of_ne_nil (Name.hierarchy_ne_nil hIntact.expanded)
      have hFirst : first ∈ Name.standsFor name := by
        rw [hMembers, hNames]
        exact List.mem_cons_self
      exact hApart first hFirst hFirst
    have hNot : ∀ member ∈ Name.standsFor x, member ∉ g.members := by
      intro member hRemoved hMem
      rw [← hMembers] at hMem
      exact hApart member hMem hRemoved
    rw [groups_remove_of_notMem hGroup hOther hNot, Option.map_some, hTargets]
  | false =>
    rw [bound?_of_plain hMarked] at hBound ⊢
    have hNot : name ∉ Name.standsFor x := by
      refine hApart name ?_
      rw [Name.standsFor_of_plain hMarked]
      exact List.mem_cons_self
    rw [records_remove_of_notMem hNot, hBound]

end Registry

/-! ## Runs -/

/-- A request removes one of the plain names that a name stands for. -/
def Request.Removes (q : Request) (name : String) : Prop :=
  ∃ x, q = .remove x ∧ ∃ member ∈ Name.standsFor name, member ∈ Name.standsFor x

namespace Usage

variable {u : Usage} {name : String} {ids : List InstrumentId}

/-- All requests but removals keep all bindings. -/
theorem keeps_perform (u : Usage) (now : Instant) {q : Request} (hNot : ∀ x, q ≠ .remove x) :
    Registry.Keeps u.registry (u.perform now q).registry := by
  have hSource : Registry.Keeps u.registry u.registry.addSource.1 := .of_eq rfl rfl
  cases q with
  | metric measure name level ancestors =>
    rw [perform, registry_got]
    exact Registry.keeps_metric u.registry now measure name level ancestors
  | gauge name level timeout supplier =>
    cases timeout with
    | none =>
      rw [perform, registry_got]
      exact hSource.trans (Registry.keeps_gauge _ name level supplier _)
    | some timeout =>
      rw [perform, registry_got]
      exact hSource.trans (Registry.keeps_cachedGauge _ name level timeout supplier _)
  | find kind name =>
    rw [perform, registry_got]
    exact .refl _
  | remove x => exact absurd rfl (hNot x)
  | setEnabled on => exact Registry.keeps_setEnabled u.registry on
  | setRoot level => exact Registry.keeps_setRoot u.registry level
  | setLevel name level => exact Registry.keeps_setLevel u.registry name level
  | tell place up =>
    simp only [perform]
    split
    · next held _ => exact Registry.keeps_update u.registry now held.handle up
    · exact .refl _
  | read place =>
    simp only [perform]
    split
    · next held _ => exact Registry.keeps_reading u.registry now held.handle
    · exact .refl _
  | sample accepts => exact .of_eq rfl rfl

/-- A binding outlasts every request that removes none of the plain names behind the name. -/
theorem bound?_perform (hValid : Valid u) {q : Request} (hNot : ¬ q.Removes name)
    (hBound : u.registry.bound? name = some ids) (now : Instant) :
    (u.perform now q).registry.bound? name = some ids := by
  by_cases hRemove : ∃ x, q = .remove x
  · obtain ⟨x, rfl⟩ := hRemove
    refine Registry.bound?_remove hValid.grouped (fun member hMem hRemoved => ?_) hBound
    exact hNot ⟨x, rfl, member, hMem, hRemoved⟩
  · exact (keeps_perform u now fun x hEq => hRemove ⟨x, hEq⟩).bound? hBound

theorem bound?_run (hValid : Valid u) {steps : List (Instant × Request)}
    (hNot : ∀ step ∈ steps, ¬ step.2.Removes name)
    (hBound : u.registry.bound? name = some ids) :
    (u.run steps).registry.bound? name = some ids := by
  induction steps generalizing u with
  | nil => exact hBound
  | cons step rest ih =>
    have hFirst := bound?_perform hValid (hNot step List.mem_cons_self) hBound step.1
    exact ih (hValid.perform step.1 step.2)
      (fun s hMem => hNot s (List.mem_cons_of_mem _ hMem)) hFirst

end Usage

end Metering
