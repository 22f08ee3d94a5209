import Metering.Proofs.Name.Members
import Metering.Proofs.Registry.Groups

/-!
# Metering — what a request for a metric grants

Whoever asks for a metric names its kind and a level for each plain name that is meant. There are
two ways to be served: each metric is looked up or made, with its kind and its level checked, or a
group that is there under the same name is handed out, which is checked for its kind alone. The
second way grants no levels.

* `Granted` — a metric of a kind and a level is registered under a plain name;
* `record?_metric` — what was registered before a request stays registered as it was;
* `metric_granted`, `metric_of_group` — what there is after a request that was served, in either
  way;
* `metric_refused_of_kind`, `metric_refused_of_level` — what is refused;
* `metric_refused_of_marked_member` — names that can be expanded and are refused all the same;
* `requests_honoured_run` — what holds of every request after every run: its kinds are granted, and
  its levels unless the group was there; a request against what is registered is refused.
-/

namespace Metering.Registry

variable {r r' : Registry} {name : String} {level : Level} {kind : Kind} {measure : Measure}
  {now : Instant} {handle : Handle} {i : Instrument}

/-- A metric of a kind and a level is registered under a plain name. -/
def Granted (r : Registry) (kind : Kind) (name : String) (level : Level) : Prop :=
  ∃ i, r.record? name = some i ∧ i.kind = kind ∧ i.level = level

/-! ## What was registered stays registered -/

theorem record?_eq_some_iff :
    r.record? name = some i ↔ ∃ id, r.records.get? name = some id ∧ r.instrument? id = some i := by
  rw [record?, Option.bind_eq_some_iff]

theorem record?_make_of_some {other : String} {initial : Statistic}
    (h : r.record? name = some i) (hFree : r.records.get? other = none) :
    (r.make other level initial).1.record? name = some i := by
  obtain ⟨id, hRecord, hAt⟩ := record?_eq_some_iff.mp h
  refine record?_eq_some_iff.mpr ⟨id, ?_, instrument?_make_of_some hAt⟩
  rw [records_make, NameMap.get?_insert_of_ne, hRecord]
  rintro rfl
  rw [hFree] at hRecord
  cases hRecord

theorem record?_obtain (h : r.record? name = some i) (other : String) (kind : Kind)
    (level : Level) (initial : Option Statistic) :
    (r.obtain other kind level initial).1.record? name = some i := by
  rcases obtain_cases r other kind level initial with
    ⟨failure, hRefused⟩ | ⟨found, j, hFound, -⟩ | ⟨s, hMade, -, hFree, -⟩
  · rw [hRefused]
    exact h
  · rw [hFound]
    exact h
  · rw [hMade]
    exact record?_make_of_some h hFree

theorem record?_obtainAll (now : Instant) (measure : Measure) (requests : List (String × Level))
    (h : r.record? name = some i) :
    (r.obtainAll now measure requests).1.record? name = some i :=
  obtainAll_keeps (P := fun r => r.record? name = some i)
    (fun other level h => record?_obtain h other measure.kind level _) requests h

/-- A request leaves what is registered as it is. -/
theorem record?_metric (h : r.record? name = some i) (now : Instant) (measure : Measure)
    (other : String) (level : Level) (ancestors : List Level) :
    (r.metric now measure other level ancestors).1.record? name = some i :=
  metric_keeps (P := fun r => r.record? name = some i)
    (fun other level h => record?_obtain h other measure.kind level _) (fun _ _ h => h) other level
    ancestors h

/-! ## What is granted -/

theorem obtain_granted {initial : Option Statistic} {id : InstrumentId}
    (hKind : ∀ s, initial = some s → s.kind = kind)
    (h : r.obtain name kind level initial = (r', .ok id)) : r'.Granted kind name level := by
  rcases obtain_cases r name kind level initial with
    ⟨failure, hRefused⟩ | ⟨found, i, hFound, -, hRecord, hAt, hIs, hLevel⟩ |
    ⟨s, hMade, -, -, hInitial⟩
  · rw [hRefused] at h
    cases h
  · rw [hFound] at h
    cases h
    exact ⟨i, record?_eq_some_iff.mpr ⟨id, hRecord, hAt⟩, hIs, hLevel⟩
  · rw [hMade] at h
    cases h
    refine ⟨r.newcomer name level s, record?_eq_some_iff.mpr ⟨_, ?_, instrument?_make_self⟩,
      hKind s hInitial, rfl⟩
    rw [records_make, NameMap.get?_insert_self]

/-- Metrics that were got together are registered with their levels. -/
theorem obtainAll_granted {requests : List (String × Level)} {ids : List InstrumentId}
    (h : r.obtainAll now measure requests = (r', .ok ids)) :
    ∀ request ∈ requests, r'.Granted measure.kind request.1 request.2 := by
  induction requests generalizing r r' ids with
  | nil => simp
  | cons request rest ih =>
    rw [obtainAll] at h
    split at h
    · cases h
    · next r₁ id h₁ =>
      split at h
      · cases h
      · next r₂ more h₂ =>
        cases h
        obtain ⟨i, hRecord, hIs⟩ := obtain_granted (fun s hs => (blank_spec hs).1) h₁
        have hStill := record?_obtainAll now measure rest hRecord
        rw [h₂] at hStill
        exact List.forall_mem_cons.mpr ⟨⟨i, hStill, hIs⟩, ih h₂⟩

/-- A group that was got was there, is of the right measure and is handed out with its targets, or
its members are registered with their levels. -/
theorem group_granted {levels : List Level}
    (h : r.group now measure name levels = (r', .ok handle)) :
    ∃ members, Name.hierarchy name = .ok members ∧ members.length = levels.length ∧
      ((r' = r ∧ ∃ g, r.groups.get? name = some g ∧ g.measure = measure ∧
          handle = ⟨measure.kind, g.targets⟩) ∨
        (r.groups.get? name = none ∧ List.Forall₂ (r'.Granted measure.kind) members levels)) := by
  rw [group] at h
  split at h
  · cases h
  · next members hMembers =>
    split at h
    · cases h
    · next hLength =>
      have hLength : members.length = levels.length := not_not.mp hLength
      refine ⟨members, hMembers, hLength, ?_⟩
      split at h
      · next g hGroup =>
        split at h
        · next hMeasure =>
          cases h
          exact .inl ⟨rfl, g, hGroup, hMeasure, rfl⟩
        · cases h
      · next hNone =>
        split at h
        · cases h
        · next r₁ targets h₁ =>
          cases h
          -- to enter the group changes nothing of what is registered
          have hAll := obtainAll_granted h₁
          exact .inr ⟨hNone, List.forall₂_iff_zip.mpr
            ⟨hLength, fun {member wanted} hMem => hAll (member, wanted) hMem⟩⟩

/-- The members of a group are registered with its kind. -/
theorem granted_of_intact {g : Group} (h : g.IntactIn r name) :
    ∀ member ∈ Name.standsFor name, ∃ level, r.Granted g.measure.kind member level := by
  intro member hMem
  rw [h.standsFor_eq] at hMem
  obtain ⟨n, hn, rfl⟩ := List.mem_iff_getElem.mp hMem
  have hServes := h.served.get hn (h.served.length_eq ▸ hn)
  obtain ⟨hRecord, i, hAt, hKind⟩ := hServes
  exact ⟨i.level, i, record?_eq_some_iff.mpr ⟨_, hRecord, hAt⟩, hKind, rfl⟩

/-- Whoever gets a metric under a name under which no group is entered has every plain name
registered with the kind and the level that were asked for. -/
theorem metric_granted {ancestors : List Level} (hNone : r.groups.get? name = none)
    (h : r.metric now measure name level ancestors = (r', .ok handle)) :
    List.Forall₂ (r'.Granted measure.kind) (Name.standsFor name) (level :: ancestors) := by
  rw [metric] at h
  split at h
  · next hAncestors =>
    rw [List.isEmpty_iff.mp hAncestors]
    obtain ⟨id, hObtain, -⟩ := single_ok h
    have hKind : ∀ s, r.blank now measure = some s → s.kind = measure.kind :=
      fun _ hs => (blank_spec hs).1
    rw [Name.standsFor_of_plain (obtain_serves hKind hObtain).1]
    exact .cons (obtain_granted hKind hObtain) .nil
  · next hAncestors =>
    obtain ⟨members, hMembers, hLength, ⟨-, g, hGroup, -⟩ | ⟨-, hGranted⟩⟩ := group_granted h
    · rw [hNone] at hGroup
      cases hGroup
    · have hSeveral : 1 < members.length := by
        rw [List.isEmpty_iff] at hAncestors
        have hPositive := List.length_pos_iff.mpr hAncestors
        rw [hLength, List.length_cons]
        omega
      rw [Name.standsFor_of_marked hMembers (Name.isMarked_of_hierarchy hMembers hSeveral)]
      exact hGranted

/-- Whoever gets a metric under a name under which a group is entered gets this group as it is, and
a handle to its targets. -/
theorem metric_of_group {ancestors : List Level} {g : Group} (hGrouped : Grouped r)
    (hGroup : r.groups.get? name = some g)
    (h : r.metric now measure name level ancestors = (r', .ok handle)) :
    r' = r ∧ g.measure = measure ∧ handle = ⟨measure.kind, g.targets⟩ := by
  rw [metric] at h
  split at h
  · -- a name with markers is not served without levels for ancestors
    obtain ⟨id, hObtain, -⟩ := single_ok h
    have hPlain := (obtain_serves (fun _ hs => (blank_spec hs).1) hObtain).1
    rw [(hGrouped hGroup).marked] at hPlain
    cases hPlain
  · obtain ⟨members, -, -, ⟨hSame, g', hGroup', hMeasure, hHandle⟩ | ⟨hNone, -⟩⟩ :=
      group_granted h
    · rw [hGroup] at hGroup'
      rw [Option.some.inj hGroup']
      exact ⟨hSame, hMeasure, hHandle⟩
    · rw [hGroup] at hNone
      cases hNone

/-- Whoever gets a metric has each plain name registered with the kind that was asked for, whether
the group was there or not. -/
theorem metric_kinds {ancestors : List Level} (hGrouped : Grouped r)
    (h : r.metric now measure name level ancestors = (r', .ok handle)) :
    ∀ member ∈ Name.standsFor name, ∃ l, r'.Granted measure.kind member l := by
  intro member hMem
  cases hGroup : r.groups.get? name with
  | none =>
    obtain ⟨n, hn, rfl⟩ := List.mem_iff_getElem.mp hMem
    have hGranted := metric_granted hGroup h
    exact ⟨_, hGranted.get hn (hGranted.length_eq ▸ hn)⟩
  | some g =>
    obtain ⟨rfl, rfl, -⟩ := metric_of_group hGrouped hGroup h
    exact granted_of_intact (hGrouped hGroup) member hMem

/-! ## What is refused -/

/-- Only one metric is registered under a name. -/
theorem Granted.of_record? {kind : Kind} (h : r.Granted kind name level)
    (hRecord : r.record? name = some i) : i.kind = kind ∧ i.level = level := by
  obtain ⟨j, hj, hIs⟩ := h
  rw [hRecord] at hj
  rw [Option.some.inj hj]
  exact hIs

/-- A request for another kind than that of a metric that is registered is refused. -/
theorem metric_refused_of_kind {ancestors : List Level} (hGrouped : Grouped r) {member : String}
    (hMem : member ∈ Name.standsFor name) (hRecord : r.record? member = some i)
    (hOther : i.kind ≠ measure.kind) :
    ∃ failure, (r.metric now measure name level ancestors).2 = .error failure := by
  have hStill := record?_metric hRecord now measure name level ancestors
  cases hOutcome : r.metric now measure name level ancestors with
  | mk r' result =>
    cases result with
    | error failure => exact ⟨failure, rfl⟩
    | ok handle =>
      rw [hOutcome] at hStill
      obtain ⟨l, hGranted⟩ := metric_kinds hGrouped hOutcome member hMem
      exact absurd (hGranted.of_record? hStill).1 hOther

/-- A request for another level than that of a metric that is registered is refused, if there is
no group of the name. -/
theorem metric_refused_of_level {ancestors : List Level} (hNone : r.groups.get? name = none)
    {member : String} {wanted : Level}
    (hMem : (member, wanted) ∈ (Name.standsFor name).zip (level :: ancestors))
    (hRecord : r.record? member = some i) (hOther : i.level ≠ wanted) :
    ∃ failure, (r.metric now measure name level ancestors).2 = .error failure := by
  have hStill := record?_metric hRecord now measure name level ancestors
  cases hOutcome : r.metric now measure name level ancestors with
  | mk r' result =>
    cases result with
    | error failure => exact ⟨failure, rfl⟩
    | ok handle =>
      rw [hOutcome] at hStill
      have hGranted := (List.forall₂_iff_zip.mp (metric_granted hNone hOutcome)).2 hMem
      exact absurd (hGranted.of_record? hStill).2 hOther

/-- If some name of an expansion has markers, no metric is ever made for the name that is expanded:
the first of its names has them, and metrics are made for plain names only. -/
theorem metric_refused_of_marked_member (hSound : Sound r) (hGrouped : Grouped r)
    {members : List String} (h : Name.hierarchy name = .ok members)
    (hMember : ∃ member ∈ members, Name.isMarked member = true) (now : Instant)
    (measure : Measure) (level : Level) (ancestors : List Level) :
    ∃ objection, r.metric now measure name level ancestors =
      (r, .error (.refused (.invalidArgument objection))) := by
  obtain ⟨primary, rest, hMembers, hMarked⟩ := Name.marked_primary h hMember
  have hObtain : ∀ (level : Level) (initial : Option Statistic) {name : String},
      Name.isMarked name = true → r.obtain name measure.kind level initial =
        (r, .error (.refused (.invalidArgument (.markedWithoutAncestors name)))) := by
    intro level initial name hName
    unfold obtain
    rw [if_pos hName]
  rw [metric]
  split
  · rw [hObtain level _ (Name.isMarked_of_marked_member h hMember)]
    exact ⟨_, rfl⟩
  · simp only [group, h]
    split
    · exact ⟨_, rfl⟩
    · split
      · next g hGroup =>
        -- a group would have a metric of the first name
        have hIntact := hGrouped hGroup
        have hSame : members = g.members := Except.ok.inj (h.symm.trans hIntact.expanded)
        have hServed := hIntact.served
        rw [← hSame, hMembers] at hServed
        obtain ⟨id, ids, ⟨hRecord, -⟩, -, -⟩ := List.forall₂_cons_left_iff.mp hServed
        rw [hSound.plain hRecord] at hMarked
        cases hMarked
      · rw [hMembers, List.zip_cons_cons, obtainAll, hObtain level _ hMarked]
        exact ⟨_, rfl⟩

/-! ## All runs -/

/-- After every run, a request for a metric that is served grants every plain name behind its name
with the kind that was asked for. It also grants the levels that were asked for, unless the group
of this name was there: then it gets this group and changes nothing, and the metrics keep the levels
that they have. A request is refused if its kind is not that of a metric registered under one of the
plain names. It is refused, too, if one of its levels is not, unless the group of this name was
there. -/
theorem requests_honoured_run (levels : LevelMap) (window : Window) (on : Bool)
    (steps : List (Instant × Request)) (now : Instant) (measure : Measure) (name : String)
    (level : Level) (ancestors : List Level) :
    let r := Usage.after levels window on steps
    let outcome := r.metric now measure name level ancestors
    (∀ handle, outcome.2 = .ok handle →
      (∀ member ∈ Name.standsFor name, ∃ l, outcome.1.Granted measure.kind member l) ∧
      (r.groups.contains name = false →
        List.Forall₂ (outcome.1.Granted measure.kind) (Name.standsFor name) (level :: ancestors)) ∧
      (r.groups.contains name = true → outcome.1 = r ∧
        ∃ g, r.groups.get? name = some g ∧ g.measure = measure ∧
          handle = ⟨measure.kind, g.targets⟩)) ∧
    (∀ member ∈ Name.standsFor name, ∀ i, r.record? member = some i → i.kind ≠ measure.kind →
      ∃ failure, outcome.2 = .error failure) ∧
    (r.groups.contains name = false →
      ∀ request ∈ (Name.standsFor name).zip (level :: ancestors), ∀ i,
        r.record? request.1 = some i → i.level ≠ request.2 →
          ∃ failure, outcome.2 = .error failure) := by
  intro r outcome
  have hValid : Usage.Valid ((Usage.start levels window on).run steps) :=
    Usage.valid_run levels window on steps
  have hGrouped : Grouped r := hValid.grouped
  refine ⟨fun handle hServed => ?_, ?_, ?_⟩
  · have hOutcome : r.metric now measure name level ancestors = (outcome.1, .ok handle) :=
      Prod.ext rfl hServed
    refine ⟨metric_kinds hGrouped hOutcome, ?_, ?_⟩
    · intro hNone
      exact metric_granted (NameMap.contains_eq_false_iff.mp hNone) hOutcome
    · intro hThere
      obtain ⟨g, hGroup⟩ := NameMap.contains_eq_true_iff.mp hThere
      obtain ⟨hSame, hMeasure, hHandle⟩ := metric_of_group hGrouped hGroup hOutcome
      exact ⟨hSame, g, hGroup, hMeasure, hHandle⟩
  · intro member hMem i hRecord hOther
    exact metric_refused_of_kind hGrouped hMem hRecord hOther
  · intro hNone request hMem i hRecord hOther
    exact metric_refused_of_level (NameMap.contains_eq_false_iff.mp hNone) hMem hRecord hOther

/-- With one metric and one group there: a request for a group around the metric is served with its
levels, one for the group is served as it is, and the metric is refused at another kind and at
another level. -/
theorem requests_honoured_beside_group :
    let r := Usage.after default (.values 1028) true
      [(0, .metric .counter "a.b.c" .debug []), (0, .metric .meter "x[+].y.z" .info [.debug])]
    let around := r.metric 0 .counter "a[+].b.c" .debug [.info]
    List.Forall₂ (around.1.Granted .counter) ["a.b.c", "a.c"] [.debug, .info] ∧
      (r.metric 0 .meter "x[+].y.z" .all [.all]).1 = r ∧
      (∃ g, r.groups.get? "x[+].y.z" = some g ∧ g.targets = [1, 2] ∧
        (r.metric 0 .meter "x[+].y.z" .all [.all]).2 = .ok ⟨.meter, g.targets⟩) ∧
      (∃ failure, (r.metric 0 .meter "a[+].b.c" .debug [.info]).2 = .error failure) ∧
      ∃ failure, (r.metric 0 .counter "a[+].b.c" .info [.info]).2 = .error failure := by
  intro r around
  have honoured := requests_honoured_run default (.values 1028) true
    [(0, .metric .counter "a.b.c" .debug []), (0, .metric .meter "x[+].y.z" .info [.debug])] 0
  have hThere : r.record? "a.b.c" = some ⟨"a.b.c", .counter, .debug, false, 0⟩ := rfl
  obtain ⟨hSame, g, hGroup, -, hHandle⟩ :=
    ((honoured .meter "x[+].y.z" .all [.all]).1 ⟨.meter, [1, 2]⟩ rfl).2.2 rfl
  refine ⟨?_, hSame, ⟨g, hGroup, ?_, hHandle ▸ rfl⟩, ?_, ?_⟩
  · exact ((honoured .counter "a[+].b.c" .debug [.info]).1 ⟨.counter, [0, 3]⟩ rfl).2.1 rfl
  · exact (congrArg Handle.targets hHandle).symm
  · exact (honoured .meter "a[+].b.c" .debug [.info]).2.1 "a.b.c" (by decide) _ hThere (by decide)
  · exact (honoured .counter "a[+].b.c" .info [.info]).2.2 rfl ("a.b.c", .info) (by decide) _
      hThere (by decide)

/-- A group that is there is handed out to whoever asks for its metrics at other levels than they
have. -/
theorem level_not_granted_of_group :
    let r := Usage.after default (.values 1028) true
      [(0, .metric .counter "a[+].b.c" .info [.info])]
    let outcome := r.metric 0 .counter "a[+].b.c" .debug [.info]
    outcome.2 = .ok ⟨.counter, [0, 1]⟩ ∧ ¬ outcome.1.Granted .counter "a.b.c" .debug := by
  refine ⟨rfl, fun ⟨i, hRecord, _, hLevel⟩ => ?_⟩
  -- the metric of the plain name is still the one that was made at the other level
  have hMade : some (⟨"a.b.c", .counter, .info, true, 0⟩ : Instrument) = some i := hRecord
  cases hMade
  cases hLevel

end Metering.Registry
