import Metering.Proofs.Registry.Availability
import Metering.Proofs.Registry.Stored

/-!
# Metering — requests that are refused, and what they leave behind

Metrics that are wanted together are made one by one, and nothing is taken back when one of them
cannot be had. So a request that is refused may leave something behind: what was made before. It is
refused for one of five reasons, which are checked in a fixed order, and only the last of them can
come after something was made.

* `Conflict` — why the metric under one plain name cannot be had, with the fault that says so;
* `Refusal` — why a request is refused, with the fault and the parts that were had before;
* `Refusable` — whether there is such a reason, in whatever order;
* `Adds` — one registry is another one with new metrics for those of some parts that were free;
* `refusal_of_want` — a request that ends with a fault has a reason for it, and adds the parts that
  were had before;
* `refused_requests_run` — so it is after every run.
-/

namespace Metering.Registry

variable {r r' r₁ r₂ : Registry} {name x : String} {level : Level} {measure : Measure}
  {now : Instant} {handle : Handle} {part : String × Level} {parts before more : List (String × Level)}
  {fault : Fault} {failure : Failure} {w : Wanted}

/-! ## Reasons -/

/-- Why the metric under a name cannot be had at a level: the name has markers, or what is registered
under it is of another kind, or of this kind and of another level. -/
inductive Conflict (r : Registry) (measure : Measure) : String × Level → Fault → Prop where
  | marked {name : String} {level : Level} (hMarked : Name.isMarked name = true) :
      Conflict r measure (name, level) (.invalidArgument (.markedWithoutAncestors name))
  | kind {name : String} {level : Level} {i : Instrument} (hRecord : r.record? name = some i)
      (hKind : i.kind ≠ measure.kind) :
      Conflict r measure (name, level) (.kindMismatch name measure.kind i.kind)
  | level {name : String} {level : Level} {i : Instrument} (hRecord : r.record? name = some i)
      (hKind : i.kind = measure.kind) (hLevel : i.level ≠ level) :
      Conflict r measure (name, level) (.levelMismatch name i.level level)

/-- Why a request is refused, with the parts that are had before. Each reason is only looked for if
there is none of those that stand before it, and of the parts the first that conflicts decides. -/
inductive Refusal (r : Registry) (w : Wanted) : List (String × Level) → Fault → Prop where
  /-- Without ancestors it is the metric of this very name that is wanted. -/
  | single {fault : Fault} (hSingle : w.ancestors = [])
      (hConflict : r.Conflict w.measure (w.name, w.level) fault) : Refusal r w [] fault
  | unexpanded {fault : Fault} (hAncestors : w.ancestors ≠ [])
      (hName : Name.hierarchy w.name = .error fault) : Refusal r w [] fault
  | miscounted {members : List String} (hAncestors : w.ancestors ≠ [])
      (hName : Name.hierarchy w.name = .ok members)
      (hCount : members.length ≠ w.ancestors.length + 1) :
      Refusal r w []
        (.invalidArgument (.levelCount w.name members.length (w.ancestors.length + 1)))
  /-- The group of this name is of another kind. -/
  | grouped {members : List String} {g : Group} (hAncestors : w.ancestors ≠ [])
      (hName : Name.hierarchy w.name = .ok members)
      (hCount : members.length = w.ancestors.length + 1)
      (hGroup : r.groups.get? w.name = some g) (hMeasure : g.measure ≠ w.measure) :
      Refusal r w [] (.kindMismatch w.name w.measure.kind g.measure.kind)
  /-- There is no group of this name, and one of the members cannot be had. -/
  | member {members : List String} {before rest : List (String × Level)} {part : String × Level}
      {fault : Fault} (hAncestors : w.ancestors ≠ [])
      (hName : Name.hierarchy w.name = .ok members)
      (hCount : members.length = w.ancestors.length + 1)
      (hNone : r.groups.get? w.name = none)
      (hParts : members.zip (w.level :: w.ancestors) = before ++ part :: rest)
      (hBefore : ∀ earlier ∈ before, ∀ fault, ¬ r.Conflict w.measure earlier fault)
      (hConflict : r.Conflict w.measure part fault) : Refusal r w before fault

/-- The metric under a name cannot be had at a level: the name has markers, or what is registered
under it is of another kind or level. -/
def Conflicting (r : Registry) (measure : Measure) (part : String × Level) : Prop :=
  Name.isMarked part.1 = true ∨
    ∃ i, r.record? part.1 = some i ∧ (i.kind ≠ measure.kind ∨ i.level ≠ part.2)

/-- There is a reason to refuse a request. Without ancestors, its name has markers or is registered
with another kind or level. With ancestors, its name cannot be expanded, or there are more or fewer
levels than names in the expansion, or the group of this name is of another kind, or there is no
such group and a name of the expansion still has markers or is registered with another kind or
level. -/
def Refusable (r : Registry) (w : Wanted) : Prop :=
  (w.ancestors = [] ∧ r.Conflicting w.measure (w.name, w.level)) ∨
  (w.ancestors ≠ [] ∧
    ((∃ fault, Name.hierarchy w.name = .error fault) ∨
      (∃ members, Name.hierarchy w.name = .ok members ∧
        members.length ≠ w.ancestors.length + 1) ∨
      (∃ g, r.groups.get? w.name = some g ∧ g.measure ≠ w.measure) ∨
      (r.groups.get? w.name = none ∧ ∃ members, Name.hierarchy w.name = .ok members ∧
        ∃ part ∈ members.zip (w.level :: w.ancestors), r.Conflicting w.measure part)))

theorem Conflict.conflicting (h : r.Conflict measure part fault) :
    r.Conflicting measure part := by
  cases h with
  | marked hMarked => exact .inl hMarked
  | kind hRecord hKind => exact .inr ⟨_, hRecord, .inl hKind⟩
  | level hRecord _ hLevel => exact .inr ⟨_, hRecord, .inr hLevel⟩

/-- Whatever the reason is for which a request is refused, there is one. -/
theorem Refusal.refusable (h : Refusal r w before fault) : r.Refusable w := by
  cases h with
  | single hSingle hConflict => exact .inl ⟨hSingle, hConflict.conflicting⟩
  | unexpanded hAncestors hName => exact .inr ⟨hAncestors, .inl ⟨_, hName⟩⟩
  | miscounted hAncestors hName hCount =>
    exact .inr ⟨hAncestors, .inr (.inl ⟨_, hName, hCount⟩)⟩
  | grouped hAncestors _ _ hGroup hMeasure =>
    exact .inr ⟨hAncestors, .inr (.inr (.inl ⟨_, hGroup, hMeasure⟩))⟩
  | @member members _ _ part _ hAncestors hName _ hNone hParts _ hConflict =>
    have hMem : part ∈ members.zip (w.level :: w.ancestors) := by simp [hParts]
    exact .inr ⟨hAncestors, .inr (.inr (.inr
      ⟨hNone, members, hName, part, hMem, hConflict.conflicting⟩))⟩

/-! ## Requests with a reason against them -/

/-- What can be had is in conflict with nothing. -/
theorem Available.not_conflicting (h : r.Available measure part) : ¬ r.Conflicting measure part := by
  intro hConflicting
  rcases hConflicting with hMarked | ⟨i, hRecord, hOther⟩
  · rw [h.plain] at hMarked
    cases hMarked
  · have hProfile : r.profile? part.1 = some ⟨i.kind, i.level, i.enabled⟩ := by
      rw [profile?, hRecord, Option.map_some]
    obtain ⟨hKind, hLevel⟩ := h.fits hProfile
    rcases hOther with hOtherKind | hOtherLevel
    · exact hOtherKind hKind
    · exact hOtherLevel hLevel

/-- There is no reason against a request that will be served. -/
theorem Servable.not_refusable (h : Servable r w) : ¬ r.Refusable w := by
  intro hRefusable
  have hNoEntry (hNone : r.groups.get? w.name = none) : r.entered? w.name = none :=
    entered?_eq_none_iff.mpr hNone
  rcases hRefusable with ⟨hSingle, hConflicting⟩ | ⟨hAncestors, hReason⟩
  · -- a name without markers stands for itself, and there is no group of it
    have hPlain : Name.isMarked w.name = false := by
      rcases h.proper with ⟨-, hPlain⟩ | ⟨hSome, -⟩
      · exact hPlain
      · exact absurd hSingle hSome
    have hNone : r.entered? w.name = none := by
      cases hEntry : r.entered? w.name with
      | none => rfl
      | some e => exact absurd hSingle (h.group hEntry).2
    have hListed : (w.name, w.level) ∈ w.parts := by
      rw [Wanted.parts, Name.standsFor_of_plain hPlain]
      exact List.mem_cons_self
    exact (h.parts hNone _ hListed).not_conflicting hConflicting
  · obtain ⟨members, hMembers, hLength⟩ : ∃ members, Name.hierarchy w.name = .ok members ∧
        members.length = w.ancestors.length + 1 := by
      rcases h.proper with ⟨hNone, -⟩ | ⟨-, hProper⟩
      · exact absurd hNone hAncestors
      · exact hProper
    rcases hReason with
      ⟨fault, hFault⟩ | ⟨found, hFound, hCount⟩ | ⟨g, hGroup, hMeasure⟩ |
      ⟨hNone, found, hFound, part, hMem, hConflicting⟩
    · rw [hMembers] at hFault
      cases hFault
    · rw [hMembers] at hFound
      cases hFound
      exact hCount hLength
    · exact hMeasure (h.group (entered?_of_group hGroup)).1
    · have hStands : Name.standsFor w.name = found := (h.proper.group hAncestors hFound).2
      have hListed : part ∈ w.parts := by
        rw [Wanted.parts, hStands]
        exact hMem
      exact (h.parts (hNoEntry hNone) part hListed).not_conflicting hConflicting

/-! ## What is added -/

/-- The metric under a name is new: of a measure and a level, counting by what is configured, stored
under the name, and without anything recorded. -/
def IsNew (r : Registry) (now : Instant) (measure : Measure) (part : String × Level) : Prop :=
  ∃ place, r.record? part.1 =
      some ⟨part.1, measure.kind, part.2, r.admits part.1 part.2, place⟩ ∧
    r.store.get? part.1 = some place ∧ r.statistics.get? place = r.blank now measure ∧
    (r.blank now measure).isSome = true

/-- The later registry is the earlier one with new metrics under those names among some parts that
were free. Whatever was registered is as it was, with its level, its flag, its place in the store
and what it has recorded; no group was entered or dropped, and nothing was configured. -/
structure Adds (r : Registry) (now : Instant) (measure : Measure) (parts : List (String × Level))
    (r' : Registry) : Prop where
  settings : SameSettings r r'
  groups : r'.groups = r.groups
  names : ∀ x, r.has x = true ∨ x ∉ parts.map Prod.fst →
    r'.records.get? x = r.records.get? x ∧ r'.store.get? x = r.store.get? x
  instruments : ∀ {id i}, r.instrument? id = some i → r'.instrument? id = some i
  statistics : ∀ {place s}, r.statistics.get? place = some s → r'.statistics.get? place = some s
  asked : r'.statistics.asked = r.statistics.asked
  made : ∀ part ∈ parts, r.has part.1 = false → r'.IsNew now measure part

theorem Adds.nothing (r : Registry) (now : Instant) (measure : Measure) :
    Adds r now measure [] r where
  settings := ⟨rfl, rfl, rfl⟩
  groups := rfl
  names _ _ := ⟨rfl, rfl⟩
  instruments := id
  statistics := id
  asked := rfl
  made _ h := nomatch h

theorem Adds.record?_eq (h : Adds r now measure parts r') (hSound : Sound r)
    (hOld : r.has x = true ∨ x ∉ parts.map Prod.fst) : r'.record? x = r.record? x := by
  rw [record?, record?, (h.names x hOld).1]
  cases hRecord : r.records.get? x with
  | none => rfl
  | some id =>
    obtain ⟨i, hAt, -⟩ := hSound.recorded hRecord
    rw [Option.bind_some, Option.bind_some, hAt, h.instruments hAt]

/-- What is new stays as it is when more is added. -/
theorem IsNew.persists (hNew : r₁.IsNew now measure part) (h : Adds r₁ now measure more r₂)
    (hSound : Sound r₁) : r₂.IsNew now measure part := by
  obtain ⟨place, hRecord, hStore, hStatistic, hRoom⟩ := hNew
  obtain ⟨id, hId, -⟩ := record?_eq_some_iff.mp hRecord
  have hThere : r₁.has part.1 = true := NameMap.contains_eq_true_iff.mpr ⟨id, hId⟩
  obtain ⟨s, hs⟩ := Option.isSome_iff_exists.mp hRoom
  refine ⟨place, ?_, ?_, ?_, ?_⟩
  · rw [h.record?_eq hSound (.inl hThere), hRecord, h.settings.admits_eq]
  · rw [(h.names part.1 (.inl hThere)).2, hStore]
  · rw [h.settings.blank_eq, hs]
    exact h.statistics (hStatistic.trans hs)
  · rw [h.settings.blank_eq]
    exact hRoom

/-- What is added to what was added before is added, if it goes by other names. -/
theorem Adds.append (h : Adds r now measure parts r₁) (h' : Adds r₁ now measure more r₂)
    (hSound : Sound r₁) (hApart : ∀ part ∈ more, part.1 ∉ parts.map Prod.fst) :
    Adds r now measure (parts ++ more) r₂ where
  settings := ⟨h'.settings.enabled.trans h.settings.enabled,
    h'.settings.levels.trans h.settings.levels, h'.settings.window.trans h.settings.window⟩
  groups := h'.groups.trans h.groups
  names := by
    intro x hOld
    rw [List.map_append, List.mem_append, not_or] at hOld
    obtain ⟨hRecord, hStore⟩ := h.names x (hOld.imp_right And.left)
    have hLater : r₁.has x = true ∨ x ∉ more.map Prod.fst := by
      refine hOld.imp (fun hHas => ?_) And.right
      rw [has, NameMap.contains, hRecord]
      exact hHas
    obtain ⟨hRecord', hStore'⟩ := h'.names x hLater
    exact ⟨hRecord'.trans hRecord, hStore'.trans hStore⟩
  instruments hAt := h'.instruments (h.instruments hAt)
  statistics hAt := h'.statistics (h.statistics hAt)
  asked := h'.asked.trans h.asked
  made := by
    intro part hMem hFree
    rcases List.mem_append.mp hMem with hFirst | hMore
    · exact (h.made part hFirst hFree).persists h' hSound
    · -- the name was still free after the others were made
      refine h'.made part hMore ?_
      rw [has, NameMap.contains, (h.names part.1 (.inr (hApart part hMore))).1]
      exact hFree

/-- Whoever gets a metric finds it, or adds it. -/
theorem adds_obtain {id : InstrumentId}
    (h : r.obtain name measure.kind level (r.blank now measure) = (r', .ok id)) :
    Adds r now measure [(name, level)] r' := by
  rcases obtain_cases r name measure.kind level (r.blank now measure) with
    ⟨failure, hRefused⟩ | ⟨found, i, hFound, -, hRecord, -⟩ | ⟨s, hMade, -, hFree, hBlank⟩
  · rw [hRefused] at h
    cases h
  · rw [hFound] at h
    cases h
    -- nothing is made, as the only name in question is not free
    refine { Adds.nothing r now measure with names := fun _ _ => ⟨rfl, rfl⟩, made := ?_ }
    intro part hMem hNot
    rw [List.mem_singleton.mp hMem, has, NameMap.contains, hRecord] at hNot
    cases hNot
  · rw [hMade] at h
    cases h
    refine ⟨⟨rfl, rfl, rfl⟩, rfl, ?_, instrument?_make_of_some, ?_, rfl, ?_⟩
    · intro x hOld
      have hOther : x ≠ name := by
        rintro rfl
        rcases hOld with hHas | hNot
        · rw [has, NameMap.contains, hFree] at hHas
          cases hHas
        · exact hNot List.mem_cons_self
      rw [records_make, store_make, NameMap.get?_insert_of_ne _ hOther,
        NameMap.get?_insert_of_ne _ hOther]
      exact ⟨rfl, rfl⟩
    · intro place old hOld
      have hEarlier : place ≠ r.statistics.table.length :=
        Nat.ne_of_lt (List.getElem?_eq_some_iff.mp hOld).1
      rw [statistics_make, Statistics.get?_add_of_ne _ _ hEarlier, hOld]
    · intro part hMem _
      rw [List.mem_singleton.mp hMem]
      have hRecord : (r.make name level s).1.record? name =
          some (r.newcomer name level s) :=
        record?_eq_some_iff.mpr ⟨_, by rw [records_make, NameMap.get?_insert_self],
          instrument?_make_self⟩
      refine ⟨r.statistics.table.length, ?_, ?_, ?_, ?_⟩
      · rw [hRecord, newcomer, (blank_spec hBlank).1]
        rfl
      · rw [store_make, NameMap.get?_insert_self]
      · rw [statistics_make, Statistics.get?_add_self]
        exact hBlank.symm
      · show (r.blank now measure).isSome = true
        rw [hBlank]
        rfl

/-! ## What a refused request adds -/

/-- A conflict depends on nothing but what is registered under its name. -/
theorem Conflict.of_eq (h : r.Conflict measure part fault)
    (hSame : r'.record? part.1 = r.record? part.1) : r'.Conflict measure part fault := by
  cases h with
  | marked hMarked => exact .marked hMarked
  | kind hRecord hKind => exact .kind (hSame.trans hRecord) hKind
  | level hRecord hKind hLevel => exact .level (hSame.trans hRecord) hKind hLevel

/-- A metric that is not got has broken off, or there is a conflict. Nothing has changed. -/
theorem conflict_of_obtain (hSound : Sound r) {initial : Option Statistic}
    (h : r.obtain name measure.kind level initial = (r', .error failure)) :
    r' = r ∧ (failure = .brokenOff ∨
      ∃ fault, failure = .refused fault ∧ r.Conflict measure (name, level) fault) := by
  unfold obtain at h
  split at h
  · next hMarked =>
    cases h
    exact ⟨rfl, .inr ⟨_, rfl, .marked hMarked⟩⟩
  · split at h
    · next id hId =>
      obtain ⟨i, hAt, -⟩ := hSound.recorded hId
      have hRecord : r.record? name = some i := record?_eq_some_iff.mpr ⟨id, hId, hAt⟩
      rw [hAt, Option.elim_some, agree] at h
      split at h
      · cases h
      · next hDisagree =>
        cases h
        refine ⟨rfl, .inr ⟨_, rfl, ?_⟩⟩
        -- first the kinds are compared, and only if they agree the levels
        split at hDisagree
        · next hKind =>
          cases hDisagree
          exact .kind hRecord hKind
        · next hKind =>
          split at hDisagree
          · next hLevel =>
            cases hDisagree
            exact .level hRecord (not_not.mp hKind) hLevel
          · cases hDisagree
    · split at h
      · cases h
      · cases h
        exact ⟨rfl, .inl rfl⟩

/-- Metrics that are not got together have broken off, or there is a first one with a conflict, and
those before it are added. -/
theorem conflict_of_obtainAll (hNodup : (parts.map Prod.fst).Nodup) (hSound : Sound r)
    (h : r.obtainAll now measure parts = (r', .error failure)) :
    failure = .brokenOff ∨ ∃ fault before part rest, failure = .refused fault ∧
      parts = before ++ part :: rest ∧
      (∀ earlier ∈ before, ∀ fault, ¬ r.Conflict measure earlier fault) ∧
      r.Conflict measure part fault ∧ Adds r now measure before r' ∧ (before = [] → r' = r) := by
  -- by induction on the parts; the others do not notice that the first one was made
  induction parts generalizing r with
  | nil => cases h
  | cons first others ih =>
    obtain ⟨name, level⟩ := first
    rw [List.map_cons, List.nodup_cons] at hNodup
    rw [obtainAll] at h
    split at h
    · next r₁ failure' hFirst =>
      cases h
      obtain ⟨rfl, hBroken | ⟨fault, hRefused, hConflict⟩⟩ := conflict_of_obtain hSound hFirst
      · exact .inl hBroken
      · exact .inr ⟨fault, [], (name, level), others, hRefused, rfl, by simp, hConflict,
          .nothing r' now measure, fun _ => rfl⟩
    · next r₁ id hFirst =>
      split at h
      · next r₂ failure' hOthers =>
        cases h
        obtain ⟨-, hSound₁⟩ := after_obtain hSound hFirst
        have hAdds := adds_obtain hFirst
        rcases ih hNodup.2 hSound₁ hOthers with
          hBroken | ⟨fault, before, part, rest, hRefused, rfl, hBefore, hConflict, hMore, -⟩
        · exact .inl hBroken
        have hApart : ∀ later ∈ before ++ part :: rest, later.1 ∉ [(name, level)].map Prod.fst := by
          intro later hMem hSame
          rw [List.map_singleton, List.mem_singleton] at hSame
          exact hNodup.1 (hSame ▸ List.mem_map_of_mem hMem)
        have hSame : ∀ later ∈ before ++ part :: rest, r₁.record? later.1 = r.record? later.1 :=
          fun later hMem => hAdds.record?_eq hSound (.inr (hApart later hMem))
        have hPart : part ∈ before ++ part :: rest := by simp
        refine .inr ⟨fault, (name, level) :: before, part, rest, hRefused, rfl, ?_,
          hConflict.of_eq (hSame part hPart).symm, ?_,
          fun hNil => absurd hNil (List.cons_ne_nil _ _)⟩
        · rw [List.forall_mem_cons]
          constructor
          · -- the first one was got, so nothing was against it
            intro fault hFault
            exact (available_of_obtain hSound hFirst).1.not_conflicting hFault.conflicting
          · intro earlier hMem fault hFault
            have hEarlier : earlier ∈ before ++ part :: rest := List.mem_append_left _ hMem
            exact hBefore earlier hMem fault (hFault.of_eq (hSame earlier hEarlier))
        · exact hAdds.append hMore hSound₁ fun later hMem =>
            hApart later (List.mem_append_left _ hMem)
      · cases h

/-- A request that is not served has broken off, or there is a reason to refuse it, and what was had
before is added. -/
theorem refusal_of_want (hSound : Sound r) (h : r.want now w = (r', .error failure)) :
    failure = .brokenOff ∨ ∃ fault before, failure = .refused fault ∧ Refusal r w before fault ∧
      Adds r now w.measure before r' ∧ (before = [] → r' = r) := by
  have hNothing := Adds.nothing r now w.measure
  rw [want, metric] at h
  split at h
  · next hEmpty =>
    have hSingle : w.ancestors = [] := List.isEmpty_iff.mp hEmpty
    cases hObtain : r.obtain w.name w.measure.kind w.level (r.blank now w.measure) with
    | mk r₁ result =>
      rw [hObtain] at h
      cases result with
      | ok id => cases h
      | error failure' =>
        cases h
        obtain ⟨rfl, hBroken | ⟨fault, hRefused, hConflict⟩⟩ := conflict_of_obtain hSound hObtain
        · exact .inl hBroken
        · exact .inr ⟨fault, [], hRefused, .single hSingle hConflict, hNothing, fun _ => rfl⟩
  · next hEmpty =>
    have hAncestors : w.ancestors ≠ [] := fun hNil => hEmpty (List.isEmpty_iff.mpr hNil)
    rw [group] at h
    split at h
    · next fault hName =>
      cases h
      exact .inr ⟨fault, [], rfl, .unexpanded hAncestors hName, hNothing, fun _ => rfl⟩
    next members hName =>
    rw [List.length_cons] at h
    split at h
    · next hCount =>
      cases h
      exact .inr ⟨_, [], rfl, .miscounted hAncestors hName hCount, hNothing, fun _ => rfl⟩
    next hCount =>
    have hCount : members.length = w.ancestors.length + 1 := not_not.mp hCount
    split at h
    · next g hGroup =>
      split at h
      · cases h
      · next hMeasure =>
        cases h
        exact .inr ⟨_, [], rfl, .grouped hAncestors hName hCount hGroup hMeasure, hNothing,
          fun _ => rfl⟩
    · next hNone =>
      split at h
      · next r₁ failure' hAll =>
        cases h
        have hNodup : ((members.zip (w.level :: w.ancestors)).map Prod.fst).Nodup := by
          rw [List.map_fst_zip (Nat.le_of_eq (by rw [hCount, List.length_cons]))]
          exact Name.hierarchy_nodup hName
        rcases conflict_of_obtainAll hNodup hSound hAll with
          hBroken | ⟨fault, before, part, rest, hRefused, hParts, hBefore, hConflict, hAdds, hNil⟩
        · exact .inl hBroken
        · exact .inr ⟨fault, before, hRefused,
            .member hAncestors hName hCount hNone hParts hBefore hConflict, hAdds, hNil⟩
      · cases h

/-! ## All runs -/

/-- After every run, a request that does not break off fails just if there is a reason to refuse it.
Then its fault is that of the first reason, and what it leaves behind is what was there, next to new
metrics under those names that were free among the parts that were had before. Unless there are
such parts, it leaves everything as it was. -/
theorem refused_requests_run (levels : LevelMap) (window : Window) (on : Bool)
    (steps : List (Instant × Request)) (now : Instant) (w : Wanted)
    (hThrough : ((Usage.after levels window on steps).want now w).2 ≠ .error .brokenOff) :
    let r := Usage.after levels window on steps
    let outcome := r.want now w
    ((∃ failure, outcome.2 = .error failure) ↔ r.Refusable w) ∧
    ∀ failure, outcome.2 = .error failure → ∃ fault before, failure = .refused fault ∧
      Refusal r w before fault ∧ Adds r now w.measure before outcome.1 ∧
      (before = [] → outcome.1 = r) := by
  intro r outcome
  have hValid : Usage.Valid ((Usage.start levels window on).run steps) :=
    Usage.valid_run levels window on steps
  have hSound : Sound r := hValid.sound
  have hGrouped : Grouped r := hValid.grouped
  have hRefused : ∀ failure, outcome.2 = .error failure → ∃ fault before,
      failure = .refused fault ∧ Refusal r w before fault ∧
      Adds r now w.measure before outcome.1 ∧ (before = [] → outcome.1 = r) := by
    intro failure hFailure
    have hOutcome : r.want now w = (outcome.1, .error failure) := Prod.ext rfl hFailure
    refine (refusal_of_want hSound hOutcome).resolve_left ?_
    rintro rfl
    exact hThrough hFailure
  refine ⟨⟨?_, ?_⟩, hRefused⟩
  · rintro ⟨failure, hFailure⟩
    obtain ⟨fault, before, -, hRefusal, -⟩ := hRefused failure hFailure
    exact hRefusal.refusable
  · intro hRefusable
    cases hOutcome : outcome.2 with
    | error failure => exact ⟨failure, rfl⟩
    | ok handle =>
      -- a request that is served has no reason against it
      have hServed : r.want now w = (outcome.1, .ok handle) := Prod.ext rfl hOutcome
      exact absurd hRefusable (served_of_want hSound hGrouped hServed).1.not_refusable

/-- A group whose last member is there at another level: two new metrics are left behind. -/
theorem refused_requests_half_made :
    let r := Usage.after default (.values 8) true [(0, .metric .counter "a.b.stat" .info [])]
    let w : Wanted := ⟨.counter, "a[+].b[+].c.stat", .info, [.info, .debug]⟩
    let fault : Fault := .levelMismatch "a.b.stat" .info .debug
    let outcome := r.want 1 w
    r.Refusable w ∧ outcome.2 = .error (.refused fault) ∧
      outcome.1.records.names = ["a.b.c.stat", "a.b.stat", "a.stat"] ∧
      outcome.1.groups.names = [] ∧
      ∃ before, Refusal r w before fault ∧ Adds r 1 .counter before outcome.1 := by
  intro r w fault outcome
  have hOutcome : outcome.2 = .error (.refused fault) := by decide
  have hThrough : outcome.2 ≠ .error .brokenOff := by
    rw [hOutcome]
    exact fun h => nomatch h
  obtain ⟨hFails, hLeft⟩ := refused_requests_run default (.values 8) true
    [(0, .metric .counter "a.b.stat" .info [])] 1 w hThrough
  obtain ⟨_, before, hFault, hRefusal, hAdds, -⟩ := hLeft _ hOutcome
  cases hFault
  exact ⟨hFails.mp ⟨_, hOutcome⟩, hOutcome, by decide, by decide, before, hRefusal, hAdds⟩

end Metering.Registry
