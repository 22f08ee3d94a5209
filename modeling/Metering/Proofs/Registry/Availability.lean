import Metering.Proofs.Registry.Fresh
import Metering.Proofs.Registry.Grant

/-!
# Metering — which requests are served

Whether one who asks for a metric is served depends on what is registered under each single plain
name behind it, and on whether there is a group of its name. What the request leaves behind is what
was there and, under the names that were free, what was asked for.

* `Wanted` — what one asks for, with its parts: the plain names with their levels;
* `Profile` — what is registered under a plain name, but for the updates;
* `Available` — when a part can be had, with `available_of_obtainAll` and `obtainAll_of_available`;
* `Servable`, `Leaves` — when a request is served, and what it leaves behind;
* `served_of_want`, `want_of_servable` — a request is served just in this case.
-/

namespace Metering

/-- What is registered under a plain name, as far as it does not depend on updates. -/
structure Profile where
  kind : Kind
  level : Level
  enabled : Bool
  deriving DecidableEq

/-- A metric that is wanted: its measure, its name, its level, and the levels of its ancestors. -/
structure Wanted where
  measure : Measure
  name : String
  level : Level
  ancestors : List Level

/-- The plain names behind a wanted metric, each with the level that it is wanted at. -/
def Wanted.parts (w : Wanted) : List (String × Level) :=
  (Name.standsFor w.name).zip (w.level :: w.ancestors)

/-- Name and levels of a wanted metric go together: a plain name has no ancestors, and one with
markers has a level for each name that it stands for. -/
def Wanted.Proper (w : Wanted) : Prop :=
  (w.ancestors = [] ∧ Name.isMarked w.name = false) ∨
    (w.ancestors ≠ [] ∧ ∃ members, Name.hierarchy w.name = .ok members ∧
      members.length = w.ancestors.length + 1)

/-- The entry that a wanted metric makes among the groups: one under its own name, if it has
ancestors. -/
def Wanted.entered? (w : Wanted) (x : String) : Option (Measure × List String) :=
  if x = w.name ∧ w.ancestors ≠ [] then some (w.measure, Name.standsFor w.name) else none

namespace Wanted.Proper

variable {w : Wanted}

/-- With ancestors, a name has markers and stands for the members of its group. -/
theorem group (h : w.Proper) (hAncestors : w.ancestors ≠ []) {members : List String}
    (hMembers : Name.hierarchy w.name = .ok members) :
    members.length = w.ancestors.length + 1 ∧ Name.standsFor w.name = members := by
  rcases h with ⟨hNone, -⟩ | ⟨-, found, hFound, hLength⟩
  · exact absurd hNone hAncestors
  · rw [hMembers] at hFound
    cases hFound
    have hPositive := List.length_pos_iff.mpr hAncestors
    have hMarked : Name.isMarked w.name = true := Name.isMarked_of_hierarchy hMembers (by omega)
    exact ⟨hLength, Name.standsFor_of_marked hMembers hMarked⟩

/-- Each plain name behind a wanted metric has a level. -/
theorem names_parts (h : w.Proper) : w.parts.map Prod.fst = Name.standsFor w.name := by
  refine List.map_fst_zip (Nat.le_of_eq ?_)
  by_cases hAncestors : w.ancestors = []
  · rcases h with ⟨-, hPlain⟩ | ⟨hSome, -⟩
    · rw [Name.standsFor_of_plain hPlain, hAncestors]
      rfl
    · exact absurd hAncestors hSome
  · rcases h with ⟨hNone, -⟩ | ⟨-, members, hMembers, hLength⟩
    · exact absurd hNone hAncestors
    · have hProper : w.Proper := .inr ⟨hAncestors, members, hMembers, hLength⟩
      rw [(hProper.group hAncestors hMembers).2, hLength, List.length_cons]

theorem nodup_parts (h : w.Proper) : (w.parts.map Prod.fst).Nodup := by
  rw [h.names_parts]
  exact Name.standsFor_nodup w.name

end Wanted.Proper

namespace Registry

/-- The profile of what is registered under a plain name. -/
def profile? (r : Registry) (name : String) : Option Profile :=
  (r.record? name).map fun i => ⟨i.kind, i.level, i.enabled⟩

/-- The measure and the members of the group under a name. -/
def entered? (r : Registry) (name : String) : Option (Measure × List String) :=
  (r.groups.get? name).map fun g => (g.measure, g.members)

/-- Whether there is room for one more statistic of a measure. -/
def hasRoom (r : Registry) (measure : Measure) : Bool := (r.blank 0 measure).isSome

/-- Asks for a wanted metric. -/
def want (r : Registry) (now : Instant) (w : Wanted) : Registry × Except Failure Handle :=
  r.metric now w.measure w.name w.level w.ancestors

variable {r r' : Registry} {name x : String} {level : Level} {measure : Measure} {now : Instant}
  {handle : Handle} {part : String × Level} {w v : Wanted}

/-! ## What is configured stays -/

/-- Two registries have the same switch, the same levels and the same window. -/
structure SameSettings (r r' : Registry) : Prop where
  enabled : r'.enabled = r.enabled
  levels : r'.levels = r.levels
  window : r'.window = r.window

theorem SameSettings.admits_eq (h : SameSettings r r') (name : String) (level : Level) :
    r'.admits name level = r.admits name level := by
  rw [admits, admits, h.enabled, h.levels]

/-- What a new metric starts with does not depend on what is registered. -/
theorem SameSettings.blank_eq (h : SameSettings r r') (now : Instant) (measure : Measure) :
    r'.blank now measure = r.blank now measure := by
  cases measure <;> simp only [blank, h.window]

theorem SameSettings.hasRoom_eq (h : SameSettings r r') (measure : Measure) :
    r'.hasRoom measure = r.hasRoom measure := by
  rw [hasRoom, hasRoom, h.blank_eq]

theorem SameSettings.obtain (h : SameSettings r r') (name : String) (kind : Kind) (level : Level)
    (initial : Option Statistic) : SameSettings r (r'.obtain name kind level initial).1 := by
  rcases obtain_cases r' name kind level initial with
    ⟨failure, hOut⟩ | ⟨id, i, hOut, -⟩ | ⟨s, hOut, -⟩
  · rw [hOut]
    exact h
  · rw [hOut]
    exact h
  · rw [hOut]
    exact ⟨h.enabled, h.levels, h.window⟩

theorem sameSettings_want (r : Registry) (now : Instant) (w : Wanted) :
    SameSettings r (r.want now w).1 :=
  metric_keeps (P := SameSettings r) (fun name level h => h.obtain name _ level _)
    (fun _ _ h => ⟨h.enabled, h.levels, h.window⟩) w.name w.level w.ancestors ⟨rfl, rfl, rfl⟩

/-- Whether there is room does not depend on the time. -/
theorem isSome_blank (r : Registry) (now : Instant) (measure : Measure) :
    (r.blank now measure).isSome = r.hasRoom measure := by
  unfold hasRoom
  cases measure with
  | counter | meter | histogram => rfl
  | timer =>
    simp only [blank]
    split <;> rfl

/-- The settings and the soundness of a registry outlast the making of one metric. -/
theorem after_obtain (hSound : Sound r) {outcome : Except Failure InstrumentId}
    (h : r.obtain name measure.kind level (r.blank now measure) = (r', outcome)) :
    SameSettings r r' ∧ Sound r' := by
  have hKept := SameSettings.obtain (r := r) ⟨rfl, rfl, rfl⟩ name measure.kind level
    (r.blank now measure)
  have hMoves : Moves r (r.obtain name measure.kind level (r.blank now measure)).1 :=
    obtain_moves fun _ hs => (blank_spec hs).2
  rw [h] at hKept hMoves
  exact ⟨hKept, hSound.moves hMoves⟩

/-! ## Profiles -/

theorem profile?_eq_none_iff (hSound : Sound r) :
    r.profile? name = none ↔ r.records.get? name = none := by
  rw [profile?, Option.map_eq_none_iff, record?, Option.bind_eq_none_iff]
  constructor
  · intro h
    cases hRecord : r.records.get? name with
    | none => rfl
    | some id =>
      -- whatever is registered has an instrument
      obtain ⟨i, hAt, -⟩ := hSound.recorded hRecord
      rw [h id hRecord] at hAt
      cases hAt
  · intro h id hRecord
    rw [h] at hRecord
    cases hRecord

theorem profile?_make (hSound : Sound r) (initial : Statistic) (x : String) :
    (r.make name level initial).1.profile? x =
      if x = name then some ⟨initial.kind, level, r.admits name level⟩ else r.profile? x := by
  rw [profile?, profile?, record?, record?, records_make, NameMap.get?_insert]
  split
  · rw [Option.bind_some, instrument?_make_self]
    rfl
  · cases hRecord : r.records.get? x with
    | none => rfl
    | some id =>
      obtain ⟨i, hAt, -⟩ := hSound.recorded hRecord
      rw [Option.bind_some, Option.bind_some, instrument?_make_of_some hAt, hAt]

/-- The profile that a list of parts gives to a name, if the name is among them. -/
def given? (r : Registry) (measure : Measure) (parts : List (String × Level)) (x : String) :
    Option Profile :=
  (parts.lookup x).map fun level => ⟨measure.kind, level, r.admits x level⟩

theorem given?_cons (r : Registry) (measure : Measure) (part : String × Level)
    (parts : List (String × Level)) (x : String) :
    r.given? measure (part :: parts) x =
      if x = part.1 then some ⟨measure.kind, part.2, r.admits x part.2⟩
      else r.given? measure parts x := by
  obtain ⟨name, level⟩ := part
  rw [given?, List.lookup_cons]
  by_cases hx : x = name
  · simp [hx]
  · simp [hx, given?, beq_eq_false_iff_ne.mpr hx]

theorem SameSettings.given?_eq (h : SameSettings r r') (measure : Measure)
    (parts : List (String × Level)) (x : String) :
    r'.given? measure parts x = r.given? measure parts x := by
  unfold given?
  simp only [h.admits_eq]

/-- Who is given a profile is one of the parts, and conversely if no name comes twice. -/
theorem given?_eq_some_iff {parts : List (String × Level)} (hNodup : (parts.map Prod.fst).Nodup)
    {p : Profile} :
    r.given? measure parts x = some p ↔
      ∃ level, (x, level) ∈ parts ∧ p = ⟨measure.kind, level, r.admits x level⟩ := by
  induction parts with
  | nil => simp [given?]
  | cons part rest ih =>
    obtain ⟨name, first⟩ := part
    rw [List.map_cons, List.nodup_cons] at hNodup
    rw [given?_cons]
    by_cases hx : x = name
    · subst hx
      rw [if_pos rfl]
      constructor
      · intro h
        exact ⟨first, List.mem_cons_self, (Option.some.inj h).symm⟩
      · rintro ⟨level, hMem, rfl⟩
        rcases List.mem_cons.mp hMem with hFirst | hRest
        · cases hFirst
          rfl
        · exact absurd (List.mem_map_of_mem hRest) hNodup.1
    · rw [if_neg hx, ih hNodup.2]
      constructor
      · rintro ⟨level, hMem, hp⟩
        exact ⟨level, List.mem_cons_of_mem _ hMem, hp⟩
      · rintro ⟨level, hMem, hp⟩
        rcases List.mem_cons.mp hMem with hFirst | hRest
        · cases hFirst
          exact absurd rfl hx
        · exact ⟨level, hRest, hp⟩

theorem given?_eq_none_iff {parts : List (String × Level)} :
    r.given? measure parts x = none ↔ x ∉ parts.map Prod.fst := by
  rw [given?, Option.map_eq_none_iff, List.lookup_eq_none_iff]
  simp only [List.mem_map, not_exists, not_and, bne_iff_ne, ne_eq]
  constructor
  · intro h part hMem hx
    exact h part hMem hx.symm
  · intro h part hMem hx
    exact h part hMem hx.symm

/-! ## Parts that can be had -/

/-- A part can be had: its name is plain, and either it is registered with the kind and the level
that are wanted, or the name is free and there is room. -/
structure Available (r : Registry) (measure : Measure) (part : String × Level) : Prop where
  plain : Name.isMarked part.1 = false
  fits : ∀ {p}, r.profile? part.1 = some p → p.kind = measure.kind ∧ p.level = part.2
  room : r.profile? part.1 = none → r.hasRoom measure = true

/-- Only what is registered under its own name matters for a part. -/
theorem Available.of_eq (h : r.Available measure part) (hSame : SameSettings r r')
    (hProfile : r'.profile? part.1 = r.profile? part.1) : r'.Available measure part where
  plain := h.plain
  fits hp := h.fits (hProfile ▸ hp)
  room hNone := by
    rw [hSame.hasRoom_eq]
    exact h.room (hProfile ▸ hNone)

/-- A metric that was got was available, and is made if it was not there. -/
theorem available_of_obtain (hSound : Sound r) {id : InstrumentId}
    (h : r.obtain name measure.kind level (r.blank now measure) = (r', .ok id)) :
    r.Available measure (name, level) ∧
      ∀ x, r'.profile? x = (r.profile? x).or (r.given? measure [(name, level)] x) := by
  rcases obtain_cases r name measure.kind level (r.blank now measure) with
    ⟨failure, hRefused⟩ | ⟨found, i, hFound, hPlain, hRecord, hAt, hKind, hLevel⟩ |
    ⟨s, hMade, hPlain, hFree, hBlank⟩
  · rw [hRefused] at h
    cases h
  · -- the metric was there
    rw [hFound] at h
    cases h
    have hProfile : r.profile? name = some ⟨i.kind, i.level, i.enabled⟩ := by
      rw [profile?, record?_eq_some_iff.mpr ⟨id, hRecord, hAt⟩, Option.map_some]
    refine ⟨⟨hPlain, fun hp => ?_, fun hNone => ?_⟩, fun x => ?_⟩
    · rw [hProfile] at hp
      rw [← Option.some.inj hp]
      exact ⟨hKind, hLevel⟩
    · rw [hProfile] at hNone
      cases hNone
    · -- nothing is made, so what is wanted must have been there
      rw [given?_cons]
      split
      · next hx => rw [hx, hProfile, Option.some_or]
      · exact (Option.or_none).symm
  · -- the metric is made under a name that was free
    rw [hMade] at h
    cases h
    have hNone : r.profile? name = none := (profile?_eq_none_iff hSound).mpr hFree
    refine ⟨⟨hPlain, fun hp => ?_, fun _ => ?_⟩, fun x => ?_⟩
    · rw [hNone] at hp
      cases hp
    · rw [← isSome_blank r now, hBlank]
      rfl
    · rw [profile?_make hSound, given?_cons, (blank_spec hBlank).1]
      split
      · next hx => rw [hx, hNone, Option.none_or]
      · exact (Option.or_none).symm

/-- Whoever asks for what is available gets it. -/
theorem obtain_of_available (hSound : Sound r) (h : r.Available measure (name, level))
    (now : Instant) :
    ∃ r' id, r.obtain name measure.kind level (r.blank now measure) = (r', .ok id) := by
  have hPlain : Name.isMarked name = false := h.plain
  unfold obtain
  rw [hPlain, if_neg Bool.false_ne_true]
  cases hRecord : r.records.get? name with
  | none =>
    have hRoom := h.room ((profile?_eq_none_iff hSound).mpr hRecord)
    rw [← isSome_blank r now] at hRoom
    obtain ⟨s, hs⟩ := Option.isSome_iff_exists.mp hRoom
    rw [hs]
    exact ⟨_, _, rfl⟩
  | some id =>
    obtain ⟨i, hAt, -⟩ := hSound.recorded hRecord
    have hProfile : r.profile? name = some ⟨i.kind, i.level, i.enabled⟩ := by
      rw [profile?, record?_eq_some_iff.mpr ⟨id, hRecord, hAt⟩, Option.map_some]
    obtain ⟨hKind, hLevel⟩ := h.fits hProfile
    have hAgree : agree name measure.kind level i = .ok () := by
      rw [agree, if_neg (not_not.mpr hKind), if_neg (not_not.mpr hLevel)]
    simp only [hAt, Option.elim_some, hAgree]
    exact ⟨_, _, rfl⟩

/-- Parts that were got were all available, and those that were not there are made. -/
theorem available_of_obtainAll {parts : List (String × Level)} {ids : List InstrumentId}
    (hNodup : (parts.map Prod.fst).Nodup) (hSound : Sound r)
    (h : r.obtainAll now measure parts = (r', .ok ids)) :
    (∀ part ∈ parts, r.Available measure part) ∧
      ∀ x, r'.profile? x = (r.profile? x).or (r.given? measure parts x) := by
  -- by induction on the parts; the others do not notice that the first one was made
  induction parts generalizing r r' ids with
  | nil =>
    cases h
    exact ⟨by simp, fun x => (Option.or_none).symm⟩
  | cons part rest ih =>
    obtain ⟨name, level⟩ := part
    rw [List.map_cons, List.nodup_cons] at hNodup
    rw [obtainAll] at h
    split at h
    · cases h
    · next r₁ id h₁ =>
      split at h
      · cases h
      · next r₂ more h₂ =>
        cases h
        obtain ⟨hSame, hSound₁⟩ := after_obtain hSound h₁
        obtain ⟨hFirst, hProfile⟩ := available_of_obtain hSound h₁
        obtain ⟨hRest, hProfile'⟩ := ih hNodup.2 hSound₁ h₂
        refine ⟨List.forall_mem_cons.mpr ⟨hFirst, fun other hMem => ?_⟩, fun x => ?_⟩
        · have hListed : other.1 ∈ rest.map Prod.fst := List.mem_map_of_mem hMem
          have hne : other.1 ≠ name := fun heq => hNodup.1 (by rwa [heq] at hListed)
          refine (hRest other hMem).of_eq ⟨hSame.enabled.symm, hSame.levels.symm,
            hSame.window.symm⟩ ?_
          rw [hProfile, given?_cons, if_neg hne]
          exact (Option.or_none).symm
        · rw [hProfile', hProfile, hSame.given?_eq, given?_cons, given?_cons]
          by_cases hx : x = name
          · cases r.profile? x <;> simp [hx]
          · simp [hx, given?]

/-- Whoever asks for parts that are all available gets them. -/
theorem obtainAll_of_available {parts : List (String × Level)}
    (hNodup : (parts.map Prod.fst).Nodup) (hSound : Sound r)
    (h : ∀ part ∈ parts, r.Available measure part) (now : Instant) :
    ∃ r' ids, r.obtainAll now measure parts = (r', .ok ids) := by
  -- by induction on the parts; when the first one is made, the others can still be had
  induction parts generalizing r with
  | nil => exact ⟨_, _, rfl⟩
  | cons part rest ih =>
    obtain ⟨name, level⟩ := part
    rw [List.map_cons, List.nodup_cons] at hNodup
    obtain ⟨hFirst, hRest⟩ := List.forall_mem_cons.mp h
    obtain ⟨r₁, id, h₁⟩ := obtain_of_available hSound hFirst now
    obtain ⟨hSame, hSound₁⟩ := after_obtain hSound h₁
    have hStill : ∀ other ∈ rest, r₁.Available measure other := by
      intro other hMem
      have hListed : other.1 ∈ rest.map Prod.fst := List.mem_map_of_mem hMem
      have hne : other.1 ≠ name := fun heq => hNodup.1 (by rwa [heq] at hListed)
      refine (hRest other hMem).of_eq hSame ?_
      rw [(available_of_obtain hSound h₁).2, given?_cons, if_neg hne]
      exact Option.or_none
    obtain ⟨r₂, ids, h₂⟩ := ih hNodup.2 hSound₁ hStill
    rw [obtainAll, h₁]
    simp only [h₂]
    exact ⟨_, _, rfl⟩

/-! ## Requests that are served -/

/-- A request will be served: it is proper, and if there is a group of its name, that is of its
measure; if there is none, each of its parts can be had. -/
structure Servable (r : Registry) (w : Wanted) : Prop where
  proper : w.Proper
  group : ∀ {e}, r.entered? w.name = some e → e.1 = w.measure ∧ w.ancestors ≠ []
  parts : r.entered? w.name = none → ∀ part ∈ w.parts, r.Available w.measure part

/-- What a request that is served leaves behind: what was there, next to what is wanted. -/
structure Leaves (r : Registry) (w : Wanted) (r' : Registry) : Prop where
  profiles : ∀ x, r'.profile? x = (r.profile? x).or (r.given? w.measure w.parts x)
  entries : ∀ x, r'.entered? x = (r.entered? x).or (w.entered? x)

theorem entered?_eq_none_iff : r.entered? name = none ↔ r.groups.get? name = none := by
  rw [entered?, Option.map_eq_none_iff]

theorem entered?_of_group {g : Group} (h : r.groups.get? name = some g) :
    r.entered? name = some (g.measure, g.members) := by
  rw [entered?, h, Option.map_some]

/-- The plain names behind a group are registered. -/
theorem profile?_of_entered (hGrouped : Grouped r) {e : Measure × List String}
    (h : r.entered? name = some e) (hMem : x ∈ Name.standsFor name) : r.profile? x ≠ none := by
  obtain ⟨g, hGroup, -⟩ := Option.map_eq_some_iff.mp h
  obtain ⟨level, i, hRecord, -⟩ := granted_of_intact (hGrouped hGroup) x hMem
  rw [profile?, hRecord, Option.map_some]
  exact Option.some_ne_none _

/-- A request for a plain name that was served. -/
theorem served_of_single (hSound : Sound r) (hGrouped : Grouped r) (hPlain : w.ancestors = [])
    {id : InstrumentId}
    (h : r.obtain w.name w.measure.kind w.level (r.blank now w.measure) = (r', .ok id)) :
    Servable r w ∧ Leaves r w r' := by
  obtain ⟨hAvailable, hProfiles⟩ := available_of_obtain hSound h
  have hParts : w.parts = [(w.name, w.level)] := by
    rw [Wanted.parts, Name.standsFor_of_plain hAvailable.plain, hPlain]
    rfl
  have hGroups : r'.groups = r.groups := by
    have hSame := groups_obtain r w.name w.measure.kind w.level (r.blank now w.measure)
    rwa [h] at hSame
  constructor
  · refine ⟨.inl ⟨hPlain, hAvailable.plain⟩, fun hEntry => ?_, fun _ => ?_⟩
    · -- a group has markers in its name
      obtain ⟨g, hGroup, -⟩ := Option.map_eq_some_iff.mp hEntry
      have hMarked : Name.isMarked w.name = true := (hGrouped hGroup).marked
      rw [hAvailable.plain] at hMarked
      cases hMarked
    · rw [hParts]
      exact List.forall_mem_singleton.mpr hAvailable
  · refine ⟨?_, fun x => ?_⟩
    · rw [hParts]
      exact hProfiles
    · have hNoEntry : w.entered? x = none := if_neg fun hEntered => hEntered.2 hPlain
      rw [hNoEntry, Option.or_none, entered?, entered?, hGroups]

/-- A request for a group that was served. -/
theorem served_of_group (hSound : Sound r) (hGrouped : Grouped r) (hAncestors : w.ancestors ≠ [])
    (h : r.group now w.measure w.name (w.level :: w.ancestors) = (r', .ok handle)) :
    Servable r w ∧ Leaves r w r' := by
  rw [group] at h
  split at h
  · cases h
  next members hMembers =>
  split at h
  · cases h
  next hCount =>
  have hLength : members.length = w.ancestors.length + 1 := not_not.mp hCount
  have hProper : w.Proper := .inr ⟨hAncestors, members, hMembers, hLength⟩
  have hStands : Name.standsFor w.name = members := (hProper.group hAncestors hMembers).2
  split at h
  · -- the group was there, and the request has left all as it was
    next g hGroup =>
    split at h
    · next hMeasure =>
      cases h
      have hEntry := entered?_of_group hGroup
      refine ⟨⟨hProper, fun hOther => ?_, fun hNone => ?_⟩, fun x => ?_, fun x => ?_⟩
      · rw [hEntry] at hOther
        exact ⟨Option.some.inj hOther ▸ hMeasure, hAncestors⟩
      · rw [hEntry] at hNone
        cases hNone
      · -- all members are registered, so that none is added
        by_cases hMem : x ∈ Name.standsFor w.name
        · obtain ⟨p, hp⟩ := Option.ne_none_iff_exists'.mp
            (profile?_of_entered hGrouped hEntry hMem)
          rw [hp, Option.some_or]
        · rw [given?_eq_none_iff.mpr (hProper.names_parts ▸ hMem), Option.or_none]
      · rw [Wanted.entered?]
        split
        · next hx => rw [hx.1, hEntry, Option.some_or]
        · exact Option.or_none.symm
    · cases h
  · -- the group is made of its parts
    next hNone =>
    split at h
    · cases h
    · next r₁ targets h₁ =>
      cases h
      have hParts : w.parts = members.zip (w.level :: w.ancestors) := by
        rw [Wanted.parts, hStands]
      rw [← hParts] at h₁
      obtain ⟨hAvailable, hProfiles⟩ := available_of_obtainAll hProper.nodup_parts hSound h₁
      have hGroups : r₁.groups = r.groups := by
        have hSame := groups_obtainAll r now w.measure w.parts
        rwa [h₁] at hSame
      have hNoEntry := entered?_eq_none_iff.mpr hNone
      refine ⟨⟨hProper, fun hEntry => ?_, fun _ => hAvailable⟩, hProfiles, fun x => ?_⟩
      · rw [hNoEntry] at hEntry
        cases hEntry
      · show ((r₁.groups.insert w.name ⟨w.measure, members, targets⟩).get? x).map _ = _
        rw [NameMap.get?_insert, Wanted.entered?, hGroups]
        by_cases hx : x = w.name
        · rw [if_pos hx, if_pos ⟨hx, hAncestors⟩, hx, hNoEntry, hStands]
          rfl
        · rw [if_neg hx, if_neg (fun hEntered => hx hEntered.1), Option.or_none]
          rfl

/-- A request that was served was servable, and leaves what was there next to what is wanted. -/
theorem served_of_want (hSound : Sound r) (hGrouped : Grouped r)
    (h : r.want now w = (r', .ok handle)) : Servable r w ∧ Leaves r w r' := by
  rw [want, metric] at h
  split at h
  · next hEmpty =>
    obtain ⟨id, hObtain, -⟩ := single_ok h
    exact served_of_single hSound hGrouped (List.isEmpty_iff.mp hEmpty) hObtain
  · next hEmpty => exact served_of_group hSound hGrouped (fun hNil => hEmpty (hNil ▸ rfl)) h

/-- A request that is servable is served. -/
theorem want_of_servable (hSound : Sound r) (h : Servable r w) (now : Instant) :
    ∃ r' handle, r.want now w = (r', .ok handle) := by
  rw [want, metric]
  rcases h.proper with ⟨hPlain, hUnmarked⟩ | ⟨hAncestors, members, hMembers, hLength⟩
  · rw [hPlain, List.isEmpty_nil, if_pos rfl]
    -- there is no group of a plain name
    have hNoEntry : r.entered? w.name = none := by
      cases hEntry : r.entered? w.name with
      | none => rfl
      | some e => exact absurd hPlain (h.group hEntry).2
    have hListed : (w.name, w.level) ∈ w.parts := by
      rw [Wanted.parts, Name.standsFor_of_plain hUnmarked]
      exact List.mem_cons_self
    obtain ⟨r', id, hObtain⟩ := obtain_of_available hSound
      (h.parts hNoEntry _ hListed) now
    rw [hObtain]
    exact ⟨_, _, rfl⟩
  · have hStands : Name.standsFor w.name = members := (h.proper.group hAncestors hMembers).2
    have hCount : members.length = (w.level :: w.ancestors).length := hLength
    rw [if_neg (fun hEmpty => hAncestors (List.isEmpty_iff.mp hEmpty)), group, hMembers]
    simp only
    rw [if_neg (not_not.mpr hCount)]
    cases hGroup : r.groups.get? w.name with
    | some g =>
      simp only
      rw [if_pos (h.group (entered?_of_group hGroup)).1]
      exact ⟨_, _, rfl⟩
    | none =>
      have hZip : members.zip (w.level :: w.ancestors) = w.parts := by
        rw [Wanted.parts, hStands]
      obtain ⟨r', ids, hAll⟩ := obtainAll_of_available h.proper.nodup_parts hSound
        (h.parts (entered?_eq_none_iff.mpr hGroup)) now
      rw [hZip, hAll]
      exact ⟨_, _, rfl⟩

end Registry

end Metering
