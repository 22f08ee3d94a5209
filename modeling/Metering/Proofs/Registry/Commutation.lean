import Metering.Proofs.Registry.Availability
import Metering.Proofs.Registry.Stored

/-!
# Metering — the order of requests for metrics

Two who ask for metrics under different names may share any of the plain names behind them, at
levels that each of them gives, and each may get what the other has made. Still it does not matter
who comes first.

* `given?_agree` — what both want and neither finds, they want in the same way;
* `Servable.earlier`, `Servable.later` — two that are served are also served the other way round;
* `Leaves.comm` — and leave the same metrics and groups;
* `requests_commute_run` — so it is after every run.
-/

namespace Metering

theorem Measure.kind_injective : Function.Injective Measure.kind := by
  intro a b h
  cases a <;> cases b <;> first | rfl | cases h

namespace Registry

variable {r r' : Registry} {name x : String} {now : Instant} {handle : Handle} {w v : Wanted}

/-! ## Two requests -/

section Exchange

variable {r₁ r₂ : Registry}

/-- A request leaves the entries of other names as they are. -/
theorem Leaves.entered?_of_ne (h : Leaves r w r') (hNe : name ≠ w.name) :
    r'.entered? name = r.entered? name := by
  have hNoEntry : w.entered? name = none := if_neg fun hEntered => hNe hEntered.1
  rw [h.entries, hNoEntry, Option.or_none]

/-- What was registered before a request is registered after it in the same way. -/
theorem Leaves.profile?_of_some (h : Leaves r w r') {p : Profile} (hp : r.profile? x = some p) :
    r'.profile? x = some p := by
  rw [h.profiles, hp, Option.some_or]

/-- Under a name that was free, what a request leaves is what it gives. -/
theorem Leaves.profile?_of_none (h : Leaves r w r') (hFree : r.profile? x = none) :
    r'.profile? x = r.given? w.measure w.parts x := by
  rw [h.profiles, hFree, Option.none_or]

/-- A name that was free is only given by a request whose group was not there. -/
theorem Servable.part_of_given (h : Servable r w) (hGrouped : Grouped r)
    (hFree : r.profile? x = none) {p : Profile} (hp : r.given? w.measure w.parts x = some p) :
    r.entered? w.name = none ∧
      ∃ level, (x, level) ∈ w.parts ∧ p = ⟨w.measure.kind, level, r.admits x level⟩ := by
  obtain ⟨level, hMem, rfl⟩ := (given?_eq_some_iff h.proper.nodup_parts).mp hp
  refine ⟨?_, level, hMem, rfl⟩
  cases hEntry : r.entered? w.name with
  | none => rfl
  | some e =>
    have hListed : x ∈ w.parts.map Prod.fst := List.mem_map_of_mem (f := Prod.fst) hMem
    rw [h.proper.names_parts] at hListed
    exact absurd hFree (profile?_of_entered hGrouped hEntry hListed)

/-- Where two requests are served one after the other, they give the same to a name that was free
and that both of them want. -/
theorem given?_agree (hGrouped : Grouped r) (hNames : v.name ≠ w.name) (hFirst : Servable r w)
    (hLeaves : Leaves r w r₁) (hSecond : Servable r₁ v)
    (hFree : r.profile? x = none) {p q : Profile} (hp : r.given? w.measure w.parts x = some p)
    (hq : r.given? v.measure v.parts x = some q) : p = q := by
  obtain ⟨-, level, -, rfl⟩ := hFirst.part_of_given hGrouped hFree hp
  obtain ⟨other, hMem, rfl⟩ := (given?_eq_some_iff hSecond.proper.nodup_parts).mp hq
  have hMade : r₁.profile? x = some ⟨w.measure.kind, level, r.admits x level⟩ :=
    (hLeaves.profile?_of_none hFree).trans hp
  have hNoEntry : r₁.entered? v.name = none := by
    rw [hLeaves.entered?_of_ne hNames]
    cases hEntry : r.entered? v.name with
    | none => rfl
    | some e =>
      have hListed : x ∈ v.parts.map Prod.fst := List.mem_map_of_mem (f := Prod.fst) hMem
      rw [hSecond.proper.names_parts] at hListed
      exact absurd hFree (profile?_of_entered hGrouped hEntry hListed)
  -- the second one found what the first one made, which must have been what it wanted
  obtain ⟨hKind, hLevel⟩ := (hSecond.parts hNoEntry _ hMem).fits hMade
  have hKind : w.measure.kind = v.measure.kind := hKind
  have hLevel : level = other := hLevel
  rw [hKind, hLevel]

/-- A request that was served second would have been served first. -/
theorem Servable.earlier (hGrouped : Grouped r) (hSame : SameSettings r r₁)
    (hNames : v.name ≠ w.name) (hFirst : Servable r w) (hLeaves : Leaves r w r₁)
    (hSecond : Servable r₁ v) : Servable r v where
  proper := hSecond.proper
  group := by
    rw [← hLeaves.entered?_of_ne hNames]
    exact hSecond.group
  parts := by
    intro hNoEntry part hMem
    rw [← hLeaves.entered?_of_ne hNames] at hNoEntry
    have hAvailable := hSecond.parts hNoEntry part hMem
    refine ⟨hAvailable.plain, fun hp => hAvailable.fits (hLeaves.profile?_of_some hp), ?_⟩
    intro hFree
    cases hGiven : r.given? w.measure w.parts part.1 with
    | none =>
      rw [← hSame.hasRoom_eq]
      exact hAvailable.room ((hLeaves.profile?_of_none hFree).trans hGiven)
    | some p =>
      -- the first one made it, so that it had room for a metric of the same kind
      obtain ⟨hFirstNone, level, hFirstMem, rfl⟩ := hFirst.part_of_given hGrouped hFree hGiven
      have hKind : w.measure.kind = v.measure.kind :=
        (hAvailable.fits ((hLeaves.profile?_of_none hFree).trans hGiven)).1
      rw [← Measure.kind_injective hKind]
      exact (hFirst.parts hFirstNone _ hFirstMem).room hFree

/-- A request that was served first would have been served second. -/
theorem Servable.later (hGrouped : Grouped r) (hNames : v.name ≠ w.name) (hFirst : Servable r w)
    (hLeaves : Leaves r w r₁) (hSecond : Servable r₁ v) (hSame' : SameSettings r r₂)
    (hLeaves' : Leaves r v r₂) :
    Servable r₂ w where
  proper := hFirst.proper
  group := by
    rw [hLeaves'.entered?_of_ne hNames.symm]
    exact hFirst.group
  parts := by
    intro hNoEntry part hMem
    rw [hLeaves'.entered?_of_ne hNames.symm] at hNoEntry
    have hAvailable := hFirst.parts hNoEntry part hMem
    cases hProfile : r.profile? part.1 with
    | some p =>
      exact hAvailable.of_eq hSame' (by rw [hProfile, hLeaves'.profile?_of_some hProfile])
    | none =>
      -- the other one has left the name free, or has made there what is wanted
      have hGiven : r.given? w.measure w.parts part.1 =
          some ⟨w.measure.kind, part.2, r.admits part.1 part.2⟩ :=
        (given?_eq_some_iff hFirst.proper.nodup_parts).mpr ⟨part.2, hMem, rfl⟩
      refine ⟨hAvailable.plain, fun hp => ?_, fun _ => ?_⟩
      · rw [hLeaves'.profile?_of_none hProfile] at hp
        rw [← given?_agree hGrouped hNames hFirst hLeaves hSecond hProfile hGiven hp]
        exact ⟨rfl, rfl⟩
      · rw [hSame'.hasRoom_eq]
        exact hAvailable.room hProfile

/-- Two requests leave the same metrics and the same groups in either order. -/
theorem Leaves.comm {r₁₂ r₂₁ : Registry} (hGrouped : Grouped r) (hSame : SameSettings r r₁)
    (hSame' : SameSettings r r₂) (hNames : v.name ≠ w.name) (hFirst : Servable r w)
    (hSecond : Servable r₁ v) (h₁ : Leaves r w r₁) (h₁₂ : Leaves r₁ v r₁₂) (h₂ : Leaves r v r₂)
    (h₂₁ : Leaves r₂ w r₂₁) (x : String) :
    r₂₁.profile? x = r₁₂.profile? x ∧ r₂₁.entered? x = r₁₂.entered? x := by
  constructor
  · rw [h₂₁.profiles, h₂.profiles, h₁₂.profiles, h₁.profiles, hSame.given?_eq, hSame'.given?_eq]
    -- only under a name that was free does it matter who comes first
    cases hProfile : r.profile? x with
    | some p => simp only [Option.some_or]
    | none =>
      simp only [Option.none_or]
      cases hp : r.given? w.measure w.parts x with
      | none => rw [Option.or_none, Option.none_or]
      | some p =>
        cases hq : r.given? v.measure v.parts x with
        | none => rw [Option.or_none, Option.none_or]
        | some q => rw [given?_agree hGrouped hNames hFirst h₁ hSecond hProfile hp hq]
  · rw [h₂₁.entries, h₂.entries, h₁₂.entries, h₁.entries]
    -- at most one of the two is entered under a name
    by_cases hx : x = w.name
    · have hNoEntry : v.entered? x = none :=
        if_neg fun hEntered => hNames (hEntered.1.symm.trans hx)
      rw [hNoEntry, Option.or_none, Option.or_none]
    · have hNoEntry : w.entered? x = none := if_neg fun hEntered => hx hEntered.1
      rw [hNoEntry, Option.or_none, Option.or_none]

end Exchange

/-! ## All runs -/

/-- Two registries have the same metrics, as far as they do not depend on updates, the same groups
with the same members, and the same names in the store. -/
structure Alike (r r' : Registry) : Prop where
  records : r'.records.names = r.records.names
  profiles : ∀ name, r'.profile? name = r.profile? name
  groups : r'.groups.names = r.groups.names
  entries : ∀ name, r'.entered? name = r.entered? name
  store : r'.store.names = r.store.names

/-- What is listed follows from what is found under each name. -/
theorem alike_of_eq (hSound : Sound r) (hStored : Stored r) (hSound' : Sound r')
    (hStored' : Stored r') (hProfiles : ∀ x, r'.profile? x = r.profile? x)
    (hEntries : ∀ x, r'.entered? x = r.entered? x) : Alike r r' := by
  have hRecords : r'.records.names = r.records.names := by
    refine NameMap.names_eq_of_contains_eq fun name => ?_
    rw [Bool.eq_iff_iff, ← not_iff_not, Bool.not_eq_true, Bool.not_eq_true,
      NameMap.contains_eq_false_iff, NameMap.contains_eq_false_iff,
      ← profile?_eq_none_iff hSound', ← profile?_eq_none_iff hSound, hProfiles]
  have hGroups : r'.groups.names = r.groups.names := by
    refine NameMap.names_eq_of_contains_eq fun name => ?_
    rw [Bool.eq_iff_iff, ← not_iff_not, Bool.not_eq_true, Bool.not_eq_true,
      NameMap.contains_eq_false_iff, NameMap.contains_eq_false_iff, ← entered?_eq_none_iff,
      ← entered?_eq_none_iff, hEntries]
  have hStore : r'.store.names = r.store.names := by
    rw [hStored'.names_eq hSound', hRecords, hStored.names_eq hSound]
  exact ⟨hRecords, hProfiles, hGroups, hEntries, hStore⟩

/-- What a request that was served keeps and leaves. -/
theorem Whole.want (h : Whole r) (hWant : r.want now w = (r', .ok handle)) :
    Whole r' ∧ SameSettings r r' ∧ Leaves r w r' := by
  have hMoves : Moves r (r.want now w).1 := metric_moves r now w.measure w.name w.level w.ancestors
  have hSame := sameSettings_want r now w
  rw [hWant] at hMoves hSame
  exact ⟨h.moves hMoves, hSame, (served_of_want h.sound h.grouped hWant).2⟩

/-- Two requests for metrics under different names that are served after any run are also served in
the other order, whenever they come, and leave registries that are alike. -/
theorem requests_commute_run (levels : LevelMap) (window : Window) (on : Bool)
    (steps : List (Instant × Request)) (first second : Wanted) (now₁ now₂ now₃ now₄ : Instant)
    {r₁ r₁₂ : Registry} {h₁ h₂ : Handle} (hNames : first.name ≠ second.name)
    (hFirst : (Usage.after levels window on steps).want now₁ first = (r₁, .ok h₁))
    (hSecond : r₁.want now₂ second = (r₁₂, .ok h₂)) :
    ∃ r₂ r₂₁ h₃ h₄,
      (Usage.after levels window on steps).want now₃ second = (r₂, .ok h₃) ∧
      r₂.want now₄ first = (r₂₁, .ok h₄) ∧
      Alike r₁₂ r₂₁ := by
  generalize hState : Usage.after levels window on steps = r at hFirst ⊢
  have hWhole : Whole r := hState ▸ whole_after levels window on steps
  -- what is known of the order in which they were served
  obtain ⟨hWhole₁, hSame₁, hLeaves₁⟩ := hWhole.want hFirst
  obtain ⟨hWhole₁₂, -, hLeaves₁₂⟩ := hWhole₁.want hSecond
  have hServable₁ : Servable r first := (served_of_want hWhole.sound hWhole.grouped hFirst).1
  have hServable₂ : Servable r₁ second :=
    (served_of_want hWhole₁.sound hWhole₁.grouped hSecond).1
  -- the other order
  have hEarlier : Servable r second :=
    .earlier hWhole.grouped hSame₁ hNames.symm hServable₁ hLeaves₁ hServable₂
  obtain ⟨r₂, h₃, hOther⟩ := want_of_servable hWhole.sound hEarlier now₃
  obtain ⟨hWhole₂, hSame₂, hLeaves₂⟩ := hWhole.want hOther
  have hLater : Servable r₂ first :=
    .later hWhole.grouped hNames.symm hServable₁ hLeaves₁ hServable₂ hSame₂ hLeaves₂
  obtain ⟨r₂₁, h₄, hLast⟩ := want_of_servable hWhole₂.sound hLater now₄
  obtain ⟨hWhole₂₁, -, hLeaves₂₁⟩ := hWhole₂.want hLast
  have hBoth := Leaves.comm hWhole.grouped hSame₁ hSame₂ hNames.symm hServable₁ hServable₂
    hLeaves₁ hLeaves₁₂ hLeaves₂ hLeaves₂₁
  exact ⟨r₂, r₂₁, h₃, h₄, hOther, hLast,
    alike_of_eq hWhole₁₂.sound hWhole₁₂.stored hWhole₂₁.sound hWhole₂₁.stored
      (fun x => (hBoth x).1) (fun x => (hBoth x).2)⟩

/-- Two groups that share two names at different places. One of these is registered before, and the
other one is made by whoever comes first. -/
theorem requests_commute_of_groups :
    let r := Usage.after default (.values 8) true [(0, .metric .counter "a.stat" .info [])]
    let first : Wanted := ⟨.counter, "a[+].b.stat", .debug, [.info]⟩
    let second : Wanted := ⟨.counter, "a[+].b[+].c.stat", .all, [.info, .debug]⟩
    let both := ((r.want 1 first).1.want 2 second).1
    ∃ r₂ r₂₁ h₃ h₄, r.want 3 second = (r₂, .ok h₃) ∧ r₂.want 4 first = (r₂₁, .ok h₄) ∧
      Alike both r₂₁ := by
  exact requests_commute_run default (.values 8) true [(0, .metric .counter "a.stat" .info [])]
    ⟨.counter, "a[+].b.stat", .debug, [.info]⟩ ⟨.counter, "a[+].b[+].c.stat", .all, [.info, .debug]⟩
    1 2 3 4 (by decide) rfl rfl

end Registry

end Metering
