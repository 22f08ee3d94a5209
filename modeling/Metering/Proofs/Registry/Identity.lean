import Metering.Proofs.Registry.Fresh
import Metering.Proofs.Registry.Grant

/-!
# Metering — the identity of instruments

Whoever asks for a metric by its name, in whatever way, gets the instruments that the name is bound
to. As a binding is only loosened by removals, two who ask for the same name at different times
share their instruments unless the name was removed in between. Who asks for a name that is free
gets an instrument that nobody had before and that none who had another one under this name will
ever reach.

* `Usage.Gets` — a request is served with a handle under a name;
* `Gets.bound?` — the handle reaches what the name is bound to afterwards;
* `Gets.again` — nothing is made or changed for a name that is bound already;
* `Gets.fresh` — what is made under a free name is new and has recorded nothing;
* `instruments_identified_run` — the same instruments before a removal, others after it.
-/

namespace Metering

namespace Registry

variable {r r' : Registry} {name : String} {kind : Kind} {level : Level} {measure : Measure}
  {now : Instant} {handle : Handle} {ids : List InstrumentId}

/-! ## What a handle is got for -/

theorem bound?_of_single {wanted : Kind} {initial : Option Statistic}
    (hKind : ∀ s, initial = some s → s.kind = kind)
    (h : single wanted (r.obtain name kind level initial) = (r', .ok handle)) :
    r'.bound? name = some handle.targets := by
  obtain ⟨id, hObtain, rfl⟩ := single_ok h
  obtain ⟨hPlain, hRecord, -⟩ := obtain_serves hKind hObtain
  rw [bound?_of_plain hPlain, hRecord, Option.map_some]

/-- A group is bound to its name, which has markers. -/
theorem Grouped.bound? {g : Group} (hGrouped : Grouped r) (hGroup : r.groups.get? name = some g) :
    r.bound? name = some g.targets := by
  rw [bound?_of_marked (hGrouped hGroup).marked, hGroup, Option.map_some]

theorem bound?_of_metric {ancestors : List Level} (hGrouped : Grouped r)
    (h : r.metric now measure name level ancestors = (r', .ok handle)) :
    r'.bound? name = some handle.targets := by
  have hMoves := metric_moves r now measure name level ancestors
  rw [h] at hMoves
  have hGrouped' : Grouped r' := hGrouped.moves hMoves
  rw [metric] at h
  split at h
  · exact bound?_of_single (fun s hs => (blank_spec hs).1) h
  · rcases group_cases r now measure name (level :: ancestors) with
      ⟨r₁, failure, hRefused, -⟩ | ⟨g, hFound, hGroup, -⟩ | ⟨r₁, members, targets, hMade, -⟩
    · rw [hRefused] at h
      cases h
    · rw [hFound] at h
      cases h
      exact hGrouped.bound? hGroup
    · rw [hMade] at h
      cases h
      -- the group that was just entered is found under its name
      exact hGrouped'.bound? (NameMap.get?_insert_self _ _ _)

theorem bound?_of_find? {wanted : Kind} (hSound : Sound r) (hGrouped : Grouped r)
    (h : r.find? wanted name = .ok handle) : r.bound? name = some handle.targets := by
  rw [find?] at h
  split at h
  · next id hRecord =>
    have hBound : r.bound? name = some [id] := by
      rw [bound?_of_plain (hSound.plain hRecord), hRecord, Option.map_some]
    split at h
    · split at h
      · cases h
        exact hBound
      · cases h
    · cases h
  · split at h
    · next g hGroup =>
      split at h
      · cases h
        exact hGrouped.bound? hGroup
      · cases h
    · cases h

/-- Under each plain name behind a name that is bound, one of the instruments is registered that it
is bound to. -/
theorem record_of_bound {x : String} (hGrouped : Grouped r) (hBound : r.bound? x = some ids)
    (hMem : name ∈ Name.standsFor x) : ∃ id ∈ ids, r.records.get? name = some id := by
  cases hMarked : Name.isMarked x with
  | true =>
    rw [bound?_of_marked hMarked] at hBound
    obtain ⟨g, hGroup, rfl⟩ := Option.map_eq_some_iff.mp hBound
    have hIntact := hGrouped hGroup
    rw [hIntact.standsFor_eq] at hMem
    obtain ⟨n, hn, rfl⟩ := List.mem_iff_getElem.mp hMem
    have hTarget : n < g.targets.length := hIntact.served.length_eq ▸ hn
    have hServes := hIntact.served.get hn hTarget
    exact ⟨g.targets[n], List.getElem_mem hTarget, hServes.1⟩
  | false =>
    rw [bound?_of_plain hMarked] at hBound
    obtain ⟨id, hRecord, rfl⟩ := Option.map_eq_some_iff.mp hBound
    rw [Name.standsFor_of_plain hMarked] at hMem
    rw [List.mem_singleton.mp hMem]
    exact ⟨id, List.mem_cons_self, hRecord⟩

/-- No update that is told to a handle changes the statistic of an instrument. -/
def Spares (r : Registry) (handle : Handle) (i : Instrument) : Prop :=
  ∀ now up, (r.update now handle up).statistics.get? i.statistic = r.statistics.get? i.statistic

/-! ## Asking for what is there -/

/-- A metric whose name is bound already is not made. -/
theorem single_of_bound {wanted : Kind} {initial : Option Statistic}
    (hBound : r.bound? name = some ids)
    (h : single wanted (r.obtain name kind level initial) = (r', .ok handle)) : r' = r := by
  obtain ⟨id, hObtain, -⟩ := single_ok h
  rcases obtain_cases r name kind level initial with
    ⟨failure, hRefused⟩ | ⟨found, i, hFound, -⟩ | ⟨s, -, hPlain, hFree, -⟩
  · rw [hRefused] at hObtain
    cases hObtain
  · rw [hFound] at hObtain
    cases hObtain
    rfl
  · rw [bound?_of_plain hPlain, hFree] at hBound
    cases hBound

/-- A request for a metric whose name is bound already changes nothing. -/
theorem metric_of_bound {ancestors : List Level} (hGrouped : Grouped r)
    (hBound : r.bound? name = some ids)
    (h : r.metric now measure name level ancestors = (r', .ok handle)) : r' = r := by
  cases hMarked : Name.isMarked name with
  | true =>
    rw [bound?_of_marked hMarked] at hBound
    obtain ⟨g, hGroup, -⟩ := Option.map_eq_some_iff.mp hBound
    exact (metric_of_group hGrouped hGroup h).1
  | false =>
    rw [metric] at h
    split at h
    · exact single_of_bound hBound h
    · next hAncestors =>
      -- a plain name has one level only, so it is refused with levels for ancestors
      obtain ⟨members, hMembers, hLength, -⟩ := group_granted h
      have hSeveral : 1 < members.length := by
        rw [List.isEmpty_iff] at hAncestors
        have hPositive := List.length_pos_iff.mpr hAncestors
        rw [hLength, List.length_cons]
        omega
      rw [Name.isMarked_of_hierarchy hMembers hSeveral] at hMarked
      cases hMarked

end Registry

/-! ## Requests that are served -/

namespace Usage

variable {u : Usage} {now : Instant} {q : Request} {name : String} {handle : Handle}

/-- A request is served with a handle, which is got under a name. -/
def Gets (u : Usage) (now : Instant) (q : Request) (name : String) (handle : Handle) : Prop :=
  ∃ members, (u.perform now q).holdings = u.holdings ++ [⟨name, handle, members⟩]

theorem got_gets {ε : Type} {asked : String} {outcome : Registry × Except ε Handle}
    {members : List InstrumentId}
    (h : (u.got asked outcome).holdings = u.holdings ++ [⟨name, handle, members⟩]) :
    asked = name ∧ outcome = ((u.got asked outcome).registry, .ok handle) := by
  obtain ⟨r, result⟩ := outcome
  cases result with
  | error e =>
    have hSame : u.holdings = u.holdings ++ [⟨name, handle, members⟩] := h
    have hLength := congrArg List.length hSame
    rw [List.length_append, List.length_singleton] at hLength
    omega
  | ok got =>
    have hAdded : u.holdings ++ [⟨asked, got, r.registered asked⟩] =
        u.holdings ++ [⟨name, handle, members⟩] := h
    cases List.append_cancel_left hAdded
    exact ⟨rfl, rfl⟩

/-- Whoever gets a handle asked for a metric, for a gauge, or for what was there. -/
theorem Gets.cases (h : u.Gets now q name handle) :
    (∃ measure level ancestors, u.initial? now q = u.registry.blank now measure ∧
      u.registry.metric now measure name level ancestors =
        ((u.perform now q).registry, .ok handle)) ∨
    (∃ level initial, u.initial? now q = some initial ∧
      Registry.single .gauge (u.registry.addSource.1.obtain name initial.kind level (some initial)) =
        ((u.perform now q).registry, .ok handle)) ∨
    ((u.perform now q).registry = u.registry ∧ ∃ kind, u.registry.find? kind name = .ok handle) := by
  obtain ⟨members, h⟩ := h
  have hNothing : u.holdings ≠ u.holdings ++ [⟨name, handle, members⟩] := by
    intro hSame
    have hLength := congrArg List.length hSame
    rw [List.length_append, List.length_singleton] at hLength
    omega
  cases q with
  | metric measure asked level ancestors =>
    obtain ⟨rfl, hOutcome⟩ := got_gets h
    exact .inl ⟨measure, level, ancestors, rfl, hOutcome⟩
  | gauge asked level timeout supplier =>
    cases timeout with
    | none =>
      obtain ⟨rfl, hOutcome⟩ := got_gets h
      exact .inr (.inl ⟨level, _, rfl, hOutcome⟩)
    | some timeout =>
      obtain ⟨rfl, hOutcome⟩ := got_gets h
      exact .inr (.inl ⟨level, _, rfl, hOutcome⟩)
  | find kind asked =>
    obtain ⟨rfl, hOutcome⟩ := got_gets h
    refine .inr (.inr ⟨?_, kind, (Prod.mk.inj hOutcome).2⟩)
    rw [perform, registry_got]
  | remove | setEnabled | setRoot | setLevel | sample => exact absurd h hNothing
  | tell place up =>
    simp only [perform] at h
    split at h <;> exact absurd h hNothing
  | read place =>
    simp only [perform] at h
    split at h <;> exact absurd h hNothing

/-- A name is bound to what the handle reaches that is got under it. -/
theorem Gets.bound? (hValid : Valid u) (h : u.Gets now q name handle) :
    (u.perform now q).registry.bound? name = some handle.targets := by
  rcases h.cases with
    ⟨measure, level, ancestors, -, hOutcome⟩ | ⟨level, initial, -, hOutcome⟩ |
    ⟨hSame, kind, hFound⟩
  · exact Registry.bound?_of_metric hValid.grouped hOutcome
  · refine Registry.bound?_of_single (fun s hs => ?_) hOutcome
    rw [Option.some.inj hs]
  · rw [hSame]
    exact Registry.bound?_of_find? hValid.sound hValid.grouped hFound

/-- Whoever asks for a name that is bound already gets what it is bound to. Nothing changes in the
registry, except that a supplier may have been handed in that nothing asks. -/
theorem Gets.again {ids : List InstrumentId} (hValid : Valid u)
    (hBound : u.registry.bound? name = some ids) (h : u.Gets now q name handle) :
    handle.targets = ids ∧
      ((u.perform now q).registry = u.registry ∨
        (u.perform now q).registry = u.registry.addSource.1) := by
  have hAfter := h.bound? hValid
  have hNot : ∀ x, q ≠ .remove x := by
    rintro x rfl
    obtain ⟨members, hHoldings⟩ := h
    have hSame : u.holdings = u.holdings ++ [⟨name, handle, members⟩] := hHoldings
    have hLength := congrArg List.length hSame
    rw [List.length_append, List.length_singleton] at hLength
    omega
  rw [(keeps_perform u now hNot).bound? hBound] at hAfter
  refine ⟨(Option.some.inj hAfter).symm, ?_⟩
  rcases h.cases with
    ⟨measure, level, ancestors, -, hOutcome⟩ | ⟨level, initial, -, hOutcome⟩ | ⟨hSame, -⟩
  · exact .inl (Registry.metric_of_bound hValid.grouped hBound hOutcome)
  · have hStill : u.registry.addSource.1.bound? name = some ids := hBound
    exact .inr (Registry.single_of_bound hStill hOutcome)
  · exact .inl hSame

/-- What is made under a free name is new and has recorded nothing. -/
theorem fresh_perform {id : InstrumentId} (hFree : u.registry.has name = false)
    (hRecord : (u.perform now q).registry.records.get? name = some id) :
    u.registry.instrument? id = none ∧
      ∃ i s, (u.perform now q).registry.instrument? id = some i ∧ u.initial? now q = some s ∧
        s.Unused ∧ (u.perform now q).registry.statistics.get? i.statistic = some s := by
  rcases (begins_perform u now q).begun hRecord with hOld | ⟨hNone, i, s, hAt, hInitial, hStat⟩
  · rw [NameMap.contains_eq_false_iff.mp hFree] at hOld
    cases hOld
  · exact ⟨hNone, i, s, hAt, hInitial, unused_of_initial? hInitial, hStat⟩

/-- In every run that goes on from the making of an instrument, the handles that were got before do
not reach it, and those that are got from then on reach no older instrument of its name. -/
theorem apart_run {id : InstrumentId} {i : Instrument} (hValid : Valid u)
    (hFree : u.registry.has name = false) (hNone : u.registry.instrument? id = none)
    (hAt : (u.perform now q).registry.instrument? id = some i) (rest : List (Instant × Request)) :
    let w := (u.perform now q).run rest
    ∃ later, w.holdings = u.holdings ++ later ∧
      (∀ held ∈ u.holdings, w.registry.Spares held.handle i) ∧
      ∀ held ∈ later, ∀ old j, u.registry.instrument? old = some j → j.name = name →
        w.registry.Spares held.handle j := by
  intro w
  have hSound : w.registry.Sound := ((hValid.perform now q).run rest).sound
  obtain ⟨later, hLater, hNot⟩ := holdings_run hValid ((now, q) :: rest)
  refine ⟨later, hLater, ?_, ?_⟩
  · intro held hMem now' up
    obtain ⟨on, hOn⟩ := persists_run hAt rest
    refine Registry.get?_update_of_notMem hSound hOn ?_ now' up
    -- whatever the handle reaches was there when it was got
    intro hReached
    obtain ⟨j, hj⟩ := (hValid.held held hMem).made_of_mem hReached
    rw [hNone] at hj
    cases hj
  · intro held hMem old j hOld hName now' up
    have hRetired : u.registry.Retired old := hValid.sound.retired hFree hOld hName
    obtain ⟨on, hOn⟩ := persists_run hOld ((now, q) :: rest)
    exact Registry.get?_update_of_notMem hSound hOn (hNot held hMem old hRetired) now' up

/-- After every run, whoever gets a handle under a name, and whoever gets one under this name
later, without a removal of any of the plain names behind it in between, have the same instruments,
whatever else was asked for in the meantime; the later request changes nothing, but for a supplier
that it may hand in and that nothing asks. A removal frees all plain names behind a name. What is
registered next under a plain name that is free is an instrument that was not there before and has
recorded nothing, whose count is zero and which keeps no values, and it is what those get who ask
for it. However the run goes on, no update through a handle that was there before reaches it, and
none through a handle that is got from then on reaches an older instrument of its name. -/
theorem instruments_identified_run (levels : LevelMap) (window : Window) (on : Bool)
    (steps : List (Instant × Request)) :
    let u := (start levels window on).run steps
    -- the same instruments as long as the name is not removed
    (∀ now q name handle, u.Gets now q name handle →
      ∀ rest, (∀ step ∈ rest, ¬ step.2.Removes name) →
        let w := (u.perform now q).run rest
        ∀ now' q' handle', w.Gets now' q' name handle' →
          handle'.targets = handle.targets ∧
          ∃ unasked, (w.perform now' q').registry =
            { w.registry with
              statistics := { w.registry.statistics with
                asked := w.registry.statistics.asked ++ unasked } }) ∧
    -- removals
    (∀ now x, ∀ name ∈ Name.standsFor x,
      (u.perform now (.remove x)).registry.has name = false) ∧
    -- what is made under a free name
    ∀ now q name id, u.registry.has name = false →
      (u.perform now q).registry.records.get? name = some id →
        (∀ x handle, u.Gets now q x handle → name ∈ Name.standsFor x → id ∈ handle.targets) ∧
        u.registry.instrument? id = none ∧
        ∃ i s, (u.perform now q).registry.instrument? id = some i ∧ u.initial? now q = some s ∧
          s.count = 0 ∧ s.Unused ∧
          (u.perform now q).registry.statistics.get? i.statistic = some s ∧
          ∀ rest, let w := (u.perform now q).run rest
            ∃ later, w.holdings = u.holdings ++ later ∧
              (∀ held ∈ u.holdings, w.registry.Spares held.handle i) ∧
              ∀ held ∈ later, ∀ old j, u.registry.instrument? old = some j → j.name = name →
                w.registry.Spares held.handle j := by
  intro u
  have hValid : Valid u := valid_run levels window on steps
  refine ⟨?_, ?_, ?_⟩
  · intro now q name handle hGets rest hNot w now' q' handle' hAgain
    have hAfter : Valid (u.perform now q) := hValid.perform now q
    have hBound : w.registry.bound? name = some handle.targets :=
      bound?_run hAfter hNot (hGets.bound? hValid)
    obtain ⟨hSame, hNothing⟩ := hAgain.again (hAfter.run rest) hBound
    refine ⟨hSame, ?_⟩
    rcases hNothing with hKept | hSource
    · exact ⟨[], by rw [hKept, List.append_nil]⟩
    · exact ⟨[0], hSource⟩
  · intro now x name hMem
    exact Registry.has_remove_of_mem hMem u.registry
  · intro now q name id hFree hRecord
    obtain ⟨hNone, i, s, hAt, hInitial, hUnused, hStat⟩ := fresh_perform hFree hRecord
    refine ⟨?_, hNone, i, s, hAt, hInitial, hUnused.count_eq, hUnused, hStat,
      apart_run hValid hFree hNone hAt⟩
    intro x handle hGets hMem
    have hBound := hGets.bound? hValid
    obtain ⟨other, hTarget, hOther⟩ :=
      Registry.record_of_bound (hValid.perform now q).grouped hBound hMem
    rw [hRecord] at hOther
    rw [Option.some.inj hOther]
    exact hTarget

/-- A group is had again after other requests, also one that removes another metric. A metric of its
that was removed is made anew. -/
theorem instruments_identified_of_group :
    let asked : Request := .metric .counter "a[+].b.c" .debug [.debug]
    let u := (start default (.values 8) true).run [(0, .metric .counter "a[+].b.c" .info [.info])]
    let w := (u.perform 1 (.find .counter "a[+].b.c")).run [(2, .setEnabled false), (3, .remove "c")]
    let v := u.perform 1 (.remove "a.b.c")
    let anew := v.perform 2 (.metric .counter "a.b.c" .info [])
    (∃ unasked, (w.perform 4 asked).registry =
      { w.registry with
        statistics := { w.registry.statistics with
          asked := w.registry.statistics.asked ++ unasked } }) ∧
    v.registry.instrument? 2 = none ∧
    ∃ i s, anew.registry.instrument? 2 = some i ∧
      anew.registry.statistics.get? i.statistic = some s ∧ s.count = 0 ∧ s.Unused := by
  intro asked u w v anew
  have hSame := (instruments_identified_run default (.values 8) true
    [(0, .metric .counter "a[+].b.c" .info [.info])]).1
  have hAnew := (instruments_identified_run default (.values 8) true
    [(0, .metric .counter "a[+].b.c" .info [.info]), (1, .remove "a.b.c")]).2.2
  have hApart : ∀ step ∈ [((2 : Instant), Request.setEnabled false), (3, .remove "c")],
      ¬ step.2.Removes "a[+].b.c" := by
    intro step hMem hRemoves
    obtain ⟨x, hx, member, hIn, hRemoved⟩ := hRemoves
    simp only [List.mem_cons, List.not_mem_nil, or_false] at hMem
    rcases hMem with rfl | rfl
    · cases hx
    · cases hx
      -- the metric that is removed is none of the two behind the group
      have hAll : ∀ member ∈ Name.standsFor "a[+].b.c", member ∉ Name.standsFor "c" := by decide
      exact hAll member hIn hRemoved
  refine ⟨?_, ?_⟩
  · exact (hSame 1 (.find .counter "a[+].b.c") "a[+].b.c" ⟨.counter, [0, 1]⟩ ⟨[0, 1], rfl⟩ _ hApart
      4 asked ⟨.counter, [0, 1]⟩ ⟨[0, 1], rfl⟩).2
  · obtain ⟨-, hNone, i, s, hAt, -, hCount, hUnused, hStat, -⟩ :=
      hAnew 2 (.metric .counter "a.b.c" .info []) "a.b.c" 2 rfl rfl
    exact ⟨hNone, i, s, hAt, hStat, hCount, hUnused⟩

end Usage

end Metering
