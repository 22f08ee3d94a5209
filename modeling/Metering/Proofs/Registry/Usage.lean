import Metering.Proofs.Registry.Recording

/-!
# Metering — registries in use

A run is a list of requests, each at an instant of its own, to a registry that begins without
metrics. Who asks for a metric and gets it holds its handle from then on, and may use it for ever,
whatever happens to the metric.

* `Request` — what one may ask, in any order and as often as one likes;
* `Usage` — a registry with the handles that were got from it, and `Usage.run`;
* `Holding` — a handle with what it is known for: its name and the instruments behind it;
* `Usage.Valid` — the invariant of all runs (`valid_run`): the registry is sound, its groups are
  intact, and each handle reaches the instruments behind its name, each once;
* `after_keeps` — what no elementary change breaks holds after every run.
-/

namespace Metering

/-! ## Runs -/

/-- What one may ask of a registry. Handles are named by their places in the order in which they
were got. -/
inductive Request where
  | metric (measure : Measure) (name : String) (level : Level) (ancestors : List Level)
  /-- A gauge, cached for some time or not. -/
  | gauge (name : String) (level : Level) (timeout : Option Duration) (supplier : Supplier)
  | find (kind : Kind) (name : String)
  | remove (name : String)
  | setEnabled (on : Bool)
  | setRoot (level : Level)
  | setLevel (name : String) (level : Level)
  | tell (place : Nat) (u : Update)
  | read (place : Nat)
  | sample (accepts : String → Bool)

/-- A handle, the name it was got for, and the instruments that were registered at that moment
under the plain names which this name stands for. -/
structure Holding where
  name : String
  handle : Handle
  members : List InstrumentId

/-- A registry and the handles that were got from it, in their order. -/
structure Usage where
  registry : Registry
  holdings : List Holding

/-- The instruments that are registered under the plain names which a name stands for. -/
def Registry.registered (r : Registry) (name : String) : List InstrumentId :=
  (Name.standsFor name).filterMap r.records.get?

namespace Usage

/-- A registry without metrics, from which nothing was got. -/
def start (levels : LevelMap) (window : Window) (on : Bool) : Usage := ⟨.new levels window on, []⟩

/-- The usage with a changed registry. -/
def onRegistry (u : Usage) (r : Registry) : Usage := { u with registry := r }

/-- The usage after a handle was asked for under a name. -/
def got {ε : Type} (u : Usage) (name : String) : Registry × Except ε Handle → Usage
  | (r, .ok h) => ⟨r, u.holdings ++ [⟨name, h, r.registered name⟩]⟩
  | (r, .error _) => u.onRegistry r

/-- The handle to which an update may be told: one that was got, and that is for this update. -/
def taker? (u : Usage) (place : Nat) (up : Update) : Option Holding :=
  u.holdings[place]?.filter fun held => held.handle.kind = up.measure.kind

/-- The usage after a request. -/
def perform (u : Usage) (now : Instant) : Request → Usage
  | .metric measure name level ancestors =>
    u.got name (u.registry.metric now measure name level ancestors)
  | .gauge name level none supplier =>
    u.got name (u.registry.addSource.1.gauge name level supplier u.registry.addSource.2)
  | .gauge name level (some timeout) supplier =>
    u.got name
      (u.registry.addSource.1.cachedGauge name level timeout supplier u.registry.addSource.2)
  | .find kind name => u.got name (u.registry, u.registry.find? kind name)
  | .remove name => u.onRegistry (u.registry.remove name).1
  | .setEnabled on => u.onRegistry (u.registry.setEnabled on).1
  | .setRoot level => u.onRegistry (u.registry.setRoot level).1
  | .setLevel name level => u.onRegistry (u.registry.setLevel name level).1
  | .tell place up =>
    match u.taker? place up with
    | some held => u.onRegistry (u.registry.update now held.handle up)
    | none => u
  | .read place =>
    match u.holdings[place]? with
    | some held => u.onRegistry (u.registry.reading now held.handle).1
    | none => u
  | .sample accepts => u.onRegistry (u.registry.samples now accepts).1

/-- The usage after some requests. -/
def run (u : Usage) (steps : List (Instant × Request)) : Usage :=
  steps.foldl (fun u step => u.perform step.1 step.2) u

/-- The registry after some requests to one that began without metrics. -/
def after (levels : LevelMap) (window : Window) (on : Bool) (steps : List (Instant × Request)) :
    Registry := ((start levels window on).run steps).registry

end Usage

/-! ## What a handle reaches -/

/-- The instrument at a place was made under a name and is of a kind that serves as another. -/
def Registry.IsFor (r : Registry) (wanted : Kind) (name : String) (id : InstrumentId) : Prop :=
  ∃ i, r.instrument? id = some i ∧ i.name = name ∧ i.kind.servesAs wanted = true

/-- A handle reaches the instruments behind its name in the order of the names, each once. -/
structure Holding.Reaches (held : Holding) (r : Registry) : Prop where
  targets : held.handle.targets = held.members
  apart : held.members.Nodup
  ne_nil : held.members ≠ []
  named : List.Forall₂ (r.IsFor held.handle.kind) (Name.standsFor held.name) held.members

/-- Only gauges serve as something else. -/
theorem Measure.kind_eq_of_servesAs {measure : Measure} {found : Kind}
    (h : found.servesAs measure.kind = true) : measure.kind = found := by
  rw [Kind.servesAs, Bool.or_eq_true, Bool.and_eq_true, decide_eq_true_eq] at h
  rcases h with hSame | ⟨-, hGauge⟩
  · exact hSame.symm
  · cases measure <;> cases of_decide_eq_true hGauge

namespace Holding.Reaches

variable {held : Holding} {r : Registry}

/-- Whatever a handle for a measure reaches takes this measure. -/
theorem kind_of_mem (h : held.Reaches r) {measure : Measure}
    (hKind : held.handle.kind = measure.kind) {id : InstrumentId} {i : Instrument}
    (hMem : id ∈ held.members) (hAt : r.instrument? id = some i) : measure.kind = i.kind := by
  obtain ⟨n, hn, rfl⟩ := List.mem_iff_getElem.mp hMem
  have hNamed : n < (Name.standsFor held.name).length := by
    rw [h.named.length_eq]
    exact hn
  obtain ⟨j, hj, -, hServes⟩ := h.named.get hNamed hn
  rw [List.get_eq_getElem] at hj
  rw [hAt] at hj
  rw [hKind, ← Option.some.inj hj] at hServes
  exact Measure.kind_eq_of_servesAs hServes

/-- A handle reads the first instrument that it reaches, which is that of the first name. -/
theorem primary (h : held.Reaches r) : ∃ primary i,
    held.members.head? = some primary ∧ r.instrument? primary = some i ∧
      (Name.standsFor held.name).head? = some i.name ∧
      r.statId? held.handle = some i.statistic := by
  have hNamed := h.named
  rw [Registry.statId?, h.targets]
  cases hMembers : held.members with
  | nil => exact absurd hMembers h.ne_nil
  | cons first rest =>
    rw [hMembers] at hNamed
    obtain ⟨name, names, ⟨i, hAt, hName, -⟩, -, hNames⟩ := List.forall₂_cons_right_iff.mp hNamed
    refine ⟨first, i, List.head?_cons, hAt, ?_, ?_⟩
    · rw [hNames, List.head?_cons, hName]
    · rw [List.head?_cons, Option.bind_some, hAt, Option.map_some]

end Holding.Reaches

namespace Registry

variable {r r' : Registry} {name : String} {kind : Kind} {handle : Handle}

theorem registered_of_serves {names : List String} {ids : List InstrumentId}
    (h : List.Forall₂ (r.Serves kind) names ids) : names.filterMap r.records.get? = ids := by
  induction h with
  | nil => rfl
  | cons hServes _ ih => rw [List.filterMap_cons_some hServes.1, ih]

/-- Different names have different instruments. -/
theorem nodup_of_serves (hSound : Sound r) {names : List String} {ids : List InstrumentId}
    (h : List.Forall₂ (r.Serves kind) names ids) (hNames : names.Nodup) : ids.Nodup := by
  induction h with
  | nil => exact List.nodup_nil
  | cons hServes hRest ih =>
    obtain ⟨hNotIn, hNamesRest⟩ := List.nodup_cons.mp hNames
    refine List.nodup_cons.mpr ⟨fun hMem => hNotIn ?_, ih hNamesRest⟩
    rw [← registered_of_serves hRest, List.mem_filterMap] at hMem
    obtain ⟨other, hOther, hRecord⟩ := hMem
    rw [← hSound.name_unique hServes.1 hRecord]
    exact hOther

/-- Who serves under a name now is reached by whoever gets a handle for that name. -/
theorem reaches_of_serves (hSound : Sound r) (hKind : kind.servesAs handle.kind = true)
    (hNames : Name.standsFor name ≠ [])
    (h : List.Forall₂ (r.Serves kind) (Name.standsFor name) handle.targets) :
    Holding.Reaches ⟨name, handle, r.registered name⟩ r := by
  have hMembers : r.registered name = handle.targets := registered_of_serves h
  have hNodup := nodup_of_serves hSound h (Name.standsFor_nodup name)
  refine ⟨hMembers.symm, hMembers ▸ hNodup, ?_, ?_⟩
  · intro hNil
    have hNone : r.registered name = [] := hNil
    have hLength := h.length_eq
    rw [← hMembers, hNone] at hLength
    exact hNames (List.length_eq_zero_iff.mp hLength)
  · show List.Forall₂ (r.IsFor handle.kind) _ (r.registered name)
    rw [hMembers]
    refine h.imp fun member id hServes => ?_
    obtain ⟨hRecord, i, hAt, hIs⟩ := hServes
    exact ⟨i, hAt, hSound.name_eq hRecord hAt, hIs ▸ hKind⟩

/-- What a handle reaches it reaches for ever: instruments keep their names and kinds. -/
theorem reaches_persists {held : Holding} (h : held.Reaches r)
    (hMoves : Moves r r') : held.Reaches r' := by
  refine ⟨h.targets, h.apart, h.ne_nil, h.named.imp fun name id hFor => ?_⟩
  obtain ⟨i, hAt, hName, hKind⟩ := hFor
  obtain ⟨on, hOn⟩ := hMoves.persists hAt
  exact ⟨_, hOn, hName, hKind⟩

/-! ## Getting a handle -/

theorem single_ok {outcome : Registry × Except Failure InstrumentId}
    (h : single kind outcome = (r', .ok handle)) :
    ∃ id, outcome = (r', .ok id) ∧ handle = ⟨kind, [id]⟩ := by
  obtain ⟨r, result⟩ := outcome
  cases result with
  | error failure => cases h
  | ok id =>
    cases h
    exact ⟨id, rfl, rfl⟩

/-- Who gets a single metric under a plain name reaches it. -/
theorem reaches_of_single {level : Level} {wanted : Kind} {initial : Option Statistic}
    (hSound : Sound r') (hKind : kind.servesAs wanted = true)
    (hInitial : ∀ s, initial = some s → s.kind = kind)
    (h : single wanted (r.obtain name kind level initial) = (r', .ok handle)) :
    Holding.Reaches ⟨name, handle, r'.registered name⟩ r' := by
  obtain ⟨id, hObtain, rfl⟩ := single_ok h
  obtain ⟨hPlain, hServes⟩ := obtain_serves hInitial hObtain
  have hNames := Name.standsFor_of_plain hPlain
  refine reaches_of_serves hSound hKind (by rw [hNames]; exact List.cons_ne_nil _ _) ?_
  rw [hNames]
  exact .cons hServes .nil

/-- Who gets a group under its name reaches all its members. -/
theorem reaches_of_group {g : Group} {wanted : Kind} (hSound : Sound r)
    (hIntact : g.IntactIn r name) (hKind : g.measure.kind = wanted) :
    Holding.Reaches ⟨name, ⟨wanted, g.targets⟩, r.registered name⟩ r := by
  have hNames := hIntact.standsFor_eq
  have hServed : List.Forall₂ (r.Serves g.measure.kind) (Name.standsFor name) g.targets := by
    rw [hNames]
    exact hIntact.served
  refine reaches_of_serves hSound ?_ ?_ hServed
  · rw [hKind]
    simp [Kind.servesAs]
  · rw [hNames]
    exact Name.hierarchy_ne_nil hIntact.expanded

theorem reaches_of_metric {now : Instant} {measure : Measure} {level : Level}
    {ancestors : List Level} (hSound : Sound r) (hGrouped : Grouped r)
    (h : r.metric now measure name level ancestors = (r', .ok handle)) :
    Holding.Reaches ⟨name, handle, r'.registered name⟩ r' := by
  have hMoves := metric_moves r now measure name level ancestors
  rw [h] at hMoves
  have hSound' : Sound r' := hSound.moves hMoves
  have hGrouped' : Grouped r' := hGrouped.moves hMoves
  rw [metric] at h
  split at h
  · refine reaches_of_single hSound' ?_ (fun s hs => (blank_spec hs).1) h
    simp [Kind.servesAs]
  · rcases group_cases r now measure name (level :: ancestors) with
      ⟨r₁, failure, hRefused, -⟩ | ⟨g, hFound, hGroup, hMeasure⟩ |
      ⟨r₁, members, targets, hMade, -⟩
    · rw [hRefused] at h
      cases h
    · rw [hFound] at h
      cases h
      exact reaches_of_group hSound (hGrouped hGroup) (by rw [hMeasure])
    · rw [hMade] at h
      cases h
      -- the group that was just entered is found under its name
      have hIntact : Group.IntactIn ⟨measure, members, targets⟩ _ name :=
        hGrouped' (NameMap.get?_insert_self _ _ _)
      exact reaches_of_group hSound' hIntact rfl

theorem reaches_of_find? {wanted : Kind} (hSound : Sound r) (hGrouped : Grouped r)
    (h : r.find? wanted name = .ok handle) :
    Holding.Reaches ⟨name, handle, r.registered name⟩ r := by
  rw [find?] at h
  split at h
  · next id hRecord =>
    split at h
    · next i hAt =>
      split at h
      · next hKind =>
        cases h
        have hNames := Name.standsFor_of_plain (hSound.plain hRecord)
        refine reaches_of_serves hSound hKind (by rw [hNames]; exact List.cons_ne_nil _ _) ?_
        rw [hNames]
        exact .cons ⟨hRecord, i, hAt, rfl⟩ .nil
      · cases h
    · cases h
  · split at h
    · next g hGroup =>
      split at h
      · next hKind =>
        cases h
        exact reaches_of_group hSound (hGrouped hGroup) hKind
      · cases h
    · cases h

end Registry

/-! ## The invariant of all runs -/

/-- The registry is sound, its groups are intact, and every handle that was got from it reaches
the instruments behind its name. -/
structure Usage.Valid (u : Usage) : Prop where
  sound : u.registry.Sound
  grouped : u.registry.Grouped
  held : ∀ held ∈ u.holdings, held.Reaches u.registry

namespace Usage

variable {u : Usage} {r : Registry} {name : String}

theorem valid_start (levels : LevelMap) (window : Window) (on : Bool) :
    Valid (start levels window on) :=
  ⟨Registry.sound_new levels window on, Registry.grouped_new levels window on,
    fun held hMem => by cases hMem⟩

theorem registry_got {ε : Type} (u : Usage) (name : String)
    (outcome : Registry × Except ε Handle) : (u.got name outcome).registry = outcome.1 := by
  obtain ⟨r, result⟩ := outcome
  cases result <;> rfl

/-- What one holds after asking for a handle is what one held before, and the handle if it was
got. -/
theorem mem_holdings_got {ε : Type} {outcome : Registry × Except ε Handle} {held : Holding}
    (h : held ∈ (u.got name outcome).holdings) :
    held ∈ u.holdings ∨ ∃ handle, outcome = (outcome.1, .ok handle) ∧
      held = ⟨name, handle, outcome.1.registered name⟩ := by
  obtain ⟨r, result⟩ := outcome
  cases result with
  | error e => exact .inl h
  | ok handle =>
    rcases List.mem_append.mp h with hOld | hNew
    · exact .inl hOld
    · exact .inr ⟨handle, rfl, List.mem_singleton.mp hNew⟩

theorem taker?_eq_some {place : Nat} {up : Update} {held : Holding}
    (h : u.taker? place up = some held) :
    held ∈ u.holdings ∧ held.handle.kind = up.measure.kind := by
  obtain ⟨hAt, hKind⟩ := Option.filter_eq_some_iff.mp h
  exact ⟨List.mem_of_getElem? hAt, of_decide_eq_true hKind⟩

theorem perform_tell_some {place : Nat} {up : Update} {held : Holding}
    (h : u.taker? place up = some held) (now : Instant) :
    u.perform now (.tell place up) = u.onRegistry (u.registry.update now held.handle up) := by
  simp only [perform, h]

theorem perform_tell_none {place : Nat} {up : Update} (h : u.taker? place up = none)
    (now : Instant) : u.perform now (.tell place up) = u := by
  simp only [perform, h]

/-- All requests but updates change the registry by elementary changes. -/
theorem moves_perform (u : Usage) (now : Instant) {q : Request}
    (hNot : ∀ place up, q ≠ .tell place up) :
    Registry.Moves u.registry (u.perform now q).registry := by
  have hSource := Registry.addSource_moves u.registry
  cases q with
  | metric measure name level ancestors =>
    rw [perform, registry_got]
    exact Registry.metric_moves u.registry now measure name level ancestors
  | gauge name level timeout supplier =>
    cases timeout with
    | none =>
      rw [perform, registry_got]
      exact hSource.trans (Registry.gauge_moves _ name level supplier _)
    | some timeout =>
      rw [perform, registry_got]
      exact hSource.trans (Registry.cachedGauge_moves _ name level timeout supplier _)
  | find kind name => rw [perform, registry_got]
  | remove name => exact Registry.remove_moves u.registry name
  | setEnabled on => exact Registry.setEnabled_moves u.registry on
  | setRoot level => exact Registry.setRoot_moves u.registry level
  | setLevel name level => exact Registry.setLevel_moves u.registry name level
  | tell place up => exact absurd rfl (hNot place up)
  | read place =>
    simp only [perform]
    split
    · next held _ => exact Registry.reading_moves u.registry now held.handle
    · exact .refl
  | sample accepts => exact Registry.samples_moves u.registry now accepts

/-- A request changes the registry by elementary changes, or it is an update. -/
theorem registry_perform (u : Usage) (now : Instant) (q : Request) :
    Registry.Moves u.registry (u.perform now q).registry ∨
      ∃ handle up, (u.perform now q).registry = u.registry.update now handle up := by
  by_cases hTell : ∃ place up, q = .tell place up
  · obtain ⟨place, up, rfl⟩ := hTell
    cases hTaker : u.taker? place up with
    | none =>
      -- there is no such handle, or it is for something else
      rw [perform_tell_none hTaker]
      exact .inl .refl
    | some held =>
      rw [perform_tell_some hTaker]
      exact .inr ⟨held.handle, up, rfl⟩
  · exact .inl (moves_perform u now fun place up hEq => hTell ⟨place, up, hEq⟩)

/-- Whoever gets a handle by a request reaches the instruments behind its name. -/
theorem Valid.mem_holdings_perform (h : Valid u) {now : Instant} {q : Request} {held : Holding}
    (hSound : (u.perform now q).registry.Sound) (hMem : held ∈ (u.perform now q).holdings) :
    held ∈ u.holdings ∨ held.Reaches (u.perform now q).registry := by
  cases q with
  | metric measure name level ancestors =>
    rw [perform, registry_got]
    refine (mem_holdings_got hMem).imp_right ?_
    rintro ⟨handle, hOk, rfl⟩
    exact Registry.reaches_of_metric h.sound h.grouped hOk
  | gauge name level timeout supplier =>
    cases timeout with
    | none =>
      rw [perform, registry_got] at hSound ⊢
      refine (mem_holdings_got hMem).imp_right ?_
      rintro ⟨handle, hOk, rfl⟩
      refine Registry.reaches_of_single hSound rfl (fun s hs => ?_) hOk
      rw [← Option.some.inj hs]
      rfl
    | some timeout =>
      rw [perform, registry_got] at hSound ⊢
      refine (mem_holdings_got hMem).imp_right ?_
      rintro ⟨handle, hOk, rfl⟩
      refine Registry.reaches_of_single hSound rfl (fun s hs => ?_) hOk
      rw [← Option.some.inj hs]
      rfl
  | find kind name =>
    rw [perform, registry_got]
    refine (mem_holdings_got hMem).imp_right ?_
    rintro ⟨handle, hOk, rfl⟩
    exact Registry.reaches_of_find? h.sound h.grouped (Prod.mk.inj hOk).2
  | remove | setEnabled | setRoot | setLevel | sample => exact .inl hMem
  | tell place up =>
    simp only [perform] at hMem
    split at hMem <;> exact .inl hMem
  | read place =>
    simp only [perform] at hMem
    split at hMem <;> exact .inl hMem

/-- Every request keeps a usage valid. -/
theorem Valid.perform (h : Valid u) (now : Instant) (q : Request) : Valid (u.perform now q) := by
  have hKept : (u.perform now q).registry.Sound ∧ (u.perform now q).registry.Grouped ∧
      ∀ held ∈ u.holdings, held.Reaches (u.perform now q).registry := by
    rcases registry_perform u now q with hMoves | ⟨handle, up, hUpdate⟩
    · exact ⟨h.sound.moves hMoves, h.grouped.moves hMoves,
        fun held hMem => Registry.reaches_persists (h.held held hMem) hMoves⟩
    · rw [hUpdate]
      refine ⟨h.sound.update now handle up, h.grouped.update now handle up, ?_⟩
      intro held hMem
      have hHeld := h.held held hMem
      rw [Registry.update_eq]
      exact ⟨hHeld.targets, hHeld.apart, hHeld.ne_nil, hHeld.named⟩
  obtain ⟨hSound, hGrouped, hHeld⟩ := hKept
  refine ⟨hSound, hGrouped, fun held hMem => ?_⟩
  rcases h.mem_holdings_perform hSound hMem with hOld | hNew
  · exact hHeld held hOld
  · exact hNew

theorem Valid.run (h : Valid u) (steps : List (Instant × Request)) : Valid (u.run steps) := by
  induction steps generalizing u with
  | nil => exact h
  | cons step rest ih => exact ih (h.perform step.1 step.2)

/-- Every run keeps the invariant. -/
theorem valid_run (levels : LevelMap) (window : Window) (on : Bool)
    (steps : List (Instant × Request)) : Valid ((start levels window on).run steps) :=
  (valid_start levels window on).run steps

/-- A property of sound registries that no move breaks, and that does not depend on what was
recorded, holds after every run if it holds without metrics. -/
theorem after_keeps {P : Registry → Prop} (levels : LevelMap) (window : Window) (on : Bool)
    (hMove : ∀ {r r'}, Registry.Move r r' → r.Sound → P r → P r')
    (hUpdates : ∀ {r : Registry} (statistics : Statistics), P r →
      P { r with statistics := statistics })
    (hNew : P (.new levels window on)) (steps : List (Instant × Request)) :
    P (after levels window on steps) := by
  -- by induction on the requests, from any valid usage
  suffices hRun : ∀ u : Usage, u.Valid → P u.registry → P (u.run steps).registry from
    hRun _ (valid_start levels window on) hNew
  induction steps with
  | nil => exact fun u _ hP => hP
  | cons step rest ih =>
    intro u hValid hP
    refine ih _ (hValid.perform step.1 step.2) ?_
    rcases registry_perform u step.1 step.2 with hMoves | ⟨handle, up, hUpdate⟩
    · -- the registry stays sound along the moves of one request
      have hBoth : (u.perform step.1 step.2).registry.Sound ∧
          P (u.perform step.1 step.2).registry :=
        hMoves.keep (P := fun r => r.Sound ∧ P r)
          (fun hOne hPair => ⟨hPair.1.move hOne, hMove hOne hPair.1 hPair.2⟩)
          ⟨hValid.sound, hP⟩
      exact hBoth.2
    · rw [hUpdate, Registry.update_eq]
      exact hUpdates _ hP

end Usage

end Metering
