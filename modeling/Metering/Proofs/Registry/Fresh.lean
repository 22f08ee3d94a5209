import Metering.Proofs.Registry.Binding

/-!
# Metering — new instruments and old ones

A metric that is made gets an instrument and a statistic that nothing had before. What was made
once is never made again: an instrument whose metric was removed is not registered any more,
whatever else happens, and updates that do not reach an instrument leave its statistic alone.

* `get?_update_of_notMem` — an update changes no statistic but those of the instruments it reaches;
* `Retired` — an instrument that was made and is registered under no name, which stays so;
* `Statistic.Unused` — a statistic shows nothing recorded: nothing counted, and nothing kept;
* `Begins` — whatever a registry has registered anew is new, with the statistic it was to begin with;
* `holdings_run` — no handle that is got reaches what was registered no more before.
-/

namespace Metering

/-! ## Statistics that nothing was told -/

/-- No events are counted, none are pending, and no interval was folded into the averages. -/
def Meter.Unused (m : Meter (Averages Float)) : Prop :=
  m.count = 0 ∧ m.pending = 0 ∧ m.folded = .start

/-- No values are counted, and none are kept. -/
def Histogram.Unused (h : Histogram) : Prop := h.count = 0 ∧ h.reservoir.kept = []

/-- Nothing was recorded. A gauge records nothing at any time, and one with a cache remembers no
answer. -/
def Statistic.Unused : Statistic → Prop
  | counter count => count = 0
  | meter m => m.Unused
  | histogram h => h.Unused
  | timer t => t.meter.Unused ∧ t.histogram.Unused
  | gauge .. => True
  | cachedGauge g .. => g.cache = none

theorem Statistic.Unused.count_eq {s : Statistic} (h : s.Unused) : s.count = 0 := by
  cases s with
  | counter n =>
    cases (h : n = 0)
    rfl
  | meter m =>
    rw [count, h.1]
    rfl
  | histogram histogram =>
    rw [count, h.1]
    rfl
  | timer t =>
    rw [count, Timer.count, h.2.1]
    rfl
  | gauge | cachedGauge => rfl

namespace Registry

variable {r r' : Registry} {id other : InstrumentId} {i j : Instrument} {name : String}
  {initial : Option Statistic} {now : Instant}

/-- What a request begins a metric with. -/
theorem unused_of_blank {measure : Measure} {s : Statistic} (h : r.blank now measure = some s) :
    s.Unused := by
  cases measure with
  | counter =>
    cases h
    rfl
  | meter =>
    cases h
    exact ⟨rfl, rfl, rfl⟩
  | histogram =>
    obtain ⟨-, ⟨⟩⟩ := Option.ite_none_right_eq_some.mp h
    exact ⟨rfl, rfl⟩
  | timer =>
    obtain ⟨-, ⟨⟩⟩ := Option.ite_none_right_eq_some.mp h
    exact ⟨⟨rfl, rfl, rfl⟩, rfl, rfl⟩

/-! ## What an update leaves alone -/

/-- What is told to one instrument changes no statistic of another. -/
theorem get?_record_of_ne (hSound : Sound r) (hAt : r.instrument? other = some j)
    (hne : id ≠ other) (now : Instant) (u : Update) :
    (r.record now u id).statistics.get? j.statistic = r.statistics.get? j.statistic := by
  unfold record
  split
  · next i hi =>
    split
    · split
      · have hPlace : j.statistic ≠ i.statistic := fun hSame =>
          hne (hSound.apart hi hAt hSame.symm)
        show (r.statistics.set i.statistic _).get? j.statistic = _
        rw [Statistics.get?_set, if_neg hPlace]
      · rfl
    · rfl
  · rfl

/-- An update changes no statistic but those of the instruments it reaches. -/
theorem get?_update_of_notMem {handle : Handle} (hSound : Sound r)
    (hAt : r.instrument? id = some i) (hNot : id ∉ handle.targets) (now : Instant) (u : Update) :
    (r.update now handle u).statistics.get? i.statistic = r.statistics.get? i.statistic := by
  obtain ⟨kind, targets⟩ := handle
  rw [update_eq_foldl]
  -- by induction on the instruments that are told one after the other
  show (targets.foldl (record now u) r).statistics.get? i.statistic = _
  induction targets generalizing r with
  | nil => rfl
  | cons first rest ih =>
    have hNot : id ∉ first :: rest := hNot
    rw [List.mem_cons, not_or] at hNot
    have hStill : (r.record now u first).instrument? id = some i := by
      rw [instrument?_record, hAt]
    rw [List.foldl_cons, ih (hSound.record now u first) hStill hNot.2,
      get?_record_of_ne hSound hAt (Ne.symm hNot.1)]

/-! ## Instruments that are registered no more -/

/-- An instrument was made, and it is registered under no name. -/
structure Retired (r : Registry) (id : InstrumentId) : Prop where
  made : ∃ i, r.instrument? id = some i
  unnamed : ∀ name, r.records.get? name ≠ some id

/-- Only new instruments are ever registered. -/
theorem Retired.move (hMove : Move r r') (h : Retired r id) : Retired r' id := by
  obtain ⟨i, hAt⟩ := h.made
  obtain ⟨on, hOn⟩ := hMove.persists hAt
  refine ⟨⟨_, hOn⟩, ?_⟩
  cases hMove with
  | made name level initial _ _ _ =>
    intro other hRecord
    rw [records_make, NameMap.get?_insert] at hRecord
    split at hRecord
    · -- the newcomer takes a place that no instrument had before
      have hLate : r.instruments.length = id := Option.some.inj hRecord
      have hEarly : id < r.instruments.length := lt_length_of_instrument? hAt
      exact absurd hLate (Nat.ne_of_gt hEarly)
    · exact h.unnamed other hRecord
  | removed name =>
    intro other hRecord
    have hErased : (r.records.erase name).get? other = some id := hRecord
    rw [NameMap.get?_erase] at hErased
    split at hErased
    · cases hErased
    · exact h.unnamed other hErased
  | configured on levels trail =>
    intro other hRecord
    rw [refreshed_eq] at hRecord
    exact h.unnamed other hRecord
  | told | grouped | ungrouped | read => exact h.unnamed

theorem Retired.moves (hMoves : Moves r r') (h : Retired r id) : Retired r' id :=
  hMoves.keep Retired.move h

/-- An instrument of a name that is free is registered under no name at all. -/
theorem Sound.retired (hSound : Sound r) (hFree : r.has name = false)
    (hAt : r.instrument? id = some i) (hName : i.name = name) : Retired r id := by
  refine ⟨⟨i, hAt⟩, fun other hRecord => ?_⟩
  have hOther : i.name = other := hSound.name_eq hRecord hAt
  rw [← hOther, hName, NameMap.contains_eq_false_iff.mp hFree] at hRecord
  cases hRecord

/-! ## Instruments that begin -/

/-- One registry has all instruments of another one. What it has registered and the other one had
not is an instrument that the other one did not have, and its statistic is the one that was to
begin with. -/
structure Begins (r : Registry) (initial : Option Statistic) (r' : Registry) : Prop where
  window : r'.window = r.window
  persists : ∀ {id i}, r.instrument? id = some i → ∃ j, r'.instrument? id = some j
  begun : ∀ {name id}, r'.records.get? name = some id →
    r.records.get? name = some id ∨
      r.instrument? id = none ∧ ∃ i s, r'.instrument? id = some i ∧ initial = some s ∧
        r'.statistics.get? i.statistic = some s

theorem Begins.refl (r : Registry) (initial : Option Statistic) : Begins r initial r :=
  ⟨rfl, fun hAt => ⟨_, hAt⟩, .inl⟩

/-- The instruments of a registry are all before the one that is made next. -/
theorem Begins.instrument?_length (h : Begins r initial r') :
    r.instrument? r'.instruments.length = none := by
  cases hAt : r.instrument? r'.instruments.length with
  | none => rfl
  | some i =>
    obtain ⟨j, hj⟩ := h.persists hAt
    exact absurd (lt_length_of_instrument? hj) (Nat.lt_irrefl _)

theorem Begins.make {s : Statistic} (h : Begins r (some s) r') (name : String) (level : Level) :
    Begins r (some s) (r'.make name level s).1 where
  window := h.window
  persists := by
    intro id i hAt
    obtain ⟨j, hj⟩ := h.persists hAt
    exact ⟨j, instrument?_make_of_some hj⟩
  begun := by
    intro other id hRecord
    rw [records_make, NameMap.get?_insert] at hRecord
    split at hRecord
    · rw [← Option.some.inj hRecord]
      refine .inr ⟨h.instrument?_length, r'.newcomer name level s, s, instrument?_make_self, rfl, ?_⟩
      exact Statistics.get?_add_self r'.statistics s
    · -- whatever began before is still as it began
      refine (h.begun hRecord).imp_right ?_
      rintro ⟨hNew, i, begun, hAt, hInitial, hStat⟩
      refine ⟨hNew, i, begun, instrument?_make_of_some hAt, hInitial, ?_⟩
      have hEarlier : i.statistic < r'.statistics.table.length :=
        (List.getElem?_eq_some_iff.mp hStat).1
      rw [statistics_make, Statistics.get?_add_of_ne _ _ (Nat.ne_of_lt hEarlier), hStat]

theorem Begins.obtain (h : Begins r initial r') (name : String) (kind : Kind) (level : Level) :
    Begins r initial (r'.obtain name kind level initial).1 := by
  rcases obtain_cases r' name kind level initial with
    ⟨failure, hRefused⟩ | ⟨found, i, hFound, -⟩ | ⟨s, hMade, -, -, hInitial⟩
  · rw [hRefused]
    exact h
  · rw [hFound]
    exact h
  · rw [hMade]
    rw [hInitial] at h ⊢
    exact h.make name level

theorem blank_eq (hWindow : r'.window = r.window) (now : Instant) (measure : Measure) :
    r'.blank now measure = r.blank now measure := by
  cases measure <;> simp only [blank, hWindow]

/-- All metrics that a request makes have recorded nothing, also those of a request that fails in
the end. -/
theorem begins_metric (r : Registry) (now : Instant) (measure : Measure) (name : String)
    (level : Level) (ancestors : List Level) :
    Begins r (r.blank now measure) (r.metric now measure name level ancestors).1 := by
  refine metric_keeps (P := Begins r (r.blank now measure)) ?_ ?_ name level ancestors (.refl r _)
  · intro r' member wanted h
    rw [blank_eq h.window]
    exact h.obtain member measure.kind wanted
  · intro r' groups n h
    exact ⟨h.window, h.persists, h.begun⟩

/-- A source of values changes nothing of what is registered. -/
theorem begins_addSource (r : Registry) (initial : Option Statistic) :
    Begins r initial r.addSource.1 := ⟨rfl, fun hAt => ⟨_, hAt⟩, .inl⟩

theorem Move.window_eq (hMove : Move r r') : r'.window = r.window := by
  cases hMove with
  | configured on levels trail => rw [refreshed_eq]
  | told | made | grouped | ungrouped | removed | read => rfl

theorem Moves.window_eq (hMoves : Moves r r') : r'.window = r.window :=
  hMoves.keep (P := fun r' => r'.window = r.window) (fun hMove h => hMove.window_eq.trans h) rfl

/-- Nothing begins where nothing is registered that was not before. -/
theorem Begins.of_moves (hMoves : Moves r r')
    (hRecords : ∀ {name id}, r'.records.get? name = some id → r.records.get? name = some id) :
    Begins r initial r' where
  window := hMoves.window_eq
  persists := by
    intro id i hAt
    obtain ⟨on, hOn⟩ := hMoves.persists hAt
    exact ⟨_, hOn⟩
  begun := fun hRecord => .inl (hRecords hRecord)

/-- Whatever is registered after a removal was so before. -/
theorem records_of_remove {x : String} (h : (r.remove x).1.records.get? name = some id) :
    r.records.get? name = some id := by
  by_cases hMem : name ∈ Name.standsFor x
  · rw [NameMap.contains_eq_false_iff.mp (has_remove_of_mem hMem r)] at h
    cases h
  · rw [records_remove_of_notMem hMem] at h
    exact h

theorem records_configured (r : Registry) (on : Bool) (levels : LevelMap) (trail : List Notice) :
    ({ r with enabled := on, levels := levels, trail := trail } : Registry).refreshed.records =
      r.records := by
  rw [refreshed_eq]

theorem records_setEnabled (r : Registry) (on : Bool) : (r.setEnabled on).1.records = r.records := by
  rw [setEnabled]
  split
  · rfl
  · exact records_configured r on r.levels _

theorem records_setRoot (r : Registry) (level : Level) :
    (r.setRoot level).1.records = r.records := by
  simp only [setRoot]
  split
  · rfl
  · exact records_configured r r.enabled _ _

theorem records_setLevel (r : Registry) (name : String) (level : Level) :
    (r.setLevel name level).1.records = r.records := by
  simp only [setLevel]
  split
  · split
    · rfl
    · exact records_configured r r.enabled _ _
  · rfl

end Registry

/-! ## What handles reach -/

namespace Holding.Reaches

variable {held : Holding} {r : Registry} {id other : InstrumentId} {i j : Instrument}

/-- Whatever a handle reaches was made. -/
theorem made_of_mem (h : held.Reaches r) (hMem : id ∈ held.handle.targets) :
    ∃ i, r.instrument? id = some i := by
  rw [h.targets] at hMem
  obtain ⟨n, hn, rfl⟩ := List.mem_iff_getElem.mp hMem
  obtain ⟨i, hAt, -⟩ := h.named.get (h.named.length_eq ▸ hn) hn
  exact ⟨i, hAt⟩

end Holding.Reaches

/-! ## Requests -/

namespace Usage

variable {u : Usage} {id : InstrumentId}

theorem retired_perform (h : u.registry.Retired id) (now : Instant) (q : Request) :
    (u.perform now q).registry.Retired id := by
  rcases registry_perform u now q with hMoves | ⟨handle, up, hUpdate⟩
  · exact h.moves hMoves
  · rw [hUpdate, Registry.update_eq]
    exact ⟨h.made, h.unnamed⟩

/-- Handles are only added to those that one holds, and a handle that is added reaches what is
registered at that moment. -/
theorem holdings_perform (u : Usage) (now : Instant) (q : Request) :
    ∃ later, (u.perform now q).holdings = u.holdings ++ later ∧
      ∀ held ∈ later, held.members = (u.perform now q).registry.registered held.name := by
  have hNone : ∀ u' : Usage, u'.holdings = u.holdings →
      ∃ later, u'.holdings = u.holdings ++ later ∧
        ∀ held ∈ later, held.members = u'.registry.registered held.name := by
    intro u' hSame
    refine ⟨[], by rw [hSame, List.append_nil], ?_⟩
    intro held hMem
    cases hMem
  have hGot : ∀ {ε : Type} (name : String) (outcome : Registry × Except ε Handle),
      ∃ later, (u.got name outcome).holdings = u.holdings ++ later ∧
        ∀ held ∈ later, held.members = (u.got name outcome).registry.registered held.name := by
    intro ε name outcome
    obtain ⟨r, result⟩ := outcome
    cases result with
    | error e => exact hNone _ rfl
    | ok handle =>
      refine ⟨_, rfl, fun held hMem => ?_⟩
      rw [List.mem_singleton.mp hMem]
      rfl
  cases q with
  | metric measure name level ancestors => exact hGot _ _
  | gauge name level timeout supplier => cases timeout <;> exact hGot _ _
  | find kind name => exact hGot _ _
  | remove | setEnabled | setRoot | setLevel | sample => exact hNone _ rfl
  | tell place up =>
    simp only [perform]
    split <;> exact hNone _ rfl
  | read place =>
    simp only [perform]
    split <;> exact hNone _ rfl

/-- Whoever gets a handle in a run does not reach what was registered no more before the run. -/
theorem holdings_run (hValid : Valid u) (steps : List (Instant × Request)) :
    ∃ later, (u.run steps).holdings = u.holdings ++ later ∧
      ∀ held ∈ later, ∀ id, u.registry.Retired id → id ∉ held.handle.targets := by
  induction steps generalizing u with
  | nil =>
    refine ⟨[], (List.append_nil _).symm, ?_⟩
    intro held hMem
    cases hMem
  | cons step rest ih =>
    have hFirst := hValid.perform step.1 step.2
    obtain ⟨got, hGot, hRegistered⟩ := holdings_perform u step.1 step.2
    obtain ⟨later, hLater, hNot⟩ := ih hFirst
    refine ⟨got ++ later, ?_, fun held hMem id h => ?_⟩
    · show ((u.perform step.1 step.2).run rest).holdings = _
      rw [hLater, hGot, List.append_assoc]
    · have hRetired := retired_perform h step.1 step.2
      rcases List.mem_append.mp hMem with hNow | hThen
      · -- the handle reaches what is registered, which the retired instrument is not
        intro hReached
        have hHeld : held ∈ (u.perform step.1 step.2).holdings := by
          rw [hGot]
          exact List.mem_append_right _ hNow
        rw [(hFirst.held held hHeld).targets, hRegistered held hNow, Registry.registered,
          List.mem_filterMap] at hReached
        obtain ⟨name, -, hRecord⟩ := hReached
        exact hRetired.unnamed name hRecord
      · exact hNot held hThen id hRetired

/-- An instrument keeps all but its flag in a run. -/
theorem persists_run {i : Instrument} (hAt : u.registry.instrument? id = some i)
    (steps : List (Instant × Request)) :
    ∃ on, (u.run steps).registry.instrument? id = some { i with enabled := on } := by
  induction steps generalizing u i with
  | nil => exact ⟨i.enabled, hAt⟩
  | cons step rest ih =>
    have hFirst : ∃ on, (u.perform step.1 step.2).registry.instrument? id =
        some { i with enabled := on } := by
      rcases registry_perform u step.1 step.2 with hMoves | ⟨handle, up, hUpdate⟩
      · exact hMoves.persists hAt
      · rw [hUpdate, Registry.update_eq]
        exact ⟨i.enabled, hAt⟩
    obtain ⟨on, hOn⟩ := hFirst
    obtain ⟨on', hOn'⟩ := ih hOn
    exact ⟨on', hOn'⟩

/-- The statistic that a request has for the metrics it makes. -/
def initial? (u : Usage) (now : Instant) : Request → Option Statistic
  | .metric measure _ _ _ => u.registry.blank now measure
  | .gauge _ _ none supplier => some (.gauge supplier u.registry.addSource.2)
  | .gauge _ _ (some timeout) supplier =>
    some (.cachedGauge (.new timeout) supplier u.registry.addSource.2)
  | _ => none

/-- It has recorded nothing. -/
theorem unused_of_initial? {q : Request} {s : Statistic} (h : u.initial? now q = some s) :
    s.Unused := by
  cases q with
  | metric measure name level ancestors => exact Registry.unused_of_blank h
  | gauge name level timeout supplier =>
    cases timeout with
    | none =>
      cases h
      trivial
    | some timeout =>
      cases h
      rfl
  | find | remove | setEnabled | setRoot | setLevel | tell | read | sample => cases h

/-- Whatever a request has registered anew is new and has recorded nothing. -/
theorem begins_perform (u : Usage) (now : Instant) (q : Request) :
    Registry.Begins u.registry (u.initial? now q) (u.perform now q).registry := by
  cases q with
  | metric measure name level ancestors =>
    rw [perform, registry_got]
    exact Registry.begins_metric u.registry now measure name level ancestors
  | gauge name level timeout supplier =>
    cases timeout with
    | none =>
      rw [perform, registry_got, Registry.gauge, Registry.single_fst]
      exact (Registry.begins_addSource u.registry _).obtain name .gauge level
    | some timeout =>
      rw [perform, registry_got, Registry.cachedGauge, Registry.single_fst]
      exact (Registry.begins_addSource u.registry _).obtain name .cachedGauge level
  | find kind name =>
    rw [perform, registry_got]
    exact .refl _ _
  | remove x => exact .of_moves (Registry.remove_moves u.registry x) Registry.records_of_remove
  | setEnabled on =>
    refine .of_moves (Registry.setEnabled_moves u.registry on) fun {name id} hRecord => ?_
    rw [← Registry.records_setEnabled u.registry on]
    exact hRecord
  | setRoot level =>
    refine .of_moves (Registry.setRoot_moves u.registry level) fun {name id} hRecord => ?_
    rw [← Registry.records_setRoot u.registry level]
    exact hRecord
  | setLevel name level =>
    refine .of_moves (Registry.setLevel_moves u.registry name level) fun {name id} hRecord => ?_
    rw [← Registry.records_setLevel u.registry]
    exact hRecord
  | tell place up =>
    simp only [perform]
    split
    · next held _ =>
      -- an update changes statistics only
      show Registry.Begins u.registry _ (u.registry.update now held.handle up)
      rw [Registry.update_eq]
      exact ⟨rfl, fun hAt => ⟨_, hAt⟩, .inl⟩
    · exact .refl _ _
  | read place =>
    simp only [perform]
    split
    · next held _ =>
      refine .of_moves (Registry.reading_moves u.registry now held.handle) fun {name id} hRecord => ?_
      have hSame : (u.registry.reading now held.handle).1.records = u.registry.records := by
        rw [Registry.reading]
        split <;> rfl
      rw [← hSame]
      exact hRecord
    · exact .refl _ _
  | sample accepts => exact ⟨rfl, fun hAt => ⟨_, hAt⟩, .inl⟩

end Usage

end Metering
