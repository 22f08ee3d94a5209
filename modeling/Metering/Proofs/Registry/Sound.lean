import Metering.Proofs.Registry.Move

/-!
# Metering — sound registries

The invariants that tie the tables of a registry together. They hold of a registry without
metrics and are kept by every elementary change.

* `Sound` — registered names are plain and belong to their instruments, and every instrument has
  a statistic of its kind for itself;
* `Sound.move`, `Sound.moves` — soundness is kept;
* `Grouped.move`, `Grouped.moves` — groups stay intact;
* `Move.persists` — an instrument never changes but for its flag.
-/

namespace Metering

/-- A group stays intact as long as its members go on serving. -/
theorem Group.IntactIn.imp {g : Group} {r r' : Registry} {key : String} (h : g.IntactIn r key)
    (hServes : ∀ member ∈ g.members, ∀ id, r.Serves g.measure.kind member id →
      r'.Serves g.measure.kind member id) : g.IntactIn r' key where
  marked := h.marked
  expanded := h.expanded
  served := by
    refine List.forall₂_iff_zip.mpr ⟨h.served.length_eq, fun {member id} hMem => ?_⟩
    exact hServes member (List.of_mem_zip hMem).1 id (List.forall₂_zip h.served hMem)

namespace Registry

/-- The tables of a registry fit together. -/
structure Sound (r : Registry) : Prop where
  recorded : ∀ {name id}, r.records.get? name = some id →
    ∃ i, r.instrument? id = some i ∧ i.name = name
  plain : ∀ {name id}, r.records.get? name = some id → Name.isMarked name = false
  measured : ∀ {id i}, r.instrument? id = some i →
    ∃ n, r.statistics.tally? i.statistic = some (i.kind, n)
  apart : ∀ {id other i j}, r.instrument? id = some i → r.instrument? other = some j →
    i.statistic = j.statistic → id = other

variable {r r' : Registry} {name : String} {id : InstrumentId} {i : Instrument}

/-! ## What an instrument keeps -/

/-- Whatever is done to a registry, its instruments stay and keep all but their flags. -/
theorem Move.persists (hMove : Move r r') (h : r.instrument? id = some i) :
    ∃ on, r'.instrument? id = some { i with enabled := on } := by
  cases hMove with
  | made name level initial _ _ _ => exact ⟨i.enabled, instrument?_make_of_some h⟩
  | configured on levels trail =>
    obtain ⟨on', hOn⟩ := instrument?_refreshed
      ({ r with enabled := on, levels := levels, trail := trail } : Registry) id
    refine ⟨on', hOn.trans ?_⟩
    show (r.instrument? id).map _ = _
    rw [h, Option.map_some]
  | told | grouped | ungrouped | removed | read => exact ⟨i.enabled, h⟩

theorem Moves.persists (hMoves : Moves r r') (h : r.instrument? id = some i) :
    ∃ on, r'.instrument? id = some { i with enabled := on } := by
  induction hMoves with
  | refl => exact ⟨i.enabled, h⟩
  | tail _ hLast ih =>
    obtain ⟨on, hOn⟩ := ih
    obtain ⟨on', hOn'⟩ := hLast.persists hOn
    exact ⟨on', hOn'⟩

/-- An instrument of a refreshed registry was there before, but for its flag. -/
theorem instrument?_of_refreshed (h : r.refreshed.instrument? id = some i) :
    ∃ was, r.instrument? id = some { i with enabled := was } := by
  obtain ⟨on, hOn⟩ := instrument?_refreshed r id
  rw [hOn] at h
  obtain ⟨old, hOld, rfl⟩ := Option.map_eq_some_iff.mp h
  exact ⟨old.enabled, hOld⟩

/-! ## Soundness -/

/-- An instrument is registered under its own name or not at all. -/
theorem Sound.name_eq (h : Sound r) (hRecord : r.records.get? name = some id)
    (hAt : r.instrument? id = some i) : i.name = name := by
  obtain ⟨j, hj, hName⟩ := h.recorded hRecord
  rw [hAt] at hj
  rw [Option.some.inj hj, hName]

theorem Sound.name_unique {other : String} (h : Sound r) (hName : r.records.get? name = some id)
    (hOther : r.records.get? other = some id) : other = name := by
  obtain ⟨i, hAt, hIs⟩ := h.recorded hName
  rw [← hIs, h.name_eq hOther hAt]

theorem sound_new (levels : LevelMap) (window : Window) (on : Bool) :
    Sound (new levels window on) where
  recorded h := by cases h
  plain h := by cases h
  measured h := by cases h
  apart h := by cases h

theorem Sound.make {level : Level} {initial : Statistic} (h : Sound r)
    (hPlain : Name.isMarked name = false) : Sound (r.make name level initial).1 where
  recorded := by
    -- the new name has the new instrument, all other names have theirs as before
    intro other id hRecord
    rw [records_make, NameMap.get?_insert] at hRecord
    split at hRecord
    · next heq =>
      rw [← Option.some.inj hRecord]
      exact ⟨_, instrument?_make_self, heq.symm⟩
    · obtain ⟨i, hAt, hName⟩ := h.recorded hRecord
      exact ⟨i, instrument?_make_of_some hAt, hName⟩
  plain := by
    intro other id hRecord
    rw [records_make, NameMap.get?_insert] at hRecord
    split at hRecord
    · next heq => rw [heq, hPlain]
    · exact h.plain hRecord
  measured := by
    intro id i hAt
    rw [statistics_make]
    rcases instrument?_make_cases hAt with hOld | ⟨-, rfl⟩
    · obtain ⟨n, hn⟩ := h.measured hOld
      exact ⟨n, Statistics.tally?_add_of_some hn initial⟩
    · exact ⟨initial.count, Statistics.tally?_add_self r.statistics initial⟩
  apart := by
    -- the place of the newcomer was free, so no older instrument records there
    have hFree : ∀ {id i}, r.instrument? id = some i →
        i.statistic ≠ r.statistics.table.length := by
      intro id i hAt hPlace
      obtain ⟨n, hn⟩ := h.measured hAt
      rw [hPlace, Statistics.tally?_length] at hn
      cases hn
    intro id other i j hi hj hPlace
    rcases instrument?_make_cases hi with hOld | ⟨rfl, rfl⟩
    · rcases instrument?_make_cases hj with hOld' | ⟨rfl, rfl⟩
      · exact h.apart hOld hOld' hPlace
      · exact absurd hPlace (hFree hOld)
    · rcases instrument?_make_cases hj with hOld' | ⟨rfl, rfl⟩
      · exact absurd hPlace.symm (hFree hOld')
      · rfl

theorem Sound.refreshed (h : Sound r) : Sound r.refreshed where
  recorded := by
    intro name id hRecord
    rw [refreshed_eq] at hRecord
    obtain ⟨i, hAt, hName⟩ := h.recorded hRecord
    obtain ⟨on, hOn⟩ := instrument?_refreshed r id
    refine ⟨{ i with enabled := on }, ?_, hName⟩
    rw [hOn, hAt, Option.map_some]
  plain := by
    intro name id hRecord
    rw [refreshed_eq] at hRecord
    exact h.plain hRecord
  measured := by
    intro id i hAt
    obtain ⟨was, hWas⟩ := instrument?_of_refreshed hAt
    obtain ⟨n, hn⟩ := h.measured hWas
    refine ⟨n, ?_⟩
    rw [refreshed_eq]
    exact hn
  apart := by
    intro id other i j hi hj hPlace
    obtain ⟨_, hi⟩ := instrument?_of_refreshed hi
    obtain ⟨_, hj⟩ := instrument?_of_refreshed hj
    exact h.apart hi hj hPlace

/-- What is configured does not concern the tables. -/
theorem Sound.configured (h : Sound r) (on : Bool) (levels : LevelMap) (trail : List Notice) :
    Sound { r with enabled := on, levels := levels, trail := trail } :=
  ⟨h.recorded, h.plain, h.measured, h.apart⟩

/-- Statistics may change as long as each keeps its kind. -/
theorem Sound.of_statistics {statistics : Statistics} (h : Sound r)
    (hKind : ∀ {place kind n}, r.statistics.tally? place = some (kind, n) →
      ∃ m, statistics.tally? place = some (kind, m)) :
    Sound { r with statistics := statistics } where
  recorded := h.recorded
  plain := h.plain
  measured hAt := by
    obtain ⟨n, hn⟩ := h.measured hAt
    exact hKind hn
  apart := h.apart

theorem Sound.without (h : Sound r) (name : String) : Sound (r.without name) := by
  have hStill : ∀ {other id}, (r.without name).records.get? other = some id →
      r.records.get? other = some id := by
    intro other id hRecord
    have hErased : (r.records.erase name).get? other = some id := hRecord
    rw [NameMap.get?_erase] at hErased
    split at hErased
    · cases hErased
    · exact hErased
  exact ⟨fun hRecord => h.recorded (hStill hRecord), fun hRecord => h.plain (hStill hRecord),
    h.measured, h.apart⟩

theorem Sound.move (hMove : Move r r') (h : Sound r) : Sound r' := by
  cases hMove with
  | made name level initial hPlain _ _ => exact h.make hPlain
  | removed name => exact h.without name
  | configured on levels trail => exact (h.configured on levels trail).refreshed
  | read statistics hTally => exact h.of_statistics fun hAt => ⟨_, (hTally _).trans hAt⟩
  | told | grouped | ungrouped => exact ⟨h.recorded, h.plain, h.measured, h.apart⟩

theorem Sound.moves (hMoves : Moves r r') (h : Sound r) : Sound r' :=
  hMoves.keep Sound.move h

/-! ## Groups -/

theorem grouped_new (levels : LevelMap) (window : Window) (on : Bool) :
    Grouped (new levels window on) := by
  intro name g h
  cases h

theorem Grouped.move (hMove : Move r r') (h : Grouped r) : Grouped r' := by
  -- a group that was there before needs only that its members go on serving
  cases hMove with
  | told n => exact fun _ _ hGroup => (h hGroup).imp fun _ _ _ hServes => hServes
  | made name level initial _ hFree _ =>
    exact fun _ _ hGroup => (h hGroup).imp fun _ _ _ hServes => hServes.make hFree
  | grouped name g hIntact =>
    intro key g' hGroup
    rw [NameMap.get?_insert] at hGroup
    split at hGroup
    · next heq =>
      rw [heq, ← Option.some.inj hGroup]
      exact hIntact.imp fun _ _ _ hServes => hServes
    · exact (h hGroup).imp fun _ _ _ hServes => hServes
  | ungrouped name =>
    intro key g' hGroup
    rw [NameMap.get?_erase] at hGroup
    split at hGroup
    · cases hGroup
    · exact (h hGroup).imp fun _ _ _ hServes => hServes
  | removed name =>
    intro key g' hGroup
    -- a group that survives does not have the removed metric for a member
    obtain ⟨hGroup, hNot⟩ := groups_without_eq_some hGroup
    refine (h hGroup).imp fun member hMem id hServes => hServes.without ?_
    rintro rfl
    exact hNot hMem
  | configured on levels trail =>
    intro key g' hGroup
    rw [refreshed_eq] at hGroup
    refine (h hGroup).imp fun member _ id hServes => Serves.refreshed ?_
    exact hServes
  | read statistics _ => exact fun _ _ hGroup => (h hGroup).imp fun _ _ _ hServes => hServes

theorem Grouped.moves (hMoves : Moves r r') (h : Grouped r) : Grouped r' :=
  hMoves.keep Grouped.move h

end Registry

end Metering
