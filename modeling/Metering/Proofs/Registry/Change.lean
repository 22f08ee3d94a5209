import Mathlib.Data.List.Forall2
import Metering.Proofs.NameMap
import Metering.Proofs.Statistic.Tally
import Metering.Registry.Creation
import Metering.Registry.Enablement
import Metering.Registry.Recording
import Metering.Registry.Removal

/-!
# Metering — elementary changes of a registry

Whatever is done to a registry, it changes in few ways: a metric is made under a free name, a
group is entered or dropped, a registered metric is removed, what counts is configured anew, and
statistics are read. This module says of each such change what it does to every look-up.

* `make` — `instrument?_make_of_some`, `instrument?_make_cases`: the instruments that were there
  stay as they are, and one more comes;
* `refreshed` — `instrument?_refreshed`, `instrument?_refreshed_of_record`: only flags change, and
  those of registered metrics become what is configured;
* `without` — a registry from which a metric was removed;
* `Serves` — an instrument of a kind is registered under a name.
-/

namespace Metering.Registry

variable {r : Registry} {name other : String} {level : Level} {initial : Statistic}
  {id : InstrumentId} {i : Instrument}

/-! ## Making a metric -/

/-- The instrument that `make` adds. -/
def newcomer (r : Registry) (name : String) (level : Level) (initial : Statistic) : Instrument :=
  ⟨name, initial.kind, level, r.admits name level, r.statistics.table.length⟩

theorem instrument?_make (r : Registry) (name : String) (level : Level) (initial : Statistic)
    (id : InstrumentId) :
    (r.make name level initial).1.instrument? id =
      if id = r.instruments.length then some (r.newcomer name level initial)
      else r.instrument? id := by
  show (r.instruments ++ [r.newcomer name level initial])[id]? = _
  split
  · next hNew => rw [hNew, List.getElem?_concat_length]
  · next hOther =>
    rw [instrument?]
    rcases Nat.lt_or_gt_of_ne hOther with hBefore | hAfter
    · rw [List.getElem?_append_left hBefore]
    · rw [List.getElem?_eq_none (Nat.le_of_lt hAfter),
        List.getElem?_eq_none (by rw [List.length_append]; exact hAfter)]

theorem lt_length_of_instrument? (h : r.instrument? id = some i) : id < r.instruments.length :=
  (List.getElem?_eq_some_iff.mp h).1

/-- The instruments that were there stay as they are. -/
theorem instrument?_make_of_some (h : r.instrument? id = some i) :
    (r.make name level initial).1.instrument? id = some i := by
  rw [instrument?_make, if_neg (Nat.ne_of_lt (lt_length_of_instrument? h)), h]

theorem instrument?_make_self :
    (r.make name level initial).1.instrument? r.instruments.length =
      some (r.newcomer name level initial) := by
  rw [instrument?_make, if_pos rfl]

theorem instrument?_make_cases (h : (r.make name level initial).1.instrument? id = some i) :
    r.instrument? id = some i ∨
      id = r.instruments.length ∧ i = r.newcomer name level initial := by
  rw [instrument?_make] at h
  split at h
  · next hNew => exact .inr ⟨hNew, (Option.some.inj h).symm⟩
  · exact .inl h

theorem records_make :
    (r.make name level initial).1.records = r.records.insert name r.instruments.length := rfl

theorem store_make :
    (r.make name level initial).1.store = r.store.insert name r.statistics.table.length := rfl

theorem statistics_make :
    (r.make name level initial).1.statistics = (r.statistics.add initial).1 := rfl

/-! ## Bringing flags up to date -/

theorem instrument?_refreshOne (r : Registry) (name : String) (id other : InstrumentId) :
    (r.refreshOne name id).instrument? other =
      if id = other then (r.instrument? id).map fun i => { i with enabled := r.admits name i.level }
      else r.instrument? other := by
  show (r.instruments.modify id _)[other]? = _
  rw [List.getElem?_modify]
  split
  · next heq => rw [← heq]; rfl
  · next hne => simp only [id_map']; rfl

/-- Refreshing changes nothing but instruments. -/
theorem foldl_refreshOne_eq (es : List (String × InstrumentId)) (r : Registry) :
    es.foldl (fun r e => r.refreshOne e.1 e.2) r =
      { r with instruments := (es.foldl (fun r e => r.refreshOne e.1 e.2) r).instruments } := by
  induction es generalizing r with
  | nil => rfl
  | cons e rest ih =>
    rw [List.foldl_cons, ih]
    rfl

/-- Refreshing changes nothing of an instrument but its flag. -/
theorem instrument?_foldl_refreshOne (es : List (String × InstrumentId)) (r : Registry)
    (id : InstrumentId) :
    ∃ on, (es.foldl (fun r e => r.refreshOne e.1 e.2) r).instrument? id =
      (r.instrument? id).map fun i => { i with enabled := on } := by
  induction es generalizing r with
  | nil =>
    cases h : r.instrument? id with
    | none => exact ⟨false, h⟩
    | some i => exact ⟨i.enabled, h⟩
  | cons e rest ih =>
    obtain ⟨on, hOn⟩ := ih (r.refreshOne e.1 e.2)
    refine ⟨on, ?_⟩
    rw [List.foldl_cons, hOn, instrument?_refreshOne]
    split
    · next heq => rw [heq, Option.map_map]; rfl
    · rfl

theorem instrument?_foldl_refreshOne_of_notMem {es : List (String × InstrumentId)}
    (h : ∀ e ∈ es, e.2 ≠ id) (r : Registry) :
    (es.foldl (fun r e => r.refreshOne e.1 e.2) r).instrument? id = r.instrument? id := by
  induction es generalizing r with
  | nil => rfl
  | cons e rest ih =>
    rw [List.foldl_cons, ih (fun x hx => h x (List.mem_cons_of_mem _ hx)),
      instrument?_refreshOne, if_neg (h e List.mem_cons_self)]

/-- An instrument that is listed under one name only gets the flag of that name. -/
theorem instrument?_foldl_refreshOne_of_mem {es : List (String × InstrumentId)}
    (hOnly : ∀ e ∈ es, e.2 = id → e.1 = name) (hMem : (name, id) ∈ es)
    (h : r.instrument? id = some i) :
    (es.foldl (fun r e => r.refreshOne e.1 e.2) r).instrument? id =
      some { i with enabled := r.admits name i.level } := by
  induction es generalizing r i with
  | nil => cases hMem
  | cons e rest ih =>
    have hOnlyRest : ∀ x ∈ rest, x.2 = id → x.1 = name :=
      fun x hx => hOnly x (List.mem_cons_of_mem _ hx)
    rw [List.foldl_cons]
    by_cases he : e.2 = id
    · have hStep : (r.refreshOne e.1 e.2).instrument? id =
          some { i with enabled := r.admits name i.level } := by
        rw [instrument?_refreshOne, if_pos he, he, h, hOnly e List.mem_cons_self he]
        rfl
      by_cases hRest : (name, id) ∈ rest
      · have hAgain := ih hOnlyRest hRest hStep
        exact hAgain
      · -- nothing in the rest touches this instrument any more
        rw [instrument?_foldl_refreshOne_of_notMem ?_, hStep]
        intro x hx hid
        exact hRest (by rw [← hid, ← hOnlyRest x hx hid]; exact hx)
    · have hStep : (r.refreshOne e.1 e.2).instrument? id = some i := by
        rw [instrument?_refreshOne, if_neg he, h]
      have hRest : (name, id) ∈ rest := by
        rcases List.mem_cons.mp hMem with heq | hRest
        · exact absurd (by rw [← heq]) he
        · exact hRest
      exact ih hOnlyRest hRest hStep

theorem refreshed_eq (r : Registry) :
    r.refreshed = { r with instruments := r.refreshed.instruments } :=
  foldl_refreshOne_eq r.records.toList r

theorem instrument?_refreshed (r : Registry) (id : InstrumentId) :
    ∃ on, r.refreshed.instrument? id = (r.instrument? id).map fun i => { i with enabled := on } :=
  instrument?_foldl_refreshOne r.records.toList r id

/-- A registered metric counts after a refresh if it should, provided that its instrument is not
registered under another name as well. -/
theorem instrument?_refreshed_of_record
    (hOnly : ∀ other, r.records.get? other = some id → other = name)
    (hRecord : r.records.get? name = some id) (h : r.instrument? id = some i) :
    r.refreshed.instrument? id = some { i with enabled := r.admits name i.level } := by
  refine instrument?_foldl_refreshOne_of_mem ?_ (NameMap.get?_eq_some_iff.mp hRecord) h
  intro e he hid
  exact hOnly e.1 (NameMap.get?_eq_some_iff.mpr (hid ▸ he))

/-! ## Removing a metric -/

/-- The registry without the metric of a plain name and the groups that it belongs to. -/
def without (r : Registry) (name : String) : Registry :=
  { r with
    records := r.records.erase name
    store := r.store.erase name
    groups := r.groups.keep fun _ g => !g.members.contains name
    trail := r.trail ++ [.removed name] }

theorem removeMetric_eq (r : Registry) (name : String) :
    r.removeMetric name = if r.has name then (r.without name, true) else (r, false) := rfl

theorem groups_without_eq_some {key : String} {g : Group}
    (h : (r.without name).groups.get? key = some g) :
    r.groups.get? key = some g ∧ name ∉ g.members := by
  have hKept : (r.groups.keep fun _ g => !g.members.contains name).get? key = some g := h
  rw [NameMap.get?_keep, Option.filter_eq_some_iff] at hKept
  obtain ⟨hGroup, hNot⟩ := hKept
  refine ⟨hGroup, fun hMem => ?_⟩
  rw [List.contains_iff_mem.mpr hMem] at hNot
  cases hNot

/-! ## Who serves under a name -/

/-- An instrument of a kind is registered under a plain name. -/
def Serves (r : Registry) (kind : Kind) (name : String) (id : InstrumentId) : Prop :=
  r.records.get? name = some id ∧ ∃ i, r.instrument? id = some i ∧ i.kind = kind

variable {kind : Kind}

theorem Serves.make (h : r.Serves kind name id) (hFree : r.records.get? other = none) :
    (r.make other level initial).1.Serves kind name id := by
  obtain ⟨hRecord, i, hAt, hKind⟩ := h
  refine ⟨?_, i, instrument?_make_of_some hAt, hKind⟩
  rw [records_make, NameMap.get?_insert_of_ne, hRecord]
  rintro rfl
  rw [hFree] at hRecord
  cases hRecord

theorem serves_make_self :
    (r.make name level initial).1.Serves initial.kind name r.instruments.length := by
  refine ⟨?_, r.newcomer name level initial, instrument?_make_self, rfl⟩
  rw [records_make, NameMap.get?_insert_self]

theorem Serves.refreshed (h : r.Serves kind name id) : r.refreshed.Serves kind name id := by
  obtain ⟨hRecord, i, hAt, hKind⟩ := h
  obtain ⟨on, hOn⟩ := instrument?_refreshed r id
  refine ⟨?_, { i with enabled := on }, ?_, hKind⟩
  · rw [refreshed_eq]
    exact hRecord
  · rw [hOn, hAt]
    rfl

theorem Serves.without (h : r.Serves kind name id) (hne : name ≠ other) :
    (r.without other).Serves kind name id := by
  refine ⟨?_, h.2⟩
  show (r.records.erase other).get? name = some id
  rw [NameMap.get?_erase, if_neg hne, h.1]

end Metering.Registry
