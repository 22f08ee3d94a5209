import Mathlib.Data.List.Perm.Basic
import Mathlib.Data.List.Perm.Lattice
import Mathlib.Data.List.Sort
import Mathlib.Data.String.Basic
import Metering.NameMap

/-!
# Metering — look-ups in maps from names

A `NameMap` is known by its look-ups: what is listed, how much of it there is and in which order
follows from what is found under each name.

* `get?_eq_some_iff` — what is found is what is listed;
* `get?_keep` — look-ups among the entries that pass a test;
* `mem_names_iff` — the names that are listed are those under which something is found;
* `names_eq_of_contains_eq`, `toList_eq_of_names`, `toList_eq_filterMap` — what is found alike is
  listed alike, in the same order;
* `filterMap_toList_of_name` — what is made of the entry of one name alone;
* `ofList_toList` — a map is the map of its entries;
* `values_insert_perm`, `values_erase_perm` — what entering and taking out make of what is listed.
-/

namespace Metering.NameMap

variable {α β : Type}

/-! ## Look-ups and entries -/

theorem get?_insert_self (m : NameMap α) (name : String) (a : α) :
    (m.insert name a).get? name = some a := by
  rw [get?_insert, if_pos rfl]

theorem get?_insert_of_ne (m : NameMap α) {name other : String} (h : other ≠ name) (a : α) :
    (m.insert name a).get? other = m.get? other := by
  rw [get?_insert, if_neg h]

/-- In a list with ascending names the first entry of a name is the only one. -/
theorem find_eq_some_iff {es : List (String × α)} (h : es.Pairwise fun a b => a.1 < b.1)
    {name : String} {a : α} : find name es = some a ↔ (name, a) ∈ es := by
  induction es with
  | nil => simp [find]
  | cons e rest ih =>
    obtain ⟨hFirst, hRest⟩ := List.pairwise_cons.mp h
    rw [find, List.mem_cons]
    by_cases he : e.1 = name
    · rw [if_pos he]
      constructor
      · intro ha
        exact .inl (by rw [← he, ← Option.some.inj ha])
      · rintro (heq | hmem)
        · rw [← heq]
        · -- a later entry of this name would have to come after itself
          have hLater : e.1 < name := hFirst _ hmem
          exact absurd (he ▸ hLater) (String.lt_irrefl name)
    · rw [if_neg he, ih hRest]
      constructor
      · exact .inr
      · rintro (heq | hmem)
        · exact absurd (by rw [← heq]) he
        · exact hmem

theorem get?_eq_some_iff {m : NameMap α} {name : String} {a : α} :
    m.get? name = some a ↔ (name, a) ∈ m.entries :=
  find_eq_some_iff m.ascending

theorem get?_keep (m : NameMap α) (p : String → α → Bool) (name : String) :
    (m.keep p).get? name = (m.get? name).filter (p name) := by
  ext a
  rw [get?_eq_some_iff, keep, List.mem_filter, Option.filter_eq_some_iff, get?_eq_some_iff]

theorem contains_eq_true_iff {m : NameMap α} {name : String} :
    m.contains name = true ↔ ∃ a, m.get? name = some a := by
  rw [contains, Option.isSome_iff_exists]

theorem contains_eq_false_iff {m : NameMap α} {name : String} :
    m.contains name = false ↔ m.get? name = none := by
  rw [contains, Option.isSome_eq_false_iff, Option.isNone_iff_eq_none]

/-! ## Listings -/

theorem mem_names_iff {m : NameMap α} {name : String} :
    name ∈ m.names ↔ m.contains name = true := by
  rw [names, List.mem_map, contains_eq_true_iff]
  constructor
  · rintro ⟨e, he, rfl⟩
    exact ⟨e.2, get?_eq_some_iff.mpr he⟩
  · rintro ⟨a, ha⟩
    exact ⟨(name, a), get?_eq_some_iff.mp ha, rfl⟩

theorem pairwise_names (m : NameMap α) : m.names.Pairwise (· < ·) :=
  List.pairwise_map.mpr m.ascending

/-- Two maps under whose names the same is found, or not, list the same names. -/
theorem names_eq_of_contains_eq {m : NameMap α} {n : NameMap β}
    (h : ∀ name, m.contains name = n.contains name) : m.names = n.names := by
  refine (pairwise_names m).eq_of_mem_iff (pairwise_names n) ?_
  intro name
  rw [mem_names_iff, mem_names_iff, h]

/-- A map that lists some names and has a value for each lists just these. -/
theorem toList_eq_of_names {m : NameMap α} {es : List (String × α)}
    (hNames : m.names = es.map Prod.fst) (h : ∀ e ∈ es, m.get? e.1 = some e.2) :
    m.toList = es := by
  have hAscending : es.Pairwise fun a b => a.1 < b.1 :=
    List.pairwise_map.mp (hNames ▸ m.pairwise_names)
  refine m.ascending.eq_of_mem_iff hAscending ?_
  rintro ⟨name, a⟩
  constructor
  · intro hMem
    -- the name is among those of the list, and its value there is the one that is found
    have hName : name ∈ es.map Prod.fst := hNames ▸ List.mem_map_of_mem (f := Prod.fst) hMem
    obtain ⟨⟨_, b⟩, hMem', rfl⟩ := List.mem_map.mp hName
    obtain rfl : b = a := Option.some.inj ((h _ hMem').symm.trans (get?_eq_some_iff.mpr hMem))
    exact hMem'
  · exact fun hMem => get?_eq_some_iff.mp (h _ hMem)

/-- A map in which one finds what a second one says of the first's values lists just that. -/
theorem toList_eq_filterMap {m : NameMap α} {n : NameMap β} {f : α → Option β}
    (h : ∀ name, n.get? name = (m.get? name).bind f) :
    n.toList = m.toList.filterMap fun e => (f e.2).map fun b => (e.1, b) := by
  have hAscending : (m.toList.filterMap fun e => (f e.2).map fun b => (e.1, b)).Pairwise
      fun a b => a.1 < b.1 := by
    refine m.ascending.filterMap _ ?_
    intro d e hlt b hb c hc
    obtain ⟨_, _, rfl⟩ := Option.map_eq_some_iff.mp hb
    obtain ⟨_, _, rfl⟩ := Option.map_eq_some_iff.mp hc
    exact hlt
  refine n.ascending.eq_of_mem_iff hAscending ?_
  rintro ⟨name, b⟩
  rw [← get?_eq_some_iff, h, Option.bind_eq_some_iff, List.mem_filterMap]
  constructor
  · rintro ⟨a, ha, hb⟩
    exact ⟨(name, a), get?_eq_some_iff.mp ha, by rw [hb, Option.map_some]⟩
  · rintro ⟨⟨other, a⟩, ha, hb⟩
    obtain ⟨c, hc, heq⟩ := Option.map_eq_some_iff.mp hb
    cases heq
    exact ⟨a, get?_eq_some_iff.mpr ha, hc⟩

/-- Of what is made of the entries only that of one name is left if nothing is made of the
others. -/
theorem filterMap_of_name {es : List (String × α)} (h : es.Pairwise fun a b => a.1 < b.1)
    {name : String} {f : String × α → Option β} (hOthers : ∀ e ∈ es, e.1 ≠ name → f e = none) :
    es.filterMap f = ((find name es).bind fun a => f (name, a)).toList := by
  induction es with
  | nil => rfl
  | cons e rest ih =>
    obtain ⟨hFirst, hRest⟩ := List.pairwise_cons.mp h
    obtain ⟨hHere, hThere⟩ := List.forall_mem_cons.mp hOthers
    rw [find]
    by_cases he : e.1 = name
    · -- the names that follow are greater, so nothing is made of them
      have hNone : rest.filterMap f = [] := by
        rw [List.filterMap_eq_nil_iff]
        intro later hMem
        refine hThere later hMem fun hSame => ?_
        have hLater : e.1 < later.1 := hFirst later hMem
        rw [hSame, he] at hLater
        exact String.lt_irrefl name hLater
      have hSelf : (name, e.2) = e := by rw [← he]
      rw [if_pos he, Option.bind_some, hSelf, List.filterMap_cons, hNone]
      cases f e <;> rfl
    · rw [if_neg he, List.filterMap_cons, hHere he, ih hRest hThere]

theorem filterMap_toList_of_name {m : NameMap α} {f : String × α → Option β} (name : String)
    (hOthers : ∀ e ∈ m.toList, e.1 ≠ name → f e = none) :
    m.toList.filterMap f = ((m.get? name).bind fun a => f (name, a)).toList :=
  filterMap_of_name m.ascending hOthers

theorem length_names (m : NameMap α) : m.names.length = m.size := by
  rw [names, List.length_map, size]

/-! ## Maps of lists -/

/-- A name after all others is listed last. -/
theorem place_of_forall_lt {name : String} {a : α} {es : List (String × α)}
    (h : ∀ e ∈ es, e.1 < name) : place name a es = es ++ [(name, a)] := by
  induction es with
  | nil => rfl
  | cons e rest ih =>
    obtain ⟨hFirst, hRest⟩ := List.forall_mem_cons.mp h
    have hNotBefore : ¬ name < e.1 := String.lt_asymm hFirst
    have hOther : e.1 ≠ name := fun hSame => String.lt_irrefl name (hSame ▸ hFirst)
    rw [place, if_neg hNotBefore, if_neg hOther, ih hRest, List.cons_append]

/-- Entries in ascending order are listed as they are. -/
theorem entries_foldl_insert {es : List (String × α)} {m : NameMap α}
    (h : (m.entries ++ es).Pairwise fun a b => a.1 < b.1) :
    (es.foldl (fun m e => m.insert e.1 e.2) m).entries = m.entries ++ es := by
  -- by induction on the entries that are still to come, which come after all that are there
  induction es generalizing m with
  | nil => exact (List.append_nil m.entries).symm
  | cons e rest ih =>
    have hLast : ∀ x ∈ m.entries, x.1 < e.1 := fun x hx =>
      (List.pairwise_append.mp h).2.2 x hx e List.mem_cons_self
    have hInsert : (m.insert e.1 e.2).entries = m.entries ++ [e] := place_of_forall_lt hLast
    rw [List.foldl_cons, ih, hInsert, List.append_assoc, List.singleton_append]
    rw [hInsert, List.append_assoc, List.singleton_append]
    exact h

/-- A map is the map of its entries. -/
theorem ofList_toList (m : NameMap α) : ofList m.toList = m := by
  have hEntries : (ofList m.toList).entries = m.entries := entries_foldl_insert m.ascending
  generalize ofList m.toList = n at hEntries
  cases n
  cases m
  cases hEntries
  rfl

/-! ## What is listed, up to its order -/

theorem nodup_entries (m : NameMap α) : m.entries.Nodup := by
  refine m.ascending.imp fun {e e'} hLess hSame => ?_
  rw [hSame] at hLess
  exact String.lt_irrefl e'.1 hLess

/-- Two listings are the same up to their order if the look-ups in the maps say so. -/
theorem entries_perm {m : NameMap α} {es : List (String × α)} (hNodup : es.Nodup)
    (h : ∀ name a, m.get? name = some a ↔ (name, a) ∈ es) : m.entries.Perm es := by
  refine (List.perm_ext_iff_of_nodup m.nodup_entries hNodup).mpr fun ⟨name, a⟩ => ?_
  rw [← get?_eq_some_iff, h]

theorem mem_entries_erase {m : NameMap α} {name other : String} {a : α} :
    (other, a) ∈ (m.erase name).entries ↔ other ≠ name ∧ m.get? other = some a := by
  rw [← get?_eq_some_iff, get?_erase]
  by_cases h : other = name <;> simp [h]

theorem nodup_cons_erase (m : NameMap α) (name : String) (a : α) :
    ((name, a) :: (m.erase name).entries).Nodup := by
  refine List.nodup_cons.mpr ⟨fun hMem => ?_, (m.erase name).nodup_entries⟩
  exact (mem_entries_erase.mp hMem).1 rfl

/-- To enter something under a name is to have it besides what is there under other names. -/
theorem entries_insert_perm (m : NameMap α) (name : String) (a : α) :
    (m.insert name a).entries.Perm ((name, a) :: (m.erase name).entries) := by
  refine entries_perm (m.nodup_cons_erase name a) fun other b => ?_
  rw [get?_insert, List.mem_cons, mem_entries_erase]
  by_cases h : other = name
  · simp [h, eq_comm]
  · simp [h]

theorem entries_erase_perm {m : NameMap α} {name : String} {a : α} (h : m.get? name = some a) :
    m.entries.Perm ((name, a) :: (m.erase name).entries) := by
  refine entries_perm (m.nodup_cons_erase name a) fun other b => ?_
  rw [List.mem_cons, mem_entries_erase]
  by_cases hName : other = name
  · simp [hName, h, eq_comm]
  · simp [hName]

theorem entries_erase_of_none {m : NameMap α} {name : String} (h : m.get? name = none) :
    m.entries.Perm (m.erase name).entries := by
  refine entries_perm (m.erase name).nodup_entries fun other b => ?_
  rw [mem_entries_erase]
  constructor
  · intro hAt
    refine ⟨fun hSame => ?_, hAt⟩
    rw [hSame, h] at hAt
    cases hAt
  · exact And.right

theorem mem_values_iff {m : NameMap α} {a : α} : a ∈ m.values ↔ ∃ name, m.get? name = some a := by
  rw [values, List.mem_map]
  constructor
  · rintro ⟨⟨name, b⟩, hMem, rfl⟩
    exact ⟨name, get?_eq_some_iff.mpr hMem⟩
  · rintro ⟨name, hAt⟩
    exact ⟨(name, a), get?_eq_some_iff.mp hAt, rfl⟩

theorem values_insert_perm (m : NameMap α) (name : String) (a : α) :
    (m.insert name a).values.Perm (a :: (m.erase name).values) :=
  (m.entries_insert_perm name a).map Prod.snd

theorem values_erase_perm {m : NameMap α} {name : String} {a : α} (h : m.get? name = some a) :
    m.values.Perm (a :: (m.erase name).values) := (entries_erase_perm h).map Prod.snd

theorem values_erase_of_none {m : NameMap α} {name : String} (h : m.get? name = none) :
    m.values.Perm (m.erase name).values := (entries_erase_of_none h).map Prod.snd

end Metering.NameMap
