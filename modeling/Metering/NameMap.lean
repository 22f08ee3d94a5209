/-!
# Metering — maps from names

A `NameMap` holds at most one value for a name and lists its names in ascending order of their
characters, which is the order of every listing and report.

* `get?`, `insert`, `erase`, `keep`, `update` — looking up and changing;
* `names`, `toList`, `size` — listing;
* `get?_insert`, `get?_erase` — what a change does to every look-up.
-/

namespace Metering

/-- Values under names, in ascending order of the names. -/
structure NameMap (α : Type) where
  entries : List (String × α)
  ascending : entries.Pairwise fun a b => a.1 < b.1

namespace NameMap

variable {α β : Type}

/-! ## Entries in order -/

/-- The value under a name. -/
def find (name : String) : List (String × α) → Option α
  | [] => none
  | e :: rest => if e.1 = name then some e.2 else find name rest

/-- The entries with one more, which takes the place of one of the same name. -/
def place (name : String) (a : α) : List (String × α) → List (String × α)
  | [] => [(name, a)]
  | e :: rest =>
    if name < e.1 then (name, a) :: e :: rest
    else if e.1 = name then (name, a) :: rest
    else e :: place name a rest

theorem lt_of_not_lt_of_ne {a b : String} (h : ¬ a < b) (hne : b ≠ a) : b < a := by
  have hle : b ≤ a := String.not_lt.mp h
  by_cases hlt : b < a
  · exact hlt
  · exact absurd (String.le_antisymm hle (String.not_lt.mp hlt)) hne

theorem mem_place {name : String} {a : α} {es : List (String × α)} {x : String × α}
    (h : x ∈ place name a es) : x = (name, a) ∨ x ∈ es := by
  induction es with
  | nil => simpa [place] using h
  | cons e rest ih =>
    rw [place] at h
    split at h
    · simpa using h
    · split at h
      · rcases List.mem_cons.mp h with rfl | h
        · exact .inl rfl
        · exact .inr (List.mem_cons_of_mem _ h)
      · rcases List.mem_cons.mp h with rfl | h
        · exact .inr (by simp)
        · rcases ih h with h | h
          · exact .inl h
          · exact .inr (List.mem_cons_of_mem _ h)

theorem pairwise_place (name : String) (a : α) {es : List (String × α)}
    (h : es.Pairwise fun a b => a.1 < b.1) :
    (place name a es).Pairwise fun a b => a.1 < b.1 := by
  induction es with
  | nil => simp [place]
  | cons e rest ih =>
    obtain ⟨hfirst, hrest⟩ := List.pairwise_cons.mp h
    rw [place]
    split
    next hlt =>
      refine List.pairwise_cons.mpr ⟨fun x hx => ?_, h⟩
      rcases List.mem_cons.mp hx with rfl | hx
      · exact hlt
      · exact String.lt_trans hlt (hfirst x hx)
    next hnlt =>
      split
      next heq => exact List.pairwise_cons.mpr ⟨fun x hx => heq ▸ hfirst x hx, hrest⟩
      next hne =>
        refine List.pairwise_cons.mpr ⟨fun x hx => ?_, ih hrest⟩
        rcases mem_place hx with rfl | hx
        · exact lt_of_not_lt_of_ne hnlt hne
        · exact hfirst x hx

/-! ## The map -/

/-- The map without entries. -/
def empty : NameMap α := ⟨[], List.Pairwise.nil⟩

instance : Inhabited (NameMap α) := ⟨empty⟩

/-- The value under a name. -/
def get? (m : NameMap α) (name : String) : Option α := find name m.entries

/-- Whether there is a value under a name. -/
def contains (m : NameMap α) (name : String) : Bool := (m.get? name).isSome

/-- The map with a value under a name, in place of the one that was there. -/
def insert (m : NameMap α) (name : String) (a : α) : NameMap α :=
  ⟨place name a m.entries, pairwise_place name a m.ascending⟩

/-- The entries that pass a test. -/
def keep (m : NameMap α) (p : String → α → Bool) : NameMap α :=
  ⟨m.entries.filter fun e => p e.1 e.2, m.ascending.filter _⟩

/-- The map without the entry of a name. -/
def erase (m : NameMap α) (name : String) : NameMap α := m.keep fun n _ => n ≠ name

/-- The map with every value changed by a function of its name and itself. -/
def update (m : NameMap α) (f : String → α → β) : NameMap β :=
  ⟨m.entries.map fun e => (e.1, f e.1 e.2), List.pairwise_map.mpr m.ascending⟩

/-- The map of a list of entries, of which a later one takes the place of an earlier one. -/
def ofList (es : List (String × α)) : NameMap α :=
  es.foldl (fun m e => m.insert e.1 e.2) empty

/-- The entries in ascending order of their names. -/
def toList (m : NameMap α) : List (String × α) := m.entries

/-- The names in ascending order. -/
def names (m : NameMap α) : List String := m.entries.map Prod.fst

/-- The values in the order of their names. -/
def values (m : NameMap α) : List α := m.entries.map Prod.snd

/-- How many names there are. -/
def size (m : NameMap α) : Nat := m.entries.length

/-! ## Look-ups after a change -/

theorem find_place_self (name : String) (a : α) (es : List (String × α)) :
    find name (place name a es) = some a := by
  induction es with
  | nil => simp [place, find]
  | cons e rest ih =>
    rw [place]
    split
    · simp [find]
    · split
      · simp [find]
      next hne => rw [find, if_neg hne, ih]

theorem find_place_of_ne {name other : String} (h : other ≠ name) (a : α)
    (es : List (String × α)) : find other (place name a es) = find other es := by
  induction es with
  | nil => simp [place, find, h.symm]
  | cons e rest ih =>
    rw [place]
    split
    · rw [find, if_neg h.symm]
    · split
      next heq => rw [find, find, if_neg h.symm, if_neg (fun e' => h (e'.symm.trans heq))]
      · rw [find, find, ih]

theorem get?_insert (m : NameMap α) (name other : String) (a : α) :
    (m.insert name a).get? other = if other = name then some a else m.get? other := by
  by_cases h : other = name
  · rw [if_pos h, h]; exact find_place_self name a m.entries
  · rw [if_neg h]; exact find_place_of_ne h a m.entries

theorem find_filter_ne (name other : String) (es : List (String × α)) :
    find other (es.filter fun e => decide (e.1 ≠ name)) =
      if other = name then none else find other es := by
  induction es with
  | nil => simp [find]
  | cons e rest ih =>
    by_cases he : e.1 = name
    · rw [List.filter_cons_of_neg (by simp [he]), ih, find]
      by_cases ho : other = name
      · simp [ho]
      · simp [ho, he, Ne.symm ho]
    · rw [List.filter_cons_of_pos (by simp [he]), find, ih, find]
      by_cases heo : e.1 = other
      · rw [if_pos heo, if_pos heo, if_neg (heo ▸ he)]
      · rw [if_neg heo, if_neg heo]

theorem get?_erase (m : NameMap α) (name other : String) :
    (m.erase name).get? other = if other = name then none else m.get? other :=
  find_filter_ne name other m.entries

end NameMap

end Metering
