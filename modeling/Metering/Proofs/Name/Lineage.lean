import Metering.Proofs.Name.Expansion

/-!
# Metering — the names above a name

One goes up from a name by cutting it at its last dot, until there is no dot left. The names on the
way are those that the name goes on behind with a dot, and no others, whatever its segments are:
empty ones, a dot in front or a dot at the end make no difference.

* `Covers` — a name is another one, or the other goes on behind it with a dot;
* `parent?_eq_some_iff`, `parent?_eq_none_iff` — a step up cuts at the last dot;
* `up_induction` — induction along the way up, which ends because names get shorter;
* `covers_iff_of_parent?`, `covers_iff_of_top` — what covers a name is the name itself or covers
  the name directly above it;
* `lineage_eq`, `mem_lineage_iff` — the lineage is this way, and holds the names that cover a name;
* `Covers.total` — of two names that cover a third one, one covers the other.
-/

namespace Metering.Name

open Text

variable {name upper lower key : String} {seg : List Char}

/-! ## One step up -/

theorem segments_ne_nil (name : String) : segments name ≠ [] := pieces_ne_nil '.' name.toList

theorem dot_notMem_of_mem_segments (h : seg ∈ segments name) : '.' ∉ seg :=
  sep_notMem_of_mem_pieces h

theorem segments_eq_of_append {last : List Char} (hLast : '.' ∉ last)
    (h : name.toList = upper.toList ++ '.' :: last) : segments name = segments upper ++ [last] := by
  rw [segments, h, pieces_append, pieces_of_notMem '.' hLast]
  rfl

theorem ofSegments_segments (name : String) : ofSegments (segments name) = name := by
  rw [ofSegments, segments, joined_pieces, String.ofList_toList]

/-- The name directly above ends at the last dot. -/
theorem parent?_eq_some_iff :
    parent? name = some upper ↔
      ∃ last, '.' ∉ last ∧ name.toList = upper.toList ++ '.' :: last := by
  constructor
  · intro h
    rw [parent?] at h
    split at h
    · cases h
    · next hAbove =>
      obtain rfl := Option.some.inj h
      have hNonempty := segments_ne_nil name
      have hLast := List.getLast_mem hNonempty
      refine ⟨(segments name).getLast hNonempty, dot_notMem_of_mem_segments hLast, ?_⟩
      -- the segments but the last, joined, are what stands before the last dot
      calc name.toList
          = joined '.' ((segments name).dropLast ++ [(segments name).getLast hNonempty]) := by
            rw [List.dropLast_append_getLast, segments, joined_pieces]
        _ = joined '.' (segments name).dropLast ++ '.' :: (segments name).getLast hNonempty :=
            joined_concat '.' hAbove _
        _ = _ := by rw [ofSegments, String.toList_ofList]
  · rintro ⟨last, hLast, hName⟩
    have hAbove : (segments name).dropLast = segments upper := by
      rw [segments_eq_of_append hLast hName, List.dropLast_concat]
    rw [parent?]
    split
    · next hNone =>
      rw [hAbove] at hNone
      exact absurd hNone (segments_ne_nil upper)
    · rw [hAbove, ofSegments_segments]

theorem parent?_eq_none_iff : parent? name = none ↔ '.' ∉ name.toList := by
  constructor
  · intro h hDot
    obtain ⟨front, rest, hName⟩ := List.append_of_mem hDot
    have hSegments : segments name = pieces '.' front ++ pieces '.' rest := by
      rw [segments, hName, pieces_append]
    have hAbove : (segments name).dropLast ≠ [] := by
      rw [hSegments, List.dropLast_append_of_ne_nil (pieces_ne_nil '.' rest)]
      exact List.append_ne_nil_of_left_ne_nil (pieces_ne_nil '.' front) _
    rw [parent?] at h
    split at h
    · next hNone => exact hAbove hNone
    · cases h
  · intro h
    rw [parent?, segments, pieces_of_notMem '.' h]
    rfl

theorem standsAbove_of_parent? (h : parent? name = some upper) :
    StandsAbove upper.toList name.toList := by
  obtain ⟨last, -, hName⟩ := parent?_eq_some_iff.mp h
  exact ⟨last, hName⟩

theorem length_lt_of_standsAbove (h : StandsAbove upper.toList lower.toList) :
    upper.length < lower.length := by
  obtain ⟨rest, hRest⟩ := h
  rw [← String.length_toList, ← String.length_toList, hRest, List.length_append, List.length_cons]
  omega

/-- What holds of a name if it holds of the name directly above, if there is one, holds of every
name. -/
theorem up_induction {P : String → Prop}
    (step : ∀ name, (∀ upper, parent? name = some upper → P upper) → P name) (name : String) :
    P name := by
  induction name using (measure String.length).wf.induction with
  | h name ih =>
    refine step name fun upper hUp => ih upper ?_
    exact length_lt_of_standsAbove (standsAbove_of_parent? hUp)

/-! ## Covering -/

/-- A name covers itself and every name that begins with it and a dot. -/
def Covers (upper lower : String) : Prop :=
  upper = lower ∨ StandsAbove upper.toList lower.toList

instance (upper lower : List Char) : Decidable (StandsAbove upper lower) :=
  decidable_of_iff ((upper ++ ['.']).isPrefixOf lower = true) <| by
    rw [List.isPrefixOf_iff_prefix, StandsAbove]
    constructor
    · rintro ⟨rest, h⟩
      exact ⟨rest, by rw [← h, List.append_assoc, List.singleton_append]⟩
    · rintro ⟨rest, h⟩
      exact ⟨rest, by rw [h, List.append_assoc, List.singleton_append]⟩

instance (upper lower : String) : Decidable (Covers upper lower) :=
  inferInstanceAs (Decidable (_ ∨ _))

theorem Covers.refl (name : String) : Covers name name := .inl rfl

theorem Covers.trans (hUpper : Covers key upper) (hLower : Covers upper lower) :
    Covers key lower := by
  rcases hUpper with rfl | hUpper
  · exact hLower
  · rcases hLower with rfl | hLower
    · exact .inr hUpper
    · exact .inr (hUpper.trans hLower)

theorem Covers.length_le (h : Covers upper lower) : upper.length ≤ lower.length := by
  rcases h with rfl | h
  · exact Nat.le_refl _
  · exact Nat.le_of_lt (length_lt_of_standsAbove h)

theorem Covers.eq_of_length_le (h : Covers upper lower) (hLength : lower.length ≤ upper.length) :
    upper = lower :=
  h.resolve_right fun hAbove => absurd (length_lt_of_standsAbove hAbove) (Nat.not_lt.mpr hLength)

theorem covers_of_parent? (h : parent? name = some upper) : Covers upper name :=
  .inr (standsAbove_of_parent? h)

/-- What stands above a name covers the name directly above it: no dot comes after the last. -/
theorem covers_of_standsAbove (hUp : parent? name = some upper)
    (h : StandsAbove key.toList name.toList) : Covers key upper := by
  obtain ⟨last, hLast, hName⟩ := parent?_eq_some_iff.mp hUp
  obtain ⟨rest, hRest⟩ := h
  rw [hRest] at hName
  rcases List.append_eq_append_iff.mp hName with
    ⟨between, hUpper, hBetween⟩ | ⟨between, hKey, hBetween⟩
  · cases between with
    | nil =>
      rw [List.append_nil] at hUpper
      exact .inl (String.toList_inj.mp hUpper.symm)
    | cons c more =>
      obtain ⟨rfl, -⟩ := List.cons.inj hBetween
      exact .inr ⟨more, hUpper⟩
  · cases between with
    | nil =>
      rw [List.append_nil] at hKey
      exact .inl (String.toList_inj.mp hKey)
    | cons c more =>
      -- the dot behind the key would come after the last dot of the name
      obtain ⟨-, hMore⟩ := List.cons.inj hBetween
      exact absurd (by rw [hMore]; simp) hLast

/-- What covers a name is the name itself or covers the name directly above it. -/
theorem covers_iff_of_parent? (hUp : parent? name = some upper) :
    Covers key name ↔ key = name ∨ Covers key upper := by
  constructor
  · rintro (rfl | hAbove)
    · exact .inl rfl
    · exact .inr (covers_of_standsAbove hUp hAbove)
  · rintro (rfl | hCovers)
    · exact .refl key
    · exact hCovers.trans (covers_of_parent? hUp)

/-- Where the way up ends, a name is covered by itself alone. -/
theorem covers_iff_of_top (hTop : parent? name = none) : Covers key name ↔ key = name := by
  constructor
  · rintro (hSame | ⟨rest, hRest⟩)
    · exact hSame
    · exact absurd (by rw [hRest]; simp) (parent?_eq_none_iff.mp hTop)
  · rintro rfl
    exact .refl key

/-- Of two names that cover a third one, one covers the other. -/
theorem Covers.total {other : String} (h : Covers key name) (hOther : Covers other name) :
    Covers key other ∨ Covers other key := by
  induction name using up_induction with
  | step name ih =>
    cases hUp : parent? name with
    | none =>
      rw [(covers_iff_of_top hUp).mp h, (covers_iff_of_top hUp).mp hOther]
      exact .inl (.refl name)
    | some upper =>
      rcases (covers_iff_of_parent? hUp).mp h with rfl | hKey
      · exact .inr hOther
      · rcases (covers_iff_of_parent? hUp).mp hOther with rfl | hOther
        · exact .inl h
        · exact ih upper hUp hKey hOther

/-! ## Lineages -/

theorem beginnings_concat {α : Type} (front : List α) (last : α) :
    beginnings (front ++ [last]) = (front ++ [last]) :: beginnings front := by
  induction front with
  | nil => rfl
  | cons a rest ih =>
    rw [List.cons_append, beginnings, ih, beginnings, List.map_cons, List.cons_append]

/-- The lineage of a name is the name itself and the lineage of the name directly above. -/
theorem lineage_eq (name : String) : lineage name = name :: (parent? name).elim [] lineage := by
  cases hUp : parent? name with
  | none =>
    rw [lineage, segments, pieces_of_notMem '.' (parent?_eq_none_iff.mp hUp)]
    show [String.ofList name.toList] = _
    rw [String.ofList_toList]
    rfl
  | some upper =>
    obtain ⟨last, hLast, hName⟩ := parent?_eq_some_iff.mp hUp
    have hSegments := segments_eq_of_append hLast hName
    rw [lineage, hSegments, beginnings_concat, List.map_cons, ← hSegments, ofSegments_segments]
    rfl

/-- The lineage of a name holds the names that cover it. -/
theorem mem_lineage_iff : key ∈ lineage name ↔ Covers key name := by
  induction name using up_induction with
  | step name ih =>
    rw [lineage_eq, List.mem_cons]
    cases hUp : parent? name with
    | none =>
      rw [covers_iff_of_top hUp, Option.elim_none]
      simp
    | some upper => rw [covers_iff_of_parent? hUp, Option.elim_some, ih upper hUp]

-- a dot in front puts the empty name above, and the same letters alone put nothing above
example : lineage ".a." = [".a.", ".a", ""] ∧ Covers "" ".a." ∧ ¬ Covers ".a" ".ab" := by decide

end Metering.Name
