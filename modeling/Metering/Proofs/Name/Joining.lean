import Mathlib.Data.List.Basic
import Metering.Name

/-!
# Metering — names that are put together

A name is put together from parts, and each part may itself be a name of several segments. Parts
that are empty vanish, but an empty segment within a part stays: the dots of a part are as good as
the dots between parts.

* `present` — the parts that are not empty;
* `ofParts_eq_empty_iff` — the name that is empty;
* `segments_ofParts` — the segments of a name, part by part;
* `ofParts_ofParts` — a name that is put together step by step;
* `isMarked_ofParts` — when a name that was put together has markers;
* `building_respects_segments` — the main result.
-/

namespace Metering.Name

open Text

variable {first : String} {rest : List String}

/-- The parts of a name that are not empty. -/
def present (parts : List String) : List String := parts.filter (· ≠ "")

theorem ofParts_eq (first : String) (rest : List String) :
    ofParts first rest = ofSegments ((present (first :: rest)).map String.toList) := rfl

theorem toList_ofParts (first : String) (rest : List String) :
    (ofParts first rest).toList = joined '.' ((present (first :: rest)).map String.toList) := by
  rw [ofParts_eq, ofSegments, String.toList_ofList]

theorem present_eq_nil_iff {parts : List String} :
    present parts = [] ↔ ∀ part ∈ parts, part = "" := by
  simp only [present, List.filter_eq_nil_iff, decide_eq_true_eq, not_not]

theorem present_cons (part : String) (parts : List String) :
    present (part :: parts) = if part = "" then present parts else part :: present parts := by
  by_cases h : part = "" <;> simp [present, h]

theorem ofParts_of_empty (h : present (first :: rest) = []) : ofParts first rest = "" := by
  rw [ofParts_eq, h]
  rfl

/-- Only parts that are all empty make an empty name. -/
theorem ofParts_eq_empty_iff : ofParts first rest = "" ↔ present (first :: rest) = [] := by
  refine ⟨fun h => ?_, ofParts_of_empty⟩
  have hText := toList_ofParts first rest
  rw [h] at hText
  cases hParts : present (first :: rest) with
  | nil => rfl
  | cons part parts =>
    -- the first part that is there has a character, and the name begins with it
    have hMem : part ∈ present (first :: rest) := hParts ▸ List.mem_cons_self
    have hNe : part.toList ≠ [] := by
      have hPart : decide (part ≠ "") = true := (List.mem_filter.mp hMem).2
      simpa using hPart
    rw [hParts] at hText
    cases parts with
    | nil => exact absurd hText.symm hNe
    | cons _ _ => simp [joined, hNe] at hText

/-- The segments of a name are those of its parts, one part after another. -/
theorem segments_ofParts (h : present (first :: rest) ≠ []) :
    segments (ofParts first rest) = (present (first :: rest)).flatMap segments := by
  rw [segments, toList_ofParts, pieces_joined_flatMap '.' (by simpa using h), List.flatMap_map]
  rfl

/-- A name may be put together step by step. -/
theorem ofParts_ofParts (first : String) (rest more : List String) :
    ofParts (ofParts first rest) more = ofParts first (rest ++ more) := by
  have hAll : present (first :: (rest ++ more)) = present (first :: rest) ++ present more :=
    List.filter_append (first :: rest) more
  rw [ofParts_eq, ofParts_eq first (rest ++ more), hAll, present_cons]
  by_cases hEmpty : present (first :: rest) = []
  · rw [if_pos (ofParts_of_empty hEmpty), hEmpty, List.nil_append]
  · rw [if_neg (mt ofParts_eq_empty_iff.mp hEmpty), List.map_cons, toList_ofParts, List.map_append,
      ofSegments, ofSegments, joined_cons_joined '.' (by simpa using hEmpty)]

/-- A name that was put together has markers if and only if one of its parts has. -/
theorem isMarked_ofParts (first : String) (rest : List String) :
    isMarked (ofParts first rest) = (first :: rest).any isMarked := by
  have hPresent : (present (first :: rest)).any isMarked = (first :: rest).any isMarked := by
    rw [present, List.any_filter]
    refine List.any_congr rfl fun part => ?_
    by_cases hPart : part = ""
    · rw [hPart]; rfl
    · simp [hPart]
  rw [← hPresent]
  by_cases hEmpty : present (first :: rest) = []
  · rw [ofParts_of_empty hEmpty, hEmpty]
    rfl
  · rw [isMarked, segments_ofParts hEmpty, List.any_flatMap]
    rfl

theorem ofMethod_relative {explicit : String} (h : explicit ≠ "") (absolute : Bool)
    (scope method : String) :
    ofMethod (some explicit) false scope method =
      ofParts (ofMethod none absolute scope method) [explicit] := by
  have hThere : (some explicit).filter (· ≠ "") = some explicit := by
    rw [Option.filter_some, if_pos (by simpa using h)]
  rw [ofMethod, hThere]
  exact (ofParts_ofParts scope [method] [explicit]).symm

/-- However a name is put together, its segments are those of the parts that are not empty, in their
order. So it does not matter how the parts were put together before, a name has markers if and only
if one of its parts has, and an explicit name that is relative is put under what the metric would be
called without it. -/
theorem building_respects_segments :
    (∀ first rest, (∃ part ∈ first :: rest, part ≠ "") →
      segments (ofParts first rest) = ((first :: rest).filter (· ≠ "")).flatMap segments) ∧
    (∀ first rest more, ofParts (ofParts first rest) more = ofParts first (rest ++ more)) ∧
    (∀ first rest, isMarked (ofParts first rest) = true ↔
      ∃ part ∈ first :: rest, isMarked part = true) ∧
    ∀ explicit scope method absolute, explicit ≠ "" →
      ofMethod (some explicit) false scope method =
        ofParts (ofMethod none absolute scope method) [explicit] := by
  refine ⟨fun first rest hSome => segments_ofParts fun hNone => ?_, ofParts_ofParts,
    fun first rest => ?_, fun explicit scope method absolute h => ?_⟩
  · obtain ⟨part, hMem, hNe⟩ := hSome
    exact hNe (present_eq_nil_iff.mp hNone part hMem)
  · rw [isMarked_ofParts, List.any_eq_true]
  · exact ofMethod_relative h absolute scope method

/-- Empty segments stay within a part, at its ends as well, while an empty part goes. -/
theorem building_respects_segments_of_dots :
    segments (ofParts "" ["a.", "", ".b[+]"]) = [['a'], [], [], ['b', '[', '+', ']']] ∧
    isMarked (ofParts "" ["a.", "", ".b[+]"]) = true ∧
    ofMethod (some "c") false "" "m" = ofParts (ofMethod none true "" "m") ["c"] := by
  obtain ⟨hSegments, -, hMarked, hMethod⟩ := building_respects_segments
  refine ⟨?_, ?_, hMethod "c" "" "m" true (by decide)⟩
  · rw [hSegments "" ["a.", "", ".b[+]"] ⟨"a.", by decide, by decide⟩]
    decide
  · exact (hMarked "" ["a.", "", ".b[+]"]).mpr ⟨".b[+]", by decide, by decide⟩

end Metering.Name
