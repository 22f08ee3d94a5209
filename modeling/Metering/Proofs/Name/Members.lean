import Metering.Proofs.Name.Lineage
import Metering.Proofs.Name.Spelling

/-!
# Metering — the names of an expansion

The names that a name with markers stands for end in one statistic, and their paths stand one above
the other, so that none comes twice. As a rule they are plain: from each marked segment a marker is
removed. But a segment that ends in two of them keeps one, and the names that hold it are no plain
names.

* `PathAbove` — the path of a name stands above that of another one;
* `hierarchy_shape` — how many names there are, how they end, and how they are ordered;
* `isMarkedSegment_iff`, `isMarkedSegment_plain_iff` — a marked segment, and one that is still
  marked when a marker is removed;
* `isMarked_spelled` — what makes a spelled name one with markers;
* `marked_member_iff`, `marked_primary` — an expansion holds names with markers just if a segment
  ends in two of them, and then the first of its names is one.
-/

namespace Metering.Name

open Text

variable {name : String} {members : List String} {seg : List Char} {segs : List (List Char)}

/-! ## Shape -/

/-- Both names have a name above them, and that of the first stands above that of the second. -/
def PathAbove (a b : String) : Prop :=
  ∃ p q, parent? a = some p ∧ parent? b = some q ∧ StandsAbove p.toList q.toList

theorem getLastD_mem (h : segs ≠ []) : segs.getLastD [] ∈ segs := by
  rw [List.getLastD_eq_getLast?, List.getLast?_eq_some_getLast h, Option.getD_some]
  exact List.getLast_mem h

theorem parent?_under {path statistic : List Char} (h : '.' ∉ statistic) :
    parent? (under path statistic) = some (String.ofList path) := by
  refine parent?_eq_some_iff.mpr ⟨statistic, h, ?_⟩
  rw [under, String.toList_ofList, String.toList_ofList]

theorem pathAbove_under {upper lower statistic : List Char} (h : '.' ∉ statistic)
    (hAbove : StandsAbove upper lower) :
    PathAbove (under upper statistic) (under lower statistic) := by
  refine ⟨_, _, parent?_under h, parent?_under h, ?_⟩
  rw [String.toList_ofList, String.toList_ofList]
  exact hAbove

/-- What is not marked adds nothing to the count of marks. -/
theorem countP_dropLast (h : isMarkedSegment (segs.getLastD []) = false) :
    segs.dropLast.countP isMarkedSegment = segs.countP isMarkedSegment := by
  rcases List.eq_nil_or_concat segs with rfl | ⟨front, last, rfl⟩
  · rfl
  · rw [List.concat_eq_append] at h ⊢
    rw [List.getLastD_concat] at h
    rw [List.dropLast_concat, List.countP_append, List.countP_singleton, h]
    rfl

/-- An expansion has one name for the metric and one for each marked segment, no two the same. All
end in the statistic of the name. The path of each ancestor stands above that of the next, and
all of them stand above the path of the metric itself. -/
theorem hierarchy_shape (h : hierarchy name = .ok members) :
    members.length = 1 + (segments name).countP isMarkedSegment ∧
    members.Nodup ∧
    (∀ member ∈ members, ∃ path, member.toList = path ++ '.' :: (segments name).getLastD []) ∧
    members.tail.Pairwise PathAbove ∧
    ∀ primary, members.head? = some primary → ∀ ancestor ∈ members.tail,
      PathAbove ancestor primary := by
  have hNodup : members.Nodup := hierarchy_nodup h
  obtain ⟨-, hStatistic, hLeaf, rfl⟩ := hierarchy_eq_ok_iff.mp h
  have hDot : '.' ∉ (segments name).getLastD [] :=
    dot_notMem_of_mem_segments (getLastD_mem (segments_ne_nil name))
  refine ⟨?_, hNodup, ?_, ?_, ?_⟩
  · rw [length_expansion, countP_dropLast hStatistic]
  · intro member hMem
    obtain ⟨path, rfl⟩ : ∃ path, member = under path ((segments name).getLastD []) := by
      rcases List.mem_cons.mp hMem with rfl | hMem
      · exact ⟨_, rfl⟩
      · obtain ⟨path, -, rfl⟩ := List.mem_map.mp hMem
        exact ⟨path, rfl⟩
    exact ⟨path, by rw [under, String.toList_ofList]⟩
  · -- the marked paths grow out of one another
    have hPaths := pairwise_markedPaths [] (segments name).dropLast
    exact hPaths.map _ fun upper lower hAbove => pathAbove_under hDot hAbove
  · intro primary hPrimary ancestor hMem
    obtain rfl := Option.some.inj hPrimary
    obtain ⟨path, hPath, rfl⟩ := List.mem_map.mp hMem
    exact pathAbove_under hDot (standsAbove_foldl_of_mem_markedPaths hLeaf hPath)

/-- Segments that are empty, that are nothing but a marker, or that hold one elsewhere are no marked
ones, and consecutive marks make consecutive ancestors. -/
theorem hierarchy_shape_mixed :
    hierarchy "[+].a[+].b[+]..[+]c.d.s" = .ok ["[+].a.b..[+]c.d.s", "[+].a.s", "[+].a.b.s"] ∧
      3 = 1 + (segments "[+].a[+].b[+]..[+]c.d.s").countP isMarkedSegment ∧
      ["[+].a.b..[+]c.d.s", "[+].a.s", "[+].a.b.s"].Nodup ∧ PathAbove "[+].a.s" "[+].a.b.s" ∧
      PathAbove "[+].a.b.s" "[+].a.b..[+]c.d.s" := by
  have hExpanded : hierarchy "[+].a[+].b[+]..[+]c.d.s" =
      .ok ["[+].a.b..[+]c.d.s", "[+].a.s", "[+].a.b.s"] := rfl
  obtain ⟨hLength, hNodup, -, hAncestors, hPrimary⟩ := hierarchy_shape hExpanded
  refine ⟨hExpanded, hLength, hNodup, ?_, hPrimary _ rfl _ (by decide)⟩
  exact (List.pairwise_cons.mp hAncestors).1 _ (by decide)

/-! ## Markers that are left -/

/-- A marked segment is a marker behind something else. -/
theorem isMarkedSegment_iff :
    isMarkedSegment seg = true ↔ ∃ bare, bare ≠ [] ∧ seg = bare ++ marker := by
  rw [isMarkedSegment, unmarked?]
  constructor
  · intro h
    split at h
    · next hMark =>
      rw [Bool.and_eq_true, decide_eq_true_eq, List.isSuffixOf_iff_suffix] at hMark
      obtain ⟨⟨bare, rfl⟩, hLength⟩ := hMark
      refine ⟨bare, ?_, rfl⟩
      rintro rfl
      exact absurd hLength (by simp)
    · cases h
  · rintro ⟨bare, hBare, rfl⟩
    have hLength : marker.length < (bare ++ marker).length := by
      have hPositive := List.length_pos_iff.mpr hBare
      rw [List.length_append]
      omega
    rw [if_pos, Option.isSome_some]
    rw [Bool.and_eq_true, decide_eq_true_eq, List.isSuffixOf_iff_suffix]
    exact ⟨List.suffix_append bare marker, hLength⟩

theorem plain_append_marker {bare : List Char} (h : bare ≠ []) : plain (bare ++ marker) = bare := by
  have hMarked : isMarkedSegment (bare ++ marker) = true := isMarkedSegment_iff.mpr ⟨bare, h, rfl⟩
  rw [isMarkedSegment, unmarked?] at hMarked
  rw [plain, unmarked?]
  split at hMarked
  · next hMark =>
    rw [if_pos hMark, Option.getD_some, List.length_append, Nat.add_sub_cancel, List.take_left]
  · cases hMarked

/-- A segment is still marked when a marker is removed just if it ends in two of them. -/
theorem isMarkedSegment_plain_iff :
    isMarkedSegment (plain seg) = true ↔ ∃ bare, bare ≠ [] ∧ seg = bare ++ marker ++ marker := by
  constructor
  · intro h
    -- a segment that has no marker would not be changed, and so not be marked
    have hMarked : isMarkedSegment seg = true := by
      by_contra hNot
      rw [plain_of_unmarked (Bool.eq_false_iff.mpr hNot)] at h
      exact hNot h
    obtain ⟨once, hOnce, rfl⟩ := isMarkedSegment_iff.mp hMarked
    rw [plain_append_marker hOnce] at h
    obtain ⟨bare, hBare, rfl⟩ := isMarkedSegment_iff.mp h
    exact ⟨bare, hBare, rfl⟩
  · rintro ⟨bare, hBare, rfl⟩
    rw [plain_append_marker (by simp [marker])]
    exact isMarkedSegment_iff.mpr ⟨bare, hBare, rfl⟩

theorem dot_notMem_plain (h : '.' ∉ seg) : '.' ∉ plain seg := by
  cases hMark : isMarkedSegment seg with
  | false => rwa [plain_of_unmarked hMark]
  | true =>
    obtain ⟨bare, hBare, rfl⟩ := isMarkedSegment_iff.mp hMark
    rw [plain_append_marker hBare]
    exact fun hDot => h (List.mem_append_left _ hDot)

theorem segments_spelled (hNonempty : segs ≠ []) (hDots : ∀ seg ∈ segs, '.' ∉ seg) :
    segments (spelled segs) = segs.map plain := by
  rw [segments, spelled, ofSegments, String.toList_ofList]
  refine pieces_joined '.' (by simpa using hNonempty) fun p hp => ?_
  obtain ⟨seg, hSeg, rfl⟩ := List.mem_map.mp hp
  exact dot_notMem_plain (hDots seg hSeg)

/-- A spelled name has markers just if one of its segments ended in two of them. -/
theorem isMarked_spelled (hNonempty : segs ≠ []) (hDots : ∀ seg ∈ segs, '.' ∉ seg) :
    isMarked (spelled segs) = true ↔ ∃ bare, bare ≠ [] ∧ bare ++ marker ++ marker ∈ segs := by
  rw [isMarked, segments_spelled hNonempty hDots, List.any_map, List.any_eq_true]
  constructor
  · rintro ⟨seg, hSeg, hMarked⟩
    obtain ⟨bare, hBare, rfl⟩ := isMarkedSegment_plain_iff.mp hMarked
    exact ⟨bare, hBare, hSeg⟩
  · rintro ⟨bare, hBare, hSeg⟩
    exact ⟨_, hSeg, isMarkedSegment_plain_iff.mpr ⟨bare, hBare, rfl⟩⟩

theorem mem_withoutEmptyFront (h : seg ≠ []) : seg ∈ withoutEmptyFront segs ↔ seg ∈ segs := by
  fun_induction withoutEmptyFront segs with
  | case1 leaf statistic rest ih =>
    constructor
    · intro hMem
      exact List.mem_cons_of_mem _ (ih.mp hMem)
    · intro hMem
      exact ih.mpr ((List.mem_cons.mp hMem).resolve_left h)
  | case2 => exact Iff.rfl

theorem withoutEmptyFront_ne_nil (h : segs ≠ []) : withoutEmptyFront segs ≠ [] := by
  fun_induction withoutEmptyFront segs with
  | case1 leaf statistic rest ih => exact ih (List.cons_ne_nil _ _)
  | case2 => exact h

theorem withoutEmptyFront_subset (segs : List (List Char)) : withoutEmptyFront segs ⊆ segs := by
  fun_induction withoutEmptyFront segs with
  | case1 leaf statistic rest ih => exact List.Subset.trans ih (List.subset_cons_self _ _)
  | case2 => exact List.Subset.refl _

/-- Every name of an unfolding is spelled by some of the segments. -/
theorem exists_spelled_of_mem_unfolding {member : String} (hNonempty : segs ≠ [])
    (h : member ∈ unfolding segs) : ∃ own, own ≠ [] ∧ own ⊆ segs ∧ member = spelled own := by
  rcases List.mem_cons.mp h with rfl | h
  · exact ⟨segs, hNonempty, List.Subset.refl _, rfl⟩
  · obtain ⟨upper, hUpper, rfl⟩ := List.mem_map.mp h
    have hPrefix : upper <+: segs := (List.mem_inits _ _).mp (List.mem_filter.mp hUpper).1
    refine ⟨upper ++ [segs.getLastD []], by simp, fun seg hSeg => ?_, rfl⟩
    rcases List.mem_append.mp hSeg with hUpper | hLast
    · exact hPrefix.subset hUpper
    · rw [List.mem_singleton.mp hLast]
      exact getLastD_mem hNonempty

theorem eq_unfolding_of_hierarchy (h : hierarchy name = .ok members) :
    members = unfolding (withoutEmptyFront (segments name)) := by
  have hNoError : ∀ defect, hierarchy name ≠ .error (.invalidName name defect) := by
    intro defect hError
    rw [h] at hError
    cases hError
  exact Except.ok.inj (h.symm.trans (hierarchy_eq_unfolding hNoError))

/-- The first name of an expansion is spelled by all segments but empty ones. -/
theorem isMarked_primary_iff (name : String) :
    isMarked (spelled (withoutEmptyFront (segments name))) = true ↔
      ∃ bare, bare ≠ [] ∧ bare ++ marker ++ marker ∈ segments name := by
  rw [isMarked_spelled (withoutEmptyFront_ne_nil (segments_ne_nil name)) fun seg hSeg =>
    dot_notMem_of_mem_segments (withoutEmptyFront_subset _ hSeg)]
  refine exists_congr fun bare => and_congr_right fun _ => mem_withoutEmptyFront ?_
  simp [marker]

/-- An expansion holds a name with markers just if some segment of the name ends in two of them
behind something else. -/
theorem marked_member_iff (h : hierarchy name = .ok members) :
    (∃ member ∈ members, isMarked member = true) ↔
      ∃ bare, bare ≠ [] ∧ bare ++ marker ++ marker ∈ segments name := by
  obtain rfl := eq_unfolding_of_hierarchy h
  constructor
  · rintro ⟨member, hMem, hMarked⟩
    have hFront := withoutEmptyFront_ne_nil (segments_ne_nil name)
    obtain ⟨own, hOwn, hSubset, rfl⟩ := exists_spelled_of_mem_unfolding hFront hMem
    have hWhole : own ⊆ segments name :=
      List.Subset.trans hSubset (withoutEmptyFront_subset _)
    rw [isMarked_spelled hOwn fun seg hSeg => dot_notMem_of_mem_segments (hWhole hSeg)] at hMarked
    obtain ⟨bare, hBare, hSeg⟩ := hMarked
    exact ⟨bare, hBare, hWhole hSeg⟩
  · intro hTwice
    exact ⟨_, List.mem_cons_self, (isMarked_primary_iff name).mpr hTwice⟩

/-- If any name of an expansion has markers, the first has: it holds all segments. -/
theorem marked_primary (h : hierarchy name = .ok members)
    (hMember : ∃ member ∈ members, isMarked member = true) :
    ∃ primary rest, members = primary :: rest ∧ isMarked primary = true :=
  ⟨_, _, eq_unfolding_of_hierarchy h,
    (isMarked_primary_iff name).mpr ((marked_member_iff h).mp hMember)⟩

/-- A name whose expansion holds names with markers has markers itself. -/
theorem isMarked_of_marked_member (h : hierarchy name = .ok members)
    (hMember : ∃ member ∈ members, isMarked member = true) : isMarked name = true := by
  obtain ⟨bare, hBare, hSeg⟩ := (marked_member_iff h).mp hMember
  rw [isMarked, List.any_eq_true]
  exact ⟨_, hSeg, isMarkedSegment_iff.mpr ⟨bare ++ marker, by simp [marker], rfl⟩⟩

-- of two markers one is left, in every name that holds the segment
example : hierarchy "a[+].b[+][+].c.d" = .ok ["a.b[+].c.d", "a.d", "a.b[+].d"] ∧
    isMarked "a.b[+].c.d" = true := by decide

end Metering.Name
