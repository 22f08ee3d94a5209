import Mathlib.Data.List.Basic
import Metering.Name

/-!
# Metering — the names that a name with markers stands for

The expansion of a name is built from a path that grows segment by segment. A path that is not
empty stands above every path that it grows into, so the marked paths stand one above the other,
and all of them above the whole path: an expansion holds no name twice.

* `StandsAbove` — a path is followed by a dot in another one;
* `hierarchy_eq_ok_iff` — which names can be expanded, and into what;
* `length_expansion` — one name for the metric and one for each mark;
* `expansion_nodup`, `hierarchy_nodup` — no name twice;
* `standsFor` — the plain names behind any name.
-/

namespace Metering.Name

/-! ## Segments and marks -/

/-- A mark needs something that is marked. -/
theorem plain_ne_nil {seg : List Char} (h : isMarkedSegment seg = true) : plain seg ≠ [] := by
  rw [isMarkedSegment, Option.isSome_iff_exists] at h
  obtain ⟨bare, hBare⟩ := h
  rw [plain, hBare, Option.getD_some]
  rw [unmarked?] at hBare
  split at hBare
  · next hMark =>
    rw [Bool.and_eq_true, decide_eq_true_eq] at hMark
    rw [← Option.some.inj hBare, Ne, List.take_eq_nil_iff, not_or]
    refine ⟨by omega, fun hNil => ?_⟩
    rw [hNil] at hMark
    exact absurd hMark.2 (by simp)
  · cases hBare

theorem extend_of_ne_nil {path : List Char} (h : path ≠ []) (seg : List Char) :
    extend path seg = path ++ '.' :: plain seg := by
  rw [extend, if_neg h]

theorem extend_ne_nil {path seg : List Char} (h : path ≠ [] ∨ isMarkedSegment seg = true) :
    extend path seg ≠ [] := by
  by_cases hPath : path = []
  · rw [extend, if_pos hPath]
    exact plain_ne_nil (h.resolve_left (fun hNe => hNe hPath))
  · rw [extend_of_ne_nil hPath]
    simp

/-! ## Paths above paths -/

/-- The first path, followed by a dot, begins the second. -/
def StandsAbove (upper lower : List Char) : Prop := ∃ rest, lower = upper ++ '.' :: rest

theorem StandsAbove.trans {a b c : List Char} (hab : StandsAbove a b) (hbc : StandsAbove b c) :
    StandsAbove a c := by
  obtain ⟨r, rfl⟩ := hab
  obtain ⟨s, rfl⟩ := hbc
  exact ⟨r ++ '.' :: s, by simp⟩

theorem StandsAbove.ne {a b : List Char} (h : StandsAbove a b) : a ≠ b := by
  obtain ⟨rest, rfl⟩ := h
  intro heq
  have hLength := congrArg List.length heq
  rw [List.length_append, List.length_cons] at hLength
  omega

theorem standsAbove_extend {path : List Char} (h : path ≠ []) (seg : List Char) :
    StandsAbove path (extend path seg) :=
  ⟨plain seg, extend_of_ne_nil h seg⟩

/-- A path stands above every longer one that it grows into. -/
theorem standsAbove_foldl_extend {path : List Char} (h : path ≠ []) {segs : List (List Char)}
    (hSegs : segs ≠ []) : StandsAbove path (segs.foldl extend path) := by
  induction segs generalizing path with
  | nil => exact absurd rfl hSegs
  | cons seg rest ih =>
    rw [List.foldl_cons]
    have hStep := standsAbove_extend h seg
    by_cases hRest : rest = []
    · rw [hRest]
      exact hStep
    · exact hStep.trans (ih (extend_ne_nil (.inl h)) hRest)

/-- A path stands above all marked paths that come after it. -/
theorem standsAbove_of_mem_markedPaths {path : List Char} (h : path ≠ [])
    {segs : List (List Char)} {marked : List Char} (hMem : marked ∈ markedPaths path segs) :
    StandsAbove path marked := by
  induction segs generalizing path with
  | nil => simp [markedPaths] at hMem
  | cons seg rest ih =>
    have hStep := standsAbove_extend h seg
    have hLonger : extend path seg ≠ [] := extend_ne_nil (.inl h)
    simp only [markedPaths] at hMem
    split at hMem
    · rcases List.mem_cons.mp hMem with rfl | hRest
      · exact hStep
      · exact hStep.trans (ih hLonger hRest)
    · exact hStep.trans (ih hLonger hMem)

/-- The marked paths stand one above the other, the least specific first. -/
theorem pairwise_markedPaths (path : List Char) (segs : List (List Char)) :
    (markedPaths path segs).Pairwise StandsAbove := by
  induction segs generalizing path with
  | nil => exact List.Pairwise.nil
  | cons seg rest ih =>
    simp only [markedPaths]
    split
    · next hMark =>
      refine List.pairwise_cons.mpr ⟨fun m hm => ?_, ih _⟩
      exact standsAbove_of_mem_markedPaths (extend_ne_nil (.inr hMark)) hm
    · exact ih _

/-- A marked path stands above the whole path, unless it is the whole path. -/
theorem standsAbove_foldl_of_mem_markedPaths {path : List Char} {segs : List (List Char)}
    (hLast : isMarkedSegment (segs.getLastD []) = false) {marked : List Char}
    (hMem : marked ∈ markedPaths path segs) : StandsAbove marked (segs.foldl extend path) := by
  induction segs generalizing path with
  | nil => simp [markedPaths] at hMem
  | cons seg rest ih =>
    rw [List.foldl_cons]
    have hEmpty : rest = [] → isMarkedSegment seg = false := by
      rintro rfl
      exact hLast
    have hRest : marked ∈ markedPaths (extend path seg) rest →
        StandsAbove marked (rest.foldl extend (extend path seg)) := by
      intro hm
      cases rest with
      | nil => simp [markedPaths] at hm
      | cons s ss => exact ih hLast hm
    simp only [markedPaths] at hMem
    split at hMem
    · next hMark =>
      rcases List.mem_cons.mp hMem with rfl | hm
      · refine standsAbove_foldl_extend (extend_ne_nil (.inr hMark)) ?_
        intro hNil
        rw [hEmpty hNil] at hMark
        cases hMark
      · exact hRest hm
    · exact hRest hMem

theorem length_markedPaths (path : List Char) (segs : List (List Char)) :
    (markedPaths path segs).length = segs.countP isMarkedSegment := by
  induction segs generalizing path with
  | nil => rfl
  | cons seg rest ih =>
    simp only [markedPaths]
    split
    · next hMark => rw [List.length_cons, ih, List.countP_cons_of_pos hMark]
    · next hMark => rw [ih, List.countP_cons_of_neg hMark]

/-! ## Expansions -/

theorem length_expansion (path : List (List Char)) (statistic : List Char) :
    (expansion path statistic).length = 1 + path.countP isMarkedSegment := by
  rw [expansion, List.length_cons, List.length_map, length_markedPaths, Nat.add_comm]

theorem under_inj {a b statistic : List Char} :
    under a statistic = under b statistic ↔ a = b := by
  rw [under, under, String.ofList_inj, List.append_left_inj]

/-- Unless the last segment of the path is marked, no two names of an expansion are the same. -/
theorem expansion_nodup {path : List (List Char)}
    (hLast : isMarkedSegment (path.getLastD []) = false) (statistic : List Char) :
    (expansion path statistic).Nodup := by
  refine List.nodup_cons.mpr ⟨?_, ?_⟩
  · rw [List.mem_map]
    rintro ⟨marked, hMem, heq⟩
    exact (standsAbove_foldl_of_mem_markedPaths hLast hMem).ne (under_inj.mp heq)
  · refine List.Pairwise.map _ (fun a b hab heq => ?_) (pairwise_markedPaths [] path)
    exact hab.ne (under_inj.mp heq)

/-- A name can be expanded if it has three segments or more, of which the last two are not
marked. -/
theorem hierarchy_eq_ok_iff {name : String} {members : List String} :
    hierarchy name = .ok members ↔
      3 ≤ (segments name).length ∧
      isMarkedSegment ((segments name).getLastD []) = false ∧
      isMarkedSegment ((segments name).dropLast.getLastD []) = false ∧
      expansion (segments name).dropLast ((segments name).getLastD []) = members := by
  simp only [hierarchy]
  split
  · next hShort =>
    constructor
    · intro h
      cases h
    · rintro ⟨hLong, -⟩
      omega
  · next hLong =>
    split
    · next hTail =>
      rw [Bool.or_eq_true] at hTail
      constructor
      · intro h
        cases h
      · rintro ⟨-, hStatistic, hLeaf, -⟩
        rw [hStatistic, hLeaf] at hTail
        simp at hTail
    · next hTail =>
      rw [Bool.or_eq_true, not_or, Bool.not_eq_true, Bool.not_eq_true] at hTail
      rw [Except.ok.injEq]
      exact ⟨fun h => ⟨by omega, hTail.1, hTail.2, h⟩, fun h => h.2.2.2⟩

/-- Whatever keeps a name from being expanded is a defect of this name. -/
theorem eq_invalidName_of_hierarchy {name : String} {fault : Fault}
    (h : hierarchy name = .error fault) : ∃ defect, fault = .invalidName name defect := by
  simp only [hierarchy] at h
  split at h
  · exact ⟨.tooFewSegments, (Except.error.inj h).symm⟩
  · split at h
    · exact ⟨.markedTail, (Except.error.inj h).symm⟩
    · cases h

/-- No name of an expansion comes twice. -/
theorem hierarchy_nodup {name : String} {members : List String}
    (h : hierarchy name = .ok members) : members.Nodup := by
  obtain ⟨-, -, hLeaf, rfl⟩ := hierarchy_eq_ok_iff.mp h
  exact expansion_nodup hLeaf _

theorem hierarchy_ne_nil {name : String} {members : List String}
    (h : hierarchy name = .ok members) : members ≠ [] := by
  obtain ⟨-, -, -, rfl⟩ := hierarchy_eq_ok_iff.mp h
  exact List.cons_ne_nil _ _

/-- A name that stands for more than itself has a mark. -/
theorem isMarked_of_hierarchy {name : String} {members : List String}
    (h : hierarchy name = .ok members) (hLength : 1 < members.length) : isMarked name = true := by
  obtain ⟨-, -, -, rfl⟩ := hierarchy_eq_ok_iff.mp h
  rw [length_expansion] at hLength
  have hCount : 0 < (segments name).dropLast.countP isMarkedSegment := by omega
  obtain ⟨seg, hMem, hMark⟩ := List.countP_pos_iff.mp hCount
  rw [isMarked, List.any_eq_true]
  exact ⟨seg, (List.dropLast_sublist _).subset hMem, hMark⟩

/-! ## Any name -/

/-- The plain names that a name stands for: a plain name for itself, a name with markers for its
expansion. -/
def standsFor (name : String) : List String :=
  if isMarked name then (hierarchy name).toOption.getD [] else [name]

theorem standsFor_of_plain {name : String} (h : isMarked name = false) :
    standsFor name = [name] := by
  rw [standsFor, h, if_neg Bool.false_ne_true]

theorem standsFor_of_marked {name : String} {members : List String}
    (h : hierarchy name = .ok members) (hMarked : isMarked name = true) :
    standsFor name = members := by
  rw [standsFor, if_pos hMarked, h]
  rfl

theorem standsFor_nodup (name : String) : (standsFor name).Nodup := by
  rw [standsFor]
  split
  · cases h : hierarchy name with
    | error fault => exact List.nodup_nil
    | ok members => exact hierarchy_nodup h
  · simp

end Metering.Name
