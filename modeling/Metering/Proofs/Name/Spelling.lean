import Mathlib.Data.List.Infix
import Metering.Proofs.Name.Expansion

/-!
# Metering — how the names of an expansion are spelled

An expansion is made along a path that grows segment by segment, and the first segment is the one
that finds the path empty. What comes out can be said without a path: each name is spelled by some
of the segments, with the marks removed and a dot between neighbours. But a path that is still
empty takes no dot, so empty segments in front of a name get lost.

* `spelled` — the name of some segments without their marks;
* `markedBeginnings` — the beginnings of a name that end at a marked segment, the shortest first;
* `unfolding` — a name without its marks, and each of these beginnings with the statistic behind;
* `hierarchy_eq_error_iff` — which names cannot be expanded;
* `hierarchy_eq_unfolding` — an expansion is the unfolding of the segments that are left when the
  empty ones in front are dropped, down to the last two;
* `hierarchy_eq_unfolding_iff` — it is the unfolding of the whole name just if no dot comes first;
* `hierarchy_of_leading_dot` — a dot in front makes another name that stands for the same metrics.
-/

namespace Metering.Name

open Text

/-! ## Spelling -/

/-- The name of some segments without their marks. -/
def spelled (segs : List (List Char)) : String := ofSegments (segs.map plain)

/-- Whether some segments end at a marked one. -/
def endsMarked (segs : List (List Char)) : Bool := isMarkedSegment (segs.getLastD [])

/-- The beginnings of some segments that end at a marked one, the shortest first. -/
def markedBeginnings (segs : List (List Char)) : List (List (List Char)) :=
  segs.inits.filter endsMarked

/-- The name of some segments without their marks, and the names of the beginnings that end at a
marked segment, each with the last segment of all behind it. -/
def unfolding (segs : List (List Char)) : List String :=
  spelled segs :: (markedBeginnings segs).map fun upper => spelled (upper ++ [segs.getLastD []])

theorem plain_of_unmarked {seg : List Char} (h : isMarkedSegment seg = false) :
    plain seg = seg := by
  rw [isMarkedSegment, Option.isSome_eq_false_iff, Option.isNone_iff_eq_none] at h
  rw [plain, h, Option.getD_none]

theorem plain_eq_nil_iff {seg : List Char} : plain seg = [] ↔ seg = [] := by
  constructor
  · intro h
    cases hMark : isMarkedSegment seg with
    | true => exact absurd h (plain_ne_nil hMark)
    | false => rw [← plain_of_unmarked hMark, h]
  · rintro rfl
    rfl

/-- A marked first segment is the shortest of the beginnings; all others go on behind it. -/
theorem markedBeginnings_cons (seg : List Char) (rest : List (List Char)) :
    markedBeginnings (seg :: rest) =
      (if isMarkedSegment seg then [[seg]] else []) ++
        (markedBeginnings rest).map (seg :: ·) := by
  -- no beginning is empty, and the end of one that goes on is the end of what it goes on with
  have hEmpty : ∀ lists, ([] :: lists).filter endsMarked = lists.filter endsMarked :=
    fun lists => List.filter_cons_of_neg (by simp [endsMarked]; rfl)
  have hShort : [[seg]].filter endsMarked = if isMarkedSegment seg then [[seg]] else [] := by
    rw [List.filter_singleton, Bool.cond_eq_ite]
    rfl
  have hInits : rest.inits = [] :: rest.inits.tail := by cases rest <;> simp
  have hLonger : (rest.inits.tail.map (seg :: ·)).filter endsMarked =
      (rest.inits.tail.filter endsMarked).map (seg :: ·) := by
    rw [List.filter_map]
    congr 1
    refine List.filter_congr fun l hl => ?_
    cases rest with
    | nil => cases hl
    | cons s ss =>
      obtain ⟨l, -, rfl⟩ := List.mem_map.mp hl
      rfl
  calc (seg :: rest).inits.filter endsMarked
      = ([[seg]] ++ rest.inits.tail.map (seg :: ·)).filter endsMarked := by
        rw [List.inits_cons, hEmpty, hInits]
        rfl
    _ = (if isMarkedSegment seg then [[seg]] else []) ++
          (rest.inits.tail.filter endsMarked).map (seg :: ·) := by
        rw [List.filter_append, hShort, hLonger]
    _ = _ := by rw [markedBeginnings, hInits, hEmpty]; rfl

theorem markedBeginnings_concat {seg : List Char} (h : isMarkedSegment seg = false)
    (segs : List (List Char)) : markedBeginnings (segs ++ [seg]) = markedBeginnings segs := by
  have hLast : endsMarked (segs ++ [seg]) = false := by
    rw [endsMarked, List.getLastD_concat, h]
  have hInits : (segs ++ [seg]).inits = segs.inits ++ [segs ++ [seg]] := by
    rw [List.inits_append]
    rfl
  rw [markedBeginnings, hInits, List.filter_append, List.filter_singleton, hLast]
  simp [markedBeginnings]

/-! ## Paths -/

/-- The path along some segments without their marks. -/
def pathOf (segs : List (List Char)) : List Char := joined '.' (segs.map plain)

theorem pathOf_ne_nil {seg : List Char} (h : seg ≠ []) (rest : List (List Char)) :
    pathOf (seg :: rest) ≠ [] := by
  have hPlain : plain seg ≠ [] := fun hNil => h (plain_eq_nil_iff.mp hNil)
  rw [pathOf, List.map_cons]
  cases rest with
  | nil => exact hPlain
  | cons s ss =>
    rw [List.map_cons, joined_cons_cons]
    simp

/-- A path that is not empty gets longer by a dot and a segment. -/
theorem extend_pathOf {front : List (List Char)} (h : pathOf front ≠ []) (seg : List Char) :
    extend (pathOf front) seg = pathOf (front ++ [seg]) := by
  have hFront : front.map plain ≠ [] := by
    intro hNil
    rw [pathOf, hNil] at h
    exact h rfl
  rw [extend_of_ne_nil h, pathOf, pathOf, List.map_append, List.map_singleton,
    joined_concat '.' hFront]

theorem pathOf_concat_ne_nil {front : List (List Char)} (h : pathOf front ≠ [])
    (seg : List Char) : pathOf (front ++ [seg]) ≠ [] := by
  rw [← extend_pathOf h]
  exact extend_ne_nil (.inl h)

theorem foldl_extend_pathOf {front : List (List Char)} (h : pathOf front ≠ [])
    (segs : List (List Char)) :
    segs.foldl extend (pathOf front) = pathOf (front ++ segs) := by
  induction segs generalizing front with
  | nil => rw [List.foldl_nil, List.append_nil]
  | cons seg rest ih =>
    rw [List.foldl_cons, extend_pathOf h, ih (pathOf_concat_ne_nil h seg), List.append_assoc,
      List.singleton_append]

/-- The marked paths behind a path that is not empty are the paths of the marked beginnings. -/
theorem markedPaths_pathOf {front : List (List Char)} (h : pathOf front ≠ [])
    (segs : List (List Char)) :
    markedPaths (pathOf front) segs =
      (markedBeginnings segs).map fun upper => pathOf (front ++ upper) := by
  induction segs generalizing front with
  | nil => rfl
  | cons seg rest ih =>
    have hRest := ih (pathOf_concat_ne_nil h seg)
    simp only [List.append_assoc, List.singleton_append] at hRest
    rw [markedBeginnings_cons, List.map_append, List.map_map]
    simp only [markedPaths]
    rw [extend_pathOf h, hRest]
    split <;> rfl

/-! ## Expansions are unfoldings -/

theorem under_pathOf {segs : List (List Char)} (hSegs : segs ≠ []) {statistic : List Char}
    (hStatistic : isMarkedSegment statistic = false) :
    under (pathOf segs) statistic = spelled (segs ++ [statistic]) := by
  have hMap : segs.map plain ≠ [] := by simpa using hSegs
  rw [under, spelled, ofSegments, List.map_append, List.map_singleton, joined_concat '.' hMap,
    plain_of_unmarked hStatistic]
  rfl

/-- Along a path that does not begin with an empty segment, or that has no other, an expansion is
the unfolding of the path and the statistic. -/
theorem expansion_cons_eq_unfolding {first : List Char} {rest : List (List Char)}
    {statistic : List Char} (hStatistic : isMarkedSegment statistic = false)
    (hFirst : first ≠ [] ∨ rest = []) :
    expansion (first :: rest) statistic = unfolding (first :: rest ++ [statistic]) := by
  have hStart : extend [] first = pathOf [first] := rfl
  have hWhole : (first :: rest).foldl extend [] = pathOf (first :: rest) := by
    rcases hFirst with hFirst | rfl
    · rw [List.foldl_cons, hStart, foldl_extend_pathOf (pathOf_ne_nil hFirst [])]
      rfl
    · rfl
  have hMarked : markedPaths [] (first :: rest) = (markedBeginnings (first :: rest)).map pathOf := by
    rw [markedBeginnings_cons, List.map_append, List.map_map]
    simp only [markedPaths, hStart]
    rcases hFirst with hFirst | rfl
    · rw [markedPaths_pathOf (pathOf_ne_nil hFirst [])]
      split <;> rfl
    · split <;> rfl
  rw [expansion, hWhole, hMarked, unfolding, markedBeginnings_concat hStatistic,
    List.getLastD_concat, under_pathOf (List.cons_ne_nil _ _) hStatistic, List.map_map]
  congr 1
  refine List.map_congr_left fun upper hUpper => ?_
  have hNonempty : upper ≠ [] := by
    rintro rfl
    have hEnds := (List.mem_filter.mp hUpper).2
    cases hEnds
  exact under_pathOf hNonempty hStatistic

/-! ## Empty segments in front -/

/-- The segments without the empty ones in front, as long as two are left behind them. -/
def withoutEmptyFront : List (List Char) → List (List Char)
  | [] :: leaf :: statistic :: rest => withoutEmptyFront (leaf :: statistic :: rest)
  | segs => segs

theorem withoutEmptyFront_of_head {segs : List (List Char)} (h : segs.head? ≠ some []) :
    withoutEmptyFront segs = segs := by
  unfold withoutEmptyFront
  split
  · exact absurd rfl h
  · rfl

/-- An expansion is the unfolding of the segments without the empty ones in front. -/
theorem expansion_eq_unfolding {segs : List (List Char)} (hLength : 2 ≤ segs.length)
    (hStatistic : isMarkedSegment (segs.getLastD []) = false) :
    expansion segs.dropLast (segs.getLastD []) = unfolding (withoutEmptyFront segs) := by
  fun_induction withoutEmptyFront segs with
  | case1 leaf statistic rest ih =>
    -- an empty segment in front leaves no trace in an expansion
    exact ih (by simp) hStatistic
  | case2 segs hFront =>
    obtain ⟨first, second, rest, rfl⟩ : ∃ a b l, segs = a :: b :: l := by
      rcases segs with _ | ⟨a, _ | ⟨b, l⟩⟩
      · simp at hLength
      · simp at hLength
      · exact ⟨a, b, l, rfl⟩
    have hNonempty : second :: rest ≠ [] := List.cons_ne_nil _ _
    have hFirst : first ≠ [] ∨ (second :: rest).dropLast = [] := by
      by_cases hNil : first = []
      · cases rest with
        | nil => exact .inr rfl
        | cons third more => exact absurd (by rw [hNil]) (hFront second third more)
      · exact .inl hNil
    have hLast : (first :: second :: rest).getLastD [] = (second :: rest).getLast hNonempty := by
      simp [List.getLastD]
    rw [hLast] at hStatistic ⊢
    rw [List.dropLast_cons_of_ne_nil hNonempty, expansion_cons_eq_unfolding hStatistic hFirst,
      List.cons_append, List.dropLast_concat_getLast]

theorem spelled_nil_cons (seg : List Char) (rest : List (List Char)) :
    spelled ([] :: seg :: rest) = "." ++ spelled (seg :: rest) := by
  rw [← String.toList_inj, String.toList_append]
  simp only [spelled, ofSegments, String.toList_ofList]
  rfl

/-- What is dropped in front of a name is missing from its spelling. -/
theorem length_spelled_withoutEmptyFront (segs : List (List Char)) :
    (spelled (withoutEmptyFront segs)).length ≤ (spelled segs).length := by
  fun_induction withoutEmptyFront segs with
  | case1 leaf statistic rest ih =>
    rw [spelled_nil_cons, String.length_append]
    exact Nat.le_trans ih (Nat.le_add_left _ _)
  | case2 => exact Nat.le_refl _

theorem spelled_withoutEmptyFront_ne {leaf statistic : List Char} {rest : List (List Char)} :
    spelled (withoutEmptyFront ([] :: leaf :: statistic :: rest)) ≠
      spelled ([] :: leaf :: statistic :: rest) := by
  intro hEq
  have hShort := length_spelled_withoutEmptyFront (leaf :: statistic :: rest)
  have hLong : (spelled ([] :: leaf :: statistic :: rest)).length =
      1 + (spelled (leaf :: statistic :: rest)).length := by
    rw [spelled_nil_cons, String.length_append]
    rfl
  rw [withoutEmptyFront] at hEq
  rw [hEq, hLong] at hShort
  omega

/-! ## Expansions of names -/

/-- A name cannot be expanded just if it has fewer than three segments or one of its last two is
marked. -/
theorem hierarchy_eq_error_iff {name : String} :
    (∃ defect, hierarchy name = .error (.invalidName name defect)) ↔
      (segments name).length < 3 ∨ isMarkedSegment ((segments name).getLastD []) = true ∨
        isMarkedSegment ((segments name).dropLast.getLastD []) = true := by
  simp only [hierarchy]
  split
  · next hShort => exact ⟨fun _ => .inl hShort, fun _ => ⟨_, rfl⟩⟩
  · next hLong =>
    split
    · next hTail =>
      rw [Bool.or_eq_true] at hTail
      exact ⟨fun _ => .inr hTail, fun _ => ⟨_, rfl⟩⟩
    · next hTail =>
      rw [Bool.or_eq_true] at hTail
      constructor
      · rintro ⟨defect, h⟩
        cases h
      · rintro (hShort | hMarked)
        · exact absurd hShort hLong
        · exact absurd hMarked hTail

/-- All other names are expanded into the unfolding of their segments without the empty ones in
front. -/
theorem hierarchy_eq_unfolding {name : String}
    (h : ∀ defect, hierarchy name ≠ .error (.invalidName name defect)) :
    hierarchy name = .ok (unfolding (withoutEmptyFront (segments name))) := by
  have hNot : ¬ ∃ defect, hierarchy name = .error (.invalidName name defect) :=
    fun ⟨defect, hError⟩ => h defect hError
  rw [hierarchy_eq_error_iff, not_or, not_or, Bool.not_eq_true, Bool.not_eq_true] at hNot
  obtain ⟨hLong, hStatistic, hLeaf⟩ := hNot
  have hLength : 3 ≤ (segments name).length := Nat.le_of_not_lt hLong
  exact hierarchy_eq_ok_iff.mpr ⟨hLength, hStatistic, hLeaf,
    expansion_eq_unfolding (by omega) hStatistic⟩

/-- A text begins with the separator, or is empty, just if its first piece is empty. -/
theorem head?_pieces {sep : Char} {cs : List Char} :
    (pieces sep cs).head? = some [] ↔ cs = [] ∨ cs.head? = some sep := by
  cases cs with
  | nil => simp [pieces]
  | cons c rest =>
    by_cases hSep : c = sep
    · simp [pieces, hSep]
    · rw [pieces, if_neg hSep]
      cases hRest : pieces sep rest with
      | nil => simp [hSep]
      | cons p ps => simp [hSep]

theorem eq_cons_of_three_le {segs : List (List Char)} (h : 3 ≤ segs.length) :
    ∃ first second third rest, segs = first :: second :: third :: rest := by
  rcases segs with _ | ⟨first, _ | ⟨second, _ | ⟨third, rest⟩⟩⟩
  · simp at h
  · simp at h
  · simp at h
  · exact ⟨first, second, third, rest, rfl⟩

/-- An expansion is the unfolding of the whole name just if the name does not begin with a dot. -/
theorem hierarchy_eq_unfolding_iff {name : String}
    (h : ∀ defect, hierarchy name ≠ .error (.invalidName name defect)) :
    hierarchy name = .ok (unfolding (segments name)) ↔ name.toList.head? ≠ some '.' := by
  have hOk := hierarchy_eq_unfolding h
  have hLength : 3 ≤ (segments name).length := (hierarchy_eq_ok_iff.mp hOk).1
  have hNonempty : name.toList ≠ [] := by
    intro hNil
    rw [segments, hNil] at hLength
    simp [pieces] at hLength
  have hHead : (segments name).head? = some [] ↔ name.toList.head? = some '.' := by
    rw [segments, head?_pieces, or_iff_right hNonempty]
  rw [hOk, Except.ok.injEq, Ne, ← hHead]
  constructor
  · intro hEq hFront
    obtain ⟨first, leaf, statistic, rest, hSegments⟩ := eq_cons_of_three_le hLength
    rw [hSegments] at hEq hFront
    obtain rfl : first = [] := Option.some.inj hFront
    exact spelled_withoutEmptyFront_ne (List.cons.inj hEq).1
  · intro hFront
    rw [withoutEmptyFront_of_head hFront]

/-- A dot in front makes another name of a name, one that stands for the same metrics. -/
theorem hierarchy_of_leading_dot {name : String} {members : List String}
    (h : hierarchy name = .ok members) : hierarchy ("." ++ name) = .ok members := by
  obtain ⟨hLength, hStatistic, hLeaf, hMembers⟩ := hierarchy_eq_ok_iff.mp h
  have hSegments : segments ("." ++ name) = [] :: segments name := by
    rw [segments, String.toList_append]
    rfl
  obtain ⟨first, leaf, statistic, rest, hShape⟩ := eq_cons_of_three_le hLength
  rw [hierarchy_eq_ok_iff, hSegments]
  rw [hShape] at hLength hStatistic hLeaf hMembers ⊢
  exact ⟨Nat.le_succ_of_le hLength, hStatistic, hLeaf, hMembers⟩

theorem isMarkedSegment_of_plain {name : String} (h : isMarked name = false) {seg : List Char}
    (hMem : seg ∈ segments name) : isMarkedSegment seg = false := by
  rw [isMarked, List.any_eq_false] at h
  exact Bool.eq_false_iff.mpr (h seg hMem)

/-- A name without marks unfolds into itself alone. -/
theorem unfolding_of_plain {name : String} (h : isMarked name = false) :
    unfolding (segments name) = [name] := by
  have hSpelled : spelled (segments name) = name := by
    have hMap : (segments name).map plain = segments name := by
      conv_rhs => rw [← List.map_id (segments name)]
      exact List.map_congr_left fun seg hMem =>
        plain_of_unmarked (isMarkedSegment_of_plain h hMem)
    rw [spelled, hMap, ofSegments, segments, joined_pieces, String.ofList_toList]
  have hBeginnings : markedBeginnings (segments name) = [] := by
    refine List.filter_eq_nil_iff.mpr fun upper hUpper => ?_
    rw [Bool.not_eq_true]
    rcases List.eq_nil_or_concat upper with rfl | ⟨front, seg, rfl⟩
    · rfl
    · rw [List.concat_eq_append] at hUpper ⊢
      rw [endsMarked, List.getLastD_concat]
      have hPrefix := (List.mem_inits _ _).mp hUpper
      exact isMarkedSegment_of_plain h (hPrefix.subset (by simp))
  rw [unfolding, hSpelled, hBeginnings, List.map_nil]

/-- A name of three segments or more without marks stands for itself, unless a dot comes first. -/
theorem hierarchy_of_plain {name : String} (h : isMarked name = false)
    (hLength : 3 ≤ (segments name).length) (hDot : name.toList.head? ≠ some '.') :
    hierarchy name = .ok [name] := by
  have hUnmarked : ∀ segs : List (List Char), segs ⊆ segments name →
      isMarkedSegment (segs.getLastD []) = false := by
    intro segs hSubset
    rcases List.eq_nil_or_concat segs with rfl | ⟨front, seg, rfl⟩
    · rfl
    · rw [List.concat_eq_append, List.getLastD_concat]
      exact isMarkedSegment_of_plain h (hSubset (by simp))
  have hNoError : ∀ defect, hierarchy name ≠ .error (.invalidName name defect) := by
    intro defect hError
    rcases hierarchy_eq_error_iff.mp ⟨defect, hError⟩ with hShort | hMarked | hMarked
    · omega
    · rw [hUnmarked _ (List.Subset.refl _)] at hMarked
      cases hMarked
    · rw [hUnmarked _ (List.dropLast_sublist _).subset] at hMarked
      cases hMarked
  rw [(hierarchy_eq_unfolding_iff hNoError).mpr hDot, unfolding_of_plain h]

example : hierarchy "a[+].b[+].c.stat" = .ok ["a.b.c.stat", "a.stat", "a.b.stat"] := by decide

-- with a dot in front, a name does not even stand for itself
example : hierarchy ".a.b" = .ok ["a.b"] ∧ unfolding (segments ".a.b") = [".a.b"] := by decide

end Metering.Name
