import Mathlib.Logic.Function.Basic
import Metering.Proofs.Pattern.Enclosed
import Metering.Report.Filter

/-!
# Metering — filters with expressions

A filter with expressions reads them in order and stops at the first that is none. What it lets
through is decided by what its expressions describe: the name as a whole, as long as no expression
closes a parenthesis that it has not opened.

* `NameFilter.read_eq_ok_iff`, `NameFilter.read_eq_error_iff` — when the filter is read, and which
  expression is to blame if it is not;
* `NameFilter.holds_iff_matches` — a matcher holds for the names that one of its expressions
  describes;
* `NameFilter.read_succeeds_iff_written`, `NameFilter.accepts_iff_matches` — which filters are read
  and which names they let through.
-/

namespace Metering.Report

open Pattern (whole? written? Closed Fits Matches)

variable {reporter : String} {es : List String} {ps : List Pattern} {fault : ReportFault}

/-! ## Reading expressions -/

theorem mapM_readOne_eq_ok_iff (reporter : String) :
    es.mapM (Matcher.readOne reporter) = .ok ps ↔ es.map whole? = ps.map some := by
  induction es generalizing ps with
  | nil =>
    cases ps with
    | nil => exact ⟨fun _ => rfl, fun _ => rfl⟩
    | cons p ps => exact ⟨fun h => (nomatch h), fun h => (nomatch h)⟩
  | cons e es ih =>
    rw [List.mapM_cons, List.map_cons, Matcher.readOne]
    cases whole? e with
    | none =>
      refine ⟨fun h => (nomatch h), fun h => ?_⟩
      cases ps <;> simp at h
    | some p =>
      show (es.mapM (Matcher.readOne reporter) >>= fun qs => .ok (p :: qs)) = .ok ps ↔ _
      cases hRest : es.mapM (Matcher.readOne reporter) with
      | error fault =>
        refine ⟨fun h => (nomatch h), fun h => ?_⟩
        cases ps with
        | nil => simp at h
        | cons q ps =>
          have := ih.mpr (List.cons.inj h).2
          rw [hRest] at this
          exact nomatch this
      | ok qs =>
        have hQs : es.map whole? = qs.map some := ih.mp hRest
        rw [hQs]
        constructor
        · intro h
          rw [← Except.ok.inj h]
          rfl
        · intro h
          have hInj : Function.Injective (List.map (some (α := Pattern))) :=
            List.map_injective_iff.mpr fun _ _ h => Option.some.inj h
          rw [← hInj (show (p :: qs).map some = ps.map some from h)]
          rfl

/-- The first expression that is none is to blame. -/
theorem mapM_readOne_eq_error_iff :
    es.mapM (Matcher.readOne reporter) = .error fault ↔
      ∃ before e after, es = before ++ e :: after ∧ (∀ x ∈ before, (whole? x).isSome = true) ∧
        whole? e = none ∧ fault = .build reporter (.badExpression e) := by
  induction es with
  | nil =>
    refine ⟨fun h => (nomatch h), ?_⟩
    rintro ⟨before, e, after, h, -⟩
    simp at h
  | cons e es ih =>
    rw [List.mapM_cons, Matcher.readOne]
    cases hFirst : whole? e with
    | none =>
      constructor
      · intro h
        exact ⟨[], e, es, rfl, fun x hx => (nomatch hx), hFirst, (Except.error.inj h).symm⟩
      · rintro ⟨before, e', after, hSplit, hBefore, -, rfl⟩
        cases before with
        | nil =>
          obtain ⟨rfl, -⟩ := List.cons.inj hSplit
          rfl
        | cons b before =>
          obtain ⟨rfl, -⟩ := List.cons.inj hSplit
          have := hBefore e List.mem_cons_self
          rw [hFirst] at this
          exact nomatch this
    | some p =>
      have hBind : (Except.ok p >>= fun p => es.mapM (Matcher.readOne reporter) >>= fun qs =>
          Except.ok (p :: qs)) = Except.error fault ↔
            es.mapM (Matcher.readOne reporter) = .error fault := by
        cases es.mapM (Matcher.readOne reporter) with
        | error fault' =>
          exact ⟨fun h => congrArg _ (Except.error.inj h), fun h => congrArg _ (Except.error.inj h)⟩
        | ok qs => exact ⟨fun h => (nomatch h), fun h => (nomatch h)⟩
      refine hBind.trans (ih.trans ⟨?_, ?_⟩)
      · rintro ⟨before, e', after, rfl, hBefore, hNone, rfl⟩
        refine ⟨e :: before, e', after, rfl, fun x hx => ?_, hNone, rfl⟩
        rcases List.mem_cons.mp hx with rfl | hx
        · rw [hFirst]
          rfl
        · exact hBefore x hx
      · rintro ⟨before, e', after, hSplit, hBefore, hNone, rfl⟩
        cases before with
        | nil =>
          obtain ⟨rfl, -⟩ := List.cons.inj hSplit
          rw [hFirst] at hNone
          exact nomatch hNone
        | cons b before =>
          obtain ⟨rfl, rfl⟩ := List.cons.inj hSplit
          exact ⟨before, e', after, rfl, fun x hx => hBefore x (List.mem_cons_of_mem _ hx), hNone,
            rfl⟩

namespace NameFilter

variable {f : NameFilter} {s : Selection}

/-- The expressions of a filter in the order in which they are read. -/
def expressions (f : NameFilter) : List String := f.includes.names ++ f.excludes.names

theorem read_eq_ok_iff (hUse : f.useExpressions = true) :
    f.read reporter = .ok s ↔ ∃ ps qs, s = ⟨.patterns ps, .patterns qs⟩ ∧
      f.includes.names.map whole? = ps.map some ∧ f.excludes.names.map whole? = qs.map some := by
  simp only [← mapM_readOne_eq_ok_iff reporter]
  rw [read, Matcher.ofSet, Matcher.ofSet, hUse]
  simp only [if_true]
  cases f.includes.names.mapM (Matcher.readOne reporter) with
  | error fault =>
    refine ⟨fun h => (nomatch h), ?_⟩
    rintro ⟨ps, qs, -, h, -⟩
    exact nomatch h
  | ok ps =>
    cases f.excludes.names.mapM (Matcher.readOne reporter) with
    | error fault =>
      refine ⟨fun h => (nomatch h), ?_⟩
      rintro ⟨ps, qs, -, -, h⟩
      exact nomatch h
    | ok qs =>
      constructor
      · intro h
        exact ⟨ps, qs, (Except.ok.inj h).symm, rfl, rfl⟩
      · rintro ⟨ps', qs', rfl, hps, hqs⟩
        rw [← Except.ok.inj hps, ← Except.ok.inj hqs]
        rfl

/-- A filter that is not read has an expression that is none, and the first of them is named. -/
theorem read_eq_error_iff (hUse : f.useExpressions = true) :
    f.read reporter = .error fault ↔
      ∃ before e after, f.expressions = before ++ e :: after ∧
        (∀ x ∈ before, (whole? x).isSome = true) ∧ whole? e = none ∧
        fault = .build reporter (.badExpression e) := by
  rw [← mapM_readOne_eq_error_iff, expressions, List.mapM_append, read, Matcher.ofSet,
    Matcher.ofSet, hUse]
  simp only [if_true]
  have hFault : ∀ fault', (Except.error fault' : Except ReportFault Selection) = .error fault ↔
      (Except.error fault' : Except ReportFault (List Pattern)) = .error fault := by
    intro fault'
    rw [Except.error.injEq, Except.error.injEq]
  cases f.includes.names.mapM (Matcher.readOne reporter) with
  | error fault' => exact hFault fault'
  | ok ps =>
    cases f.excludes.names.mapM (Matcher.readOne reporter) with
    | error fault' => exact hFault fault'
    | ok qs => exact ⟨fun h => (nomatch h), fun h => (nomatch h)⟩

theorem read_succeeds_iff (hUse : f.useExpressions = true) :
    (∃ s, f.read reporter = .ok s) ↔ ∀ e ∈ f.expressions, (whole? e).isSome = true := by
  constructor
  · rintro ⟨s, hs⟩ e he
    obtain ⟨ps, qs, -, hps, hqs⟩ := (read_eq_ok_iff hUse).mp hs
    have hAll : whole? e ∈ (ps ++ qs).map some := by
      rw [List.map_append, ← hps, ← hqs, ← List.map_append]
      exact List.mem_map_of_mem he
    obtain ⟨p, -, hp⟩ := List.mem_map.mp hAll
    rw [← hp]
    rfl
  · intro hAll
    cases hRead : f.read reporter with
    | ok s => exact ⟨s, rfl⟩
    | error fault =>
      obtain ⟨before, e, after, hSplit, -, hNone, -⟩ := (read_eq_error_iff hUse).mp hRead
      have := hAll e (by rw [hSplit]; simp)
      rw [hNone] at this
      exact nomatch this

/-! ## Selecting names -/

/-- A matcher of expressions that are read holds for the names in which one of them is found. -/
theorem holds_patterns (h : es.map whole? = ps.map some) (name : String) :
    (Matcher.patterns ps).holds name = true ↔
      ∃ e ∈ es, ∃ p, whole? e = some p ∧ p.occursIn name.toList = true := by
  rw [Matcher.holds, List.any_eq_true]
  constructor
  · rintro ⟨p, hp, hOccurs⟩
    have hMem : some p ∈ es.map whole? := by
      rw [h]
      exact List.mem_map_of_mem hp
    obtain ⟨e, he, hWhole⟩ := List.mem_map.mp hMem
    exact ⟨e, he, p, hWhole, hOccurs⟩
  · rintro ⟨e, he, p, hWhole, hOccurs⟩
    have hMem : some p ∈ ps.map some := by
      rw [← h, ← hWhole]
      exact List.mem_map_of_mem he
    obtain ⟨p', hp', hEq⟩ := List.mem_map.mp hMem
    exact ⟨p, Option.some.inj hEq ▸ hp', hOccurs⟩

/-- Expressions that close no parenthesis that they have not opened match names as a whole. -/
theorem holds_iff_matches (h : es.map whole? = ps.map some) (hClosed : ∀ e ∈ es, Closed e)
    (name : String) :
    (Matcher.patterns ps).holds name = true ↔ ∃ e ∈ es, Matches e name.toList := by
  rw [holds_patterns h]
  constructor
  · rintro ⟨e, he, p, hWhole, hOccurs⟩
    exact ⟨e, he, (Pattern.occursIn_whole? (hClosed e he) hWhole _).mp hOccurs⟩
  · rintro ⟨e, he, hMatches⟩
    have hMem : whole? e ∈ ps.map some := h ▸ List.mem_map_of_mem he
    obtain ⟨p, -, hp⟩ := List.mem_map.mp hMem
    exact ⟨e, he, p, hp.symm, (Pattern.occursIn_whole? (hClosed e he) hp.symm _).mpr hMatches⟩

/-- A filter whose expressions close no parenthesis that they have not opened, and hold no hash
sign, is read if each of them is an expression by itself and not too large. -/
theorem read_succeeds_iff_written (hUse : f.useExpressions = true)
    (hClosed : ∀ e ∈ f.expressions, Closed e) (hHash : ∀ e ∈ f.expressions, '#' ∉ e.toList) :
    (∃ s, f.read reporter = .ok s) ↔
      ∀ e ∈ f.expressions, ∃ piece, written? e = some piece ∧ Fits piece := by
  rw [read_succeeds_iff hUse]
  refine forall₂_congr fun e he => ?_
  constructor
  · intro hSome
    obtain ⟨p, hp⟩ := Option.isSome_iff_exists.mp hSome
    obtain ⟨piece, hPiece, hFits, -⟩ := Pattern.written?_of_whole? (hClosed e he) hp
    exact ⟨piece, hPiece, hFits⟩
  · rintro ⟨piece, hPiece, hFits⟩
    rw [Pattern.whole?_of_written? (hClosed e he) (hHash e he) hPiece hFits]
    rfl

/-- A filter whose expressions close no parenthesis that they have not opened lets through the names
that count, that no expression of the excluded names describes as a whole, and that some expression
of the included names does, if there is one. -/
theorem accepts_iff_matches (hUse : f.useExpressions = true)
    (hClosed : ∀ e ∈ f.expressions, Closed e) (hRead : f.read reporter = .ok s)
    (enabled : String → Bool) (name : String) :
    s.accepts enabled name = true ↔
      enabled name = true ∧ (¬∃ e ∈ f.excludes.names, Matches e name.toList) ∧
        (f.includes.names = [] ∨ ∃ e ∈ f.includes.names, Matches e name.toList) := by
  obtain ⟨ps, qs, rfl, hps, hqs⟩ := (read_eq_ok_iff hUse).mp hRead
  have hIncludes := holds_iff_matches hps
    (fun e he => hClosed e (List.mem_append_left _ he)) name
  have hExcludes := holds_iff_matches hqs
    (fun e he => hClosed e (List.mem_append_right _ he)) name
  have hEmpty : (Matcher.patterns ps).isEmpty = true ↔ f.includes.names = [] := by
    rw [Matcher.isEmpty, List.isEmpty_iff, ← List.map_eq_nil_iff (f := some), ← hps,
      List.map_eq_nil_iff]
  simp only [Selection.accepts, Bool.and_eq_true, Bool.or_eq_true, Bool.not_eq_true', hEmpty,
    hIncludes, ← hExcludes, Bool.not_eq_true, and_assoc]

end NameFilter

end Metering.Report
