import Mathlib.Data.List.Infix
import Metering.Pattern.Token

/-!
# Metering — readers before a closing parenthesis

An expression is put into a group before it is read, so every reader of a part of it may meet what
closes the group. A reader either does the same as on the expression alone, or reads into the
closing, which it does only where it would find nothing in the expression alone or where a comment
goes on behind it.

* `closing` — what closes the group;
* `Onward` — how a reader does when the closing follows;
* `gap_append`, `run_append`, `braced_append` — gaps and characters of a class;
* `escape_append` — what stands after a backslash.
-/

namespace Metering.Pattern

/-- What closes the group around an expression. -/
def closing : List Char := [')', '$']

/-! ## Gaps -/

theorem afterGap_suffix (inComment : Bool) (cs : List Char) : afterGap inComment cs <:+ cs := by
  fun_induction afterGap inComment cs with
  | case1 => exact List.suffix_rfl
  | case2 c rest ih => exact ih.trans (List.suffix_cons c rest)
  | case3 => grind
  | case4 => grind
  | case5 => grind

theorem gap_suffix (m : Modes) (cs : List Char) : gap m cs <:+ cs := by
  unfold gap
  split
  · exact afterGap_suffix false cs
  · exact List.suffix_rfl

theorem gap_nil (m : Modes) : gap m [] = [] := List.suffix_nil.mp (gap_suffix m [])

theorem afterGap_append (inComment : Bool) (cs : List Char) :
    afterGap inComment (cs ++ closing) = afterGap inComment cs ++ closing ∨
      (inComment = true ∨ '#' ∈ cs) ∧ afterGap inComment cs = [] ∧
        afterGap inComment (cs ++ closing) = [] := by
  induction cs generalizing inComment with
  | nil =>
    cases inComment with
    | true =>
      -- no line ends in the closing, so the comment goes on over it
      exact .inr ⟨.inl rfl, rfl, by decide⟩
    | false => exact .inl (by decide)
  | cons c cs ih =>
    rw [List.cons_append, afterGap, afterGap]
    have := ih true
    have := ih false
    have := ih (c != '\n')
    grind

/-- A gap ends where it does without the closing, unless it ends in a comment. -/
theorem gap_append (m : Modes) (cs : List Char) :
    ∃ rest, rest <:+ cs ∧ gap m cs = rest ∧
      (gap m (cs ++ closing) = rest ++ closing ∨
        '#' ∈ cs ∧ rest = [] ∧ gap m (cs ++ closing) = []) := by
  refine ⟨gap m cs, gap_suffix m cs, rfl, ?_⟩
  unfold gap
  cases m.spacious with
  | false => exact .inl rfl
  | true => simpa using afterGap_append false cs

theorem gap_dollar (m : Modes) : gap m ['$'] = ['$'] := by
  unfold gap
  split <;> decide

/-! ## Characters of a class -/

theorem run_suffix (m : Modes) (p : Char → Bool) (limit : Option Nat) (inComment : Bool)
    (cs : List Char) : (run m p limit inComment cs).2 <:+ cs := by
  fun_induction run m p limit inComment cs with
  | case1 => exact List.suffix_rfl
  | case2 => grind
  | case3 => grind
  | case4 => grind
  | case5 => grind
  | case6 => grind

/-- All that is known of a class without the closing parenthesis, inside a comment or not. -/
theorem run_append_closing (m : Modes) {p : Char → Bool} (hp : p ')' = false) (limit : Option Nat)
    (inComment : Bool) (cs : List Char) :
    run m p limit inComment (cs ++ closing) =
        ((run m p limit inComment cs).1, (run m p limit inComment cs).2 ++ closing) ∨
      (inComment = true ∨ '#' ∈ cs) ∧ (run m p limit inComment cs).2 = [] ∧
        run m p limit inComment (cs ++ closing) = ((run m p limit inComment cs).1, []) := by
  induction cs generalizing limit inComment with
  | nil =>
    cases inComment with
    | true => exact .inr ⟨.inl rfl, rfl, by simp [run, closing]⟩
    | false =>
      refine .inl ?_
      have hBlank : Text.isBlank ')' = false := by decide
      simp [run, closing, hBlank, hp]
  | cons c cs ih =>
    rw [List.cons_append, run, run]
    have := ih limit true
    have := ih limit false
    have := ih limit (c != '\n')
    have := ih (limit.map (· - 1)) false
    grind

/-- A class with the closing parenthesis: all characters up to one that does not belong to it. -/
theorem run_append_of_all (m : Modes) {p : Char → Bool} (hp : p ')' = true) (hp' : p '$' = true)
    (inComment : Bool) (cs : List Char) :
    (run m p none inComment cs).2 = [] ∧ (run m p none inComment (cs ++ closing)).2 = [] ∨
      run m p none inComment (cs ++ closing) =
        ((run m p none inComment cs).1, (run m p none inComment cs).2 ++ closing) := by
  induction cs generalizing inComment with
  | nil =>
    refine .inl ⟨rfl, ?_⟩
    have hBlank : Text.isBlank ')' = false := by decide
    have hBlank' : Text.isBlank '$' = false := by decide
    cases inComment <;> simp [run, closing, hBlank, hBlank', hp, hp']
  | cons c cs ih =>
    rw [List.cons_append, run, run]
    have := ih true
    have := ih false
    have := ih (c != '\n')
    grind

/-- What stands after all characters of a class does not belong to it. -/
theorem run_stops (m : Modes) (p : Char → Bool) (inComment : Bool) (cs : List Char) (c : Char)
    (h : (run m p none inComment cs).2.head? = some c) : p c = false := by
  induction cs generalizing inComment with
  | nil => exact nomatch h
  | cons d cs ih =>
    rw [run] at h
    grind

/-- The characters up to a closing brace are the same, or there is no such brace. -/
theorem runAll_brace (m : Modes) (cs : List Char) :
    (∃ taken rest, '}' :: rest <:+ cs ∧ runAll m (· ≠ '}') cs = (taken, '}' :: rest) ∧
        runAll m (· ≠ '}') (cs ++ closing) = (taken, '}' :: (rest ++ closing))) ∨
      ∃ taken taken', runAll m (· ≠ '}') cs = (taken, []) ∧
        runAll m (· ≠ '}') (cs ++ closing) = (taken', []) := by
  unfold runAll
  have hSuffix := run_suffix m (· ≠ '}') none false cs
  have hStops := run_stops m (· ≠ '}') false cs
  have hWithin := run_stops m (· ≠ '}') false (cs ++ closing)
  rcases hRun : run m (· ≠ '}') none false cs with ⟨taken, after⟩
  rw [hRun] at hSuffix hStops
  rcases run_append_of_all m (p := (· ≠ '}')) (by decide) (by decide) false cs with ⟨h, h'⟩ | h
  · rw [hRun] at h
    exact .inr ⟨taken, _, by rw [← h], Prod.ext rfl h'⟩
  · rw [h, hRun] at hWithin
    cases after with
    | nil =>
      -- then the rest would start with a character of the class
      exact absurd (hWithin _ rfl) (by decide)
    | cons c rest =>
      obtain rfl : c = '}' := by simpa using hStops c rfl
      rw [hRun] at h
      exact .inl ⟨taken, rest, hSuffix, rfl, h⟩

/-- What is read of a class without the closing parenthesis. -/
theorem run_append (m : Modes) {p : Char → Bool} (hp : p ')' = false) (limit : Option Nat)
    (cs : List Char) :
    ∃ taken rest, rest <:+ cs ∧ run m p limit false cs = (taken, rest) ∧
      (run m p limit false (cs ++ closing) = (taken, rest ++ closing) ∨
        '#' ∈ cs ∧ rest = [] ∧ run m p limit false (cs ++ closing) = (taken, [])) := by
  refine ⟨_, _, run_suffix m p limit false cs, rfl, ?_⟩
  simpa using run_append_closing m hp limit false cs

/-- No character of such a class is read before the closing. -/
theorem run_closing (m : Modes) {p : Char → Bool} (hp : p ')' = false) (limit : Option Nat) :
    run m p limit false closing = ([], closing) := by
  rcases run_append_closing m hp limit false [] with h | ⟨h, -⟩
  · exact h
  · exact absurd h (by simp)

/-! ## Readers -/

/-- How a reader of some characters does alone and when the closing follows: it finds the same, or
what it finds leaves only the ending of the closing. -/
inductive Onward {α : Type} (ending cs : List Char) (alone within : Option (α × List Char)) : Prop
  | same (a : α) (rest : List Char) (hSuffix : rest <:+ cs) (hAlone : alone = some (a, rest))
      (hWithin : within = some (a, rest ++ closing))
  | cut (hAlone : alone = none ∨ '#' ∈ cs)
      (hWithin : ∀ a rest, within = some (a, rest) → rest <:+ ending)

namespace Onward

variable {α β : Type} {ending cs : List Char} {alone within : Option (α × List Char)}

/-- Pairs of a value with one rest have this rest. -/
theorem eq_of_map_eq_some {o : Option β} {f : β → α} {a : α} {rest after : List Char}
    (h : (o.map fun b => (f b, rest)) = some (a, after)) : after = rest := by
  obtain ⟨b, -, hb⟩ := Option.map_eq_some_iff.mp h
  exact (Prod.mk.inj hb).2.symm

/-- What is found nowhere. -/
theorem none : Onward ending cs (Option.none : Option (α × List Char)) Option.none :=
  .cut (.inl rfl) (fun _ _ h => nomatch h)

/-- What is read in the same way whatever follows. -/
theorem here (a : α) {rest : List Char} (h : rest <:+ cs) :
    Onward ending cs (some (a, rest)) (some (a, rest ++ closing)) :=
  .same a rest h rfl rfl

/-- What is read to the end of the closing, in a comment that goes on behind. -/
theorem spent (a : α) (h : '#' ∈ cs) : Onward ending cs alone (some (a, [])) :=
  .cut (.inr h) fun _ _ h => by
    obtain ⟨-, rfl⟩ := Prod.mk.inj (Option.some.inj h)
    exact List.nil_suffix

/-- A reader of the end of some characters. -/
theorem of_suffix {cs' : List Char} (h : Onward ending cs alone within) (hcs : cs <:+ cs') :
    Onward ending cs' alone within := by
  cases h with
  | same a rest hSuffix hAlone hWithin => exact .same a rest (hSuffix.trans hcs) hAlone hWithin
  | cut hAlone hWithin => exact .cut (hAlone.imp_right fun h => hcs.mem h) hWithin

theorem map (h : Onward ending cs alone within) (f : α → β) :
    Onward ending cs (alone.map fun (a, rest) => (f a, rest))
      (within.map fun (a, rest) => (f a, rest)) := by
  cases h with
  | same a rest hSuffix hAlone hWithin =>
    rw [hAlone, hWithin]
    exact .same (f a) rest hSuffix rfl rfl
  | cut hAlone hWithin =>
    refine .cut (hAlone.imp_left fun h => by rw [h]; rfl) fun b rest hb => ?_
    obtain ⟨⟨a, rest'⟩, ha, hab⟩ := Option.map_eq_some_iff.mp hb
    obtain ⟨-, rfl⟩ := Prod.mk.inj hab
    exact hWithin a rest' ha

/-- A gap is left out in the same way, unless it is a comment that goes on behind. -/
theorem afterGap (m : Modes) (a : α) {rest : List Char} (h : rest <:+ cs) :
    Onward ending cs (some (a, gap m rest)) (some (a, gap m (rest ++ closing))) := by
  obtain ⟨rest', hSuffix, hGap, hGap' | ⟨hHash, -, hGap'⟩⟩ := gap_append m rest
  · rw [hGap, hGap']
    exact .here a (hSuffix.trans h)
  · rw [hGap']
    exact .spent a (h.mem hHash)

/-- A value that may be missing, before the same rest. -/
theorem value {rest rest' : List Char} {o : Option β} {f : β → α}
    (h : ∀ a : α, Onward ending cs (some (a, rest)) (some (a, rest'))) :
    Onward ending cs (o.map fun b => (f b, rest)) (o.map fun b => (f b, rest')) := by
  cases o with
  | none => exact .none
  | some b => exact h (f b)

/-- What is found only as the closing follows. -/
theorem past (a : α) {rest : List Char} (h : rest <:+ ending) :
    Onward ending cs Option.none (some (a, rest)) := by
  refine .cut (.inl rfl) fun a' rest' ha => ?_
  obtain ⟨-, rfl⟩ := Prod.mk.inj (Option.some.inj ha)
  exact h

/-- A value that may be missing, found only as the closing follows. -/
theorem beyond {rest : List Char} (o : Option β) (f : β → α) (h : rest <:+ ending) :
    Onward ending cs Option.none (o.map fun b => (f b, rest)) := by
  refine .cut (.inl rfl) fun a rest' ha => ?_
  rw [eq_of_map_eq_some ha]
  exact h

/-- Two readers one after the other. -/
theorem bind {ending' : List Char} {f g : α → List Char → Option (β × List Char)}
    (h : Onward ending' cs alone within)
    (hSame : ∀ a rest, rest <:+ cs → Onward ending cs (f a rest) (g a (rest ++ closing)))
    (hCut : ∀ a rest, rest <:+ ending' → ∀ b after, g a rest = some (b, after) →
      after <:+ ending) :
    Onward ending cs (alone.bind fun (a, rest) => f a rest)
      (within.bind fun (a, rest) => g a rest) := by
  cases h with
  | same a rest hSuffix hAlone hWithin =>
    rw [hAlone, hWithin]
    exact hSame a rest hSuffix
  | cut hAlone hWithin =>
    refine .cut (hAlone.imp_left fun h => by rw [h]; rfl) fun b after hb => ?_
    obtain ⟨⟨a, rest⟩, ha, hb⟩ := Option.bind_eq_some_iff.mp hb
    exact hCut a rest (hWithin a rest ha) b after hb

end Onward

/-- Characters of a class without the closing parenthesis are read in the same way, unless a comment
goes on behind them. -/
theorem run_onward (m : Modes) {p : Char → Bool} (hp : p ')' = false) (limit : Option Nat)
    (ending cs : List Char) :
    ∃ taken rest rest', run m p limit false cs = (taken, rest) ∧
      run m p limit false (cs ++ closing) = (taken, rest') ∧
      ∀ {α : Type} (a : α), Onward ending cs (some (a, rest)) (some (a, rest')) := by
  obtain ⟨taken, rest, hSuffix, hRun, hRun' | ⟨hHash, -, hRun'⟩⟩ := run_append m hp limit cs
  · exact ⟨taken, rest, _, hRun, hRun', fun a => .here a hSuffix⟩
  · exact ⟨taken, rest, _, hRun, hRun', fun a => .spent a hHash⟩

/-! ## Escapes -/

/-- What stands in braces is read in the same way, or there is no closing brace. -/
theorem braced_append (m : Modes) (cs : List Char) :
    (∃ taken rest, rest <:+ cs ∧ runAll m (· ≠ '}') (gap m cs) = (taken, '}' :: rest) ∧
        runAll m (· ≠ '}') (gap m (cs ++ closing)) = (taken, '}' :: (rest ++ closing))) ∨
      ∃ taken taken', runAll m (· ≠ '}') (gap m cs) = (taken, []) ∧
        runAll m (· ≠ '}') (gap m (cs ++ closing)) = (taken', []) := by
  obtain ⟨cs', hSuffix, hGap, hGap' | ⟨-, rfl, hGap'⟩⟩ := gap_append m cs
  · rw [hGap, hGap']
    rcases runAll_brace m cs' with ⟨taken, rest, hRest, hRun⟩ | h
    · exact .inl ⟨taken, rest, ((List.suffix_cons _ rest).trans hRest).trans hSuffix, hRun⟩
    · exact .inr h
  · rw [hGap, hGap']
    exact .inr ⟨[], [], rfl, rfl⟩

theorem hexEscape_append (m : Modes) {count : Nat} (hCount : 0 < count) (cs : List Char) :
    Onward ['$'] cs (hexEscape m count cs) (hexEscape m count (cs ++ closing)) := by
  unfold hexEscape
  obtain ⟨cs', hSuffix, hGap, hGap' | ⟨-, rfl, hGap'⟩⟩ := gap_append m cs
  · rw [hGap, hGap']
    rcases cs' with _ | ⟨c, rest⟩
    · -- the closing does not start with a digit
      have hRun := run_closing m (p := isHex) (by decide) (some count)
      rw [closing] at hRun
      exact .cut (.inl rfl) (by simp [closing, hRun, hCount])
    have hRest : rest <:+ cs := (List.suffix_cons c rest).trans hSuffix
    by_cases hBrace : c = '{'
    · subst hBrace
      simp only [List.cons_append]
      obtain ⟨digits, after, hAfter, hRun, hRun'⟩ | ⟨digits, digits', hRun, hRun'⟩ :=
        braced_append m rest
      · rw [hRun, hRun']
        simp only
        split
        · exact .value fun a => .afterGap m a (hAfter.trans hRest)
        · exact .none
      · rw [hRun, hRun']
        exact .none
    · simp only [List.cons_append]
      obtain ⟨digits, after, after', hRun, hRun', hOn⟩ :=
        run_onward m (p := isHex) (by decide) (some count) ['$'] (c :: rest)
      rw [hRun, ← List.cons_append, hRun']
      simp only
      split
      · exact .none
      · split
        · exact (hOn _).of_suffix hSuffix
        · exact .value fun a => (hOn a).of_suffix hSuffix
  · rw [hGap, hGap']
    exact .none

/-- The property that one character names, and what follows it. -/
theorem propertyEscape_letter (m : Modes) (negated : Bool) {c : Char} (hBrace : c ≠ '{') :
    ∃ e : Option Escape, ∀ cs rest, gap m cs = c :: rest →
      propertyEscape m negated cs = e.map fun e => (e, gap m rest) := by
  refine ⟨if c = '\\' then none else (property? [c]).bind fun s =>
    if m.allScripts then (m.finish (negated != false) s).map .set else none, ?_⟩
  intro cs rest hGap
  unfold propertyEscape
  rw [hGap]
  simp only
  by_cases hSlash : c = '\\'
  · simp only [hSlash, if_true, Option.map_none]
  · simp only [hSlash, if_false]
    cases property? [c] with
    | none => rfl
    | some s => cases m.allScripts <;> simp [Function.comp_def]

theorem propertyEscape_braced (m : Modes) (negated : Bool) (written : List Char) :
    ∃ e : Option Escape, ∀ cs rest after, gap m cs = '{' :: rest →
      runAll m (· ≠ '}') (gap m rest) = (written, '}' :: after) →
        propertyEscape m negated cs = e.map fun e => (e, after) := by
  refine ⟨(bracedProperty? written).bind fun s =>
    if m.allScripts then (m.finish (negated != s.2) s.1).map .set else none, ?_⟩
  intro cs rest after hGap hRun
  unfold propertyEscape
  rw [hGap]
  simp only [hRun]
  cases bracedProperty? written with
  | none => rfl
  | some s => cases m.allScripts <;> simp [Function.comp_def]

theorem propertyEscape_append (m : Modes) (negated : Bool) (cs : List Char) :
    Onward ['$'] cs (propertyEscape m negated cs) (propertyEscape m negated (cs ++ closing)) := by
  have hNil : ∀ {cs}, gap m cs = [] → propertyEscape m negated cs = none := by
    intro cs hGap
    unfold propertyEscape
    rw [hGap]
  obtain ⟨cs', hSuffix, hGap, hGap' | ⟨-, rfl, hGap'⟩⟩ := gap_append m cs
  · rcases cs' with _ | ⟨c, rest⟩
    · -- the property would be named by the closing parenthesis
      obtain ⟨e, he⟩ := propertyEscape_letter m negated (c := ')') (by decide)
      rw [hNil hGap, he _ ['$'] hGap']
      exact .beyond e id (gap_suffix m ['$'])
    have hRest : rest <:+ cs := (List.suffix_cons c rest).trans hSuffix
    by_cases hBrace : c = '{'
    · subst hBrace
      rcases braced_append m rest with
        ⟨written, after, hAfter, hRun, hRun'⟩ | ⟨written, written', hRun, hRun'⟩
      · obtain ⟨e, he⟩ := propertyEscape_braced m negated written
        rw [he _ _ _ hGap hRun, he _ _ _ hGap' hRun']
        exact .value fun e => .here e (hAfter.trans hRest)
      · have hUnclosed : ∀ {cs rest taken}, gap m cs = '{' :: rest →
            runAll m (· ≠ '}') (gap m rest) = (taken, []) → propertyEscape m negated cs = none := by
          intro cs rest taken hGap hRun
          unfold propertyEscape
          rw [hGap]
          simp only [hRun]
        rw [hUnclosed hGap hRun, hUnclosed hGap' hRun']
        exact .none
    · obtain ⟨e, he⟩ := propertyEscape_letter m negated hBrace
      rw [he _ _ hGap, he _ (rest ++ closing) hGap']
      exact .value fun e => .afterGap m e hRest
  · rw [hNil hGap, hNil hGap']
    exact .none

/-- A brace that is opened after an edge and holds nothing before the closing is taken for a
repetition, which is read to the closing only. -/
theorem edgeEscape_append (m : Modes) (cs : List Char) :
    Onward ['$'] cs (edgeEscape m cs) (edgeEscape m (cs ++ closing)) ∨
      edgeEscape m cs = none ∧ ∃ a rest, gap m rest = [] ∧
        edgeEscape m (cs ++ closing) = some (.anchor a, '{' :: (rest ++ closing)) := by
  rcases cs with _ | ⟨c, rest⟩
  · exact .inl (.here _ (List.suffix_refl []))
  have hRest : rest <:+ c :: rest := List.suffix_cons c rest
  by_cases hBrace : c = '{'
  · subst hBrace
    unfold edgeEscape
    simp only [List.cons_append]
    obtain ⟨cs', hSuffix, hGap, hGap' | ⟨-, rfl, hGap'⟩⟩ := gap_append m rest
    · rw [hGap, hGap']
      rcases cs' with _ | ⟨c, after⟩
      · exact .inr ⟨rfl, .wordEdge (!m.allScripts), rest, hGap, rfl⟩
      · refine .inl ?_
        simp only [List.cons_append]
        split
        · obtain ⟨word, after', hAfter, hRun, hRun' | ⟨-, rfl, hRun'⟩⟩ :=
            run_append m (p := isEdgeChar) (by decide) none (c :: after)
          · rw [List.cons_append] at hRun'
            simp only [runAll, hRun, hRun']
            rcases after' with _ | ⟨d, after'⟩
            · exact .none
            · by_cases hd : d = '}'
              · subst hd
                have hAfter' : after' <:+ rest :=
                  ((List.suffix_cons _ after').trans hAfter).trans hSuffix
                exact .value fun a => .here a (hAfter'.trans hRest)
              · simp only [List.cons_append]
                split
                · simp_all
                · split
                  · simp_all
                  · exact .none
          · rw [List.cons_append] at hRun'
            simp only [runAll, hRun, hRun']
            exact .none
        · exact .here _ List.suffix_rfl
    · rw [hGap, hGap']
      exact .inl .none
  · refine .inl ?_
    have hEdge : ∀ rest, edgeEscape m (c :: rest) =
        some (.anchor (.wordEdge (!m.allScripts)), c :: rest) := by
      intro rest
      unfold edgeEscape
      split
      next heq => exact absurd (List.cons.inj heq).1 hBrace
      next => rfl
    rw [List.cons_append, hEdge, hEdge]
    exact .here _ (List.suffix_refl (c :: rest))

/-- What the other characters after a backslash stand for does not depend on what follows. -/
theorem escape_plain (m : Modes) {c : Char} (h : c ∉ ['x', 'u', 'U', 'p', 'P', 'b']) :
    ∃ e : Option Escape, ∀ rest, escape m (c :: rest) = e.map fun e => (e, rest) := by
  refine ⟨(escape m [c]).map Prod.fst, fun rest => ?_⟩
  simp only [List.mem_cons, not_or] at h
  unfold escape
  split <;> simp_all
  cases perl? (!m.allScripts) c <;> cases perl? (!m.allScripts) c.toLower <;> grind

theorem escape_append (m : Modes) (cs : List Char) :
    Onward ['$'] cs (escape m cs) (escape m (cs ++ closing)) ∨
      escape m cs = none ∧ ∃ a rest, gap m rest = [] ∧
        escape m (cs ++ closing) = some (.anchor a, '{' :: (rest ++ closing)) := by
  rcases cs with _ | ⟨c, rest⟩
  · obtain ⟨e, he⟩ := escape_plain m (c := ')') (by decide)
    refine .inl ?_
    rw [List.nil_append, closing, he]
    exact .beyond e id List.suffix_rfl
  have hRest : rest <:+ c :: rest := List.suffix_cons c rest
  by_cases hc : c ∈ ['x', 'u', 'U', 'p', 'P', 'b']
  · simp only [List.mem_cons, List.not_mem_nil, or_false] at hc
    rcases hc with rfl | rfl | rfl | rfl | rfl | rfl
    · exact .inl ((hexEscape_append m (by decide) rest).of_suffix hRest)
    · exact .inl ((hexEscape_append m (by decide) rest).of_suffix hRest)
    · exact .inl ((hexEscape_append m (by decide) rest).of_suffix hRest)
    · exact .inl ((propertyEscape_append m false rest).of_suffix hRest)
    · exact .inl ((propertyEscape_append m true rest).of_suffix hRest)
    · exact (edgeEscape_append m rest).imp_left fun h => h.of_suffix hRest
  · obtain ⟨e, he⟩ := escape_plain m hc
    refine .inl ?_
    rw [List.cons_append, he, he]
    exact .value fun a => .here a hRest

end Metering.Pattern
