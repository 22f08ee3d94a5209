import Metering.Proofs.Pattern.Bracketed

/-!
# Metering — tokens before a closing parenthesis

One token of an expression is the same in a group around it. There are two kinds of exceptions: a
token with a comment behind it, which takes the closing along, and an escaped edge with an open
brace behind it, which is read in the group only and leaves a brace that nothing closes.

* `countedTimes_append` — repetitions in braces;
* `parenthesis_append` — openings of groups and changes of modes;
* `read_append` — every token, by its first character;
* `eq_paren_of_read_closed` — no other token than a closing parenthesis closes a group.
-/

namespace Metering.Pattern

/-! ## Repetitions -/

theorem count_append (m : Modes) (cs : List Char) :
    Onward ['$'] cs (count m cs) (count m (cs ++ closing)) := by
  unfold count runAll
  rw [dropWhile_blank_append]
  have hBlank := List.dropWhile_suffix Text.isBlank (l := cs)
  obtain ⟨digits, rest, hSuffix, hRun, hRun' | ⟨hHash, rfl, hRun'⟩⟩ :=
    run_append m (p := Char.isDigit) (by decide) none (cs.dropWhile Text.isBlank)
  · rw [hRun, hRun']
    dsimp only
    split
    · exact .none
    · rw [dropWhile_blank_append]
      exact .afterGap m _ (((List.dropWhile_suffix _).trans hSuffix).trans hBlank)
  · rw [hRun, hRun']
    dsimp only
    split
    · exact .none
    · rw [List.dropWhile_nil, gap_nil]
      exact .spent _ (hBlank.mem hHash)

theorem count_closing (m : Modes) {rest : List Char} (h : rest <:+ closing) :
    count m rest = none := by
  have hNone : ∀ c rest, Text.isBlank c = false → c ≠ '#' → c.isDigit = false →
      count m (c :: rest) = none := by
    intro c rest hBlank hHash hDigit
    simp [count, runAll, run, hBlank, hHash, hDigit]
  rcases List.suffix_cons_iff.mp h with rfl | h
  · exact hNone ')' ['$'] (by decide) (by decide) (by decide)
  rcases List.suffix_cons_iff.mp h with rfl | h
  · exact hNone '$' [] (by decide) (by decide) (by decide)
  · rw [List.suffix_nil.mp h]
    rfl

theorem repetition_append (m : Modes) (least : Nat) (most : Option Nat) (cs : List Char) :
    ∃ token rest, rest <:+ cs ∧ Token.repetition m least most cs = (token, rest) ∧
      Token.repetition m least most (cs ++ closing) = (token, rest ++ closing) := by
  by_cases hMark : cs.head? = some '?'
  · obtain ⟨rest, rfl⟩ := List.head?_eq_some_iff.mp hMark
    exact ⟨_, rest, List.suffix_cons _ _, rfl, rfl⟩
  · refine ⟨.times least most m.sparing, cs, List.suffix_rfl, ?_, ?_⟩ <;> unfold Token.repetition
    · split <;> simp_all
    · split
      · rcases cs <;> simp_all [closing]
      · rfl

/-- A repetition after its braces. -/
theorem repetition_gap_append (m : Modes) (least : Nat) (most : Option Nat) (cs : List Char) :
    Onward ['$'] cs (some (Token.repetition m least most (gap m cs)))
      (some (Token.repetition m least most (gap m (cs ++ closing)))) := by
  obtain ⟨rest, hSuffix, hGap, hGap' | ⟨hHash, rfl, hGap'⟩⟩ := gap_append m cs
  · obtain ⟨token, after, hAfter, hToken, hToken'⟩ := repetition_append m least most rest
    rw [hGap, hGap', hToken, hToken']
    exact .here _ (hAfter.trans hSuffix)
  · rw [hGap']
    exact .spent _ hHash

theorem head?_of_suffix_closing {rest : List Char} (h : rest <:+ closing) {c : Char} (hc : c ≠ ')')
    (hc' : c ≠ '$') : rest.head? ≠ some c := by
  intro hHead
  have hMem : c ∈ closing := h.mem (List.mem_of_mem_head? hHead)
  simp only [closing, List.mem_cons, List.not_mem_nil, or_false] at hMem
  rcases hMem with hMem | hMem
  · exact hc hMem
  · exact hc' hMem

/-- A repetition in braces, after both its numbers. -/
def countedTo (m : Modes) (least most : Nat) (cs : List Char) : Option (Token × List Char) :=
  match cs with
  | '}' :: rest =>
    if least ≤ most then some (Token.repetition m least (some most) (gap m rest)) else none
  | _ => none

/-- A repetition in braces, after its first number and the comma. -/
def countedAtLeast (m : Modes) (least : Nat) (cs : List Char) : Option (Token × List Char) :=
  match cs with
  | '}' :: rest => some (Token.repetition m least none (gap m rest))
  | rest => (count m rest).bind fun (most, rest) => countedTo m least most rest

/-- A repetition in braces, after its first number. -/
def countedFrom (m : Modes) (least : Nat) (cs : List Char) : Option (Token × List Char) :=
  match cs with
  | '}' :: rest => some (Token.repetition m least (some least) (gap m rest))
  | ',' :: rest => countedAtLeast m least (gap m rest)
  | _ => none

theorem countedTo_other {m : Modes} {least most : Nat} {cs : List Char}
    (h : cs.head? ≠ some '}') : countedTo m least most cs = none := by
  unfold countedTo
  split <;> simp_all

theorem countedAtLeast_other {m : Modes} {least : Nat} {cs : List Char} (h : cs.head? ≠ some '}') :
    countedAtLeast m least cs =
      (count m cs).bind fun (most, rest) => countedTo m least most rest := by
  unfold countedAtLeast
  split <;> simp_all

theorem countedFrom_other {m : Modes} {least : Nat} {cs : List Char} (h : cs.head? ≠ some '}')
    (h' : cs.head? ≠ some ',') : countedFrom m least cs = none := by
  unfold countedFrom
  split <;> simp_all

theorem countedTimes_eq (m : Modes) (cs : List Char) :
    countedTimes m cs =
      (count m (gap m cs)).bind fun (least, rest) => countedFrom m least rest := by
  unfold countedTimes
  rcases count m (gap m cs) with _ | ⟨least, rest⟩
  · rfl
  show _ = countedFrom m least rest
  by_cases hClose : rest.head? = some '}'
  · obtain ⟨rest, rfl⟩ := List.head?_eq_some_iff.mp hClose
    rfl
  by_cases hComma : rest.head? = some ','
  · obtain ⟨rest, rfl⟩ := List.head?_eq_some_iff.mp hComma
    show _ = countedAtLeast m least (gap m rest)
    simp only
    by_cases hClose : (gap m rest).head? = some '}'
    · obtain ⟨after, hAfter⟩ := List.head?_eq_some_iff.mp hClose
      rw [hAfter]
      rfl
    · rw [countedAtLeast_other hClose]
      split
      · simp_all
      · rcases count m (gap m rest) with _ | ⟨most, after⟩
        · rfl
        · simp only [Option.bind_some]
          unfold countedTo
          split <;> simp_all
  · rw [countedFrom_other hClose hComma]
    split <;> simp_all

theorem countedTo_append (m : Modes) (least most : Nat) (cs : List Char) :
    Onward ['$'] cs (countedTo m least most cs) (countedTo m least most (cs ++ closing)) := by
  by_cases hClose : cs.head? = some '}'
  · obtain ⟨rest, rfl⟩ := List.head?_eq_some_iff.mp hClose
    show Onward ['$'] ('}' :: rest) (if least ≤ most then _ else _) (if least ≤ most then _ else _)
    split
    · exact (repetition_gap_append m least (some most) rest).of_suffix (List.suffix_cons _ rest)
    · exact .none
  · rw [countedTo_other hClose, countedTo_other]
    · exact .none
    · rwa [ne_eq, head?_append_closing_iff (by decide)]

theorem countedAtLeast_append (m : Modes) (least : Nat) (cs : List Char) :
    Onward ['$'] cs (countedAtLeast m least cs) (countedAtLeast m least (cs ++ closing)) := by
  by_cases hClose : cs.head? = some '}'
  · obtain ⟨rest, rfl⟩ := List.head?_eq_some_iff.mp hClose
    exact (repetition_gap_append m least none rest).of_suffix (List.suffix_cons _ rest)
  · rw [countedAtLeast_other hClose, countedAtLeast_other]
    · refine (count_append m cs).bind (f := countedTo m least) (g := countedTo m least)
        (fun most rest hRest => (countedTo_append m least most rest).of_suffix hRest) ?_
      intro most rest hRest token after h
      rw [countedTo_other (head?_of_suffix_closing
        (hRest.trans (List.suffix_cons _ _)) (by decide) (by decide))] at h
      exact nomatch h
    · rwa [ne_eq, head?_append_closing_iff (by decide)]

theorem countedFrom_append (m : Modes) (least : Nat) (cs : List Char) :
    Onward ['$'] cs (countedFrom m least cs) (countedFrom m least (cs ++ closing)) := by
  by_cases hClose : cs.head? = some '}'
  · obtain ⟨rest, rfl⟩ := List.head?_eq_some_iff.mp hClose
    exact (repetition_gap_append m least (some least) rest).of_suffix (List.suffix_cons _ rest)
  by_cases hComma : cs.head? = some ','
  · obtain ⟨rest, rfl⟩ := List.head?_eq_some_iff.mp hComma
    have hRest : rest <:+ ',' :: rest := List.suffix_cons _ rest
    show Onward ['$'] (',' :: rest) (countedAtLeast m least (gap m rest))
      (countedAtLeast m least (gap m (rest ++ closing)))
    obtain ⟨after, hAfter, hGap, hGap' | ⟨-, rfl, hGap'⟩⟩ := gap_append m rest
    · rw [hGap, hGap']
      exact (countedAtLeast_append m least after).of_suffix (hAfter.trans hRest)
    · rw [hGap, hGap']
      exact .none
  · rw [countedFrom_other hClose hComma, countedFrom_other]
    · exact .none
    · rwa [ne_eq, head?_append_closing_iff (by decide)]
    · rwa [ne_eq, head?_append_closing_iff (by decide)]

theorem countedTimes_append (m : Modes) (cs : List Char) :
    Onward ['$'] cs (countedTimes m cs) (countedTimes m (cs ++ closing)) := by
  rw [countedTimes_eq, countedTimes_eq]
  obtain ⟨rest, hRest, hGap, hGap' | ⟨-, rfl, hGap'⟩⟩ := gap_append m cs
  · rw [hGap, hGap']
    refine Onward.of_suffix ?_ hRest
    refine (count_append m rest).bind (f := countedFrom m) (g := countedFrom m)
      (fun least after h => (countedFrom_append m least after).of_suffix h) ?_
    intro least after hAfter token rest' h
    have hClosing : after <:+ closing := hAfter.trans (List.suffix_cons _ _)
    rw [countedFrom_other (head?_of_suffix_closing hClosing (by decide) (by decide))
      (head?_of_suffix_closing hClosing (by decide) (by decide))] at h
    exact nomatch h
  · rw [hGap, hGap']
    exact .none

/-- A brace that holds nothing before the closing is no repetition. -/
theorem countedTimes_closing {m : Modes} {cs : List Char} (h : gap m cs = []) :
    countedTimes m (cs ++ closing) = none := by
  rw [countedTimes_eq]
  obtain ⟨rest, -, hGap, hGap' | ⟨-, -, hGap'⟩⟩ := gap_append m cs
  · rw [hGap', ← hGap, h, List.nil_append, count_closing m List.suffix_rfl]
    rfl
  · rw [hGap', count_closing m List.nil_suffix]
    rfl

/-! ## Groups -/

theorem changeLoop_append (dashed : Bool) (done : Change) (cs : List Char) :
    Onward closing cs (changeLoop dashed done cs) (changeLoop dashed done (cs ++ closing)) := by
  induction cs generalizing dashed done with
  | nil => exact .past _ List.suffix_rfl
  | cons c rest ih =>
    have hRest : rest <:+ c :: rest := List.suffix_cons c rest
    rw [List.cons_append, changeLoop.eq_def, changeLoop.eq_def dashed done (c :: (rest ++ closing))]
    dsimp only
    by_cases hEnd : c = ':' ∨ c = ')'
    · rw [if_pos hEnd, if_pos hEnd]
      exact .here _ (List.suffix_refl (c :: rest))
    rw [if_neg hEnd, if_neg hEnd]
    by_cases hDash : c = '-'
    · rw [if_pos hDash, if_pos hDash]
      rcases rest with _ | ⟨d, rest⟩
      · -- what would follow the dash is the closing parenthesis
        have hParen : (dashed || ')' == ':' || ')' == ')') = true := by simp
        simp only [List.nil_append, closing, hParen, if_true]
        exact .none
      · dsimp only [List.cons_append]
        split
        · exact .none
        · exact (ih _ _).of_suffix hRest
    · rw [if_neg hDash, if_neg hDash]
      split
      · exact (ih _ _).of_suffix hRest
      · exact .none

/-- A group's name has its end before the closing or none. -/
theorem groupName_append (cs : List Char) :
    Onward ['$'] cs (groupName cs) (groupName (cs ++ closing)) := by
  unfold groupName
  rcases span_append (p := (· ≠ '>')) (by decide) (by decide) cs with
    ⟨hDrop, hDrop'⟩ | ⟨c, rest, hSuffix, hDrop, hDrop', hTake⟩
  · rw [hDrop, hDrop']
    cases cs.takeWhile (· ≠ '>') <;> cases (cs ++ closing).takeWhile (· ≠ '>') <;> exact .none
  · rw [hDrop, hDrop', hTake]
    rcases cs.takeWhile (· ≠ '>') with _ | ⟨d, name⟩
    · exact .none
    by_cases hc : c = '>'
    · subst hc
      simp only
      split
      · exact .here _ ((List.suffix_cons _ rest).trans hSuffix)
      · exact .none
    · split
      · simp_all
      · split
        · simp_all
        · exact .none

/-- A group with a name. -/
def namedGroup (cs : List Char) : Option (Token × List Char) :=
  (groupName cs).map fun (name, rest) => (.numbered (some name), rest)

/-- The token of a change of modes, by what follows its letters. -/
def changeToken (change : Change) (cs : List Char) : Option (Token × List Char) :=
  match cs with
  | ':' :: rest => some (.opened change, rest)
  | ')' :: rest => if change = [] then none else some (.modes change, rest)
  | _ => none

/-- What follows an opening parenthesis and a question mark. -/
def questioned (cs : List Char) : Option (Token × List Char) :=
  if cs.head? = some '=' ∨ cs.head? = some '!' then none
  else if cs.head? = some '<' then
    if cs.tail.head? = some '=' ∨ cs.tail.head? = some '!' then none else namedGroup cs.tail
  else if cs.head? = some 'P' ∧ cs.tail.head? = some '<' then namedGroup cs.tail.tail
  else (changeLoop false [] cs).bind fun (change, rest) => changeToken change rest

theorem changeToken_other {change : Change} {cs : List Char} (h : cs.head? ≠ some ':')
    (h' : cs.head? ≠ some ')') : changeToken change cs = none := by
  unfold changeToken
  split <;> simp_all

theorem parenthesis_plain {m : Modes} {cs : List Char} (h : (gap m cs).head? ≠ some '?') :
    parenthesis m cs = some (.numbered none, gap m cs) := by
  unfold parenthesis
  split <;> simp_all

theorem parenthesis_questioned {m : Modes} {cs rest : List Char} (h : gap m cs = '?' :: rest) :
    parenthesis m cs = questioned rest := by
  unfold parenthesis questioned
  rw [h]
  rcases rest with _ | ⟨c, rest⟩
  · rfl
  simp only [List.head?_cons, List.tail_cons, Option.some.injEq]
  by_cases hLook : c = '=' ∨ c = '!'
  · rcases hLook with rfl | rfl <;> rfl
  rw [if_neg hLook]
  by_cases hAngle : c = '<'
  · subst hAngle
    rw [if_pos rfl]
    rcases rest with _ | ⟨d, rest⟩
    · rfl
    by_cases hLook : d = '=' ∨ d = '!'
    · rcases hLook with rfl | rfl <;> rfl
    · simp only [List.head?_cons, Option.some.injEq]
      rw [if_neg hLook]
      split <;> grind [namedGroup]
  rw [if_neg hAngle]
  by_cases hNamed : c = 'P' ∧ rest.head? = some '<'
  · obtain ⟨rfl, hHead⟩ := hNamed
    obtain ⟨rest, rfl⟩ := List.head?_eq_some_iff.mp hHead
    rfl
  · rw [if_neg hNamed]
    split
    iterate 6 simp_all
    next heq =>
      rw [← (List.cons.inj heq).2]
      rcases changeLoop false [] (c :: rest) with _ | ⟨change, after⟩
      · rfl
      · simp only [Option.bind_some]
        unfold changeToken
        split <;> simp_all
    next => simp_all

theorem changeToken_suffix {change : Change} {cs rest : List Char} {token : Token}
    (h : changeToken change cs = some (token, rest)) : rest <:+ cs.tail := by
  unfold changeToken at h
  grind

theorem changeToken_append (change : Change) (cs : List Char) :
    Onward ['$'] cs (changeToken change cs) (changeToken change (cs ++ closing)) := by
  rcases cs with _ | ⟨c, rest⟩
  · exact .cut (.inl rfl) fun token rest h => changeToken_suffix h
  have hRest : rest <:+ c :: rest := List.suffix_cons c rest
  by_cases hColon : c = ':'
  · subst hColon
    exact .here _ hRest
  by_cases hParen : c = ')'
  · subst hParen
    show Onward ['$'] (')' :: rest) (if change = [] then _ else _) (if change = [] then _ else _)
    split
    · exact .none
    · exact .here _ hRest
  · rw [changeToken_other (by simpa using hColon) (by simpa using hParen),
      changeToken_other (by simpa using hColon) (by simpa using hParen)]
    exact .none

theorem questioned_append (cs : List Char) :
    Onward ['$'] cs (questioned cs) (questioned (cs ++ closing)) := by
  have hNamed : ∀ cs, Onward ['$'] cs (namedGroup cs) (namedGroup (cs ++ closing)) := fun cs =>
    (groupName_append cs).map fun name => Token.numbered (some name)
  rcases cs with _ | ⟨c, rest⟩
  · exact .none
  have hRest : rest <:+ c :: rest := List.suffix_cons c rest
  unfold questioned
  simp only [List.cons_append, List.head?_cons, List.tail_cons, Option.some.injEq,
    head?_append_closing_iff (d := '=') (by decide),
    head?_append_closing_iff (d := '!') (by decide),
    head?_append_closing_iff (d := '<') (by decide)]
  by_cases hLook : c = '=' ∨ c = '!'
  · rw [if_pos hLook, if_pos hLook]
    exact .none
  rw [if_neg hLook, if_neg hLook]
  by_cases hAngle : c = '<'
  · rw [if_pos hAngle, if_pos hAngle]
    by_cases hLook : rest.head? = some '=' ∨ rest.head? = some '!'
    · simp only [hLook, if_true]
      exact .none
    · simp only [hLook, if_false]
      exact (hNamed rest).of_suffix hRest
  rw [if_neg hAngle, if_neg hAngle]
  by_cases hName : c = 'P' ∧ rest.head? = some '<'
  · obtain ⟨after, rfl⟩ := List.head?_eq_some_iff.mp hName.2
    rw [if_pos hName, if_pos hName]
    exact (hNamed after).of_suffix ((List.suffix_cons _ after).trans hRest)
  · rw [if_neg hName, if_neg hName]
    refine (changeLoop_append false [] (c :: rest)).bind (f := changeToken) (g := changeToken) ?_ ?_
    · intro change after hAfter
      exact (changeToken_append change after).of_suffix hAfter
    · intro change after hAfter token rest' h
      have hTail : after.tail <:+ ['$'] := by
        rcases List.suffix_cons_iff.mp hAfter with rfl | hAfter
        · exact List.suffix_rfl
        · exact (List.tail_suffix after).trans hAfter
      exact (changeToken_suffix h).trans hTail

theorem parenthesis_append (m : Modes) (cs : List Char) :
    Onward ['$'] cs (parenthesis m cs) (parenthesis m (cs ++ closing)) := by
  obtain ⟨rest, hSuffix, hGap, hGap' | ⟨hHash, rfl, hGap'⟩⟩ := gap_append m cs
  · by_cases hMark : rest.head? = some '?'
    · obtain ⟨after, rfl⟩ := List.head?_eq_some_iff.mp hMark
      rw [parenthesis_questioned hGap, parenthesis_questioned hGap']
      exact (questioned_append after).of_suffix ((List.suffix_cons _ after).trans hSuffix)
    · rw [parenthesis_plain (by rwa [hGap]), parenthesis_plain, hGap, hGap']
      · exact .here _ hSuffix
      · rwa [hGap', ne_eq, head?_append_closing_iff (by decide)]
  · rw [parenthesis_plain (by simp [hGap]), parenthesis_plain (by simp [hGap']), hGap']
    exact .spent _ hHash

/-! ## All tokens -/

/-- A mark of repetition. -/
theorem repetition_onward (m : Modes) (least : Nat) (most : Option Nat) (cs : List Char) :
    Onward ['$'] cs (some (Token.repetition m least most cs))
      (some (Token.repetition m least most (cs ++ closing))) := by
  obtain ⟨token, rest, hRest, hToken, hToken'⟩ := repetition_append m least most cs
  rw [hToken, hToken']
  exact .here token hRest

/-- The piece that is written with a backslash. -/
def escaped (m : Modes) (cs : List Char) : Option (Token × List Char) :=
  (escape m cs).bind fun (e, rest) => (escapePiece m e).map fun p => (.piece p, rest)

theorem read_escaped (m : Modes) (cs : List Char) : Token.read m ('\\' :: cs) = escaped m cs := by
  unfold Token.read escaped
  simp only
  cases escape m cs <;> rfl

theorem escaped_append (m : Modes) (cs : List Char) :
    Onward ['$'] cs (escaped m cs) (escaped m (cs ++ closing)) ∨
      escaped m cs = none ∧ ∃ p rest, gap m rest = [] ∧
        escaped m (cs ++ closing) = some (.piece p, '{' :: (rest ++ closing)) := by
  let token (e : Escape) (rest : List Char) : Option (Token × List Char) :=
    (escapePiece m e).map fun p => (.piece p, rest)
  rcases escape_append m cs with h | ⟨hAlone, a, rest, hGap, hWithin⟩
  · refine .inl (h.bind (f := token) (g := token) ?_ ?_)
    · exact fun e rest hRest => .value fun a => .here a hRest
    · intro e rest hRest t after h
      exact Onward.eq_of_map_eq_some h ▸ hRest
  · refine .inr ⟨by rw [escaped, hAlone]; rfl, ⟨.anchor a, 0⟩, rest, hGap, ?_⟩
    rw [escaped, hWithin]
    rfl

/-- The other tokens are read off their first character. -/
theorem read_plain (m : Modes) {c : Char} (h : c ∉ ['(', '[', '?', '*', '+', '{', '\\']) :
    ∃ token : Option Token, ∀ rest, Token.read m (c :: rest) = token.map fun t => (t, rest) := by
  refine ⟨(Token.read m [c]).map Prod.fst, fun rest => ?_⟩
  simp only [List.mem_cons, not_or] at h
  unfold Token.read
  split <;> simp_all

theorem read_append (m : Modes) (c : Char) (cs : List Char) :
    Onward ['$'] cs (Token.read m (c :: cs)) (Token.read m (c :: (cs ++ closing))) ∨
      Token.read m (c :: cs) = none ∧ ∃ p rest, gap m rest = [] ∧
        Token.read m (c :: (cs ++ closing)) = some (.piece p, '{' :: (rest ++ closing)) := by
  by_cases hc : c ∈ ['(', '[', '?', '*', '+', '{', '\\']
  · simp only [List.mem_cons, List.not_mem_nil, or_false] at hc
    rcases hc with rfl | rfl | rfl | rfl | rfl | rfl | rfl
    · exact .inl (parenthesis_append m cs)
    · exact .inl ((bracketed_append m cs).map Token.piece)
    · exact .inl (repetition_onward m 0 (some 1) cs)
    · exact .inl (repetition_onward m 0 none cs)
    · exact .inl (repetition_onward m 1 none cs)
    · exact .inl (countedTimes_append m cs)
    · rw [read_escaped, read_escaped]
      exact escaped_append m cs
  · obtain ⟨token, hToken⟩ := read_plain m hc
    rw [hToken, hToken]
    exact .inl (.value fun a => .here a List.suffix_rfl)

/-! ## Closing parentheses -/

theorem repetition_ne_closed (m : Modes) (least : Nat) (most : Option Nat) (cs : List Char) :
    (Token.repetition m least most cs).1 ≠ .closed := by
  unfold Token.repetition
  split <;> exact fun h => nomatch h

theorem countedFrom_ne_closed {m : Modes} {least : Nat} {cs rest : List Char} :
    countedFrom m least cs ≠ some (.closed, rest) := by
  intro h
  have hRepetition : ∀ most cs, some (Token.repetition m least most cs) ≠ some (.closed, rest) := by
    intro most cs h
    exact repetition_ne_closed m least most cs (by rw [Option.some.inj h])
  unfold countedFrom at h
  split at h
  · exact hRepetition _ _ h
  · unfold countedAtLeast at h
    split at h
    · exact hRepetition _ _ h
    · obtain ⟨⟨most, after⟩, -, h⟩ := Option.bind_eq_some_iff.mp h
      have h : countedTo m least most after = some (.closed, rest) := h
      unfold countedTo at h
      split at h
      · split at h
        · exact hRepetition _ _ h
        · exact nomatch h
      · exact nomatch h
  · exact nomatch h

theorem questioned_ne_closed {cs rest : List Char} : questioned cs ≠ some (.closed, rest) := by
  intro h
  have hNamed : ∀ cs, namedGroup cs ≠ some (.closed, rest) := by
    intro cs h
    obtain ⟨_, -, h⟩ := Option.map_eq_some_iff.mp h
    exact nomatch h
  unfold questioned at h
  split at h
  · exact nomatch h
  split at h
  · split at h
    · exact nomatch h
    · exact hNamed _ h
  split at h
  · exact hNamed _ h
  · obtain ⟨⟨change, after⟩, -, h⟩ := Option.bind_eq_some_iff.mp h
    unfold changeToken at h
    grind

/-- Only a closing parenthesis closes a group. -/
theorem eq_paren_of_read_closed {m : Modes} {c : Char} {cs rest : List Char}
    (h : Token.read m (c :: cs) = some (.closed, rest)) : c = ')' := by
  by_cases hc : c ∈ ['(', '[', '?', '*', '+', '{', '\\']
  · exfalso
    simp only [List.mem_cons, List.not_mem_nil, or_false] at hc
    rcases hc with rfl | rfl | rfl | rfl | rfl | rfl | rfl
    · have h : parenthesis m cs = some (.closed, rest) := h
      by_cases hMark : (gap m cs).head? = some '?'
      · obtain ⟨after, hAfter⟩ := List.head?_eq_some_iff.mp hMark
        rw [parenthesis_questioned hAfter] at h
        exact questioned_ne_closed h
      · rw [parenthesis_plain hMark] at h
        exact nomatch h
    · obtain ⟨_, -, h⟩ := Option.map_eq_some_iff.mp h
      exact nomatch h
    · exact repetition_ne_closed m 0 (some 1) cs (by rw [Option.some.inj h])
    · exact repetition_ne_closed m 0 none cs (by rw [Option.some.inj h])
    · exact repetition_ne_closed m 1 none cs (by rw [Option.some.inj h])
    · have h : countedTimes m cs = some (.closed, rest) := h
      rw [countedTimes_eq] at h
      obtain ⟨_, -, h⟩ := Option.bind_eq_some_iff.mp h
      exact countedFrom_ne_closed h
    · rw [read_escaped] at h
      obtain ⟨_, -, h⟩ := Option.bind_eq_some_iff.mp h
      obtain ⟨_, -, h⟩ := Option.map_eq_some_iff.mp h
      exact nomatch h
  · simp only [List.mem_cons, not_or] at hc
    unfold Token.read at h
    grind

end Metering.Pattern
