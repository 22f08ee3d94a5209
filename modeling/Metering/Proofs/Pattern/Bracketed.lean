import Metering.Proofs.Pattern.Closing

/-!
# Metering — sets in brackets before a closing parenthesis

What closes a group holds neither a bracket nor a word between colons. So brackets that are closed
in an expression are read in the same way in a group around it, and brackets that are not closed in
it are not closed at all.

* `openBracket_append` — the start of a set and its mark of negation;
* `posixItem_append`, `setItem_append` — one word between colons, one character or one span;
* `bracketLoop_append` — the items of all open brackets, by induction on the bound of the loop;
* `bracketed_append` — a whole set.
-/

namespace Metering.Pattern

variable {m : Modes} {b : Bracket} {outer : List Bracket} {cs : List Char}

/-! ## The start of a set -/

/-- The bracket that is open after some dashes and what follows them. -/
def openedAfter (m : Modes) (negated : Bool) (dashes rest : List Char) :
    Option (Bracket × List Char) :=
  if rest.isEmpty then none
  else if dashes.isEmpty && rest.head? == some ']' then
    match gap m rest.tail with
    | [] => none
    | after => some (⟨negated, none, [(.one ']', 0)]⟩, after)
  else some (⟨negated, none, dashes.map fun c => (.one c, 0)⟩, rest)

/-- The text after the mark of negation, if it is there. -/
def afterNegation (m : Modes) (cs : List Char) : Bool × List Char :=
  if (gap m cs).head? == some '^' then (true, gap m (gap m cs).tail) else (false, gap m cs)

theorem openBracket_eq (m : Modes) (cs : List Char) :
    openBracket m cs =
      openedAfter m (afterNegation m cs).1 (runAll m (· == '-') (afterNegation m cs).2).1
        (runAll m (· == '-') (afterNegation m cs).2).2 := by
  unfold openBracket
  split
  next negated cs' heq =>
  have hNegation : afterNegation m cs = (negated, cs') := by
    unfold afterNegation
    rw [← heq]
    rcases gap m cs with _ | ⟨c, rest⟩
    · rfl
    · split <;> split <;> simp_all
  rw [hNegation]
  dsimp only
  rcases runAll m (· == '-') cs' with ⟨dashes, rest⟩
  unfold openedAfter
  rcases rest with _ | ⟨c, rest⟩
  · rfl
  by_cases hClose : dashes = [] ∧ c = ']'
  · obtain ⟨rfl, rfl⟩ := hClose
    rfl
  · have hOther : (dashes.isEmpty && (c :: rest).head? == some ']') = false := by
      cases dashes <;> simp_all
    simp only [List.isEmpty_cons, hOther, Bool.false_eq_true, if_false]
    split <;> simp_all

theorem openedAfter_append (m : Modes) (negated : Bool) (dashes rest : List Char) :
    Onward closing rest (openedAfter m negated dashes rest)
      (openedAfter m negated dashes (rest ++ closing)) := by
  unfold openedAfter
  rcases rest with _ | ⟨c, rest⟩
  · have hOther : (dashes.isEmpty && closing.head? == some ']') = false := by
      cases dashes <;> rfl
    rw [List.nil_append, hOther]
    exact .past _ List.suffix_rfl
  by_cases hClose : dashes = [] ∧ c = ']'
  · obtain ⟨rfl, rfl⟩ := hClose
    have hRest : rest <:+ ']' :: rest := List.suffix_cons _ rest
    obtain ⟨after, hAfter, hGap, hGap' | ⟨-, rfl, hGap'⟩⟩ := gap_append m rest
    · simp only [List.isEmpty_nil, List.isEmpty_cons, List.head?_cons, List.tail_cons,
        List.cons_append, Bool.false_eq_true, if_false, hGap, hGap']
      rcases after with _ | ⟨d, after⟩
      · exact .past _ List.suffix_rfl
      · exact .here _ (hAfter.trans hRest)
    · simp only [List.isEmpty_nil, List.isEmpty_cons, List.head?_cons, List.tail_cons,
        List.cons_append, Bool.false_eq_true, if_false, hGap, hGap']
      exact .none
  · have hOther : ∀ rest, (dashes.isEmpty && (c :: rest).head? == some ']') = false := by
      intro rest
      cases dashes <;> simp_all
    simp only [List.isEmpty_cons, List.cons_append, hOther, Bool.false_eq_true, if_false]
    exact .here _ (List.suffix_refl (c :: rest))

theorem openBracket_append (m : Modes) (cs : List Char) :
    Onward closing cs (openBracket m cs) (openBracket m (cs ++ closing)) := by
  have hAfter : ∀ negated {cs'}, cs' <:+ cs → Onward closing cs
      (openedAfter m negated (runAll m (· == '-') cs').1 (runAll m (· == '-') cs').2)
      (openedAfter m negated (runAll m (· == '-') (cs' ++ closing)).1
        (runAll m (· == '-') (cs' ++ closing)).2) := by
    intro negated cs' hSuffix
    obtain ⟨dashes, rest, hRest, hRun, hRun' | ⟨-, rfl, hRun'⟩⟩ :=
      run_append m (p := (· == '-')) (by decide) none cs'
    · rw [runAll, runAll, hRun, hRun']
      exact (openedAfter_append m negated dashes rest).of_suffix (hRest.trans hSuffix)
    · rw [runAll, runAll, hRun, hRun']
      exact .none
  rw [openBracket_eq, openBracket_eq]
  unfold afterNegation
  obtain ⟨cs', hSuffix, hGap, hGap' | ⟨-, rfl, hGap'⟩⟩ := gap_append m cs
  · rw [hGap, hGap']
    by_cases hMark : cs'.head? = some '^'
    · obtain ⟨rest, rfl⟩ := List.head?_eq_some_iff.mp hMark
      have hRest := (List.suffix_cons _ rest).trans hSuffix
      simp only [List.cons_append, List.head?_cons, List.tail_cons, BEq.rfl, if_true]
      obtain ⟨after, hAfter', hGap, hGap' | ⟨-, rfl, hGap'⟩⟩ := gap_append m rest
      · rw [hGap, hGap']
        exact hAfter true (hAfter'.trans hRest)
      · rw [hGap, hGap']
        exact .none
    · rw [if_neg (by simpa using hMark), if_neg (by cases cs' <;> simp_all [closing])]
      exact hAfter false hSuffix
  · rw [hGap, hGap']
    exact .none

/-! ## Words between colons -/

/-- Up to a mark that does not stand in the closing, the closing makes no difference. -/
theorem span_append {p : Char → Bool} (hp : p ')' = true) (hp' : p '$' = true) (cs : List Char) :
    cs.dropWhile p = [] ∧ (cs ++ closing).dropWhile p = [] ∨
      ∃ c rest, c :: rest <:+ cs ∧ cs.dropWhile p = c :: rest ∧
        (cs ++ closing).dropWhile p = c :: (rest ++ closing) ∧
        (cs ++ closing).takeWhile p = cs.takeWhile p := by
  have hClosing : closing.dropWhile p = [] := by simp [closing, hp, hp']
  have hSuffix := List.dropWhile_suffix p (l := cs)
  rcases hRest : cs.dropWhile p with _ | ⟨c, rest⟩
  · refine .inl ⟨rfl, ?_⟩
    rw [List.dropWhile_append, hRest, List.isEmpty_nil, if_pos rfl, hClosing]
  · refine .inr ⟨c, rest, hRest ▸ hSuffix, rfl, ?_, ?_⟩
    · rw [List.dropWhile_append, hRest, if_neg (by simp), List.cons_append]
    · have hLength : (cs.takeWhile p).length ≠ cs.length := by
        intro h
        have := congrArg List.length (List.takeWhile_append_dropWhile (p := p) (l := cs))
        rw [hRest, List.length_append, List.length_cons] at this
        omega
      rw [List.takeWhile_append, if_neg hLength]

/-- The set named by a word up to a colon, after a mark of negation. -/
def namedItem (m : Modes) (negated : Bool) (cs : List Char) : Option (Item × List Char) :=
  match cs.dropWhile (· ≠ ':') with
  | ':' :: ']' :: after =>
    ((posix? (cs.takeWhile (· ≠ ':'))).bind (m.finish negated)).map fun s => ((s, 0), after)
  | _ => none

theorem posixItem_eq (m : Modes) (cs : List Char) :
    posixItem m ('[' :: ':' :: cs) =
      namedItem m (cs.head? == some '^') (if cs.head? == some '^' then cs.tail else cs) := by
  unfold posixItem namedItem
  rcases cs with _ | ⟨c, rest⟩
  · rfl
  · by_cases hc : c = '^'
    · subst hc
      rfl
    · have hOther : ((c :: rest).head? == some '^') = false := by simpa using hc
      rw [hOther]
      simp only [Bool.false_eq_true, if_false]
      split <;> split <;> simp_all

theorem namedItem_append (m : Modes) (negated : Bool) (cs : List Char) :
    namedItem m negated cs = none ∧ namedItem m negated (cs ++ closing) = none ∨
      ∃ item rest, rest <:+ cs ∧ namedItem m negated cs = some (item, rest) ∧
        namedItem m negated (cs ++ closing) = some (item, rest ++ closing) := by
  unfold namedItem
  rcases span_append (p := (· ≠ ':')) (by decide) (by decide) cs with
    ⟨hDrop, hDrop'⟩ | ⟨c, rest, hSuffix, hDrop, hDrop', hTake⟩
  · rw [hDrop, hDrop']
    exact .inl ⟨rfl, rfl⟩
  rw [hDrop, hDrop', hTake]
  by_cases hEnd : c = ':' ∧ rest.head? = some ']'
  · obtain ⟨rfl, hHead⟩ := hEnd
    obtain ⟨after, rfl⟩ := List.head?_eq_some_iff.mp hHead
    simp only [List.cons_append]
    cases (posix? (cs.takeWhile (· ≠ ':'))).bind (m.finish negated) with
    | none => exact .inl ⟨rfl, rfl⟩
    | some s =>
      have hAfter := ((List.suffix_cons _ after).trans (List.suffix_cons _ _)).trans hSuffix
      exact .inr ⟨_, after, hAfter, rfl, rfl⟩
  · refine .inl ⟨?_, ?_⟩
    · split <;> simp_all
    · -- the closing does not start with a bracket
      rcases rest with _ | ⟨d, rest⟩
      · split <;> simp_all [closing]
      · split <;> simp_all

/-- A word between colons has its end before the closing or none. -/
theorem posixItem_append (m : Modes) (cs : List Char) :
    posixItem m ('[' :: cs) = none ∧ posixItem m ('[' :: (cs ++ closing)) = none ∨
      ∃ item rest, rest <:+ cs ∧ posixItem m ('[' :: cs) = some (item, rest) ∧
        posixItem m ('[' :: (cs ++ closing)) = some (item, rest ++ closing) := by
  by_cases hStart : cs.head? = some ':'
  · obtain ⟨rest, rfl⟩ := List.head?_eq_some_iff.mp hStart
    have hSuffix : rest <:+ ':' :: rest := List.suffix_cons _ rest
    simp only [List.cons_append, posixItem_eq]
    rcases rest with _ | ⟨c, rest⟩
    · exact .inl ⟨rfl, by simp [closing, namedItem]⟩
    · simp only [List.cons_append, List.head?_cons, List.tail_cons]
      by_cases hMark : c = '^'
      · have hRest := (List.suffix_cons c rest).trans hSuffix
        simp only [hMark, BEq.rfl, if_true]
        refine (namedItem_append m true rest).imp_right ?_
        rintro ⟨item, after, hAfter, h⟩
        exact ⟨item, after, hMark ▸ hAfter.trans hRest, h⟩
      · have hOther : (some c == some '^') = false := by simpa using hMark
        simp only [hOther, Bool.false_eq_true, if_false]
        refine (namedItem_append m false (c :: rest)).imp_right ?_
        rintro ⟨item, after, hAfter, h⟩
        exact ⟨item, after, hAfter.trans hSuffix, h⟩
  · refine .inl ⟨?_, ?_⟩ <;> unfold posixItem <;> split
    · simp_all
    · rfl
    · rcases cs <;> simp_all [closing]
    · rfl

/-! ## Characters and spans -/

theorem setPart_append (m : Modes) (c : Char) (cs : List Char) :
    Onward ['$'] cs (setPart m (c :: cs)) (setPart m (c :: (cs ++ closing))) ∨
      setPart m (c :: cs) = none ∧
        ∃ a rest, setPart m (c :: (cs ++ closing)) = some (.anchor a, rest) := by
  by_cases hc : c = '\\'
  · subst hc
    refine (escape_append m cs).imp_right ?_
    rintro ⟨hAlone, a, rest, -, hWithin⟩
    exact ⟨hAlone, a, _, hWithin⟩
  · refine .inl ?_
    have hPart : ∀ rest, setPart m (c :: rest) = some (.literal c, rest) := by
      intro rest
      unfold setPart
      split <;> simp_all
    rw [hPart, hPart]
    exact .here _ List.suffix_rfl

theorem dropWhile_blank_append (cs : List Char) :
    (cs ++ closing).dropWhile Text.isBlank = cs.dropWhile Text.isBlank ++ closing := by
  have hClosing : closing.dropWhile Text.isBlank = closing := by decide
  rw [List.dropWhile_append]
  split
  next h => rw [List.isEmpty_iff.mp h, hClosing, List.nil_append]
  next => rfl

theorem head?_append_closing_iff {d : Char} (hd : d ≠ ')') (cs : List Char) :
    (cs ++ closing).head? = some d ↔ cs.head? = some d := by
  cases cs <;> simp [closing, hd.symm]

/-- Which mark comes next does not depend on the closing. -/
theorem peekPast_append (m : Modes) {d : Char} (hd : d ≠ ')') (c : Char) (cs : List Char) :
    peekPast m (c :: (cs ++ closing)) = some d ↔ peekPast m (c :: cs) = some d := by
  unfold peekPast
  simp only [List.drop_one, List.tail_cons, dropWhile_blank_append]
  cases m.spacious with
  | false => exact head?_append_closing_iff hd cs
  | true =>
    simp only [if_true]
    rcases cs.dropWhile Text.isBlank with _ | ⟨e, rest⟩
    · simp [closing, hd.symm]
    · by_cases he : e = '#'
      · subst he
        simp only [List.cons_append, dropWhile_blank_append]
        exact head?_append_closing_iff hd _
      · simp only [List.cons_append]
        split
        · simp_all
        · split
          · simp_all
          · rfl

/-- The set of all characters from one to another. -/
def spanItem (m : Modes) (first last : Escape) : Option Item :=
  match first.char? m, last.char? m with
  | some a, some b =>
    if a ≤ b ∧ allowed m a = true ∧ allowed m b = true then some (.span a.toNat b.toNat, 0)
    else none
  | _, _ => none

/-- The item of which the first part has been read. -/
def itemFrom (m : Modes) (first : Escape) (cs : List Char) : Option (Item × List Char) :=
  match gap m cs with
  | [] => none
  | '-' :: more =>
    if peekPast m ('-' :: more) = some ']' ∨ peekPast m ('-' :: more) = some '-' then
      (partItem m first).map fun item => (item, '-' :: more)
    else
      (setPart m (gap m more)).bind fun (last, rest) =>
        (spanItem m first last).map fun item => (item, rest)
  | rest => (partItem m first).map fun item => (item, rest)

theorem setItem_eq (m : Modes) (cs : List Char) :
    setItem m cs = (setPart m cs).bind fun (first, rest) => itemFrom m first rest := by
  unfold setItem itemFrom
  rcases setPart m cs with _ | ⟨first, rest⟩
  · rfl
  simp only [Option.bind_some]
  rcases gap m rest with _ | ⟨c, more⟩
  · rfl
  · by_cases hc : c = '-'
    · subst hc
      show (if _ then _ else _) = if _ then _ else _
      split
      · rfl
      · rcases setPart m (gap m more) with _ | ⟨last, after⟩
        · rfl
        · simp only [Option.bind_some, spanItem]
          cases first.char? m <;> cases last.char? m <;> simp
    · split <;> simp_all

/-- A place is neither a part of a set nor an end of a span. -/
theorem itemFrom_anchor (m : Modes) (a : Anchor) (cs : List Char) :
    itemFrom m (.anchor a) cs = none := by
  unfold itemFrom
  split
  · rfl
  · split
    · rfl
    · cases setPart m (gap m _) <;> rfl
  · rfl

theorem spanItem_anchor (m : Modes) (first : Escape) (a : Anchor) :
    spanItem m first (.anchor a) = none := by
  unfold spanItem
  cases first.char? m <;> rfl

/-- Behind the last character nothing else is read of a set. -/
theorem itemFrom_suffix {m : Modes} {first : Escape} {rest : List Char} (h : rest <:+ ['$'])
    {item : Item} {after : List Char} (hItem : itemFrom m first rest = some (item, after)) :
    after <:+ ['$'] := by
  unfold itemFrom at hItem
  rcases List.suffix_cons_iff.mp h with rfl | h
  · rw [gap_dollar] at hItem
    rw [Onward.eq_of_map_eq_some (f := id) (o := partItem m first) hItem]
  · rw [List.suffix_nil.mp h, gap_nil] at hItem
    exact nomatch hItem

theorem itemFrom_append (m : Modes) (first : Escape) (cs : List Char) :
    Onward closing cs (itemFrom m first cs) (itemFrom m first (cs ++ closing)) := by
  unfold itemFrom
  obtain ⟨rest, hSuffix, hGap, hGap' | ⟨-, rfl, hGap'⟩⟩ := gap_append m cs
  · rw [hGap, hGap']
    rcases rest with _ | ⟨c, more⟩
    · exact .beyond (partItem m first) id List.suffix_rfl
    have hMore := (List.suffix_cons c more).trans hSuffix
    by_cases hc : c = '-'
    · subst hc
      simp only [List.cons_append, peekPast_append m (d := ']') (by decide),
        peekPast_append m (d := '-') (by decide)]
      split
      · exact .value fun a => .here a hSuffix
      · obtain ⟨after, hAfter, hGap, hGap' | ⟨-, rfl, hGap'⟩⟩ := gap_append m more
        · rw [hGap, hGap']
          rcases after with _ | ⟨d, after⟩
          · -- the span would end with the closing parenthesis
            exact .beyond (spanItem m first (.literal ')')) id (List.suffix_cons _ _)
          · rcases setPart_append m d after with h | ⟨hAlone, a, rest, hWithin⟩
            · have hAfter' := ((List.suffix_cons d after).trans hAfter).trans hMore
              let span (last : Escape) (rest : List Char) : Option (Item × List Char) :=
                (spanItem m first last).map fun item => (item, rest)
              refine (h.bind (f := span) (g := span) (fun last rest hRest => ?_)
                fun last rest hRest => ?_).of_suffix hAfter'
              · exact .value fun a => .here a hRest
              · intro item after hItem
                rw [Onward.eq_of_map_eq_some hItem]
                exact hRest.trans (List.suffix_cons _ _)
            · simp only [hAlone, List.cons_append, hWithin, Option.bind_none, Option.bind_some,
                spanItem_anchor, Option.map_none]
              exact .none
        · rw [hGap, hGap']
          exact .none
    · simp only [List.cons_append]
      split
      · simp_all
      · simp_all
      · split
        · simp_all
        · simp_all
        · exact .value fun a => .here a hSuffix
  · rw [hGap, hGap']
    exact .none

theorem setItem_append (m : Modes) (c : Char) (cs : List Char) :
    Onward closing cs (setItem m (c :: cs)) (setItem m (c :: (cs ++ closing))) := by
  rw [setItem_eq, setItem_eq]
  rcases setPart_append m c cs with h | ⟨hAlone, a, rest, hWithin⟩
  · refine h.bind (fun first rest hRest => ?_) fun first rest hRest item after hItem => ?_
    · exact (itemFrom_append m first rest).of_suffix hRest
    · exact (itemFrom_suffix hRest hItem).trans (List.suffix_cons _ _)
  · simp only [hAlone, hWithin, Option.bind_none, Option.bind_some, itemFrom_anchor]
    exact .none

/-! ## Items of brackets -/

/-- The marks between parts of a set, each written twice. -/
def setOp? (c : Char) : Option SetOp :=
  if c = '&' then some .inter else if c = '-' then some .diff else if c = '~' then some .either
  else none

theorem bracketLoop_nil {n : Nat} (h : gap m cs = []) : bracketLoop m n b outer cs = none := by
  cases n with
  | zero => rfl
  | succ n => rw [bracketLoop, h]

/-- A word between colons inside brackets is one item. -/
theorem bracketLoop_named {n : Nat} {rest after : List Char} {item : Item}
    (h : gap m cs = '[' :: rest) (hNamed : posixItem m ('[' :: rest) = some (item, after)) :
    bracketLoop m (n + 1) b outer cs = bracketLoop m n (b.add item) outer after := by
  rw [bracketLoop, h]
  simp only [hNamed]

theorem bracketLoop_open {n : Nat} {rest : List Char} (h : gap m cs = '[' :: rest)
    (hNamed : posixItem m ('[' :: rest) = none) :
    bracketLoop m (n + 1) b outer cs = (openBracket m rest).bind fun (inner, rest) =>
      bracketLoop m n inner (b :: outer) rest := by
  rw [bracketLoop, h]
  simp only [hNamed]
  cases openBracket m rest <;> rfl

theorem bracketLoop_pair {n : Nat} {c : Char} {op : SetOp} {rest : List Char}
    (hOp : setOp? c = some op) (h : gap m cs = c :: c :: rest) :
    bracketLoop m (n + 1) b outer cs = bracketLoop m n (b.combine m op) outer rest := by
  unfold setOp? at hOp
  rw [bracketLoop, h]
  grind

theorem bracketLoop_item {n : Nat} {c : Char} {rest : List Char} (h : gap m cs = c :: rest)
    (hOpen : c ≠ '[') (hClose : c ≠ ']')
    (hPair : (setOp? c).isSome = true → rest.head? ≠ some c) :
    bracketLoop m (n + 1) b outer cs = (setItem m (c :: rest)).bind fun (item, rest) =>
      bracketLoop m n (b.add item) outer rest := by
  rw [bracketLoop, h]
  unfold setOp? at hPair
  split
  iterate 6 simp_all
  cases setItem m (c :: rest) <;> rfl

theorem bracketLoop_dollar (n : Nat) (b : Bracket) {rest : List Char}
    (h : gap m rest <:+ ['$']) : bracketLoop m n b outer rest = none := by
  rcases List.suffix_cons_iff.mp h with h | h
  · cases n with
    | zero => rfl
    | succ n =>
      have hItem : setItem m ['$'] = none := by
        rw [setItem_eq]
        show itemFrom m (.literal '$') [] = none
        rw [itemFrom, gap_nil]
      rw [bracketLoop_item h (by decide) (by decide) (by decide), hItem]
      rfl
  · exact bracketLoop_nil (List.suffix_nil.mp h)

/-- The closing holds no end of a set. -/
theorem bracketLoop_closing (n : Nat) (b : Bracket) {rest : List Char}
    (h : gap m rest <:+ closing) : bracketLoop m n b outer rest = none := by
  rcases List.suffix_cons_iff.mp h with h | h
  · cases n with
    | zero => rfl
    | succ n =>
      rw [bracketLoop_item h (by decide) (by decide) (by decide), Option.bind_eq_none_iff]
      rintro ⟨item, after⟩ hItem
      rw [setItem_eq] at hItem
      have hItem : itemFrom m (.literal ')') ['$'] = some (item, after) := hItem
      have hAfter := itemFrom_suffix List.suffix_rfl hItem
      exact bracketLoop_dollar n _ ((gap_suffix m after).trans hAfter)
  · exact bracketLoop_dollar n b h

/-- The closing neither ends a bracket nor adds to it. -/
theorem bracketLoop_append {n n' : Nat} (hn : cs.length < n)
    (hn' : cs.length + closing.length < n') :
    Onward ['$'] cs (bracketLoop m n b outer cs) (bracketLoop m n' b outer (cs ++ closing)) := by
  induction n generalizing n' b outer cs with
  | zero => omega
  | succ n ih =>
    obtain ⟨n', rfl⟩ : ∃ k, n' = k + 1 := ⟨n' - 1, by omega⟩
    obtain ⟨cs', hSuffix, hGap, hGap' | ⟨-, rfl, hGap'⟩⟩ := gap_append m cs
    · rcases cs' with _ | ⟨c, rest⟩
      · have hClosing : gap m (cs ++ closing) <:+ closing := by
          rw [hGap']
          exact List.suffix_rfl
        rw [bracketLoop_nil hGap, bracketLoop_closing (n' + 1) b hClosing]
        exact .none
      rw [List.cons_append] at hGap'
      have hRest := (List.suffix_cons c rest).trans hSuffix
      have hLength : rest.length < cs.length := hSuffix.length_le
      -- fewer characters are left, of which the rest of the set is read
      have hOn : ∀ b outer {after}, after <:+ rest →
          Onward ['$'] rest (bracketLoop m n b outer after)
            (bracketLoop m n' b outer (after ++ closing)) := by
        intro b outer after hAfter
        have := hAfter.length_le
        exact (ih (by omega) (by omega)).of_suffix hAfter
      -- nothing is read where only the closing is left
      have hOver : ∀ b outer after, after <:+ closing → ∀ item after',
          bracketLoop m n' b outer after = some (item, after') → after' <:+ ['$'] := by
        intro b outer after hAfter item after' h
        rw [bracketLoop_closing n' b ((gap_suffix m after).trans hAfter)] at h
        exact nomatch h
      refine Onward.of_suffix ?_ hRest
      by_cases hOpen : c = '['
      · subst hOpen
        rcases posixItem_append m rest with
          ⟨hAlone, hWithin⟩ | ⟨item, after, hAfter, hAlone, hWithin⟩
        · rw [bracketLoop_open hGap hAlone, bracketLoop_open hGap' hWithin]
          exact (openBracket_append m rest).bind
            (f := fun inner after => bracketLoop m n inner (b :: outer) after)
            (g := fun inner after => bracketLoop m n' inner (b :: outer) after)
            (fun _ _ hAfter => hOn _ _ hAfter) fun _ after hAfter => hOver _ _ after hAfter
        · rw [bracketLoop_named hGap hAlone, bracketLoop_named hGap' hWithin]
          exact hOn _ _ hAfter
      by_cases hClose : c = ']'
      · subst hClose
        rw [bracketLoop, bracketLoop, hGap, hGap']
        rcases outer with _ | ⟨o, outer⟩
        · exact .value fun a => .here a List.suffix_rfl
        · dsimp only
          cases b.close m with
          | none => exact .none
          | some item => exact hOn _ _ List.suffix_rfl
      by_cases hPair : (setOp? c).isSome = true ∧ rest.head? = some c
      · obtain ⟨hOp, hHead⟩ := hPair
        obtain ⟨op, hOp⟩ := Option.isSome_iff_exists.mp hOp
        obtain ⟨after, rfl⟩ := List.head?_eq_some_iff.mp hHead
        rw [bracketLoop_pair hOp hGap, bracketLoop_pair hOp hGap']
        exact hOn _ _ (List.suffix_cons c after)
      · rw [bracketLoop_item hGap hOpen hClose (fun hOp hHead => hPair ⟨hOp, hHead⟩),
          bracketLoop_item hGap' hOpen hClose ?pair]
        case pair =>
          intro hOp hHead
          have hParen : c ≠ ')' := by
            rintro rfl
            exact absurd hOp (by decide)
          exact hPair ⟨hOp, (head?_append_closing_iff hParen rest).mp hHead⟩
        exact (setItem_append m c rest).bind
          (f := fun item after => bracketLoop m n (b.add item) outer after)
          (g := fun item after => bracketLoop m n' (b.add item) outer after)
          (fun _ _ hAfter => hOn _ _ hAfter) fun _ after hAfter => hOver _ _ after hAfter
    · rw [bracketLoop_nil hGap, bracketLoop_nil hGap']
      exact .none

/-! ## A set -/

theorem bracketed_eq (m : Modes) (cs : List Char) :
    bracketed m cs = (openBracket m cs).bind fun (b, rest) =>
      (bracketLoop m (rest.length + 1) b [] rest).map fun (item, rest) =>
        (⟨.ofSet item.1, item.2⟩, rest) := by
  unfold bracketed
  rcases openBracket m cs with _ | ⟨b, rest⟩
  · rfl
  · simp only [Option.bind_some]
    cases bracketLoop m (rest.length + 1) b [] rest <;> rfl

theorem bracketed_append (m : Modes) (cs : List Char) :
    Onward ['$'] cs (bracketed m cs) (bracketed m (cs ++ closing)) := by
  let set (b : Bracket) (rest : List Char) : Option (Piece × List Char) :=
    (bracketLoop m (rest.length + 1) b [] rest).map fun (item, rest) =>
      (⟨.ofSet item.1, item.2⟩, rest)
  rw [bracketed_eq, bracketed_eq]
  refine (openBracket_append m cs).bind (f := set) (g := set) (fun b rest hRest => ?_)
    fun b rest hRest p after h => ?_
  · have hLoop : Onward ['$'] rest (bracketLoop m (rest.length + 1) b [] rest)
        (bracketLoop m ((rest ++ closing).length + 1) b [] (rest ++ closing)) :=
      bracketLoop_append (Nat.lt_succ_self _) (by rw [List.length_append]; omega)
    exact (hLoop.map fun item : Item => (⟨.ofSet item.1, item.2⟩ : Piece)).of_suffix hRest
  · simp only [set, bracketLoop_closing _ b ((gap_suffix m rest).trans hRest)] at h
    exact nomatch h

end Metering.Pattern
