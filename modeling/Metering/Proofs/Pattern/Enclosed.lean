import Metering.Pattern.Reader
import Metering.Proofs.Pattern.Tokens
import Metering.Proofs.Pattern.Whole

/-!
# Metering — expressions in a group

A whole expression is put into a group between the start and the end of the text before it is read.
What is read then is the expression as it is written alone, if it closes no parenthesis that it has
not opened and leaves no comment open at its end. An expression that closes the group itself stands
in no group, and one that ends in a comment loses what closes the group.

* `closesUnopened`, `Closed` — expressions that leave the group to what closes it;
* `readLoop_inside` — reading in the group, by induction on the bound of the reader;
* `whole?_of_written?`, `written?_of_whole?` — which expressions are accepted as whole expressions;
* `occursIn_whole?` — a whole expression accepts just the names that the expression alone describes
  from start to end.
-/

namespace Metering.Pattern

/-- The reading inside one more group, outside all groups that are open. -/
def Reading.inside (r : Reading) (g : Group) : Reading := { r with pending := r.pending ++ [g] }

/-- Whether a parenthesis is closed that the text has not opened. -/
def closesUnopened : Nat → Reading → List Char → Bool
  | 0, _, _ => false
  | fuel + 1, r, cs =>
    match gap r.modes cs with
    | [] => false
    | c :: cs =>
      match Token.read r.modes (c :: cs) with
      | none => false
      | some (token, rest) =>
        match r.next token with
        | some r => closesUnopened fuel r rest
        | none => c == ')'

/-- The piece of a group that is closed and followed by the end of the text. -/
def Group.enclosed (g : Group) (inside : Piece) : Piece :=
  ((g.outer.add (g.piece inside)).add ⟨.anchor (endAnchor g.modes), 0⟩).whole

theorem inside_next {r : Reading} {g : Group} {token : Token} {r' : Reading}
    (h : r.next token = some r') : (r.inside g).next token = some (r'.inside g) := by
  cases token with
  | piece p => cases h; rfl
  | times least most sparing =>
    obtain ⟨branch, hBranch, rfl⟩ := Option.map_eq_some_iff.mp h
    simp only [Reading.next, Reading.inside, hBranch, Option.map_some]
  | numbered name =>
    simp only [Reading.next, Reading.inside] at h ⊢
    by_cases hName : name.any r.names.contains = true
    · simp only [hName, if_true] at h
      exact nomatch h
    · simp only [hName, Bool.false_eq_true, if_false] at h ⊢
      cases h
      rfl
  | opened change => cases h; rfl
  | closed =>
    unfold Reading.next at h ⊢
    simp only [Reading.inside] at h ⊢
    split at h
    · exact nomatch h
    · next hPending =>
      cases h
      simp [hPending]
  | bar => cases h; rfl
  | modes change => cases h; rfl

theorem inside_next_eq_none {r : Reading} {g : Group} {token : Token} (h : r.next token = none)
    (hClosed : token ≠ .closed) : (r.inside g).next token = none := by
  cases token with
  | times least most sparing =>
    have := Option.map_eq_none_iff.mp h
    simp only [Reading.next, Reading.inside, this, Option.map_none]
  | numbered name =>
    simp only [Reading.next, Reading.inside] at h ⊢
    by_cases hName : name.any r.names.contains = true
    · simp only [hName, if_true]
    · simp only [hName, Bool.false_eq_true, if_false] at h
      exact nomatch h
  | closed => exact absurd rfl hClosed
  | piece p => exact nomatch h
  | opened change => exact nomatch h
  | bar => exact nomatch h
  | modes change => exact nomatch h

/-- No token but a closing parenthesis leaves a group. -/
theorem pending_ne_nil {r r' : Reading} {token : Token} (h : r.next token = some r')
    (hClosed : token ≠ .closed) (hPending : r.pending ≠ []) : r'.pending ≠ [] := by
  cases token with
  | times least most sparing =>
    obtain ⟨branch, hBranch, rfl⟩ := Option.map_eq_some_iff.mp h
    exact hPending
  | numbered name =>
    simp only [Reading.next] at h
    by_cases hName : name.any r.names.contains = true
    · simp only [hName, if_true] at h
      exact nomatch h
    · simp only [hName, Bool.false_eq_true, if_false] at h
      cases h
      exact List.cons_ne_nil _ _
  | closed => exact absurd rfl hClosed
  | opened change =>
    cases h
    exact List.cons_ne_nil _ _
  | piece p => cases h; exact hPending
  | bar => cases h; exact hPending
  | modes change => cases h; exact hPending

/-! ## Steps -/

theorem readLoop_nil {n : Nat} {r : Reading} {cs : List Char} (h : gap r.modes cs = []) :
    readLoop (n + 1) r cs = if r.pending.isEmpty then some r.branch.whole else none := by
  rw [readLoop, h]

theorem readLoop_token {n : Nat} {r : Reading} {c : Char} {cs rest : List Char}
    (h : gap r.modes cs = c :: rest) {token : Token} {after : List Char}
    (hToken : Token.read r.modes (c :: rest) = some (token, after)) :
    readLoop (n + 1) r cs = (r.next token).bind fun r => readLoop n r after := by
  rw [readLoop, h]
  simp only [hToken]
  cases r.next token <;> rfl

theorem readLoop_stuck {n : Nat} {r : Reading} {c : Char} {cs rest : List Char}
    (h : gap r.modes cs = c :: rest) (hToken : Token.read r.modes (c :: rest) = none) :
    readLoop (n + 1) r cs = none := by
  rw [readLoop, h]
  simp only [hToken]

theorem closesUnopened_cons {n : Nat} {r : Reading} {c : Char} {cs rest : List Char}
    (h : gap r.modes cs = c :: rest) {token : Token} {after : List Char}
    (hToken : Token.read r.modes (c :: rest) = some (token, after)) :
    closesUnopened (n + 1) r cs = match r.next token with
      | some r => closesUnopened n r after
      | none => c == ')' := by
  rw [closesUnopened, h]
  simp only [hToken]

/-- With a group open, nothing is read behind its closing parenthesis. -/
theorem readLoop_dollar {n : Nat} {r : Reading} {rest : List Char} (h : rest <:+ ['$'])
    (hPending : r.pending ≠ []) : readLoop n r rest = none := by
  have hNil : ∀ {n : Nat} {r : Reading}, r.pending ≠ [] → readLoop n r [] = none := by
    intro n r hPending
    cases n with
    | zero => rfl
    | succ n =>
      rw [readLoop_nil (gap_nil r.modes), if_neg (by simpa using hPending)]
  rcases List.suffix_cons_iff.mp h with rfl | h
  · cases n with
    | zero => rfl
    | succ n =>
      rw [readLoop_token (gap_dollar r.modes) rfl]
      exact hNil hPending
  · rw [List.suffix_nil.mp h]
    exact hNil hPending

/-- Where the text ends, the closing closes the group. -/
theorem readLoop_closing (g : Group) {n : Nat} (hn : 3 ≤ n) {r : Reading} {cs : List Char}
    (h : gap r.modes cs = closing) :
    readLoop n (r.inside g) cs =
      if r.pending.isEmpty then some (g.enclosed r.branch.whole) else none := by
  obtain ⟨n, rfl⟩ : ∃ k, n = k + 3 := ⟨n - 3, by omega⟩
  rw [readLoop_token (r := r.inside g) h rfl]
  rcases hPending : r.pending with _ | ⟨inner, pending⟩
  · -- the parenthesis closes the group itself, and only the end of the text is left
    have hNext : (r.inside g).next .closed = some { r with
        modes := g.modes
        branch := g.outer.add (g.piece r.branch.whole)
        pending := [] } := by
      simp [Reading.next, Reading.inside, hPending]
    simp only [hNext, Option.bind_some]
    rw [readLoop_token (gap_dollar g.modes) rfl]
    exact readLoop_nil (gap_nil g.modes)
  · -- the parenthesis closes a group inside, and the group itself stays open
    have hNext : (r.inside g).next .closed = some { r with
        modes := inner.modes
        branch := inner.outer.add (inner.piece r.branch.whole)
        pending := pending ++ [g] } := by
      simp [Reading.next, Reading.inside, hPending]
    simp only [hNext, Option.bind_some]
    exact readLoop_dollar List.suffix_rfl (List.append_ne_nil_of_right_ne_nil _ (by simp))

/-! ## Whole expressions -/

/-- Inside one more group an expression is read as it is alone, unless a comment goes on behind
it. -/
theorem readLoop_inside (g : Group) {n n' : Nat} {r : Reading} {cs : List Char}
    (hn : cs.length < n) (hn' : cs.length + 3 ≤ n') (hOpened : closesUnopened n r cs = false) :
    readLoop n' (r.inside g) (cs ++ closing) = (readLoop n r cs).map g.enclosed ∨
      '#' ∈ cs ∧ readLoop n' (r.inside g) (cs ++ closing) = none := by
  induction n generalizing n' r cs with
  | zero => omega
  | succ n ih =>
    obtain ⟨n', rfl⟩ : ∃ k, n' = k + 1 := ⟨n' - 1, by omega⟩
    have hInside : ∀ r : Reading, (r.inside g).pending ≠ [] := fun r =>
      List.append_ne_nil_of_right_ne_nil _ (by simp)
    obtain ⟨cs', hSuffix, hGap, hGap' | ⟨hHash, rfl, hGap'⟩⟩ := gap_append r.modes cs
    · rcases cs' with _ | ⟨c, rest⟩
      · -- the text ends here, and the closing ends the group
        refine .inl ?_
        rw [readLoop_closing g (by omega) hGap', readLoop_nil hGap]
        split <;> rfl
      have hLength : rest.length < cs.length := hSuffix.length_le
      have hRest := (List.suffix_cons c rest).trans hSuffix
      rcases read_append r.modes c rest with h | ⟨hAlone, p, after, hAfter, hWithin⟩
      · cases h with
        | same token after hAfter hAlone hWithin =>
          rw [closesUnopened_cons hGap hAlone] at hOpened
          rw [readLoop_token hGap hAlone, readLoop_token (r := r.inside g) hGap' hWithin]
          cases hNext : r.next token with
          | none =>
            have hClosed : token ≠ .closed := by
              rintro rfl
              obtain rfl := eq_paren_of_read_closed hAlone
              simp [hNext] at hOpened
            rw [inside_next_eq_none hNext hClosed]
            exact .inl rfl
          | some r' =>
            rw [hNext] at hOpened
            rw [inside_next hNext]
            have := hAfter.length_le
            exact (ih (by omega) (by omega) hOpened).imp_right fun ⟨hHash, h⟩ =>
              ⟨(hAfter.trans hRest).mem hHash, h⟩
        | cut hAlone hWithin =>
          -- too little of the closing is left to close the group
          have hNone : readLoop (n' + 1) (r.inside g) (cs ++ closing) = none := by
            rcases hToken : Token.read r.modes (c :: (rest ++ closing)) with _ | ⟨token, after⟩
            · exact readLoop_stuck (r := r.inside g) hGap' hToken
            have hAfter := hWithin token after hToken
            have hClosed : token ≠ .closed := by
              rintro rfl
              obtain rfl := eq_paren_of_read_closed hToken
              obtain rfl : rest ++ closing = after := by
                injection hToken with hPair
                exact (Prod.mk.inj hPair).2
              have := hAfter.length_le
              simp [closing] at this
            rw [readLoop_token (r := r.inside g) hGap' hToken]
            cases hNext : (r.inside g).next token with
            | none => rfl
            | some r' => exact readLoop_dollar hAfter (pending_ne_nil hNext hClosed (hInside r))
          rcases hAlone with hAlone | hHash
          · rw [readLoop_stuck hGap hAlone, hNone]
            exact .inl rfl
          · exact .inr ⟨hRest.mem hHash, hNone⟩
      · -- the brace that is left is read as a repetition without a number
        rw [readLoop_stuck hGap hAlone, readLoop_token (r := r.inside g) hGap' hWithin]
        obtain ⟨n', rfl⟩ : ∃ k, n' = k + 1 := ⟨n' - 1, by omega⟩
        have hBrace : gap r.modes ('{' :: (after ++ closing)) = '{' :: (after ++ closing) := by
          unfold gap
          split <;> rfl
        exact .inl (readLoop_stuck hBrace (countedTimes_closing hAfter))
    · rw [readLoop_nil (r := r.inside g) hGap', if_neg (by simpa using hInside r)]
      exact .inr ⟨hHash, rfl⟩

/-- A pattern between the start and the end of the text. -/
def between (p : Pattern) : Pattern := row [.anchor .textStart, p, .anchor .textEnd]

/-- The group between the start and the end of the text. -/
def outermost : Group := ⟨Branch.start.add ⟨.anchor .textStart, 0⟩, {}, none⟩

/-- The expression as it is written alone, however large it is. -/
def written? (expression : String) : Option Piece :=
  readLoop (expression.toList.length + 1) .start expression.toList

/-- Whether an expression closes no parenthesis that it has not opened. -/
def Closed (expression : String) : Prop :=
  closesUnopened (expression.toList.length + 1) .start expression.toList = false

theorem joinTexts_ne_nil {ps : List Pattern} (h : ps ≠ []) : joinTexts ps ≠ [] := by
  fun_cases joinTexts ps with
  | case1 => exact absurd rfl h
  | case2 => exact List.cons_ne_nil _ _
  | case3 => exact List.cons_ne_nil _ _
  | case4 => exact List.cons_ne_nil _ _

theorem choice_between (p : Pattern) : choice [between p] = between p := by
  have hSeq : ∃ q, between p = .seq (.anchor .textStart) q := by
    have hMore : p.members ++ [.anchor .textEnd] ≠ [] := by simp
    obtain ⟨q, qs, hJoined⟩ := List.exists_cons_of_ne_nil (joinTexts_ne_nil hMore)
    refine ⟨ofMembers (q :: qs), ?_⟩
    show ofMembers (.anchor .textStart :: joinTexts (p.members ++ [.anchor .textEnd])) = _
    rw [hJoined]
    rfl
  obtain ⟨q, hq⟩ := hSeq
  rw [hq]
  rfl

theorem outermost_pattern (p : Piece) : (outermost.enclosed p).pattern = between p.pattern :=
  choice_between p.pattern

theorem whole?_eq (expression : String) :
    whole? expression =
      (readLoop (expression.toList.length + 5) (Reading.start.inside outermost)
        (expression.toList ++ closing)).bind fun piece =>
          if piece.depth ≤ maxDepth ∧ piece.pattern.fits = true then some piece.pattern
          else none := by
  have hText : "^(?:".toList ++ expression.toList ++ ")$".toList =
      '^' :: '(' :: '?' :: ':' :: (expression.toList ++ closing) := by
    rw [List.append_assoc]
    rfl
  have hLoop : readLoop (expression.toList.length + 7) .start
      ('^' :: '(' :: '?' :: ':' :: (expression.toList ++ closing)) =
        readLoop (expression.toList.length + 5) (Reading.start.inside outermost)
          (expression.toList ++ closing) := by
    have hAnchor : ∀ cs, Token.read {} ('^' :: cs) = some (.piece ⟨.anchor .textStart, 0⟩, cs) :=
      fun _ => rfl
    have hGroup : ∀ cs, Token.read {} ('(' :: '?' :: ':' :: cs) = some (.opened [], cs) :=
      fun _ => rfl
    have hStart : Reading.start.next (.piece ⟨.anchor .textStart, 0⟩) =
        some ⟨{}, outermost.outer, [], 0, []⟩ := rfl
    have hOpen : Reading.next ⟨{}, outermost.outer, [], 0, []⟩ (.opened []) =
        some (Reading.start.inside outermost) := rfl
    rw [readLoop_token (r := .start) rfl (hAnchor _), hStart, Option.bind_some,
      readLoop_token rfl (hGroup _), hOpen, Option.bind_some]
  rw [whole?, read?, hText]
  simp only [List.length_cons, List.length_append]
  rw [show expression.toList.length + closing.length + 1 + 1 + 1 + 1 + 1 =
    expression.toList.length + 7 from rfl, hLoop]
  cases readLoop _ _ _ <;> rfl

/-- Whether the pattern between the start and the end of the text is neither nested too deep nor too
large to be matched. -/
def Fits (piece : Piece) : Prop :=
  (outermost.enclosed piece).depth ≤ maxDepth ∧ (between piece.pattern).fits = true

/-- What is accepted as a whole expression is an expression by itself, put between the start and the
end of the text. -/
theorem written?_of_whole? {expression : String} (hClosed : Closed expression) {p : Pattern}
    (h : whole? expression = some p) :
    ∃ piece, written? expression = some piece ∧ Fits piece ∧ p = between piece.pattern := by
  rw [whole?_eq] at h
  obtain ⟨piece, hPiece, hp⟩ := Option.bind_eq_some_iff.mp h
  rcases readLoop_inside outermost (Nat.lt_succ_self _)
    (Nat.add_le_add_left (show 3 ≤ 5 by decide) _) hClosed with hInside | ⟨-, hInside⟩
  · rw [hInside] at hPiece
    obtain ⟨alone, hAlone, rfl⟩ := Option.map_eq_some_iff.mp hPiece
    rw [outermost_pattern] at hp
    split at hp
    next hFits => exact ⟨alone, hAlone, hFits, (Option.some.inj hp).symm⟩
    next => exact nomatch hp
  · rw [hInside] at hPiece
    exact nomatch hPiece

/-- An expression without hash signs, which may start comments, is accepted as a whole expression
if it is one by itself. -/
theorem whole?_of_written? {expression : String} (hClosed : Closed expression)
    (hHash : '#' ∉ expression.toList) {piece : Piece} (h : written? expression = some piece)
    (hFits : Fits piece) : whole? expression = some (between piece.pattern) := by
  rw [whole?_eq]
  rcases readLoop_inside outermost (Nat.lt_succ_self _)
    (Nat.add_le_add_left (show 3 ≤ 5 by decide) _) hClosed with hInside | ⟨hMem, -⟩
  · have h : readLoop (expression.toList.length + 1) .start expression.toList = some piece := h
    rw [hInside, h, Option.map_some, Option.bind_some, outermost_pattern]
    exact if_pos hFits
  · exact absurd hMem hHash

/-- Whether an expression, read by itself, describes a name as a whole. -/
def Matches (expression : String) (name : List Char) : Prop :=
  ∃ piece, written? expression = some piece ∧
    Describes name.toArray piece.pattern 0 name.length

/-- The pattern of a whole expression is found in just those names that the expression describes as
a whole. -/
theorem occursIn_whole? {expression : String} (hClosed : Closed expression) {p : Pattern}
    (h : whole? expression = some p) (name : List Char) :
    p.occursIn name = true ↔ Matches expression name := by
  obtain ⟨piece, hPiece, -, rfl⟩ := written?_of_whole? hClosed h
  rw [between, occursIn_between]
  constructor
  · intro hDescribes
    exact ⟨piece, hPiece, hDescribes⟩
  · rintro ⟨piece', hPiece', hDescribes⟩
    obtain rfl : piece = piece' := Option.some.inj (hPiece.symm.trans hPiece')
    exact hDescribes

instance (expression : String) : Decidable (Closed expression) :=
  inferInstanceAs (Decidable (_ = false))

example : Closed "(?:a|[b)])+" := by decide

-- not an expression by itself, but a choice of two groups between the start and the end
example : ¬Closed "a)|(?:b" ∧ written? "a)|(?:b" = none := by decide

example : (whole? "a)|(?:b").map (·.occursIn "ax".toList) = some true := by cbv

end Metering.Pattern
