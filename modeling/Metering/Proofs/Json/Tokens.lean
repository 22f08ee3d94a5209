import Metering.Json.Printer
import Metering.Json.Reader
import Metering.Proofs.Characters

/-!
# Metering — numbers and strings in JSON

The tokens of the notation as it is defined, apart from any reader, and that the reader takes each
of them whole.

* `IsNumber`, `IsInner` — how numbers and the inner parts of strings are written;
* `number?_append`, `stringRest_append` — both are read up to where they end;
* `isNumber_digitsOf`, `isInner_encode` — what the printer writes is one of them;
* `wordOf?_digitsOf`, `textOf?_encode` — and stands for what it was written for.
-/

namespace Metering.Json

/-! ## Numbers -/

/-- At least one digit. -/
def IsDigits (cs : List Char) : Prop := cs ≠ [] ∧ cs.all Char.isDigit = true

/-- Digits without a needless zero in front. -/
def IsWhole (cs : List Char) : Prop := cs = ['0'] ∨ IsDigits cs ∧ cs.head? ≠ some '0'

/-- A point with digits, or nothing. -/
def IsFraction (cs : List Char) : Prop := cs = [] ∨ ∃ ds, cs = '.' :: ds ∧ IsDigits ds

/-- A mark with digits, which may have a sign, or nothing. -/
def IsExponent (cs : List Char) : Prop :=
  cs = [] ∨ ∃ mark sign ds, cs = mark :: (sign ++ ds) ∧ mark ∈ ['e', 'E'] ∧
    sign ∈ [[], ['+'], ['-']] ∧ IsDigits ds

/-- A number: a whole part, which may have a sign in front and a fraction and an exponent behind. -/
def IsNumber (cs : List Char) : Prop :=
  ∃ sign whole fraction exponent, cs = sign ++ (whole ++ (fraction ++ exponent)) ∧
    sign ∈ [[], ['-']] ∧ IsWhole whole ∧ IsFraction fraction ∧ IsExponent exponent

/-- Whether a number may go on with a character. -/
def goesOn (c : Char) : Bool := c.isDigit || c == '.' || c == 'e' || c == 'E'

/-- A number ends here. -/
def Ends (rest : List Char) : Prop := rest.head?.any goesOn = false

theorem Ends.head? {rest : List Char} (h : Ends rest) {p : Char → Bool}
    (hGoesOn : ∀ c, p c = true → goesOn c = true) : rest.head?.any p = false := by
  cases rest with
  | nil => rfl
  | cons c more =>
    have hc : goesOn c = false := h
    show p c = false
    rw [← Bool.not_eq_true] at hc ⊢
    exact fun hp => hc (hGoesOn c hp)

theorem Ends.digit {rest : List Char} (h : Ends rest) : rest.head?.any Char.isDigit = false :=
  h.head? fun c hc => by rw [goesOn, hc]; rfl

theorem IsDigits.head {cs : List Char} (h : IsDigits cs) :
    ∃ d more, cs = d :: more ∧ d.isDigit = true := by
  obtain ⟨d, more, rfl⟩ := List.exists_cons_of_ne_nil h.1
  exact ⟨d, more, rfl, List.all_eq_true.mp h.2 d List.mem_cons_self⟩

/-- Digits are other characters than the marks in numbers. -/
theorem ne_of_isDigit {c d : Char} (hc : c.isDigit = true) (hd : d.isDigit = false) : c ≠ d := by
  rintro rfl
  rw [hc] at hd
  cases hd

theorem digits?_append {ds rest : List Char} (h : IsDigits ds)
    (hRest : rest.head?.any Char.isDigit = false) : digits? (ds ++ rest) = some (ds, rest) := by
  obtain ⟨d, more, rfl, -⟩ := h.head
  rw [digits?, takeWhile_append_stops h.2 hRest, dropWhile_append_stops h.2 hRest]

theorem IsWhole.head {cs : List Char} (h : IsWhole cs) :
    ∃ d more, cs = d :: more ∧ d.isDigit = true := by
  rcases h with rfl | ⟨h, -⟩
  · exact ⟨'0', [], rfl, by decide⟩
  · exact h.head

theorem whole?_append {cs rest : List Char} (h : IsWhole cs)
    (hRest : rest.head?.any Char.isDigit = false) : whole? (cs ++ rest) = some (cs, rest) := by
  rcases h with rfl | ⟨h, hZero⟩
  · cases rest with
    | nil => rfl
    | cons c more =>
      have hc : c.isDigit = false := hRest
      show (if c.isDigit then none else some (['0'], c :: more)) = _
      rw [hc, if_neg Bool.false_ne_true]
  · -- without a zero in front all digits are taken
    obtain ⟨d, more, rfl, -⟩ := h.head
    have hd : d ≠ '0' := fun hSame => hZero (congrArg some hSame)
    rw [whole?]
    · exact digits?_append h hRest
    · rintro c rest' hSame
      exact hd (List.cons.inj hSame).1

theorem fraction?_append {cs rest : List Char} (h : IsFraction cs)
    (hRest : rest.head?.any (fun c => c.isDigit || c == '.') = false) :
    fraction? (cs ++ rest) = some (cs, rest) := by
  rcases h with rfl | ⟨ds, rfl, h⟩
  · rw [List.nil_append, fraction?]
    rintro more rfl
    cases hRest
  · have hDigit : rest.head?.any Char.isDigit = false := by
      cases rest with
      | nil => rfl
      | cons c more => exact (Bool.or_eq_false_iff.mp hRest).1
    show (digits? (ds ++ rest)).map _ = _
    rw [digits?_append h hDigit]
    rfl

theorem exponent?_append {cs rest : List Char} (h : IsExponent cs) (hRest : Ends rest) :
    exponent? (cs ++ rest) = some (cs, rest) := by
  rcases h with rfl | ⟨mark, sign, ds, rfl, hMark, hSign, h⟩
  · cases rest with
    | nil => rfl
    | cons c more =>
      have hc : ¬ (c = 'e' ∨ c = 'E') := by
        rintro (rfl | rfl) <;> cases hRest
      show (if c = 'e' ∨ c = 'E' then _ else some ([], c :: more)) = _
      rw [if_neg hc]
  · have hMark : mark = 'e' ∨ mark = 'E' := by simpa using hMark
    obtain ⟨d, more, rfl, hd⟩ := h.head
    have hDigits := digits?_append h hRest.digit
    rw [List.cons_append, exponent?.eq_def]
    dsimp only
    rw [if_pos hMark]
    simp only [List.mem_cons, List.not_mem_nil, or_false] at hSign
    rcases hSign with rfl | rfl | rfl
    · have hNoSign : ¬ (d = '+' ∨ d = '-') := by
        rintro (rfl | rfl) <;> cases hd
      show (if d = '+' ∨ d = '-' then _ else (digits? (d :: more ++ rest)).map _) = _
      rw [if_neg hNoSign, hDigits]
      rfl
    · show (if '+' = '+' ∨ '+' = '-' then (digits? (d :: more ++ rest)).map _ else _) = _
      rw [if_pos (.inl rfl), hDigits]
      rfl
    · show (if '-' = '+' ∨ '-' = '-' then (digits? (d :: more ++ rest)).map _ else _) = _
      rw [if_pos (.inr rfl), hDigits]
      rfl

/-- What starts with a fraction or an exponent, or where a number ends, does not start with a
digit. -/
theorem IsExponent.head?_append {cs rest : List Char} (h : IsExponent cs) (hRest : Ends rest) :
    (cs ++ rest).head?.any (fun c => c.isDigit || c == '.') = false := by
  rcases h with rfl | ⟨mark, sign, ds, rfl, hMark, -⟩
  · exact hRest.head? fun c hc => by rw [goesOn, hc]; rfl
  · have hMarks : ∀ mark ∈ ['e', 'E'], (mark.isDigit || mark == '.') = false :=
      forall_of_all (by decide)
    exact hMarks mark hMark

theorem IsFraction.head?_append {cs rest : List Char} (h : IsFraction cs)
    (hRest : rest.head?.any (fun c => c.isDigit || c == '.') = false) :
    (cs ++ rest).head?.any Char.isDigit = false := by
  rcases h with rfl | ⟨ds, rfl, -⟩
  · cases rest with
    | nil => rfl
    | cons c more => exact (Bool.or_eq_false_iff.mp hRest).1
  · rfl

/-- A number is read up to its end. -/
theorem number?_append {cs rest : List Char} (h : IsNumber cs) (hRest : Ends rest) :
    number? (cs ++ rest) = some (cs, rest) := by
  obtain ⟨sign, whole, fraction, exponent, rfl, hSign, hWhole, hFraction, hExponent⟩ := h
  have hTail := hExponent.head?_append hRest
  have hWholeRead := whole?_append hWhole (hFraction.head?_append hTail)
  have hFractionRead := fraction?_append hFraction hTail
  have hExponentRead := exponent?_append hExponent hRest
  obtain ⟨d, more, rfl, hd⟩ := hWhole.head
  have hNoSign : d ≠ '-' := ne_of_isDigit hd (by decide)
  simp only [List.mem_cons, List.not_mem_nil, or_false] at hSign
  rcases hSign with rfl | rfl
  · have hText : [] ++ (d :: more ++ (fraction ++ exponent)) ++ rest =
        d :: more ++ (fraction ++ (exponent ++ rest)) := by simp
    rw [hText, number?]
    · simp only [hWholeRead, hFractionRead, hExponentRead, Option.bind_eq_bind, Option.bind_some]
      simp
    · exact fun _ hSame => hNoSign (List.cons.inj hSame).1
  · have hText : ['-'] ++ (d :: more ++ (fraction ++ exponent)) ++ rest =
        '-' :: (d :: more ++ (fraction ++ (exponent ++ rest))) := by simp
    rw [hText, number?]
    simp only [hWholeRead, hFractionRead, hExponentRead, Option.bind_eq_bind, Option.bind_some]
    simp

/-- A number starts with a digit or a sign. -/
theorem IsNumber.head {cs : List Char} (h : IsNumber cs) :
    ∃ c more, cs = c :: more ∧ (c.isDigit = true ∨ c = '-') := by
  obtain ⟨sign, whole, fraction, exponent, rfl, hSign, hWhole, -⟩ := h
  obtain ⟨d, more, rfl, hd⟩ := hWhole.head
  simp only [List.mem_cons, List.not_mem_nil, or_false] at hSign
  rcases hSign with rfl | rfl
  · exact ⟨d, _, rfl, .inl hd⟩
  · exact ⟨'-', _, rfl, .inr rfl⟩

/-! ## Strings -/

/-- What may stand between the quotes of a string: characters that need no escape, and escapes. -/
inductive IsInner : List Char → Prop
  | nil : IsInner []
  | plain {c : Char} {cs : List Char} (hText : 0x20 ≤ c.toNat) (hQuote : c ≠ '"')
      (hBackslash : c ≠ '\\') (h : IsInner cs) : IsInner (c :: cs)
  | escape {e : Char} {cs : List Char} (hLetter : (Text.escaped? e).isSome = true)
      (h : IsInner cs) : IsInner ('\\' :: e :: cs)
  | unit {a b c d : Char} {cs : List Char}
      (hHex : (isHex a && isHex b && isHex c && isHex d) = true) (h : IsInner cs) :
      IsInner ('\\' :: 'u' :: a :: b :: c :: d :: cs)

/-- A string is read up to its closing quote. -/
theorem stringRest_append {cs : List Char} (h : IsInner cs) (rest : List Char) :
    stringRest (cs ++ '"' :: rest) = some (cs, rest) := by
  induction h with
  | nil => rfl
  | @plain c cs hText hQuote hBackslash _ ih =>
    have hStands : (c.toNat < 0x20 || c == '\\') = false := by
      simp only [Bool.or_eq_false_iff, decide_eq_false_iff_not, beq_eq_false_iff_ne]
      exact ⟨Nat.not_lt.mpr hText, hBackslash⟩
    rw [List.cons_append, stringRest]
    · rw [hStands, if_neg Bool.false_ne_true, ih]
      rfl
    · exact hQuote
    · exact fun _ _ _ _ _ hSame => absurd hSame hBackslash
    · exact fun _ _ hSame => absurd hSame hBackslash
  | @escape e cs hLetter _ ih =>
    rw [List.cons_append, List.cons_append, stringRest]
    · rw [if_pos hLetter, ih]
      rfl
    · -- the letter of an escape is not that of a unit
      rintro a b c d more rfl
      cases hLetter
  | @unit a b c d cs hHex _ ih =>
    simp only [List.cons_append]
    rw [stringRest, if_pos hHex, ih]
    rfl

/-! ## What the printer writes -/

theorem isInner_encodeChar (c : Char) {cs : List Char} (h : IsInner cs) :
    IsInner (Text.encodeChar c ++ cs) := by
  unfold Text.encodeChar
  split
  · exact .escape (by decide) h
  next hQuote =>
  split
  · exact .escape (by decide) h
  next hBackslash =>
  split
  · exact .escape (by decide) h
  split
  · exact .escape (by decide) h
  split
  · exact .escape (by decide) h
  split
  · exact .escape (by decide) h
  split
  · exact .escape (by decide) h
  split
  · next hSmall =>
    -- the two last digits of a control character
    have hHex : ∀ n < 0x20, (isHex '0' && isHex '0' && isHex (Text.hexDigit (n / 16)) &&
        isHex (Text.hexDigit (n % 16))) = true := by decide
    exact .unit (hHex c.toNat hSmall) h
  · next hText => exact .plain (Nat.not_lt.mp hText) hQuote hBackslash h

theorem isInner_encode (cs : List Char) : IsInner (Text.encode cs) := by
  induction cs with
  | nil => exact .nil
  | cons c rest ih =>
    rw [Text.encode, List.flatMap_cons]
    exact isInner_encodeChar c ih

/-- The digits of a control character stand for its number, which is no half of a pair. -/
theorem hexValue4?_control : ∀ n < 0x20,
    Text.hexValue4? '0' '0' (Text.hexDigit (n / 16)) (Text.hexDigit (n % 16)) = some n ∧
      Text.isTrailing n = false ∧ Text.isLeading n = false := by decide

/-- A character is read from its escaped form. -/
theorem decode?_encodeChar (c : Char) (rest : List Char) :
    Text.decode? (Text.encodeChar c ++ rest) = (Text.decode? rest).map (c :: ·) := by
  have hNumber {n : Nat} (h : c.toNat = n) : c = Char.ofNat n := by rw [← h, Char.ofNat_toNat]
  unfold Text.encodeChar
  split
  · next h => subst h; rfl
  split
  · next h => subst h; rfl
  next hBackslash =>
  split
  · next h => rw [hNumber h]; rfl
  split
  · next h => rw [hNumber h]; rfl
  split
  · next h => subst h; rfl
  split
  · next h => subst h; rfl
  split
  · next h => subst h; rfl
  split
  · next hSmall =>
    obtain ⟨hValue, hTrailing, hLeading⟩ := hexValue4?_control c.toNat hSmall
    show Text.decode? ('\\' :: 'u' :: '0' :: '0' :: _ :: _ :: rest) = _
    rw [Text.decode?, hValue]
    dsimp only
    rw [hTrailing, hLeading, if_neg Bool.false_ne_true, if_neg Bool.false_ne_true,
      Char.ofNat_toNat]
  · show Text.decode? (c :: rest) = _
    rw [Text.decode?]
    · exact fun _ _ _ _ _ hSame => absurd hSame hBackslash
    · exact fun _ _ hSame => absurd hSame hBackslash

/-- A text is read from its escaped form. -/
theorem textOf?_encode (s : String) : textOf? (Text.encode s.toList) = some s := by
  have hChars (cs : List Char) : Text.decode? (Text.encode cs) = some cs := by
    induction cs with
    | nil => rfl
    | cons c rest ih =>
      rw [Text.encode, List.flatMap_cons, decode?_encodeChar]
      exact congrArg (Option.map (c :: ·)) ih
  rw [textOf?, hChars, Option.map_some, String.ofList_toList]

theorem isDigits_digitsOf (n : Nat) : IsDigits (digitsOf n) := by
  obtain ⟨ds, hSome, hDigits, hBelow, -⟩ := digits_spec 10 (by decide) n
  have hDigit : ∀ d < 10, d.digitChar.isDigit = true := by decide
  rw [digitsOf, hDigits]
  refine ⟨fun hNone => hSome (List.map_eq_nil_iff.mp hNone), List.all_eq_true.mpr ?_⟩
  intro c hc
  obtain ⟨d, hd, rfl⟩ := List.mem_map.mp hc
  exact hDigit d (hBelow d hd)

/-- A number above zero has no zero in front. -/
theorem head?_digitsOf {n : Nat} (h : 0 < n) : (digitsOf n).head? ≠ some '0' := by
  -- by induction on the number, which loses its last digit
  induction n using Nat.strongRecOn with
  | ind n ih =>
    by_cases hSmall : n < 10
    · have hOther : ∀ n < 10, 0 < n → n.digitChar ≠ '0' := by decide
      rw [digitsOf, Nat.toDigits_of_lt_base hSmall]
      exact fun hSame => hOther n hSmall h (Option.some.inj hSame)
    · have hHead := ih (n / 10) (by omega) (by omega)
      rw [digitsOf, Nat.toDigits_of_base_le (by decide) (by omega)]
      obtain ⟨d, more, hMore⟩ : ∃ d more, Nat.toDigits 10 (n / 10) = d :: more :=
        List.exists_cons_of_ne_nil Nat.toDigits_ne_nil
      rw [digitsOf, hMore] at hHead
      rw [hMore]
      exact hHead

/-- A number is written with digits, and with a zero in front only if it is zero. -/
theorem isWhole_digitsOf (n : Nat) : IsWhole (digitsOf n) := by
  cases n with
  | zero => exact .inl rfl
  | succ n => exact .inr ⟨isDigits_digitsOf (n + 1), head?_digitsOf (Nat.succ_pos n)⟩

theorem isNumber_digitsOf (n : Nat) : IsNumber (digitsOf n) :=
  ⟨[], digitsOf n, [], [], by simp, by simp, isWhole_digitsOf n, .inl rfl, .inl rfl⟩

/-- A number is read from its digits. -/
theorem wordOf?_digitsOf (n : UInt64) : wordOf? (digitsOf n.toNat) = some n := by
  obtain ⟨ds, -, hDigits, hBelow, hSum⟩ := digits_spec 10 (by decide) n.toNat
  have hDigit : ∀ d < 10, d.digitChar.isDigit = true ∧ d.digitChar.toNat - '0'.toNat = d := by
    decide
  have hAll : (digitsOf n.toNat).all Char.isDigit = true := by
    rw [digitsOf, hDigits, List.all_map]
    exact List.all_eq_true.mpr fun d hd => (hDigit d (hBelow d hd)).1
  have hValue : (digitsOf n.toNat).foldl (fun n d => 10 * n + (d.toNat - '0'.toNat)) 0 =
      n.toNat := by
    rw [digitsOf, hDigits, List.foldl_map, ← hSum]
    refine List.foldl_ext _ _ _ fun m d hd => ?_
    rw [(hDigit d (hBelow d hd)).2, Nat.mul_comm]
  have hSize : n.toNat < UInt64.size := n.toNat_lt_size
  rw [wordOf?, if_pos hAll]
  dsimp only
  rw [hValue, if_pos hSize, UInt64.ofNat_toNat]

end Metering.Json
