import Metering.Proofs.Characters
import Metering.Ron.Printer
import Metering.Ron.Token

/-!
# Metering — tokens of RON that were written are read

Each token that is written stands before a comma, a colon, a closing parenthesis or the end of the
text. Its reader then gives it back, together with what follows.

* `Stops` — what follows a token;
* `gap?_solid`, `gap?_indent`, `comma?_line` — gaps and commas as they are written;
* `identifier?_simple`, `keyword?_append` — names;
* `word?_toString` — a number is read from its digits;
* `textRest_escapeChar` — each character is read from its escape, with `text?_quote`.
-/

namespace Metering.Ron

/-! ## What follows a token -/

/-- The marks that end tokens. -/
def marks : List Char := [',', ':', ')', '(']

/-- A text is at its end, or starts with a mark that ends tokens. -/
def Stops (cs : List Char) : Prop := cs = [] ∨ ∃ c more, cs = c :: more ∧ c ∈ marks

theorem stops_cons {c : Char} (h : c ∈ marks) (more : List Char) :
    Stops (c :: more) := .inr ⟨c, more, rfl, h⟩

/-- What no mark satisfies does not hold at the start of a text that stops. -/
theorem Stops.head? {cs : List Char} (h : Stops cs) {p : Char → Bool}
    (hMarks : marks.all (fun c => !p c) = true) : cs.head?.any p = false := by
  rcases h with rfl | ⟨c, more, rfl, hc⟩
  · rfl
  · have hMark : (!p c) = true := List.all_eq_true.mp hMarks c hc
    rw [Bool.not_eq_true'] at hMark
    exact hMark

theorem Stops.nameGoesOn {cs : List Char} (h : Stops cs) : nameGoesOn cs = false :=
  h.head? (by decide)

/-! ## Gaps -/

/-- A text starts with a character that is neither blank nor the start of a comment. -/
def Solid (cs : List Char) : Prop := ∃ c more, cs = c :: more ∧ isBlank c = false ∧ c ≠ '/'

theorem solid_cons {c : Char} (h : isBlank c = false ∧ c ≠ '/') (more : List Char) :
    Solid (c :: more) := ⟨c, more, rfl, h⟩

theorem Solid.append {cs : List Char} (h : Solid cs) (more : List Char) : Solid (cs ++ more) := by
  obtain ⟨c, rest, rfl, hc⟩ := h
  exact solid_cons hc (rest ++ more)

theorem gap?_cons {c : Char} (h : c ≠ '/') (more : List Char) :
    gap? (c :: more) = if isBlank c then gap? more else some (c :: more) := by
  rw [gap?, gapFrom]
  · rfl
  all_goals simp_all

theorem gap?_solid {cs : List Char} (h : Solid cs) : gap? cs = some cs := by
  obtain ⟨c, more, rfl, hBlank, hSlash⟩ := h
  rw [gap?_cons hSlash, hBlank, if_neg Bool.false_ne_true]

theorem gap?_space (more : List Char) : gap? (' ' :: more) = gap? more := by
  rw [gap?_cons (by decide), if_pos (by decide)]

theorem gap?_newline (more : List Char) : gap? ('\n' :: more) = gap? more := by
  rw [gap?_cons (by decide), if_pos (by decide)]

theorem gap?_indent (depth : Nat) (more : List Char) : gap? (indent depth ++ more) = gap? more := by
  rw [indent]
  induction 2 * depth with
  | zero => rfl
  | succ n ih => rw [List.replicate_succ, List.cons_append, gap?_space, ih]

/-- The comma at the end of a line. -/
theorem comma?_line (more : List Char) :
    comma? (',' :: '\n' :: more) = (gap? more).map fun rest => (true, rest) := by
  rw [comma?, gap?_solid (solid_cons (by decide) _)]
  show (gap? ('\n' :: more)).map _ = _
  rw [gap?_newline]

/-! ## Names -/

/-- Whether a character is a small letter or an underscore. -/
def isSimpleChar (c : Char) : Bool := c.isLower || c == '_'

/-- Whether a name is written with small letters and underscores. -/
def isSimple (name : String) : Bool := !name.toList.isEmpty && name.toList.all isSimpleChar

/-- A small letter or an underscore is one of the first 128 characters, and a letter or an
underscore. -/
theorem isSimpleChar_cases {c : Char} (h : isSimpleChar c = true) :
    c.toNat < 128 ∧ (c.isAlpha = true ∨ c = '_') := by
  rw [isSimpleChar, Bool.or_eq_true, beq_iff_eq] at h
  rcases h with hLower | rfl
  · have hRange : c.toNat ≤ 122 := of_decide_eq_true (Bool.and_eq_true_iff.mp hLower).2
    exact ⟨by omega, .inl (Bool.or_eq_true_iff.mpr (.inr hLower))⟩
  · exact ⟨by decide, .inr rfl⟩

theorem isNameChar_of_simple {c : Char} (h : isSimpleChar c = true) : isNameChar c = true := by
  obtain ⟨hSmall, hCase⟩ := isSimpleChar_cases h
  rw [isNameChar, Text.continuesIdentifier, if_pos hSmall, Text.isPlainWord, Char.isAlphanum]
  rcases hCase with hAlpha | rfl
  · rw [hAlpha]
    rfl
  · rfl

theorem startsName_of_simple {c : Char} (h : isSimpleChar c = true) : startsName c = true := by
  obtain ⟨hSmall, hCase⟩ := isSimpleChar_cases h
  rw [startsName, Text.startsIdentifier, if_pos hSmall]
  rcases hCase with hAlpha | rfl
  · rw [hAlpha, Bool.or_true]
  · rfl

/-- A character that a test refuses is none of those that pass it. -/
theorem ne_of_simple {c d : Char} (h : isSimpleChar c = true) (hd : isSimpleChar d = false) :
    c ≠ d := by
  rintro rfl
  rw [h] at hd
  cases hd

theorem isBlank_of_simple {c : Char} (h : isSimpleChar c = true) : isBlank c = false := by
  have hAll : ∀ n ∈ [0x20, 0x09, 0x0A, 0x0D, 0x0B, 0x0C, 0x85, 0x200E, 0x200F, 0x2028, 0x2029],
      isSimpleChar (Char.ofNat n) = false := by decide
  rw [isBlank, ← Bool.not_eq_true, List.contains_iff_mem]
  intro hMem
  -- a blank would be one of these eleven characters
  have hRefused := hAll c.toNat hMem
  rw [Char.ofNat_toNat, h] at hRefused
  cases hRefused

/-- The characters of a simple name. -/
theorem exists_of_isSimple {name : String} (h : isSimple name = true) :
    ∃ c more, name.toList = c :: more ∧ isSimpleChar c = true ∧ more.all isSimpleChar = true := by
  rw [isSimple, Bool.and_eq_true] at h
  cases hName : name.toList with
  | nil =>
    rw [hName] at h
    cases h.1
  | cons c more =>
    rw [hName, List.all_cons, Bool.and_eq_true] at h
    exact ⟨c, more, rfl, h.2⟩

theorem solid_simple {name : String} (h : isSimple name = true) : Solid name.toList := by
  obtain ⟨c, more, hName, hc, -⟩ := exists_of_isSimple h
  rw [hName]
  exact solid_cons ⟨isBlank_of_simple hc, ne_of_simple hc (by decide)⟩ more

/-- After the simple characters at the front of a text that starts as a marked text, there is a
quote or a hash sign. -/
theorem dropWhile_of_startsMarkedText {cs : List Char} (h : startsMarkedText cs = true) :
    ∃ c more, cs.dropWhile isSimpleChar = c :: more ∧ c ∈ ['"', '\'', '#'] := by
  unfold startsMarkedText at h
  split at h
  all_goals first | exact ⟨_, _, rfl, by decide⟩ | cases h

/-- A simple name before a mark is not the start of a marked text. -/
theorem startsMarkedText_simple {cs rest : List Char} (h : cs.all isSimpleChar = true)
    (hRest : Stops rest) : startsMarkedText (cs ++ rest) = false := by
  rw [← Bool.not_eq_true]
  intro hMarked
  obtain ⟨c, more, hDrop, hc⟩ := dropWhile_of_startsMarkedText hMarked
  rw [dropWhile_append_stops h (hRest.head? (by decide))] at hDrop
  -- what follows the name is a mark, and no mark is a quote or a hash sign
  rcases hRest with rfl | ⟨d, rest, rfl, hd⟩
  · cases hDrop
  · cases hDrop
    have hApart : ∀ d ∈ marks, d ∉ ['"', '\'', '#'] := forall_of_all (by decide)
    exact hApart c hd hc

/-- What follows a fixed text. -/
theorem after?_append (fixed rest : List Char) : after? fixed (fixed ++ rest) = some rest := by
  rw [after?, if_pos (List.isPrefixOf_iff_prefix.mpr (List.prefix_append fixed rest)),
    List.drop_left]

theorem keyword?_append (name : String) {rest : List Char} (hRest : nameGoesOn rest = false) :
    keyword? name (name.toList ++ rest) = some rest := by
  rw [keyword?, after?_append]
  show (if nameGoesOn rest then none else some rest) = _
  rw [hRest, if_neg Bool.false_ne_true]

/-- A name is not there if the text starts with another character. -/
theorem keyword?_of_head {name : String} {c : Char} {cs : List Char}
    (hName : name.toList.head? = some c) (hOther : cs.head? ≠ some c) :
    keyword? name cs = none := by
  have hNone : after? name.toList cs = none := by
    rw [after?, if_neg]
    intro hPrefix
    obtain ⟨tail, rfl⟩ := List.isPrefixOf_iff_prefix.mp hPrefix
    rw [List.head?_append, hName] at hOther
    exact hOther rfl
  rw [keyword?, hNone]

/-- A simple name before a mark is read. -/
theorem identifier?_simple {name : String} (h : isSimple name = true) {rest : List Char}
    (hRest : Stops rest) : identifier? (name.toList ++ rest) = some (name, rest) := by
  obtain ⟨c, more, hName, hc, hMore⟩ := exists_of_isSimple h
  have hAll : (c :: more).all isSimpleChar = true := by
    rw [List.all_cons, hc, hMore]
    rfl
  have hNameChars : (c :: more).all isNameChar = true :=
    List.all_eq_true.mpr fun d hd => isNameChar_of_simple (List.all_eq_true.mp hAll d hd)
  have hRaw : after? ['r', '#'] (c :: more ++ rest) = none := by
    -- a raw name has a hash sign after its letter
    rw [after?, if_neg]
    intro hRaw
    obtain ⟨tail, hTail⟩ := List.isPrefixOf_iff_prefix.mp hRaw
    have hHash := dropWhile_append_stops hAll (hRest.head? (p := isSimpleChar) (by decide))
    rw [← hTail] at hHash
    rcases hRest with rfl | ⟨d, rest, rfl, hd⟩
    · cases hHash
    · cases hHash
      revert hd
      decide
  have hGoesOn : rest.head?.any isNameChar = false := hRest.nameGoesOn
  have hFirst : (!startsName c) = false := by rw [startsName_of_simple hc]; rfl
  unfold identifier?
  rw [hName, startsMarkedText_simple hAll hRest, if_neg Bool.false_ne_true]
  show (if !startsName c then none else _) = _
  rw [hFirst, if_neg Bool.false_ne_true, hRaw]
  show (if ((c :: more ++ rest).dropWhile isNameChar).head?.any isRawNameChar then none else _) = _
  rw [dropWhile_append_stops hNameChars hGoesOn, hRest.head? (by decide),
    if_neg Bool.false_ne_true, takeWhile_append_stops hNameChars hGoesOn, ← hName,
    String.ofList_toList]

/-! ## Digits -/

theorem hexValue?_digitChar : ∀ d < 16, hexValue? d.digitChar = some d := by decide

theorem mapM_hexValue? {ds : List Nat} (h : ∀ d ∈ ds, d < 16) :
    (ds.map Nat.digitChar).mapM hexValue? = some ds := by
  induction ds with
  | nil => rfl
  | cons d rest ih =>
    obtain ⟨hFirst, hRest⟩ := List.forall_mem_cons.mp h
    rw [List.map_cons, List.mapM_cons, hexValue?_digitChar d hFirst, ih hRest]
    rfl

/-! ## Whole numbers -/

/-- The value of decimal digits that follow a number. -/
def decimal (n : Nat) (ds : List Nat) : Nat := ds.foldl (fun a d => a * 10 + d) n

theorem le_decimal (ds : List Nat) (n : Nat) : n ≤ decimal n ds := by
  induction ds generalizing n with
  | nil => exact Nat.le_refl n
  | cons d rest ih =>
    have hRest : n * 10 + d ≤ decimal n (d :: rest) := ih (n * 10 + d)
    omega

/-- No digit is an underscore or a sign. -/
theorem digitChar_ne : ∀ d < 10, d.digitChar ∉ ['_', '+', '-', 'b', 'o', 'x'] := by decide

/-- Digits are read as long as the number stays within the bound. -/
theorem readDigits_append {bound : Nat} {ds : List Nat} (h : ∀ d ∈ ds, d < 10) (n : Nat)
    (hBound : decimal n ds ≤ bound) (rest : List Char) :
    readDigits 10 bound n (ds.map Nat.digitChar ++ rest) =
      readDigits 10 bound (decimal n ds) rest := by
  -- by induction on the digits; the number only grows, so it never exceeds the bound before the end
  induction ds generalizing n with
  | nil => rfl
  | cons d more ih =>
    obtain ⟨hFirst, hRest⟩ := List.forall_mem_cons.mp h
    have hBound : decimal (n * 10 + d) more ≤ bound := hBound
    have hGrows : n * 10 + d ≤ bound := Nat.le_trans (le_decimal more _) hBound
    have hUnderscore : d.digitChar ≠ '_' := fun hSame =>
      digitChar_ne d hFirst (hSame ▸ List.mem_cons_self)
    rw [List.map_cons, List.cons_append, readDigits, if_neg hUnderscore,
      hexValue?_digitChar d (by omega)]
    dsimp only
    rw [if_neg (by omega), if_neg (by omega), if_neg (by omega), ih hRest _ hBound]
    rfl

theorem readDigits_stops {rest : List Char} (h : Stops rest) (bound n : Nat) :
    readDigits 10 bound n rest = .number n rest := by
  rcases h with rfl | ⟨c, more, rfl, hc⟩
  · rfl
  · have hMarks : ∀ c ∈ marks, c ≠ '_' ∧ hexValue? c = none := forall_of_all (by decide)
    obtain ⟨hUnderscore, hNone⟩ := hMarks c hc
    rw [readDigits, if_neg hUnderscore, hNone]

/-- No base is named where a digit is followed by a digit or a mark. -/
theorem base_decimal {c : Char} {cs : List Char}
    (h : cs.head?.any (['b', 'o', 'x'].contains) = false) :
    base (c :: cs) = (10, c :: cs) := by
  unfold base
  split
  all_goals first | rfl | simp_all

theorem sign_decimal {c : Char} (h : c ∉ ['_', '+', '-', 'b', 'o', 'x']) (cs : List Char) :
    sign (c :: cs) = (false, c :: cs) := by
  unfold sign
  split
  all_goals first | rfl | simp_all

/-- No type of numbers is named where a mark follows. -/
theorem keyword?_wordTypes {type : String × Nat × Nat} (h : type ∈ wordTypes) {rest : List Char}
    (hRest : Stops rest) : keyword? type.1 rest = none := by
  have hLetters : ∀ type ∈ wordTypes,
      type.1.toList.head? = some 'i' ∨ type.1.toList.head? = some 'u' := by decide
  have hMarks (c : Char) (hc : marks.all (· ≠ c) = true) : rest.head? ≠ some c := by
    rcases hRest with rfl | ⟨d, more, rfl, hd⟩
    · exact nofun
    · intro hSame
      have hOther := List.all_eq_true.mp hc d hd
      rw [Option.some.inj hSame] at hOther
      simp at hOther
  rcases hLetters type h with hName | hName
  · exact keyword?_of_head hName (hMarks 'i' (by decide))
  · exact keyword?_of_head hName (hMarks 'u' (by decide))

/-- No type is named after digits, as what follows them is a mark. -/
theorem wordType?_digits {ds : List Nat} (hBelow : ∀ d ∈ ds, d < 10) {rest : List Char}
    (hRest : Stops rest) : wordType? (ds.map Nat.digitChar ++ rest) = none := by
  have hNumber : (ds.map Nat.digitChar).all isNumberChar = true := by
    refine List.all_eq_true.mpr fun c hc => ?_
    obtain ⟨d, hd, rfl⟩ := List.mem_map.mp hc
    have hTen := hBelow d hd
    rw [isNumberChar, hexValue?_digitChar d (by omega)]
    rfl
  rw [wordType?, dropWhile_append_stops hNumber (hRest.head? (by decide)), List.find?_eq_none]
  intro type hMem
  rw [keyword?_wordTypes hMem hRest]
  exact Bool.false_ne_true

theorem afterType_stops {rest : List Char} (hRest : Stops rest) : afterType "u64" rest = rest := by
  have hListed : ("u64", 0, UInt64.size - 1) ∈ wordTypes := by decide
  rw [afterType, keyword?_wordTypes hListed hRest]
  rfl

/-- A number is read from its digits. -/
theorem word?_toString (n : UInt64) {rest : List Char} (hRest : Stops rest) :
    word? ((toString n.toNat).toList ++ rest) = some (n, rest) := by
  obtain ⟨ds, hSome, hDigits, hBelow, hSum⟩ := digits_spec 10 (by decide) n.toNat
  have hText : (toString n.toNat).toList = ds.map Nat.digitChar := by
    rw [Nat.toString_eq_repr, Nat.toList_repr, hDigits]
  have hType := wordType?_digits hBelow hRest
  -- the number fits, so the reader never gives up before the last digit
  have hBound : decimal 0 ds ≤ UInt64.size - 1 := by
    have hSize : n.toNat < UInt64.size := n.toNat_lt_size
    rw [decimal, hSum]
    omega
  have hRead : readDigits 10 (UInt64.size - 1) 0 (ds.map Nat.digitChar ++ rest) =
      .number n.toNat rest := by
    rw [readDigits_append hBelow 0 hBound, readDigits_stops hRest, decimal, hSum]
  obtain ⟨d, more, rfl⟩ := List.exists_cons_of_ne_nil hSome
  obtain ⟨hFirst, hMore⟩ := List.forall_mem_cons.mp hBelow
  rw [List.map_cons, List.cons_append] at hRead hType
  -- nor is a base named, which would take a letter after the first digit
  have hSecond : (more.map Nat.digitChar ++ rest).head?.any (['b', 'o', 'x'].contains) = false := by
    cases more with
    | nil => exact hRest.head? (by decide)
    | cons e _ =>
      have hLetters : ∀ e < 10, ['b', 'o', 'x'].contains e.digitChar = false := by decide
      exact hLetters e (hMore e List.mem_cons_self)
  rw [hText, List.map_cons, List.cons_append, word?, sign_decimal (digitChar_ne d hFirst)]
  dsimp only
  rw [hType, readMagnitude, base_decimal hSecond]
  dsimp only [Option.map_none, Option.getD_none]
  rw [hexValue?_digitChar d (by omega), if_neg Bool.false_ne_true, Option.isSome_some, if_pos rfl,
    hRead]
  dsimp only
  rw [if_pos rfl, afterType_stops hRest, UInt64.ofNat_toNat]

/-! ## Quoted text -/

theorem charOf?_toNat (c : Char) : charOf? c.toNat = some c := by
  have hValid : c.toNat.isValidChar := c.valid
  rw [charOf?, if_pos hValid, Char.ofNat_toNat]

/-- The number of a character has at most six hexadecimal digits. -/
theorem length_hexDigits_le (c : Char) : (Text.hexDigits c.toNat).length ≤ 6 := by
  have hRange : c.toNat < 16 ^ 6 := by
    have hValid : c.toNat.isValidChar := c.valid
    rcases hValid with hSmall | ⟨-, hLast⟩ <;> omega
  exact (Nat.length_toDigits_le_iff (by decide) (by decide)).mpr hRange

/-- A character is read from its number between braces. -/
theorem escape?_hexDigits (c : Char) (more : List Char) :
    escape? false ('u' :: '{' :: (Text.hexDigits c.toNat ++ '}' :: more)) = some (c, more) := by
  obtain ⟨ds, hSome, hDigits, hBelow, hSum⟩ := digits_spec 16 (by decide) c.toNat
  have hText : Text.hexDigits c.toNat = ds.map Nat.digitChar := hDigits
  -- the reader takes one to six digits between braces
  have hFits : ¬ (ds.map Nat.digitChar = [] ∨ 6 < (ds.map Nat.digitChar).length) := by
    rw [not_or, List.map_eq_nil_iff, ← hText]
    exact ⟨hSome, Nat.not_lt.mpr (length_hexDigits_le c)⟩
  have hBraces : (ds.map Nat.digitChar).all (· ≠ '}') = true := by
    refine List.all_eq_true.mpr fun e he => ?_
    obtain ⟨d, hd, rfl⟩ := List.mem_map.mp he
    have hAll : ∀ d < 16, decide (d.digitChar ≠ '}') = true := by decide
    exact hAll d (hBelow d hd)
  have hEnd : ('}' :: more).head?.any (fun c => decide (c ≠ '}')) = false := rfl
  have hValue : ds.foldl (fun n d => 16 * n + d) 0 = c.toNat := by
    rw [← hSum]
    congr 1
    funext n d
    rw [Nat.mul_comm]
  rw [hText, escape?, takeWhile_append_stops hBraces hEnd, dropWhile_append_stops hBraces hEnd]
  show (if ds.map Nat.digitChar = [] ∨ 6 < (ds.map Nat.digitChar).length then none else _) = _
  rw [if_neg hFits, mapM_hexValue? hBelow]
  show (charOf? (ds.foldl (fun n d => 16 * n + d) 0)).map _ = _
  rw [hValue, charOf?_toNat]
  rfl

/-- A character is read from the form that it is written in. -/
theorem textRest_escapeChar (c : Char) (more : List Char) (fuel : Nat) :
    textRest (fuel + 1) (Text.escapeChar true c ++ more) =
      (textRest fuel more).map fun (s, after) => (c :: s, after) := by
  unfold Text.escapeChar
  -- quotes, backslashes, ends of lines, tabs and the character zero have escapes of their own
  split
  · next h => subst h; rfl
  next hQuote =>
  split
  · next h => subst h; rfl
  next hBackslash =>
  split
  · next h => subst h; rfl
  split
  · next h => subst h; rfl
  split
  · next h => subst h; rfl
  split
  · next h => subst h; rfl
  split
  · next h =>
    have hZero : c = Char.ofNat 0 := by rw [← h, Char.ofNat_toNat]
    subst hZero
    rfl
  split
  · -- a character that stands for itself is neither a quote nor a backslash
    show textRest (fuel + 1) (c :: more) = _
    rw [textRest]
    · exact hQuote
    · exact hBackslash
  · -- all other characters are written with their numbers
    show textRest (fuel + 1) ('\\' :: 'u' :: '{' :: (Text.hexDigits c.toNat ++ ['}'] ++ more)) = _
    rw [List.append_assoc, List.singleton_append, textRest, escape?_hexDigits]
    rfl

theorem textRest_flatMap {cs : List Char} {fuel : Nat} (h : cs.length < fuel) (rest : List Char) :
    textRest fuel (cs.flatMap (Text.escapeChar true) ++ '"' :: rest) = some (cs, rest) := by
  induction cs generalizing fuel with
  | nil =>
    obtain ⟨fuel, rfl⟩ := Nat.exists_eq_add_one_of_ne_zero (Nat.ne_of_gt h)
    rfl
  | cons c more ih =>
    obtain ⟨fuel, rfl⟩ := Nat.exists_eq_add_one_of_ne_zero (Nat.ne_of_gt (Nat.zero_lt_of_lt h))
    rw [List.flatMap_cons, List.append_assoc, textRest_escapeChar, ih (Nat.lt_of_succ_lt_succ h)]
    rfl

theorem length_le_flatMap (cs : List Char) :
    cs.length ≤ (cs.flatMap (Text.escapeChar true)).length := by
  induction cs with
  | nil => exact Nat.le_refl 0
  | cons c more ih =>
    have hSome : Text.escapeChar true c ≠ [] := by
      unfold Text.escapeChar
      repeat' split
      all_goals exact List.cons_ne_nil _ _
    have hPositive := List.length_pos_iff.mpr hSome
    rw [List.flatMap_cons, List.length_append, List.length_cons]
    omega

/-- A text is read from its quoted form. -/
theorem text?_quote (s : String) (rest : List Char) :
    text? (quote s ++ rest) = some (s.toList, rest) := by
  have hQuote : quote s ++ rest =
      '"' :: (s.toList.flatMap (Text.escapeChar true) ++ '"' :: rest) := by
    simp [quote, Text.quoted]
  have hFuel : s.toList.length <
      (s.toList.flatMap (Text.escapeChar true) ++ '"' :: rest).length + 1 := by
    have hLength := length_le_flatMap s.toList
    rw [List.length_append]
    omega
  rw [hQuote, text?, textRest_flatMap hFuel]

theorem solid_quote (s : String) : Solid (quote s) := solid_cons (by decide) _

end Metering.Ron
