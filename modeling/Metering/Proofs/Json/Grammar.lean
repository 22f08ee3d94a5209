import Metering.Proofs.Json.Tokens

/-!
# Metering — texts in JSON

The grammar of the notation, with blanks wherever they are allowed, and that the reader takes every
text that follows it.

* `Writes` — how a value is written, with `WritesItems` and `WritesMembers` for what it holds;
* `IsText` — a value as a whole text, with blanks around it;
* `readsWritten` — by induction on the fuel, all that is written is read;
* `read?_of_isText` — a text is read as the value that it is written for;
* `WellFormed` — a value with numbers and strings of the notation: the text without blanks is one of
  those (`WellFormed.writes`) and has no control characters (`WellFormed.noControl`);
* `writes_render` — such is the value of every datum.
-/

namespace Metering.Json

/-! ## The grammar -/

/-- Nothing but blanks. -/
def IsGap (cs : List Char) : Prop := cs.all isBlank = true

mutual

/-- How a value is written, without blanks around it. -/
inductive Writes : Json → List Char → Prop
  | null : Writes .null "null".toList
  | yes : Writes (.bool true) "true".toList
  | no : Writes (.bool false) "false".toList
  | number {cs : List Char} (h : IsNumber cs) : Writes (.number cs) cs
  | string {cs : List Char} (h : IsInner cs) : Writes (.string cs) (quote cs)
  | emptyArray {gap : List Char} (hGap : IsGap gap) : Writes (.array []) ('[' :: (gap ++ [']']))
  | array {vs : List Json} {cs : List Char} (h : WritesItems vs cs) : Writes (.array vs) ('[' :: cs)
  | emptyObject {gap : List Char} (hGap : IsGap gap) : Writes (.object []) ('{' :: (gap ++ ['}']))
  | object {ms : List (List Char × Json)} {cs : List Char} (h : WritesMembers ms cs) :
      Writes (.object ms) ('{' :: cs)

/-- How the items of an array are written, up to its end. -/
inductive WritesItems : List Json → List Char → Prop
  | last {v : Json} {before cs after : List Char} (hBefore : IsGap before) (h : Writes v cs)
      (hAfter : IsGap after) : WritesItems [v] (before ++ (cs ++ (after ++ [']'])))
  | cons {v : Json} {vs : List Json} {before cs after rest : List Char} (hBefore : IsGap before)
      (h : Writes v cs) (hAfter : IsGap after) (hRest : WritesItems vs rest) :
      WritesItems (v :: vs) (before ++ (cs ++ (after ++ ',' :: rest)))

/-- How the members of an object are written, up to its end. -/
inductive WritesMembers : List (List Char × Json) → List Char → Prop
  | last {key : List Char} {v : Json} {start colon before cs after : List Char}
      (hStart : IsGap start) (hKey : IsInner key) (hColon : IsGap colon) (hBefore : IsGap before)
      (h : Writes v cs) (hAfter : IsGap after) :
      WritesMembers [(key, v)]
        (start ++ (quote key ++ (colon ++ ':' :: (before ++ (cs ++ (after ++ ['}']))))))
  | cons {key : List Char} {v : Json} {ms : List (List Char × Json)}
      {start colon before cs after rest : List Char} (hStart : IsGap start) (hKey : IsInner key)
      (hColon : IsGap colon) (hBefore : IsGap before) (h : Writes v cs) (hAfter : IsGap after)
      (hRest : WritesMembers ms rest) :
      WritesMembers ((key, v) :: ms)
        (start ++ (quote key ++ (colon ++ ':' :: (before ++ (cs ++ (after ++ ',' :: rest))))))

end

/-- A text is written for a value, with blanks around it. -/
def IsText (v : Json) (text : List Char) : Prop :=
  ∃ before cs after, text = before ++ (cs ++ after) ∧ IsGap before ∧ Writes v cs ∧ IsGap after

/-! ## Blanks -/

theorem gap_append {before : List Char} (h : IsGap before) (cs : List Char) :
    gap (before ++ cs) = gap cs := by
  rw [gap, List.dropWhile_append_of_pos (List.all_eq_true.mp h), gap]

theorem gap_cons {c : Char} (h : isBlank c = false) (cs : List Char) : gap (c :: cs) = c :: cs :=
  List.dropWhile_cons_of_neg (Bool.eq_false_iff.mp h)

theorem gap_gap (cs : List Char) : gap (gap cs) = gap cs := by
  induction cs with
  | nil => rfl
  | cons c rest ih =>
    cases hc : isBlank c with
    | true =>
      have hDrop : gap (c :: rest) = gap rest := List.dropWhile_cons_of_pos hc
      rw [hDrop, ih]
    | false => rw [gap_cons hc, gap_cons hc]

/-- Readers of items and members skip blanks by themselves. -/
theorem items?_gap (fuel : Nat) (cs : List Char) : items? fuel (gap cs) = items? fuel cs := by
  cases fuel with
  | zero => rw [items?, items?]
  | succ fuel => rw [items?, items?, gap_gap]

theorem members?_gap (fuel : Nat) (cs : List Char) : members? fuel (gap cs) = members? fuel cs := by
  cases fuel with
  | zero => rw [members?, members?]
  | succ fuel => rw [members?, members?, gap_gap]

/-- A number ends at a blank or at a mark of the notation. -/
theorem ends_of_gap {after rest : List Char} (h : IsGap after) (hRest : Ends rest) :
    Ends (after ++ rest) := by
  cases after with
  | nil => exact hRest
  | cons b more =>
    have hb : isBlank b = true := List.all_eq_true.mp h b List.mem_cons_self
    simp only [isBlank, Bool.or_eq_true, beq_iff_eq] at hb
    rcases hb with ((rfl | rfl) | rfl) | rfl <;> rfl

/-! ## How values start -/

/-- A value starts with a character that is neither blank nor the end of an array. -/
theorem Writes.head {v : Json} {cs : List Char} (h : Writes v cs) :
    ∃ c more, cs = c :: more ∧ isBlank c = false ∧ c ≠ ']' := by
  cases h with
  | null | yes | no | string | emptyArray | array | emptyObject | object =>
    exact ⟨_, _, rfl, by decide, by decide⟩
  | number h =>
    obtain ⟨c, more, rfl, hc⟩ := h.head
    have hOther : ∀ d, d.isDigit = false → d ≠ '-' → c ≠ d := by
      rintro d hd hSign rfl
      rcases hc with hDigit | hMinus
      · exact ne_of_isDigit hDigit hd rfl
      · exact hSign hMinus
    refine ⟨c, more, rfl, ?_, hOther ']' (by decide) (by decide)⟩
    simp only [isBlank, Bool.or_eq_false_iff, beq_eq_false_iff_ne]
    exact ⟨⟨⟨hOther ' ' (by decide) (by decide), hOther '\t' (by decide) (by decide)⟩,
      hOther '\n' (by decide) (by decide)⟩, hOther '\r' (by decide) (by decide)⟩

theorem gap_value {v : Json} {before cs : List Char} (hBefore : IsGap before) (h : Writes v cs)
    (rest : List Char) : gap (before ++ (cs ++ rest)) = cs ++ rest := by
  obtain ⟨c, more, rfl, hc, -⟩ := h.head
  rw [gap_append hBefore, List.cons_append, gap_cons hc]

theorem gap_quote {before : List Char} (hBefore : IsGap before) (key rest : List Char) :
    gap (before ++ (quote key ++ rest)) = '"' :: (key ++ '"' :: rest) := by
  have hQuote : quote key ++ rest = '"' :: (key ++ '"' :: rest) := by simp [quote]
  rw [gap_append hBefore, hQuote, gap_cons (by decide)]

/-! ## Reading -/

/-- All that is written is read with so much fuel. -/
structure ReadsWritten (fuel : Nat) : Prop where
  value : ∀ {v cs rest}, Writes v cs → Ends rest → 2 * cs.length ≤ fuel →
    value? fuel (cs ++ rest) = some (v, rest)
  items : ∀ {vs cs rest}, WritesItems vs cs → 2 * cs.length ≤ fuel + 1 →
    items? fuel (cs ++ rest) = some (vs, rest)
  members : ∀ {ms cs rest}, WritesMembers ms cs → 2 * cs.length ≤ fuel + 1 →
    members? fuel (cs ++ rest) = some (ms, rest)

section steps

variable {fuel : Nat} {rest : List Char}

theorem value?_number {cs : List Char} (h : IsNumber cs) (hRest : Ends rest) :
    value? (fuel + 1) (cs ++ rest) = some (.number cs, rest) := by
  have hRead := number?_append h hRest
  obtain ⟨c, more, rfl, hc⟩ := h.head
  have hOther {d : Char} {cs : List Char} (hd : d.isDigit = false ∧ d ≠ '-')
      (hSame : c :: more ++ rest = d :: cs) : False := by
    have hFirst : c = d := (List.cons.inj hSame).1
    rcases hc with hDigit | hMinus
    · exact ne_of_isDigit hDigit hd.1 hFirst
    · exact hd.2 (hFirst.symm.trans hMinus)
  rw [value?]
  · rw [hRead]
    rfl
  all_goals exact fun _ hSame => hOther (by decide) hSame

theorem value?_string {cs : List Char} (h : IsInner cs) :
    value? (fuel + 1) (quote cs ++ rest) = some (.string cs, rest) := by
  have hQuote : quote cs ++ rest = '"' :: (cs ++ '"' :: rest) := by simp [quote]
  rw [hQuote, value?, stringRest_append h]
  rfl

/-- One item, with what comes after it. -/
theorem items?_item (hReads : ReadsWritten fuel) {v : Json} {before cs after : List Char}
    (hBefore : IsGap before) (h : Writes v cs) (hAfter : IsGap after)
    (hFuel : 2 * cs.length ≤ fuel) {mark : Char} (hMark : mark = ',' ∨ mark = ']') :
    items? (fuel + 1) (before ++ (cs ++ (after ++ mark :: rest))) =
      if mark = ',' then (items? fuel rest).map fun (vs, after) => (v :: vs, after)
      else some ([v], rest) := by
  have hApart : goesOn mark = false ∧ isBlank mark = false := by
    rcases hMark with rfl | rfl <;> decide
  have hEnds : Ends (mark :: rest) := hApart.1
  have hRead := hReads.value h (ends_of_gap hAfter hEnds) hFuel
  have hNext : gap (after ++ mark :: rest) = mark :: rest := by
    rw [gap_append hAfter, gap_cons hApart.2]
  rcases hMark with rfl | rfl <;>
  · simp only [items?, gap_value hBefore h, hRead, hNext]
    rfl

/-- One member, with what comes after it. -/
theorem members?_member (hReads : ReadsWritten fuel) {key : List Char} {v : Json}
    {start colon before cs after : List Char} (hStart : IsGap start) (hKey : IsInner key)
    (hColon : IsGap colon) (hBefore : IsGap before) (h : Writes v cs) (hAfter : IsGap after)
    (hFuel : 2 * cs.length ≤ fuel) {mark : Char} (hMark : mark = ',' ∨ mark = '}') :
    members? (fuel + 1)
        (start ++ (quote key ++ (colon ++ ':' :: (before ++ (cs ++ (after ++ mark :: rest)))))) =
      if mark = ',' then (members? fuel rest).map fun (ms, after) => ((key, v) :: ms, after)
      else some ([(key, v)], rest) := by
  have hApart : goesOn mark = false ∧ isBlank mark = false := by
    rcases hMark with rfl | rfl <;> decide
  have hEnds : Ends (mark :: rest) := hApart.1
  have hRead := hReads.value h (ends_of_gap hAfter hEnds) hFuel
  have hNext : gap (after ++ mark :: rest) = mark :: rest := by
    rw [gap_append hAfter, gap_cons hApart.2]
  have hSign (cs : List Char) : gap (colon ++ ':' :: cs) = ':' :: cs := by
    rw [gap_append hColon, gap_cons (by decide)]
  rcases hMark with rfl | rfl <;>
  · simp only [members?, gap_quote hStart, stringRest_append hKey, hSign, gap_value hBefore h,
      hRead, hNext]
    rfl

/-- What is written for items does not start with the end of an array. -/
theorem WritesItems.gap_eq {vs : List Json} {cs : List Char} (h : WritesItems vs cs)
    (rest : List Char) : ∃ c more, gap (cs ++ rest) = c :: more ∧ c ≠ ']' := by
  cases h with
  | @last v before cs after hBefore h _ | @cons v _ before cs after _ hBefore h _ _ =>
    obtain ⟨c, more, rfl, -, hc⟩ := h.head
    rw [List.append_assoc, List.append_assoc, gap_value hBefore h]
    exact ⟨c, _, rfl, hc⟩

/-- What is written for members starts with a key. -/
theorem WritesMembers.gap_eq {ms : List (List Char × Json)} {cs : List Char}
    (h : WritesMembers ms cs) (rest : List Char) : ∃ more, gap (cs ++ rest) = '"' :: more := by
  cases h with
  | last hStart | cons hStart =>
    rw [List.append_assoc, List.append_assoc, gap_quote hStart]
    exact ⟨_, rfl⟩

end steps

/-- By induction on the fuel, of which every step of the reader takes one. -/
theorem readsWritten (fuel : Nat) : ReadsWritten fuel := by
  induction fuel with
  | zero =>
    -- nothing is written with no characters
    refine ⟨fun h _ hFuel => ?_, fun h hFuel => ?_, fun h hFuel => ?_⟩
    · obtain ⟨c, more, rfl, -⟩ := h.head
      rw [List.length_cons] at hFuel
      omega
    · cases h <;>
      · simp only [List.length_append, List.length_cons] at hFuel
        omega
    · cases h <;>
      · simp only [List.length_append, List.length_cons] at hFuel
        omega
  | succ fuel ih =>
    refine ⟨fun h hRest hFuel => ?_, fun h hFuel => ?_, fun h hFuel => ?_⟩
    · cases h with
      | null | yes | no => rfl
      | number h => exact value?_number h hRest
      | string h => exact value?_string h
      | @emptyArray gap hGap =>
        rw [List.cons_append, List.append_assoc, value?, gap_append hGap]
        rfl
      | @array vs cs h =>
        next rest =>
        obtain ⟨c, more, hGap, hc⟩ := h.gap_eq rest
        rw [List.length_cons] at hFuel
        have hItems : items? fuel (cs ++ rest) = some (vs, rest) := ih.items h (by omega)
        rw [← items?_gap, hGap] at hItems
        rw [List.cons_append, value?, hGap]
        split
        · next hSame => exact absurd (List.cons.inj hSame).1 hc
        · rw [hItems]
          rfl
      | @emptyObject gap hGap =>
        rw [List.cons_append, List.append_assoc, value?, gap_append hGap]
        rfl
      | @object ms cs h =>
        next rest =>
        obtain ⟨more, hGap⟩ := h.gap_eq rest
        rw [List.length_cons] at hFuel
        have hMembers : members? fuel (cs ++ rest) = some (ms, rest) := ih.members h (by omega)
        rw [← members?_gap, hGap] at hMembers
        rw [List.cons_append, value?, hGap]
        show (members? fuel ('"' :: more)).map _ = _
        rw [hMembers]
        rfl
    · cases h with
      | last hBefore h hAfter =>
        simp only [List.length_append, List.length_cons] at hFuel
        simp only [List.append_assoc, List.singleton_append]
        rw [items?_item ih hBefore h hAfter (by omega) (.inr rfl)]
        rfl
      | cons hBefore h hAfter hRest =>
        simp only [List.length_append, List.length_cons] at hFuel
        simp only [List.append_assoc, List.cons_append]
        rw [items?_item ih hBefore h hAfter (by omega) (.inl rfl), if_pos rfl,
          ih.items hRest (by omega)]
        rfl
    · cases h with
      | last hStart hKey hColon hBefore h hAfter =>
        simp only [List.length_append, List.length_cons] at hFuel
        simp only [List.append_assoc, List.cons_append, List.nil_append]
        rw [members?_member ih hStart hKey hColon hBefore h hAfter (by omega) (.inr rfl)]
        rfl
      | cons hStart hKey hColon hBefore h hAfter hRest =>
        simp only [List.length_append, List.length_cons] at hFuel
        simp only [List.append_assoc, List.cons_append]
        rw [members?_member ih hStart hKey hColon hBefore h hAfter (by omega) (.inl rfl),
          if_pos rfl, ih.members hRest (by omega)]
        rfl

/-- Every text of a value is read as this value. -/
theorem read?_of_isText {v : Json} {text : List Char} (h : IsText v text) :
    read? text = some v := by
  obtain ⟨before, cs, after, rfl, hBefore, hWrites, hAfter⟩ := h
  have hEnds : Ends after := by
    have hNothing : Ends (after ++ []) := ends_of_gap hAfter rfl
    rw [List.append_nil] at hNothing
    exact hNothing
  have hFuel : 2 * cs.length ≤ 2 * (before ++ (cs ++ after)).length + 1 := by
    simp only [List.length_append]
    omega
  have hEnd : gap after = [] := by
    have hGap := gap_append hAfter []
    rw [List.append_nil] at hGap
    exact hGap
  rw [read?, gap_value hBefore hWrites, (readsWritten _).value hWrites hEnds hFuel]
  dsimp only
  rw [if_pos hEnd]

/-! ## What the printer writes -/

/-- All numbers and strings of a value, at any depth, are such as the notation has. -/
inductive WellFormed : Json → Prop
  | null : WellFormed .null
  | bool (value : Bool) : WellFormed (.bool value)
  | number {cs : List Char} (h : IsNumber cs) : WellFormed (.number cs)
  | string {cs : List Char} (h : IsInner cs) : WellFormed (.string cs)
  | array {vs : List Json} (h : ∀ v ∈ vs, WellFormed v) : WellFormed (.array vs)
  | object {ms : List (List Char × Json)} (hKeys : ∀ m ∈ ms, IsInner m.1)
      (h : ∀ m ∈ ms, WellFormed m.2) : WellFormed (.object ms)

theorem isGap_nil : IsGap [] := rfl

/-- An item that is written, and further items without blanks. -/
theorem writesItems_render {vs : List Json} (h : ∀ v ∈ vs, Writes v v.render) {v : Json}
    {cs : List Char} (hFirst : Writes v cs) : WritesItems (v :: vs) (cs ++ renderItems vs) := by
  induction vs generalizing v cs with
  | nil => exact .last isGap_nil hFirst isGap_nil
  | cons w ws ih =>
    obtain ⟨hNext, hRest⟩ := List.forall_mem_cons.mp h
    exact .cons isGap_nil hFirst isGap_nil (ih hRest hNext)

/-- A member that is written, and further members without blanks. -/
theorem writesMembers_render {ms : List (List Char × Json)} (hKeys : ∀ m ∈ ms, IsInner m.1)
    (h : ∀ m ∈ ms, Writes m.2 m.2.render) {key : List Char} {v : Json} {cs : List Char}
    (hKey : IsInner key) (hFirst : Writes v cs) :
    WritesMembers ((key, v) :: ms) (quote key ++ ':' :: cs ++ renderMembers ms) := by
  induction ms generalizing key v cs with
  | nil =>
    rw [List.append_assoc, List.cons_append]
    exact .last isGap_nil hKey isGap_nil isGap_nil hFirst isGap_nil
  | cons m more ih =>
    obtain ⟨hNextKey, hMoreKeys⟩ := List.forall_mem_cons.mp hKeys
    obtain ⟨hNext, hMore⟩ := List.forall_mem_cons.mp h
    rw [List.append_assoc, List.cons_append]
    exact .cons isGap_nil hKey isGap_nil isGap_nil hFirst isGap_nil
      (ih hMoreKeys hMore hNextKey hNext)

/-- A well-formed value is written without blanks. -/
theorem WellFormed.writes {v : Json} (h : WellFormed v) : Writes v v.render := by
  induction h with
  | null => exact .null
  | bool value =>
    cases value with
    | false => exact .no
    | true => exact .yes
  | number h => exact .number h
  | string h => exact .string h
  | @array vs _ ih =>
    cases vs with
    | nil => exact .emptyArray isGap_nil
    | cons v vs =>
      obtain ⟨hFirst, hRest⟩ := List.forall_mem_cons.mp ih
      exact .array (writesItems_render hRest hFirst)
  | @object ms hKeys _ ih =>
    cases ms with
    | nil => exact .emptyObject isGap_nil
    | cons m ms =>
      obtain ⟨hKey, hMoreKeys⟩ := List.forall_mem_cons.mp hKeys
      obtain ⟨hFirst, hRest⟩ := List.forall_mem_cons.mp ih
      exact .object (writesMembers_render hMoreKeys hRest hKey hFirst)

mutual

/-- The value of a datum is well-formed. -/
theorem wellFormed_ofDatum : (d : Datum) → WellFormed (ofDatum d)
  | .switch on => .bool on
  | .word n => .number (isNumber_digitsOf n.toNat)
  | .text s => .string (isInner_encode s.toList)
  | .choice w => .string (isInner_encode w.toList)
  | .absent => .null
  | .present d => wellFormed_ofDatum d
  | .list ds => .array (wellFormed_ofItems ds)
  | .map es | .record es =>
    .object (fun m hm => (wellFormed_ofEntries es m hm).1)
      fun m hm => (wellFormed_ofEntries es m hm).2

theorem wellFormed_ofItems : (ds : List Datum) → ∀ v ∈ ofItems ds, WellFormed v
  | [] => List.forall_mem_nil _
  | d :: ds => List.forall_mem_cons.mpr ⟨wellFormed_ofDatum d, wellFormed_ofItems ds⟩

theorem wellFormed_ofEntries : (es : List (String × Datum)) →
    ∀ m ∈ ofEntries es, IsInner m.1 ∧ WellFormed m.2
  | [] => List.forall_mem_nil _
  | (key, d) :: es =>
    List.forall_mem_cons.mpr
      ⟨⟨isInner_encode key.toList, wellFormed_ofDatum d⟩, wellFormed_ofEntries es⟩

end

/-- The text without blanks is a text of the value of a datum. -/
theorem writes_render (d : Datum) : Writes (ofDatum d) (ofDatum d).render :=
  (wellFormed_ofDatum d).writes

/-! ## Control characters -/

/-- A text has no control characters, and so it has no line breaks either. -/
def NoControl (cs : List Char) : Prop := ∀ c ∈ cs, 0x20 ≤ c.toNat

instance (cs : List Char) : Decidable (NoControl cs) :=
  List.decidableBAll (fun c : Char => 0x20 ≤ c.toNat) cs

theorem NoControl.append {cs ds : List Char} (hc : NoControl cs) (hd : NoControl ds) :
    NoControl (cs ++ ds) :=
  List.forall_mem_append.mpr ⟨hc, hd⟩

theorem NoControl.cons {c : Char} {cs : List Char} (hc : 0x20 ≤ c.toNat) (h : NoControl cs) :
    NoControl (c :: cs) :=
  List.forall_mem_cons.mpr ⟨hc, h⟩

theorem IsDigits.noControl {cs : List Char} (h : IsDigits cs) : NoControl cs := by
  intro c hc
  have hDigit := List.all_eq_true.mp h.2 c hc
  rw [Char.isDigit, Bool.and_eq_true, decide_eq_true_eq] at hDigit
  exact Nat.le_trans (by decide : 0x20 ≤ '0'.toNat) hDigit.1

theorem IsNumber.noControl {cs : List Char} (h : IsNumber cs) : NoControl cs := by
  obtain ⟨sign, whole, fraction, exponent, rfl, hSign, hWhole, hFraction, hExponent⟩ := h
  have hSigns : ∀ sign ∈ [[], ['-']], NoControl sign := by decide
  refine (hSigns sign hSign).append (.append ?_ (.append ?_ ?_))
  · rcases hWhole with rfl | ⟨hDigits, -⟩
    · decide
    · exact hDigits.noControl
  · rcases hFraction with rfl | ⟨ds, rfl, hDigits⟩
    · decide
    · exact .cons (by decide) hDigits.noControl
  · rcases hExponent with rfl | ⟨mark, sign, ds, rfl, hMark, hSign, hDigits⟩
    · decide
    · have hMarks : NoControl ['e', 'E'] := by decide
      have hSigns : ∀ sign ∈ [[], ['+'], ['-']], NoControl sign := by decide
      exact .cons (hMarks mark hMark) ((hSigns sign hSign).append hDigits.noControl)

/-- The letters of escapes are no control characters. -/
theorem text_of_escaped {e : Char} (h : (Text.escaped? e).isSome = true) : 0x20 ≤ e.toNat := by
  unfold Text.escaped? at h
  split at h <;> first | decide | cases h

/-- Neither are hexadecimal digits. -/
theorem text_of_isHex {c : Char} (h : isHex c = true) : 0x20 ≤ c.toNat := by
  have hFrom {first : Char} (hFirst : 0x20 ≤ first.toNat) (hc : first ≤ c) : 0x20 ≤ c.toNat :=
    Nat.le_trans hFirst hc
  unfold isHex Text.hexValue? at h
  split at h
  · next hDigit => exact hFrom (by decide) hDigit.1
  · split at h
    · next hLower => exact hFrom (by decide) hLower.1
    · split at h
      · next hUpper => exact hFrom (by decide) hUpper.1
      · cases h

theorem IsInner.noControl {cs : List Char} (h : IsInner cs) : NoControl cs := by
  induction h with
  | nil => decide
  | plain hText _ _ _ ih => exact .cons hText ih
  | escape hLetter _ ih => exact .cons (by decide) (.cons (text_of_escaped hLetter) ih)
  | unit hHex _ ih =>
    simp only [Bool.and_eq_true] at hHex
    obtain ⟨⟨⟨ha, hb⟩, hc⟩, hd⟩ := hHex
    exact .cons (by decide) (.cons (by decide) (.cons (text_of_isHex ha)
      (.cons (text_of_isHex hb) (.cons (text_of_isHex hc) (.cons (text_of_isHex hd) ih)))))

theorem noControl_quote {cs : List Char} (h : IsInner cs) : NoControl (quote cs) :=
  .cons (by decide) (h.noControl.append (by decide))

theorem noControl_renderItems {vs : List Json} (h : ∀ v ∈ vs, NoControl v.render) :
    NoControl (renderItems vs) := by
  induction vs with
  | nil => decide
  | cons v vs ih =>
    obtain ⟨hFirst, hRest⟩ := List.forall_mem_cons.mp h
    exact .cons (by decide) (hFirst.append (ih hRest))

theorem noControl_renderMembers {ms : List (List Char × Json)} (hKeys : ∀ m ∈ ms, IsInner m.1)
    (h : ∀ m ∈ ms, NoControl m.2.render) : NoControl (renderMembers ms) := by
  induction ms with
  | nil => decide
  | cons m ms ih =>
    obtain ⟨hKey, hMoreKeys⟩ := List.forall_mem_cons.mp hKeys
    obtain ⟨hFirst, hRest⟩ := List.forall_mem_cons.mp h
    exact .cons (by decide) (((noControl_quote hKey).append (.cons (by decide) hFirst)).append
      (ih hMoreKeys hRest))

/-- What is written for a well-formed value without blanks has no control characters. -/
theorem WellFormed.noControl {v : Json} (h : WellFormed v) : NoControl v.render := by
  induction h with
  | null => decide
  | bool value => cases value <;> decide
  | number h => exact h.noControl
  | string h => exact noControl_quote h
  | @array vs _ ih =>
    cases vs with
    | nil => decide
    | cons v vs =>
      obtain ⟨hFirst, hRest⟩ := List.forall_mem_cons.mp ih
      exact .cons (by decide) (hFirst.append (noControl_renderItems hRest))
  | @object ms hKeys _ ih =>
    cases ms with
    | nil => decide
    | cons m ms =>
      obtain ⟨hKey, hMoreKeys⟩ := List.forall_mem_cons.mp hKeys
      obtain ⟨hFirst, hRest⟩ := List.forall_mem_cons.mp ih
      exact .cons (by decide) (((noControl_quote hKey).append (.cons (by decide) hFirst)).append
        (noControl_renderMembers hMoreKeys hRest))

end Metering.Json
