import Mathlib.Data.List.TakeWhile
import Metering.Level

/-!
# Metering — words between blanks

A text that a person has typed says a word if it is the word between blanks, with letters of either
case. What is left of the text when the blanks at its ends are cut off is then the word, and a text
says one word at most.

* `Says` — a text says a word;
* `trimmed_between`, `exists_trimmed` — what is cut off are the blanks at the ends and nothing else;
* `says_iff` — whether a text says a word is what the readers check;
* `Level.ofText?_eq_some_iff`, `Level.eq_of_label` — the words for levels.
-/

namespace Metering.Text

variable {front body back text word : List Char} {c : Char}

/-! ## Letter case -/

theorem toNat_toLower (c : Char) :
    c.toLower.toNat = if 65 ≤ c.toNat ∧ c.toNat ≤ 90 then c.toNat + 32 else c.toNat := by
  have hUpper : (c.val ≥ 'A'.val ∧ c.val ≤ 'Z'.val) ↔ 65 ≤ c.toNat ∧ c.toNat ≤ 90 := by
    rw [ge_iff_le, UInt32.le_iff_toNat_le, UInt32.le_iff_toNat_le]
    rfl
  delta Char.toLower
  split
  · next h =>
    rw [if_pos (hUpper.mp h)]
    show (c.val + 32).toNat = c.toNat + 32
    have hSmall : c.val.toNat ≤ 90 := (hUpper.mp h).2
    rw [UInt32.toNat_add]
    exact Nat.mod_eq_of_lt (by rw [show (32 : UInt32).toNat = 32 from rfl]; omega)
  · next h => rw [if_neg (mt hUpper.mpr h)]

/-- Letters are not blank, whatever their case. -/
theorem isBlank_toLower (c : Char) : isBlank c.toLower = isBlank c := by
  simp only [isBlank, toNat_toLower]
  split
  · next h => grind
  · rfl

theorem sameLetters_iff {a b : List Char} : sameLetters a b = true ↔ lowered a = lowered b := by
  rw [sameLetters, beq_iff_eq]

/-- Letter case does not matter for what is blank. -/
theorem solid_of_lowered (hSolid : ∀ c ∈ word, isBlank c = false)
    (h : lowered body = lowered word) : ∀ c ∈ body, isBlank c = false := by
  intro c hMem
  have hLower : c.toLower ∈ lowered word := h ▸ List.mem_map_of_mem hMem
  obtain ⟨c', hMem', hSame⟩ := List.mem_map.mp hLower
  rw [← isBlank_toLower, ← hSame, isBlank_toLower, hSolid c' hMem']

/-! ## Blanks at the ends -/

theorem trimmedFront_append (h : ∀ c ∈ front, isBlank c = true) (rest : List Char) :
    trimmedFront (front ++ rest) = trimmedFront rest :=
  List.dropWhile_append_of_pos h

theorem trimmedFront_solid (h : ∀ c ∈ body, isBlank c = false) : trimmedFront body = body := by
  cases body with
  | nil => rfl
  | cons c rest =>
    have hFirst : ¬ isBlank c = true := Bool.eq_false_iff.mp (h c List.mem_cons_self)
    exact List.dropWhile_cons_of_neg hFirst

/-- The blanks at both ends are cut off. -/
theorem trimmed_between (hFront : ∀ c ∈ front, isBlank c = true)
    (hBody : ∀ c ∈ body, isBlank c = false) (hBack : ∀ c ∈ back, isBlank c = true) :
    trimmed (front ++ body ++ back) = body := by
  have hReversed : trimmedFront (trimmedFront (body ++ back)).reverse = body.reverse := by
    cases body with
    | nil =>
      have hGone : trimmedFront back = [] := List.dropWhile_eq_nil_iff.mpr hBack
      rw [List.nil_append, hGone]
      rfl
    | cons c rest =>
      have hFirst : ¬ isBlank c = true := Bool.eq_false_iff.mp (hBody c List.mem_cons_self)
      have hKept : trimmedFront (c :: rest ++ back) = c :: rest ++ back :=
        List.dropWhile_cons_of_neg hFirst
      rw [hKept, List.reverse_append,
        trimmedFront_append fun c hMem => hBack c (List.mem_reverse.mp hMem)]
      exact trimmedFront_solid fun c hMem => hBody c (List.mem_reverse.mp hMem)
  rw [trimmed, List.append_assoc, trimmedFront_append hFront, hReversed, List.reverse_reverse]

/-- Nothing but blanks at both ends is cut off. -/
theorem exists_trimmed (text : List Char) : ∃ front back,
    text = front ++ trimmed text ++ back ∧ (∀ c ∈ front, isBlank c = true) ∧
      ∀ c ∈ back, isBlank c = true := by
  have hBlank (cs : List Char) : ∀ c ∈ cs.takeWhile isBlank, isBlank c = true :=
    fun _ hMem => List.mem_takeWhile_imp hMem
  have hSplit (cs : List Char) : cs.takeWhile isBlank ++ trimmedFront cs = cs :=
    List.takeWhile_append_dropWhile
  refine ⟨text.takeWhile isBlank, ((trimmedFront text).reverse.takeWhile isBlank).reverse, ?_,
    hBlank text, fun c hMem => hBlank _ c (List.mem_reverse.mp hMem)⟩
  have hRest : trimmed text ++ ((trimmedFront text).reverse.takeWhile isBlank).reverse =
      trimmedFront text := by
    rw [trimmed, ← List.reverse_append, hSplit, List.reverse_reverse]
  rw [List.append_assoc, hRest, hSplit]

/-! ## Words -/

/-- A text says a word: it is the word between blanks, with letters of either case. -/
def Says (text word : List Char) : Prop :=
  ∃ front body back, text = front ++ body ++ back ∧ (∀ c ∈ front, isBlank c = true) ∧
    (∀ c ∈ back, isBlank c = true) ∧ lowered body = lowered word

/-- What a text says is checked by cutting off its blanks. -/
theorem says_iff (hSolid : ∀ c ∈ word, isBlank c = false) :
    Says text word ↔ sameLetters (trimmed text) word = true := by
  rw [sameLetters_iff]
  constructor
  · rintro ⟨front, body, back, rfl, hFront, hBack, hSame⟩
    rw [trimmed_between hFront (solid_of_lowered hSolid hSame) hBack, hSame]
  · intro hSame
    obtain ⟨front, back, hText, hFront, hBack⟩ := exists_trimmed text
    exact ⟨front, trimmed text, back, hText, hFront, hBack, hSame⟩

/-- That a word has no blank in it is seen by going through it. -/
theorem solid_of_all (h : word.all (fun c => !isBlank c) = true) :
    ∀ c ∈ word, isBlank c = false := by
  intro c hMem
  have hHere := List.all_eq_true.mp h c hMem
  rwa [Bool.not_eq_true'] at hHere

/-- A text says one word at most, up to the case of letters. -/
theorem Says.lowered_eq {other : List Char} (h : Says text word) (h' : Says text other)
    (hSolid : ∀ c ∈ word, isBlank c = false) (hSolid' : ∀ c ∈ other, isBlank c = false) :
    lowered word = lowered other := by
  have hWord := sameLetters_iff.mp ((says_iff hSolid).mp h)
  have hOther := sameLetters_iff.mp ((says_iff hSolid').mp h')
  exact hWord.symm.trans hOther

end Metering.Text

namespace Metering.Level

open Text

/-! ## The words for levels -/

theorem solid_label (level : Level) : ∀ c ∈ level.label.toList, isBlank c = false := by
  cases level <;> exact solid_of_all rfl

/-- Levels are told apart by their words, even without regard to letter case. -/
theorem eq_of_label {a b : Level} (h : lowered a.label.toList = lowered b.label.toList) :
    a = b := by
  revert h
  cases a <;> cases b <;> decide

/-- A text is read as a level if and only if it says the level's word. -/
theorem ofText?_eq_some_iff {text : String} {level : Level} :
    ofText? text = some level ↔ Says text.toList level.label.toList := by
  have hReads (l : Level) :
      sameLetters l.label.toList (trimmed text.toList) = true ↔
        Says text.toList l.label.toList := by
    rw [says_iff l.solid_label, sameLetters_iff, sameLetters_iff, eq_comm]
  have hFinds {l : Level} (hFound : ofText? text = some l) : Says text.toList l.label.toList :=
    (hReads l).mp (by simpa using List.find?_some hFound)
  constructor
  · exact hFinds
  · intro hSays
    have hListed : level ∈ values := by cases level <;> decide
    cases hFound : ofText? text with
    | none => exact absurd ((hReads level).mpr hSays) (List.find?_eq_none.mp hFound level hListed)
    | some other =>
      have hSame := (hFinds hFound).lowered_eq hSays other.solid_label level.solid_label
      rw [eq_of_label hSame]

end Metering.Level
