import Metering.Pattern.Normal
import Metering.Proofs.Pattern.Meaning

/-!
# Metering — pieces in a row

Patterns are put one after the other in a normal form, without empty ones and with neighbouring
texts joined. What the row describes is what they describe one after the other, so a pattern between
the start and the end of the text describes the text or nothing.

* `Pattern.Sequence` — pieces of some patterns, one after the other;
* `Pattern.describes_row` — the normal form describes just these;
* `Pattern.occursIn_eq_true_iff` — a pattern occurs where it describes some piece;
* `Pattern.occursIn_between` — between both ends it describes the whole text.
-/

namespace Metering.Pattern

open Places

variable {text : Array Char}

/-! ## Rows -/

/-- Whether patterns, one after the other, describe the piece of the text from one place to
another. -/
def Sequence (text : Array Char) : List Pattern → Nat → Nat → Prop
  | [], i, j => j = i
  | p :: ps, i, j => ∃ k, Describes text p i k ∧ Sequence text ps k j

theorem sequence_append {ps qs : List Pattern} {i j : Nat} :
    Sequence text (ps ++ qs) i j ↔ ∃ k, Sequence text ps i k ∧ Sequence text qs k j := by
  induction ps generalizing i with
  | nil => simp [Sequence]
  | cons p ps ih =>
    simp only [List.cons_append, Sequence, ih]
    constructor
    · rintro ⟨k, hik, l, hkl, hlj⟩
      exact ⟨l, ⟨k, hik, hkl⟩, hlj⟩
    · rintro ⟨l, ⟨k, hik, hkl⟩, hlj⟩
      exact ⟨k, hik, l, hkl, hlj⟩

theorem sequence_singleton {p : Pattern} {i j : Nat} :
    Sequence text [p] i j ↔ Describes text p i j := by
  simp [Sequence]

theorem sequence_members {p : Pattern} {i j : Nat} :
    Sequence text p.members i j ↔ Describes text p i j := by
  induction p generalizing i j with
  | empty => rfl
  | seq p q ihp ihq =>
    rw [members, sequence_append]
    simp only [ihp, ihq, Describes]
  | text | char | anchor | alt | times | group => exact sequence_singleton

theorem sequence_flatMap_members {ps : List Pattern} {i j : Nat} :
    Sequence text (ps.flatMap members) i j ↔ Sequence text ps i j := by
  induction ps generalizing i with
  | nil => rfl
  | cons p ps ih =>
    rw [List.flatMap_cons, sequence_append]
    simp only [sequence_members, ih, Sequence]

/-- Two texts one after the other are one text. -/
theorem describes_text_append {as bs : List Char} {i j : Nat} :
    Describes text (.text (as ++ bs)) i j ↔
      ∃ k, Describes text (.text as) i k ∧ Describes text (.text bs) k j := by
  simp only [Describes, List.length_append]
  constructor
  · rintro ⟨rfl, rest, hRest⟩
    refine ⟨i + as.length, ⟨rfl, ⟨bs ++ rest, by rw [← hRest, List.append_assoc]⟩⟩, by omega, ?_⟩
    rw [← List.drop_drop, ← hRest, List.append_assoc, List.drop_left]
    exact List.prefix_append bs rest
  · rintro ⟨k, ⟨rfl, front, hFront⟩, rfl, hBack⟩
    refine ⟨by omega, ?_⟩
    rw [← List.drop_drop, ← hFront, List.drop_left] at hBack
    rw [← hFront]
    exact (List.prefix_append_right_inj as).mpr hBack

theorem sequence_joinTexts {ps : List Pattern} {i j : Nat} :
    Sequence text (joinTexts ps) i j ↔ Sequence text ps i j := by
  fun_induction joinTexts ps generalizing i with
  | case1 => rfl
  | case2 as more bs rest hJoined ih =>
    rw [hJoined] at ih
    simp only [Sequence, describes_text_append, ← ih]
    constructor
    · rintro ⟨k, ⟨l, hil, hlk⟩, hkj⟩
      exact ⟨l, hil, k, hlk, hkj⟩
    · rintro ⟨l, hil, k, hlk, hkj⟩
      exact ⟨k, ⟨l, hil, hlk⟩, hkj⟩
  | case3 as more hNot ih => simp only [Sequence, ih]
  | case4 p more hNot ih => simp only [Sequence, ih]

theorem describes_ofMembers {ps : List Pattern} {i j : Nat} :
    Describes text (ofMembers ps) i j ↔ Sequence text ps i j := by
  fun_induction ofMembers ps generalizing i with
  | case1 => rfl
  | case2 p => exact sequence_singleton.symm
  | case3 p q more ih => simp only [Describes, Sequence, ih]

theorem describes_row {ps : List Pattern} {i j : Nat} :
    Describes text (row ps) i j ↔ Sequence text ps i j := by
  rw [row, describes_ofMembers, sequence_joinTexts, sequence_flatMap_members]

/-! ## Whole texts -/

/-- A pattern occurs in a text where it describes a piece of it. -/
theorem occursIn_eq_true_iff {p : Pattern} {name : List Char} :
    p.occursIn name = true ↔ ∃ i ≤ name.length, ∃ j, Describes name.toArray p i j := by
  have hAll : Proper name.toArray.size (List.range (name.length + 1)) := by
    refine ⟨List.pairwise_lt_range, fun i hi => ?_⟩
    rw [List.size_toArray]
    exact Nat.le_of_lt_succ (List.mem_range.mp hi)
  rw [occursIn, bne_iff_ne, ne_eq, List.eq_nil_iff_forall_not_mem]
  simp only [(follows_ends p).mem_iff hAll, List.mem_range, Nat.lt_succ_iff]
  grind

theorem describes_textStart_iff {i j : Nat} (hi : i ≤ text.size) :
    Describes text (.anchor .textStart) i j ↔ i = 0 ∧ j = 0 := by
  simp only [Describes, Anchor.holds, neighbours]
  by_cases h : i = 0
  · simp [h]
  · have hSome : text[i - 1]? = some text[i - 1] := Array.getElem?_eq_getElem (by omega)
    simp [h, hSome]

theorem describes_textEnd_iff {i j : Nat} (hi : i ≤ text.size) :
    Describes text (.anchor .textEnd) i j ↔ i = text.size ∧ j = text.size := by
  simp only [Describes, Anchor.holds, neighbours, Option.isNone_iff_eq_none,
    Array.getElem?_eq_none_iff]
  omega

/-- Between the start and the end of the text a pattern describes the text as a whole. -/
theorem occursIn_between {p : Pattern} {name : List Char} :
    (row [.anchor .textStart, p, .anchor .textEnd]).occursIn name = true ↔
      Describes name.toArray p 0 name.length := by
  rw [occursIn_eq_true_iff]
  simp only [describes_row, Sequence]
  constructor
  · rintro ⟨i, hi, j, k, hStart, l, hPiece, m, hEnd, -⟩
    obtain ⟨rfl, rfl⟩ := (describes_textStart_iff (by simpa using hi)).mp hStart
    have hl := (follows_ends p).bounded (Nat.zero_le _) hPiece
    obtain ⟨rfl, -⟩ := (describes_textEnd_iff hl).mp hEnd
    simpa using hPiece
  · intro hPiece
    refine ⟨0, Nat.zero_le _, name.length, 0, ?_, name.length, hPiece, name.length, ?_, rfl⟩
    · exact (describes_textStart_iff (Nat.zero_le _)).mpr ⟨rfl, rfl⟩
    · exact (describes_textEnd_iff (by simp)).mpr ⟨by simp, by simp⟩

end Metering.Pattern
