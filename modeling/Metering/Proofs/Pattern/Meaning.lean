import Mathlib.Data.List.Nodup
import Mathlib.Data.List.Perm.Subperm
import Mathlib.Logic.Relation
import Metering.Pattern.Basic

/-!
# Metering — what a pattern describes

A pattern relates the place where a piece starts to the place where it ends. `Pattern.ends` computes
with sets of places and stops a repetition when it finds no new ones; it finds exactly the ends that
the relation allows.

* `Steps` and `Pattern.Describes` — the relation, pattern by pattern;
* `Places.Follows` — a computation with sets of places finds what a relation leads to;
* `Places.Front` — what holds of each round of a repetition;
* `Pattern.follows_ends` — the places that are computed are those that are described.
-/

namespace Metering

/-! ## Pieces -/

/-- So many steps of a relation, one after the other. -/
def Steps (R : Nat → Nat → Prop) : Nat → Nat → Nat → Prop
  | 0, i, j => i = j
  | n + 1, i, j => ∃ k, R i k ∧ Steps R n k j

theorem Steps.trans {R : Nat → Nat → Prop} {m n i j k : Nat} (h : Steps R m i j)
    (h' : Steps R n j k) : Steps R (m + n) i k := by
  induction m generalizing i with
  | zero =>
    rw [Nat.zero_add]
    exact (show i = j from h) ▸ h'
  | succ m ih =>
    obtain ⟨l, hl, hRest⟩ := h
    rw [Nat.succ_add]
    exact ⟨l, hl, ih hRest⟩

theorem Steps.split {R : Nat → Nat → Prop} {m n i k : Nat} (h : Steps R (m + n) i k) :
    ∃ j, Steps R m i j ∧ Steps R n j k := by
  induction m generalizing i with
  | zero => exact ⟨i, rfl, by rwa [Nat.zero_add] at h⟩
  | succ m ih =>
    rw [Nat.succ_add] at h
    obtain ⟨l, hl, hRest⟩ := h
    obtain ⟨j, hj, hjk⟩ := ih hRest
    exact ⟨j, ⟨l, hl, hj⟩, hjk⟩

namespace Pattern

/-- Whether the pattern describes the piece of the text from one place to another. -/
def Describes (text : Array Char) : Pattern → Nat → Nat → Prop
  | empty, i, j => j = i
  | .text cs, i, j => j = i + cs.length ∧ cs <+: text.toList.drop i
  | char s, i, j => j = i + 1 ∧ ∃ c, text[i]? = some c ∧ s.holds c = true
  | anchor a, i, j => j = i ∧ a.holds (neighbours text i).1 (neighbours text i).2 = true
  | seq p q, i, j => ∃ k, Describes text p i k ∧ Describes text q k j
  | alt p q, i, j => Describes text p i j ∨ Describes text q i j
  | times p least most _, i, j =>
    ∃ n, least ≤ n ∧ (∀ m, most = some m → n ≤ max least m) ∧ Steps (Describes text p) n i j
  | group _ p, i, j => Describes text p i j

end Pattern

/-! ## Sets of places -/

namespace Places

/-- Places of a text of the given length, each once and in order. -/
structure Proper (size : Nat) (places : List Nat) : Prop where
  ascending : places.Pairwise (· < ·)
  bounded : ∀ i ∈ places, i ≤ size

@[grind =]
theorem mem_unite {as bs : List Nat} {i : Nat} : i ∈ unite as bs ↔ i ∈ as ∨ i ∈ bs := by
  fun_induction unite as bs with
  | case1 bs => simp
  | case2 as h => simp
  | case3 a as b bs hlt ih => grind
  | case4 a as b bs hnlt hlt ih => grind
  | case5 a as b bs hnlt hngt ih =>
    obtain rfl : a = b := by omega
    grind

theorem pairwise_unite {as bs : List Nat} (ha : as.Pairwise (· < ·)) (hb : bs.Pairwise (· < ·)) :
    (unite as bs).Pairwise (· < ·) := by
  fun_induction unite as bs with
  | case1 bs => exact hb
  | case2 as h => exact ha
  | case3 a as b bs hlt ih =>
    obtain ⟨hFirst, hRest⟩ := List.pairwise_cons.mp ha
    obtain ⟨hFirst', -⟩ := List.pairwise_cons.mp hb
    exact List.pairwise_cons.mpr ⟨by grind, ih hRest hb⟩
  | case4 a as b bs hnlt hlt ih =>
    obtain ⟨hFirst, -⟩ := List.pairwise_cons.mp ha
    obtain ⟨hFirst', hRest'⟩ := List.pairwise_cons.mp hb
    exact List.pairwise_cons.mpr ⟨by grind, ih ha hRest'⟩
  | case5 a as b bs hnlt hngt ih =>
    obtain ⟨hFirst, hRest⟩ := List.pairwise_cons.mp ha
    obtain ⟨hFirst', hRest'⟩ := List.pairwise_cons.mp hb
    exact List.pairwise_cons.mpr ⟨by grind, ih hRest hRest'⟩

theorem mem_without {as bs : List Nat} (ha : as.Pairwise (· < ·)) (hb : bs.Pairwise (· < ·))
    {i : Nat} : i ∈ without as bs ↔ i ∈ as ∧ i ∉ bs := by
  fun_induction without as bs with
  | case1 bs => simp
  | case2 as h => simp
  | case3 a as b bs hlt ih =>
    obtain ⟨hFirst', -⟩ := List.pairwise_cons.mp hb
    have := ih ha.of_cons hb
    grind
  | case4 a as b bs hnlt hlt ih =>
    obtain ⟨hFirst, -⟩ := List.pairwise_cons.mp ha
    have := ih ha hb.of_cons
    grind
  | case5 a as b bs hnlt hngt ih =>
    obtain ⟨hFirst, -⟩ := List.pairwise_cons.mp ha
    obtain ⟨hFirst', -⟩ := List.pairwise_cons.mp hb
    have := ih ha.of_cons hb.of_cons
    grind

theorem sublist_without (as bs : List Nat) : (without as bs).Sublist as := by
  fun_induction without as bs with
  | case1 bs => exact List.Sublist.refl _
  | case2 as h => exact List.Sublist.refl _
  | case3 a as b bs hlt ih => exact ih.cons_cons a
  | case4 a as b bs hnlt hlt ih => exact ih
  | case5 a as b bs hnlt hngt ih => exact ih.cons a

variable {size : Nat} {as bs : List Nat}

theorem Proper.unite (ha : Proper size as) (hb : Proper size bs) : Proper size (unite as bs) :=
  ⟨pairwise_unite ha.ascending hb.ascending, fun i hi => by
    rcases mem_unite.mp hi with hi | hi
    · exact ha.bounded i hi
    · exact hb.bounded i hi⟩

theorem Proper.sublist (hb : Proper size bs) (h : as.Sublist bs) : Proper size as :=
  ⟨hb.ascending.sublist h, fun i hi => hb.bounded i (h.subset hi)⟩

theorem Proper.nodup (h : Proper size as) : as.Nodup := h.ascending.imp Nat.ne_of_lt

/-- Places that are as many as the text has are all of its places. -/
theorem Proper.mem_of_length (h : Proper size as) (hLength : size < as.length) {i : Nat}
    (hi : i ≤ size) : i ∈ as := by
  have hSubset : as ⊆ List.range (size + 1) := fun j hj =>
    List.mem_range.mpr (Nat.lt_succ_of_le (h.bounded j hj))
  have hPerm : as.Perm (List.range (size + 1)) :=
    (List.subperm_of_subset h.nodup hSubset).perm_of_length_le (by
      rw [List.length_range]
      omega)
  exact hPerm.mem_iff.mpr (List.mem_range.mpr (Nat.lt_succ_of_le hi))

/-! ## Computing with sets of places -/

/-- A computation that finds, from places of a text, those places that a relation leads to. -/
structure Follows (size : Nat) (step : List Nat → List Nat) (R : Nat → Nat → Prop) : Prop where
  proper : ∀ {places : List Nat}, Proper size places → Proper size (step places)
  mem_iff : ∀ {places : List Nat} {j : Nat}, Proper size places →
    (j ∈ step places ↔ ∃ i ∈ places, R i j)

variable {step step' : List Nat → List Nat} {R S : Nat → Nat → Prop}

/-- From a place of the text the relation leads to places of the text only. -/
theorem Follows.bounded (h : Follows size step R) {i j : Nat} (hi : i ≤ size) (hij : R i j) :
    j ≤ size := by
  have hOne : Proper size [i] := ⟨List.pairwise_singleton _ _, by simpa using hi⟩
  exact (h.proper hOne).bounded j ((h.mem_iff hOne).mpr ⟨i, List.mem_singleton.mpr rfl, hij⟩)

theorem Follows.congr (h : Follows size step R) (hRS : ∀ i j, R i j ↔ S i j) :
    Follows size step S where
  proper := h.proper
  mem_iff hp := by
    rw [h.mem_iff hp]
    simp only [hRS]

theorem Follows.comp (h : Follows size step R) (h' : Follows size step' S) :
    Follows size (fun places => step' (step places)) (Relation.Comp R S) where
  proper hp := h'.proper (h.proper hp)
  mem_iff {places j} hp := by
    rw [h'.mem_iff (h.proper hp)]
    constructor
    · rintro ⟨k, hk, hkj⟩
      obtain ⟨i, hi, hik⟩ := (h.mem_iff hp).mp hk
      exact ⟨i, hi, k, hik, hkj⟩
    · rintro ⟨i, hi, k, hik, hkj⟩
      exact ⟨k, (h.mem_iff hp).mpr ⟨i, hi, hik⟩, hkj⟩

theorem Follows.unite (h : Follows size step R) (h' : Follows size step' S) :
    Follows size (fun places => Places.unite (step places) (step' places))
      fun i j => R i j ∨ S i j where
  proper hp := (h.proper hp).unite (h'.proper hp)
  mem_iff {places j} hp := by
    rw [mem_unite, h.mem_iff hp, h'.mem_iff hp]
    constructor
    · rintro (⟨i, hi, hij⟩ | ⟨i, hi, hij⟩)
      · exact ⟨i, hi, .inl hij⟩
      · exact ⟨i, hi, .inr hij⟩
    · rintro ⟨i, hi, hij | hij⟩
      · exact .inl ⟨i, hi, hij⟩
      · exact .inr ⟨i, hi, hij⟩

theorem Follows.repeated (h : Follows size step R) (n : Nat) :
    Follows size (Metering.repeated step n) (Steps R n) where
  proper {places} hp := by
    induction n generalizing places with
    | zero => exact hp
    | succ n ih => exact ih (h.proper hp)
  mem_iff {places j} hp := by
    induction n generalizing places with
    | zero => simp [Metering.repeated, Steps]
    | succ n ih =>
      rw [Metering.repeated, ih (h.proper hp)]
      constructor
      · rintro ⟨k, hk, hkj⟩
        obtain ⟨i, hi, hik⟩ := (h.mem_iff hp).mp hk
        exact ⟨i, hi, k, hik, hkj⟩
      · rintro ⟨i, hi, k, hik, hkj⟩
        exact ⟨k, (h.mem_iff hp).mpr ⟨i, hi, hik⟩, hkj⟩

/-! ## Repetitions -/

/-- A round of a repetition: what is reached leads to nothing else that is reached, except from the
places found in the latest round. -/
structure Front (size : Nat) (R : Nat → Nat → Prop) (reached latest : List Nat) : Prop where
  properReached : Proper size reached
  properLatest : Proper size latest
  subset : ∀ i ∈ latest, i ∈ reached
  explored : ∀ i ∈ reached, i ∉ latest → ∀ j, R i j → j ∈ reached

variable {reached latest : List Nat}

theorem Front.start (h : Proper size reached) : Front size R reached reached :=
  ⟨h, h, fun _ hi => hi, fun _ hi hni => absurd hi hni⟩

theorem Front.mem_found (hf : Front size R reached latest) (h : Follows size step R) {j : Nat} :
    j ∈ without (step latest) reached ↔ (∃ i ∈ latest, R i j) ∧ j ∉ reached := by
  rw [mem_without (h.proper hf.properLatest).ascending hf.properReached.ascending,
    h.mem_iff hf.properLatest]

/-- What is reached leads to what is reached in the next round. -/
theorem Front.into (hf : Front size R reached latest) (h : Follows size step R) {i j : Nat}
    (hi : i ∈ reached) (hij : R i j) : j ∈ unite reached (without (step latest) reached) := by
  rw [mem_unite, hf.mem_found h]
  by_cases hj : j ∈ reached
  · exact .inl hj
  · refine .inr ⟨⟨i, ?_, hij⟩, hj⟩
    by_contra hni
    exact hj (hf.explored i hi hni j hij)

theorem Front.next (hf : Front size R reached latest) (h : Follows size step R) :
    Front size R (unite reached (without (step latest) reached))
      (without (step latest) reached) := by
  have hFound : Proper size (without (step latest) reached) :=
    (h.proper hf.properLatest).sublist (sublist_without _ _)
  refine ⟨hf.properReached.unite hFound, hFound, fun j hj => mem_unite.mpr (.inr hj), ?_⟩
  intro i hi hni j hij
  rcases mem_unite.mp hi with hi | hi
  · exact hf.into h hi hij
  · exact absurd hi hni

/-- When nothing new is found, no number of steps leads out of what is reached. -/
theorem Front.closed (hf : Front size R reached latest) (h : Follows size step R)
    (hNone : without (step latest) reached = []) {k i j : Nat} (hi : i ∈ reached)
    (hij : Steps R k i j) : j ∈ reached := by
  induction k generalizing i with
  | zero => exact (show i = j from hij) ▸ hi
  | succ k ih =>
    obtain ⟨l, hil, hlj⟩ := hij
    have hl := hf.into h hi hil
    rw [hNone, mem_unite] at hl
    exact ih (by simpa using hl) hlj

/-- What is reached within so many rounds is what so many steps lead to. -/
theorem Front.spread (hf : Front size R reached latest) (h : Follows size step R) (n : Nat) :
    Proper size (spread step n reached latest) ∧
      ∀ j, j ∈ spread step n reached latest ↔ ∃ k ≤ n, ∃ i ∈ reached, Steps R k i j := by
  induction n generalizing reached latest with
  | zero =>
    refine ⟨hf.properReached, fun j => ⟨fun hj => ⟨0, Nat.le_refl 0, j, hj, rfl⟩, ?_⟩⟩
    rintro ⟨k, hk, i, hi, hij⟩
    obtain rfl : k = 0 := by omega
    exact (show i = j from hij) ▸ hi
  | succ n ih =>
    rw [Places.spread]
    by_cases hNone : without (step latest) reached = []
    · rw [hNone]
      refine ⟨hf.properReached, fun j => ⟨fun hj => ⟨0, by omega, j, hj, rfl⟩, ?_⟩⟩
      rintro ⟨k, -, i, hi, hij⟩
      exact hf.closed h hNone hi hij
    · simp only [List.isEmpty_iff, hNone, if_false]
      obtain ⟨hProper, hMem⟩ := ih (hf.next h)
      refine ⟨hProper, fun j => (hMem j).trans ⟨?_, ?_⟩⟩
      · rintro ⟨k, hk, i, hi, hij⟩
        rcases mem_unite.mp hi with hi | hi
        · exact ⟨k, by omega, i, hi, hij⟩
        · -- a place that was found is one step away from the round before
          obtain ⟨⟨l, hl, hli⟩, -⟩ := (hf.mem_found h).mp hi
          exact ⟨k + 1, by omega, l, hf.subset l hl, i, hli, hij⟩
      · rintro ⟨k, hk, i, hi, hij⟩
        cases k with
        | zero => exact ⟨0, by omega, i, mem_unite.mpr (.inl hi), hij⟩
        | succ k =>
          obtain ⟨l, hil, hlj⟩ := hij
          exact ⟨k, by omega, l, hf.into h hi hil, hlj⟩

/-- A round that finds something reaches more places. -/
theorem Front.grows (hf : Front size R reached latest) (h : Follows size step R)
    (hSome : without (step latest) reached ≠ []) :
    reached.length < (unite reached (without (step latest) reached)).length := by
  obtain ⟨j, hj⟩ := List.exists_mem_of_ne_nil _ hSome
  have hNodup : (j :: reached).Nodup :=
    List.nodup_cons.mpr ⟨((hf.mem_found h).mp hj).2, hf.properReached.nodup⟩
  have hSubset : j :: reached ⊆ unite reached (without (step latest) reached) := by
    intro i hi
    rcases List.mem_cons.mp hi with rfl | hi
    · exact mem_unite.mpr (.inr hj)
    · exact mem_unite.mpr (.inl hi)
  exact (List.subperm_of_subset hNodup hSubset).length_le

/-- As each round reaches more places and the text has only so many, enough rounds reach what any
number of steps leads to. -/
theorem Front.spread_all (hf : Front size R reached latest) (h : Follows size step R) {n : Nat}
    (hn : size < n + reached.length) {k i j : Nat} (hi : i ∈ reached) (hij : Steps R k i j) :
    j ∈ Places.spread step n reached latest := by
  induction n generalizing reached latest i k with
  | zero =>
    have hBound : ∀ {k i}, i ≤ size → Steps R k i j → j ≤ size := by
      intro k
      induction k with
      | zero => exact fun hi hij => (show _ = j from hij) ▸ hi
      | succ k ih => exact fun hi ⟨l, hil, hlj⟩ => ih (h.bounded hi hil) hlj
    exact hf.properReached.mem_of_length (by omega) (hBound (hf.properReached.bounded i hi) hij)
  | succ n ih =>
    rw [Places.spread]
    by_cases hNone : without (step latest) reached = []
    · rw [hNone]
      exact hf.closed h hNone hi hij
    · simp only [List.isEmpty_iff, hNone, if_false]
      have hGrows := hf.grows h hNone
      exact ih (hf.next h) (by omega) (mem_unite.mpr (.inl hi)) hij

end Places

/-! ## The places where pieces end -/

namespace Pattern

open Places

variable {text : Array Char}

theorem placeAfter_eq_some_iff {cs : List Char} {i j : Nat} :
    placeAfter text cs i = some j ↔ j = i + cs.length ∧ cs <+: text.toList.drop i := by
  induction cs generalizing i with
  | nil => simp [placeAfter, eq_comm]
  | cons c cs ih =>
    rw [placeAfter]
    by_cases hi : i < text.size
    · have hDrop : text.toList.drop i = text[i] :: text.toList.drop (i + 1) := by
        rw [List.drop_eq_getElem_cons (by simpa using hi), Array.getElem_toList]
      rw [hDrop, List.cons_prefix_cons, Array.getElem?_eq_getElem hi, List.length_cons]
      split
      next hc =>
        rw [ih]
        grind
      next hc => grind
    · have hDrop : text.toList.drop i = [] := List.drop_eq_nil_of_le (by simpa using hi)
      have hNone : text[i]? = none := Array.getElem?_eq_none (by omega)
      simp [hDrop, hNone]

/-- Finding from each place the one so many characters later, if there is one, keeps the order. -/
theorem follows_filterMap {size : Nat} {f : Nat → Option Nat} (k : Nat)
    (hShift : ∀ i j, f i = some j → j = i + k)
    (hBound : ∀ i j, f i = some j → i ≤ size → j ≤ size) :
    Follows size (List.filterMap f) fun i j => f i = some j where
  proper {places} hp := by
    refine ⟨List.pairwise_filterMap.mpr (hp.ascending.imp ?_), fun j hj => ?_⟩
    · intro i i' hlt j hj j' hj'
      have := hShift i j hj
      have := hShift i' j' hj'
      omega
    · obtain ⟨i, hi, hij⟩ := List.mem_filterMap.mp hj
      exact hBound i j hij (hp.bounded i hi)
  mem_iff hp := List.mem_filterMap

theorem follows_text (cs : List Char) :
    Follows text.size (List.filterMap (placeAfter text cs)) fun i j =>
      placeAfter text cs i = some j := by
  refine follows_filterMap cs.length (fun i j hij => (placeAfter_eq_some_iff.mp hij).1) ?_
  intro i j hij hi
  obtain ⟨rfl, hPrefix⟩ := placeAfter_eq_some_iff.mp hij
  have hLength := hPrefix.length_le
  have hSize : text.toList.length = text.size := Array.length_toList
  rw [List.length_drop] at hLength
  omega

/-- The place after a character of a set. -/
def next? (text : Array Char) (s : Text.CharSet) (i : Nat) : Option Nat :=
  match text[i]? with
  | some c => if s.holds c then some (i + 1) else none
  | none => none

theorem next?_eq_some_iff {s : Text.CharSet} {i j : Nat} :
    next? text s i = some j ↔ j = i + 1 ∧ ∃ c, text[i]? = some c ∧ s.holds c = true := by
  rw [next?]
  cases text[i]? with
  | none => simp
  | some c => grind

theorem follows_char (s : Text.CharSet) :
    Follows text.size (ends text (char s)) (Describes text (char s)) := by
  have hFollows : Follows text.size (List.filterMap (next? text s)) fun i j =>
      next? text s i = some j := by
    refine follows_filterMap 1 (fun i j hij => (next?_eq_some_iff.mp hij).1) ?_
    intro i j hij hi
    obtain ⟨rfl, c, hc, -⟩ := next?_eq_some_iff.mp hij
    exact (Array.getElem?_eq_some_iff.mp hc).1
  exact hFollows.congr fun i j => next?_eq_some_iff

theorem follows_anchor (a : Anchor) :
    Follows text.size (ends text (anchor a)) (Describes text (anchor a)) where
  proper hp := hp.sublist List.filter_sublist
  mem_iff {places j} hp := by
    simp only [ends, Describes, List.mem_filter]
    constructor
    · rintro ⟨hj, hHolds⟩
      exact ⟨j, hj, rfl, hHolds⟩
    · rintro ⟨i, hi, rfl, hHolds⟩
      exact ⟨hi, hHolds⟩

/-- A number of repetitions is reached in rounds: at first as many as there must be, then as many
more as there may be. -/
theorem follows_times {p : Pattern} (h : Follows text.size (ends text p) (Describes text p))
    (least : Nat) (most : Option Nat) (sparing : Bool) :
    Follows text.size (ends text (times p least most sparing))
      (Describes text (times p least most sparing)) := by
  have hLeast := h.repeated least
  constructor
  · intro places hp
    simp only [ends, settle_eq_repeated]
    exact ((Front.start (hLeast.proper hp)).spread h _).1
  · intro places j hp
    have hReached := hLeast.proper hp
    simp only [ends, settle_eq_repeated, ((Front.start hReached).spread h _).2]
    constructor
    · rintro ⟨k, hk, l, hl, hlj⟩
      obtain ⟨i, hi, hil⟩ := (hLeast.mem_iff hp).mp hl
      refine ⟨i, hi, least + k, by omega, fun m hm => ?_, hil.trans hlj⟩
      subst hm
      simp only at hk
      omega
    · rintro ⟨i, hi, n, hn, hMost, hij⟩
      obtain ⟨k, rfl⟩ := Nat.exists_eq_add_of_le hn
      obtain ⟨l, hil, hlj⟩ := hij.split
      have hl : l ∈ Metering.repeated (ends text p) least places :=
        (hLeast.mem_iff hp).mpr ⟨i, hi, hil⟩
      cases most with
      | some m =>
        have := hMost m rfl
        exact ⟨k, by simp only; omega, l, hl, hlj⟩
      | none =>
        -- without a limit there may be more steps than rounds
        have hSpread := (Front.start hReached).spread_all h
          (show text.size < text.size + 1 + _ by omega) hl hlj
        exact (((Front.start hReached).spread h _).2 j).mp hSpread

/-- From places of a text, the places that are computed are those where a piece ends that the
pattern describes. -/
theorem follows_ends (p : Pattern) : Follows text.size (ends text p) (Describes text p) := by
  induction p with
  | empty => exact ⟨fun hp => hp, fun hp => by simp [ends, Describes]⟩
  | text cs => exact (follows_text cs).congr fun i j => placeAfter_eq_some_iff
  | char s => exact follows_char s
  | anchor a => exact follows_anchor a
  | seq p q ihp ihq => exact ihp.comp ihq
  | alt p q ihp ihq => exact ihp.unite ihq
  | times p least most sparing ih => exact follows_times ih least most sparing
  | group number p ih => exact ih

end Pattern
end Metering
