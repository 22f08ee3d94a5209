import Metering.Decimal.Layout
import Metering.Proofs.Json.Tokens

/-!
# Metering — integers and real numbers in JSON

What is written for an integer and for a real number that is finite are numbers of the notation. An
integer is read from its digits exactly, however large.

* `integerOf?` — the integer that a written number stands for, and `integerOf?_toString`;
* `isFinite_ofFloat` — the numbers that are not finite are the infinite ones and what is no number;
* `IsPlain` — a figure has no digit in front that it does not need, and `isPlain_shortest`;
* `isNumber_interchange` — a finite number is written as a number.
-/

namespace Metering.Json

open Decimal

/-! ## Integers -/

/-- The number that digits stand for. -/
def naturalOf? (written : List Char) : Option Nat :=
  if written ≠ [] ∧ written.all Char.isDigit = true then some (Nat.ofDigitChars 10 written 0)
  else none

/-- The integer that a written number without fraction and exponent stands for. -/
def integerOf? : List Char → Option Int
  | '-' :: written => (naturalOf? written).map Int.negOfNat
  | written => (naturalOf? written).map Int.ofNat

theorem naturalOf?_digitsOf (n : Nat) : naturalOf? (digitsOf n) = some n := by
  have hDigits : digitsOf n ≠ [] ∧ (digitsOf n).all Char.isDigit = true := isDigits_digitsOf n
  rw [naturalOf?, if_pos hDigits, digitsOf, Nat.ofDigitChars_toDigits (by decide) (by decide)]

theorem toList_toString_nat (n : Nat) : (toString n).toList = digitsOf n := by
  rw [Nat.toString_eq_repr, Nat.toList_repr, digitsOf]

/-- An integer is written with its digits, and with a sign if it is below zero. -/
theorem toList_toString_int (n : Int) :
    (toString n).toList = (if n < 0 then ['-'] else []) ++ digitsOf n.natAbs := by
  cases n with
  | ofNat n => exact toList_toString_nat n
  | negSucc n =>
    show ("-" ++ (n + 1).repr).toList = _
    rw [String.toList_append, Nat.toList_repr, if_pos (Int.negSucc_lt_zero n)]
    rfl

/-- An integer is read from what is written for it. -/
theorem integerOf?_toString (n : Int) : integerOf? (toString n).toList = some n := by
  obtain ⟨d, more, hDigits, hd⟩ := (isDigits_digitsOf n.natAbs).head
  have hNoSign : d ≠ '-' := ne_of_isDigit hd (by decide)
  have hRead := naturalOf?_digitsOf n.natAbs
  rw [toList_toString_int]
  split
  · next hNeg =>
    show (naturalOf? (digitsOf n.natAbs)).map Int.negOfNat = some n
    rw [hRead, Option.map_some, Int.negOfNat_eq, Int.ofNat_eq_natCast]
    congr 1
    omega
  · next hPos =>
    rw [List.nil_append, integerOf?]
    · rw [hRead, Option.map_some, Int.ofNat_eq_natCast]
      congr 1
      omega
    · intro written hSame
      rw [hDigits] at hSame
      exact hNoSign (List.cons.inj hSame).1

theorem toString_int_inj {n m : Int} : toString n = toString m ↔ n = m := by
  refine ⟨fun h => ?_, congrArg toString⟩
  have hRead := integerOf?_toString n
  rw [h, integerOf?_toString] at hRead
  exact (Option.some.inj hRead).symm

theorem toString_nat_inj {n m : Nat} : toString n = toString m ↔ n = m :=
  (toString_int_inj (n := n) (m := m)).trans Int.ofNat_inj

theorem isNumber_toString_int (n : Int) : IsNumber (toString n).toList := by
  refine ⟨if n < 0 then ['-'] else [], digitsOf n.natAbs, [], [], ?_, ?_,
    isWhole_digitsOf n.natAbs, .inl rfl, .inl rfl⟩
  · rw [toList_toString_int]
    simp
  · split <;> simp

/-! ## Finite numbers -/

section Doubles

open Float.Model (Format UnpackedFloat)
open Float.Model.UnpackedFloat

/-- The exponent of a double stands in its bits. -/
theorem toNat_unpackExponent (b : BitVec 64) :
    (@unpackExponent .binary64 b).toNat = (b.toNat >>> 52) % 2048 := rfl

theorem isFinite_unpack (b : BitVec 64) :
    (unpack .binary64 b).isFinite = !decide ((b.toNat >>> 52) % 2048 = 2047) := by
  have hOnes : @unpackExponent .binary64 b = -1#(Format.binary64.exponentBits) ↔
      (b.toNat >>> 52) % 2048 = 2047 := by
    rw [BitVec.toNat_eq, toNat_unpackExponent]
    rfl
  unfold unpack
  dsimp only
  by_cases hLast : @unpackExponent .binary64 b = -1#(Format.binary64.exponentBits)
  · rw [decide_eq_true (hOnes.mp hLast), if_pos hLast]
    split <;> rfl
  · rw [decide_eq_false fun h => hLast (hOnes.mpr h), if_neg hLast]
    by_cases hSmall : @unpackExponent .binary64 b = 0#(Format.binary64.exponentBits)
    · rw [if_pos hSmall]
      by_cases hZero : @unpackMantissa .binary64 b =
          0#(Format.binary64.mantissaBitsWithoutImplicit)
      · rw [dif_pos hZero]
        rfl
      · rw [dif_neg hZero]
        rfl
    · rw [if_neg hSmall]
      rfl

theorem isFinite_ofBits (bits : Nat) :
    (Binary64.ofBits bits).isFinite = !decide ((bits >>> 52) % 2048 = 2047) := by
  unfold Binary64.ofBits
  dsimp only
  split
  · next hLast =>
    rw [decide_eq_true hLast]
    split <;> rfl
  · next hOther =>
    rw [decide_eq_false hOther]
    split <;> rfl

/-- What is not finite is infinite, or no number. -/
theorem isFinite_ofFloat (x : Float) :
    (Binary64.ofFloat x).isFinite = false ↔ x.isNaN = true ∨ x.isInf = true := by
  have hFinite : (Binary64.ofFloat x).isFinite = x.toModel.unpack.isFinite := by
    rw [Binary64.ofFloat, isFinite_ofBits]
    exact (isFinite_unpack x.toModel.toBits.toBitVec).symm
  show _ ↔ x.toModel.unpack.isNaN = true ∨ x.toModel.unpack.isInf = true
  rw [hFinite]
  cases x.toModel.unpack with
  | notANumber => exact ⟨fun _ => .inl rfl, fun _ => rfl⟩
  | infinity sign => exact ⟨fun _ => .inr rfl, fun _ => rfl⟩
  | zero sign => exact ⟨nofun, fun h => h.elim nofun nofun⟩
  | finite sign m e => exact ⟨nofun, fun h => h.elim nofun nofun⟩

end Doubles

/-! ## Figures -/

/-- The figure has no needless zero in front: only zero has no other digit. -/
def IsPlain (f : Figure) : Prop := 0 < f.digits ∨ f = ⟨0, 0⟩

theorem scaled_pos {n : Nat} (h : 0 < n) (e : Int) : 0 < (scaled n e).1 := by
  unfold scaled
  split
  · exact h
  · show 0 < n <<< e.toNat
    rw [Nat.shiftLeft_eq]
    exact Nat.mul_pos h (Nat.pow_pos (by decide))

/-- Nothing below a neighbourhood above zero is in it, least of all zero. -/
theorem pos_of_holds {v : Neighbourhood} {num den : Nat} (hLow : 0 < v.low) (hDen : 0 < den)
    (h : v.holds num den = true) : 0 < num := by
  have hAbove : v.low * den ≤ num * v.den := by
    unfold Neighbourhood.holds at h
    split at h
    · simp only [Bool.and_eq_true, decide_eq_true_eq] at h
      exact h.1
    · simp only [Bool.and_eq_true, decide_eq_true_eq] at h
      exact Nat.le_of_lt h.1
  have hProduct : 0 < num * v.den := Nat.lt_of_lt_of_le (Nat.mul_pos hLow hDen) hAbove
  exact Nat.pos_of_mul_pos_right hProduct

theorem pos_of_onGrid {v : Neighbourhood} {tie : Tie} {scale : Int} {f : Figure} (hLow : 0 < v.low)
    (h : v.onGrid tie scale = some f) : 0 < f.digits := by
  have hUp : 0 < if scale < 0 then Nat.pow 10 (-scale).toNat else 1 := by
    split
    · exact Nat.pow_pos (by decide)
    · exact Nat.one_pos
  unfold Neighbourhood.onGrid at h
  dsimp only at h
  generalize (if scale < 0 then Nat.pow 10 (-scale).toNat else 1) = up at h hUp
  generalize (if scale < 0 then 1 else Nat.pow 10 scale.toNat) = down at h
  generalize v.value * up / (v.den * down) = lower at h
  have hLower (hHolds : v.holds (lower * down) up = true) : 0 < lower :=
    Nat.pos_of_mul_pos_right (pos_of_holds hLow hUp hHolds)
  -- both neighbours on the grid are in the neighbourhood, or one of them
  split at h
  · next hBoth =>
    have hEither (upper : Bool) : 0 < if upper = true then lower + 1 else lower := by
      split
      · exact Nat.succ_pos lower
      · exact hLower (Bool.and_eq_true_iff.mp hBoth).1
    obtain rfl := Option.some.inj h
    exact hEither _
  · split at h
    · next hHolds =>
      obtain rfl := Option.some.inj h
      exact hLower hHolds
    · split at h
      · obtain rfl := Option.some.inj h
        exact Nat.succ_pos lower
      · cases h

theorem pos_of_tidy {f : Figure} (h : 0 < f.digits) : 0 < f.tidy.digits := by
  unfold Figure.tidy
  split
  · next hZero =>
    show 0 < f.digits / 10
    omega
  · exact h

/-- The figure of a double has no needless zero in front. -/
theorem isPlain_shortest (tie : Tie) {m : Nat} (h : 0 < m) (e : Int) : IsPlain (shortest tie m e) := by
  have hLow : 0 < (neighbourhood m e).low := by
    refine scaled_pos ?_ _
    split <;> omega
  unfold shortest
  dsimp only
  split
  · next figure hFound =>
    obtain ⟨n, -, hGrid⟩ := List.exists_of_findSome?_eq_some hFound
    exact .inl (pos_of_tidy (pos_of_onGrid hLow hGrid))
  · exact .inr rfl

/-! ## How real numbers are written -/

/-- A number without a sign. -/
def IsUnsigned (cs : List Char) : Prop :=
  ∃ whole fraction exponent, cs = whole ++ (fraction ++ exponent) ∧ IsWhole whole ∧
    IsFraction fraction ∧ IsExponent exponent

theorem isNumber_signedText {cs : List Char} (h : IsUnsigned cs) (negative : Bool) :
    IsNumber (signedText negative cs).toList := by
  obtain ⟨whole, fraction, exponent, rfl, hParts⟩ := h
  rw [signedText, String.toList_ofList]
  cases negative with
  | false => exact ⟨[], whole, fraction, exponent, rfl, by simp, hParts⟩
  | true => exact ⟨['-'], whole, fraction, exponent, rfl, by simp, hParts⟩

theorem isDigits_cons {d : Char} {more : List Char} (hd : d.isDigit = true)
    (hMore : more.all Char.isDigit = true) : IsDigits (d :: more) := by
  refine ⟨List.cons_ne_nil d more, ?_⟩
  rw [List.all_cons, hd, hMore]
  rfl

theorem all_isDigit_zeros (n : Nat) : (List.replicate n '0').all Char.isDigit = true := by
  refine List.all_eq_true.mpr fun c hc => ?_
  rw [List.eq_of_mem_replicate hc]
  decide

/-- The digits of a number above zero, from its first one. -/
theorem digitsOf_eq_cons {n : Nat} (h : 0 < n) :
    ∃ d more, Json.digitsOf n = d :: more ∧ d.isDigit = true ∧ d ≠ '0' ∧
      more.all Char.isDigit = true := by
  obtain ⟨d, more, hDigits, hd⟩ := (isDigits_digitsOf n).head
  have hAll := (isDigits_digitsOf n).2
  have hFirst := head?_digitsOf h
  rw [hDigits] at hAll hFirst
  rw [List.all_cons, Bool.and_eq_true] at hAll
  exact ⟨d, more, hDigits, hd, fun hZero => hFirst (congrArg some hZero), hAll.2⟩

theorem isWhole_cons {d : Char} {more : List Char} (hd : d.isDigit = true) (hZero : d ≠ '0')
    (hMore : more.all Char.isDigit = true) : IsWhole (d :: more) :=
  .inr ⟨isDigits_cons hd hMore, fun hSame => hZero (Option.some.inj hSame)⟩

theorem isUnsigned_positionalText {f : Figure} (h : IsPlain f) :
    IsUnsigned (positionalText true f) := by
  rcases h with hPos | rfl
  · obtain ⟨d, more, hDigits, hd, hZero, hMore⟩ := digitsOf_eq_cons hPos
    have hText : Decimal.digitsOf f.digits = d :: more := hDigits
    unfold positionalText
    rw [hText]
    dsimp only
    split
    · -- zeros come after the digits, and then the point
      refine ⟨d :: (more ++ List.replicate f.scale.toNat '0'), ['.', '0'], [], by simp, ?_,
        .inr ⟨['0'], rfl, by decide, by decide⟩, .inl rfl⟩
      refine isWhole_cons hd hZero ?_
      rw [List.all_append, hMore, all_isDigit_zeros]
      rfl
    · split
      · next hScale hPoint =>
        -- the point is between two digits
        obtain ⟨p, hp⟩ : ∃ p : Nat, ((d :: more).length + f.scale).toNat = p + 1 :=
          ⟨((d :: more).length + f.scale).toNat - 1, by omega⟩
        have hBefore : p < more.length := by
          rw [List.length_cons] at hp
          omega
        rw [hp, List.take_succ_cons, List.drop_succ_cons]
        refine ⟨d :: more.take p, '.' :: more.drop p, [], by simp, isWhole_cons hd hZero ?_,
          .inr ⟨more.drop p, rfl, ?_, ?_⟩, .inl rfl⟩
        · exact List.all_eq_true.mpr fun c hc =>
            List.all_eq_true.mp hMore c (List.take_subset p more hc)
        · exact List.ne_nil_of_length_pos (by rw [List.length_drop]; omega)
        · exact List.all_eq_true.mpr fun c hc =>
            List.all_eq_true.mp hMore c (List.drop_subset p more hc)
      · -- all digits come after the point
        refine ⟨['0'], '.' :: (List.replicate (-((d :: more).length + f.scale)).toNat '0' ++
          d :: more), [], by simp, .inl rfl, .inr ⟨_, rfl, ?_, ?_⟩, .inl rfl⟩
        · simp
        · rw [List.all_append, all_isDigit_zeros, (isDigits_cons hd hMore).2]
          rfl
  · exact ⟨['0'], ['.', '0'], [], rfl, .inl rfl, .inr ⟨['0'], rfl, by decide, by decide⟩, .inl rfl⟩

theorem isUnsigned_exponentText (f : Figure) : IsUnsigned (exponentText f) := by
  obtain ⟨d, more, hDigits, hd⟩ := (isDigits_digitsOf f.digits).head
  have hText : Decimal.digitsOf f.digits = d :: more := hDigits
  have hMore : more.all Char.isDigit = true := by
    have hAll := (isDigits_digitsOf f.digits).2
    rw [hDigits, List.all_cons, Bool.and_eq_true] at hAll
    exact hAll.2
  have hWhole : IsWhole [d] := by
    by_cases hZero : d = '0'
    · exact .inl (by rw [hZero])
    · exact isWhole_cons hd hZero rfl
  have hExponent (n : Int) : IsExponent ('e' :: if n < 0 then '-' :: Decimal.digitsOf (-n).toNat
      else '+' :: Decimal.digitsOf n.toNat) := by
    split
    · exact .inr ⟨'e', ['-'], _, rfl, by simp, by simp, isDigits_digitsOf _⟩
    · exact .inr ⟨'e', ['+'], _, rfl, by simp, by simp, isDigits_digitsOf _⟩
  unfold exponentText
  rw [hText]
  cases more with
  | nil => exact ⟨[d], [], _, rfl, hWhole, .inl rfl, hExponent _⟩
  | cons next rest =>
    exact ⟨[d], '.' :: next :: rest, _, rfl, hWhole,
      .inr ⟨next :: rest, rfl, List.cons_ne_nil _ _, hMore⟩, hExponent _⟩

/-- A finite number is written as a number. -/
theorem isNumber_interchange {x : Float} (h : (Binary64.ofFloat x).isFinite = true) :
    IsNumber (Layout.interchange.render x).toList := by
  unfold Layout.render
  split
  · next hNaN =>
    rw [hNaN] at h
    cases h
  · next hInfinite =>
    rw [hInfinite] at h
    cases h
  · next negative m e _ =>
    refine isNumber_signedText ?_ negative
    split
    · exact isUnsigned_positionalText (.inr rfl)
    · next hSome =>
      have hPlain := isPlain_shortest Layout.interchange.tie (Nat.pos_of_ne_zero hSome) e
      unfold Layout.figureText Layout.interchange
      dsimp only
      split
      · exact isUnsigned_positionalText hPlain
      · exact isUnsigned_exponentText _

end Metering.Json
