import Mathlib.Data.List.Basic

/-!
# Metering — characters and digits

What readers of every notation make of characters that belong together.

* `dropWhile_append_stops`, `takeWhile_append_stops` — where the characters at the front of a text
  end that pass a test;
* `digits_spec` — a number and its digits.
-/

namespace Metering

/-- What was checked of each character of a list holds of all of them. -/
theorem forall_of_all {P : Char → Prop} [DecidablePred P] {cs : List Char}
    (h : cs.all (fun c => decide (P c)) = true) : ∀ c ∈ cs, P c :=
  fun c hc => of_decide_eq_true (List.all_eq_true.mp h c hc)

theorem dropWhile_append_stops {p : Char → Bool} {cs rest : List Char} (h : cs.all p = true)
    (hRest : rest.head?.any p = false) : (cs ++ rest).dropWhile p = rest := by
  rw [List.dropWhile_append_of_pos (List.all_eq_true.mp h)]
  cases rest with
  | nil => rfl
  | cons c more =>
    have hStop : ¬ p c = true := Bool.eq_false_iff.mp hRest
    rw [List.dropWhile_cons_of_neg hStop]

theorem takeWhile_append_stops {p : Char → Bool} {cs rest : List Char} (h : cs.all p = true)
    (hRest : rest.head?.any p = false) : (cs ++ rest).takeWhile p = cs := by
  rw [List.takeWhile_append_of_pos (List.all_eq_true.mp h)]
  cases rest with
  | nil => exact List.append_nil cs
  | cons c more =>
    have hStop : ¬ p c = true := Bool.eq_false_iff.mp hRest
    rw [List.takeWhile_cons_of_neg hStop, List.append_nil]

/-- A number is written with digits that are below its base and add up to it. -/
theorem digits_spec (base : Nat) (hBase : 1 < base) (n : Nat) : ∃ ds : List Nat, ds ≠ [] ∧
    Nat.toDigits base n = ds.map Nat.digitChar ∧ (∀ d ∈ ds, d < base) ∧
    ds.foldl (fun a d => a * base + d) 0 = n := by
  -- by induction on the number, which loses its last digit
  induction n using Nat.strongRecOn with
  | ind n ih =>
    by_cases hSmall : n < base
    · refine ⟨[n], List.cons_ne_nil _ _, Nat.toDigits_of_lt_base hSmall, ?_, by simp⟩
      exact List.forall_mem_singleton.mpr hSmall
    · have hLess : n / base < n := Nat.div_lt_self (by omega) hBase
      obtain ⟨ds, -, hDigits, hBelow, hSum⟩ := ih (n / base) hLess
      refine ⟨ds ++ [n % base], by simp, ?_, ?_, ?_⟩
      · rw [Nat.toDigits_of_base_le hBase (by omega), hDigits, List.map_append]
        rfl
      · intro d hd
        rcases List.mem_append.mp hd with hd | hd
        · exact hBelow d hd
        · rw [List.mem_singleton.mp hd]
          exact Nat.mod_lt n (by omega)
      · rw [List.foldl_append, hSum]
        show n / base * base + n % base = n
        rw [Nat.mul_comm]
        exact Nat.div_add_mod n base

end Metering
