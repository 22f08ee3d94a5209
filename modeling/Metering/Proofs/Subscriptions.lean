import Metering.Subscriptions

/-!
# Metering — the order of subscriptions

* `inTurn_append`, `inTurn_keeps`, `inTurn_returns` — calls one after another;
* `Subscriptions.InOrder` — the subscribers are there in the order in which they came, which is that
  of their numbers; they stay so when one comes or leaves.
-/

namespace Metering

/-! ## One after another -/

section InTurn

variable {α σ : Type} {call : α → σ → σ × Bool}

theorem inTurn_cons (a : α) (rest : List α) (s : σ) :
    inTurn call (a :: rest) s =
      if (call a s).2 then inTurn call rest (call a s).1 else call a s := by
  rw [inTurn]
  split
  · next s' h => rw [h, if_pos rfl]
  · next s' h => rw [h, if_neg Bool.false_ne_true]

theorem inTurn_append (as bs : List α) (s : σ) :
    inTurn call (as ++ bs) s =
      if (inTurn call as s).2 then inTurn call bs (inTurn call as s).1 else inTurn call as s := by
  induction as generalizing s with
  | nil => rfl
  | cons a rest ih =>
    rw [List.cons_append, inTurn_cons, inTurn_cons]
    split
    · exact ih _
    · rfl

/-- What each call keeps, the calls in turn keep, however far they get. -/
theorem inTurn_keeps {P : σ → Prop} (as : List α) (hCall : ∀ a ∈ as, ∀ s, P s → P (call a s).1)
    {s : σ} (h : P s) : P (inTurn call as s).1 := by
  induction as generalizing s with
  | nil => exact h
  | cons a rest ih =>
    obtain ⟨hFirst, hRest⟩ := List.forall_mem_cons.mp hCall
    rw [inTurn_cons]
    split
    · exact ih hRest (hFirst s h)
    · exact hFirst s h

/-- Calls none of which breaks off come to their end. -/
theorem inTurn_returns {as : List α}
    (h : ∀ a ∈ as, ∀ s, (call a s).2 = true) (s : σ) : (inTurn call as s).2 = true := by
  induction as generalizing s with
  | nil => rfl
  | cons a rest ih =>
    obtain ⟨hFirst, hRest⟩ := List.forall_mem_cons.mp h
    rw [inTurn_cons, if_pos (hFirst s)]
    exact ih hRest _

end InTurn

/-- The entries are in the order in which the subscribers came: their numbers ascend. -/
structure Subscriptions.InOrder {α : Type} (ls : Subscriptions α) : Prop where
  ascending : ls.entries.Pairwise fun a b => a.1 < b.1
  given : ∀ e ∈ ls.entries, e.1 < ls.next

namespace Subscriptions.InOrder

variable {α : Type} {ls : Subscriptions α}

theorem empty : (Subscriptions.empty : Subscriptions α).InOrder := ⟨.nil, nofun⟩

theorem add (h : ls.InOrder) (a : α) : (ls.add a).1.InOrder where
  ascending := by
    refine List.pairwise_append.mpr ⟨h.ascending, List.pairwise_singleton _ _, ?_⟩
    intro e hMem new hNew
    rw [List.mem_singleton.mp hNew]
    exact h.given e hMem
  given e hMem := by
    show e.1 < ls.next + 1
    rcases List.mem_append.mp hMem with hOld | hNew
    · exact Nat.lt_succ_of_lt (h.given e hOld)
    · rw [List.mem_singleton.mp hNew]
      exact Nat.lt_succ_self _

theorem remove (h : ls.InOrder) (id : Nat) : (ls.remove id).1.InOrder where
  ascending := h.ascending.filter _
  given e hMem := h.given e (List.mem_filter.mp hMem).1

end Subscriptions.InOrder

end Metering
