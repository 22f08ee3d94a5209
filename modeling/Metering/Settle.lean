/-!
# Metering — repetition that stops when nothing changes

`settle f n a` applies `f` to `a` `n` times. Once `f` gives back what it was given, all further
applications would too, so they are left out (`settle_eq_repeated`): the number may be huge.
-/

namespace Metering

variable {α : Type}

/-- `f` applied `n` times. -/
def repeated (f : α → α) : Nat → α → α
  | 0, a => a
  | n + 1, a => repeated f n (f a)

/-- `f` applied `n` times, or until it changes nothing. -/
def settle [DecidableEq α] (f : α → α) : Nat → α → α
  | 0, a => a
  | n + 1, a =>
    let next := f a
    if next = a then a else settle f n next

theorem repeated_of_fixed {f : α → α} {a : α} (h : f a = a) (n : Nat) : repeated f n a = a := by
  induction n with
  | zero => rfl
  | succ n ih => rw [repeated, h, ih]

/-- Stopping early changes nothing. -/
theorem settle_eq_repeated [DecidableEq α] (f : α → α) (n : Nat) (a : α) :
    settle f n a = repeated f n a := by
  induction n generalizing a with
  | zero => rfl
  | succ n ih =>
    simp only [settle]
    split
    next h => rw [repeated, h, repeated_of_fixed h]
    next => rw [repeated, ih]

end Metering
