/-!
# Metering — subscriptions

Those who want to hear of changes subscribe and get a number, by which they can leave. Numbers
are not used again. Whoever is called may subscribe others or make them leave meanwhile, so the
subscribers of the moment are noted before the first is called.

* `Subscriptions` — the subscribers in the order in which they came;
* `add`, `remove`, `subscribers` — coming, leaving and the subscribers of the moment;
* `inTurn` — calls one after another, up to the first that breaks off.
-/

namespace Metering

/-- Subscribers with their numbers, in the order in which they came, and the next number. -/
structure Subscriptions (α : Type) where
  next : Nat
  entries : List (Nat × α)

namespace Subscriptions

variable {α : Type}

/-- No subscribers yet. -/
def empty : Subscriptions α := ⟨0, []⟩

instance : Inhabited (Subscriptions α) := ⟨empty⟩

/-- With one more subscriber at the end, and its number. -/
def add (s : Subscriptions α) (a : α) : Subscriptions α × Nat :=
  (⟨s.next + 1, s.entries ++ [(s.next, a)]⟩, s.next)

/-- Whether a subscriber has this number. -/
def has (s : Subscriptions α) (id : Nat) : Bool := s.entries.any fun e => e.1 == id

/-- Without the subscriber of a number, and whether there was one. -/
def remove (s : Subscriptions α) (id : Nat) : Subscriptions α × Bool :=
  ({ s with entries := s.entries.filter fun e => e.1 != id }, s.has id)

/-- How many there are. -/
def size (s : Subscriptions α) : Nat := s.entries.length

/-- The subscribers of the moment. -/
def subscribers (s : Subscriptions α) : List α := s.entries.map Prod.snd

/-- What a listing of values shows of the subscriptions. -/
def shown (s : Subscriptions α) : String := s!"ListenerList \x7b len: {s.size} \x7d"

end Subscriptions

/-- Calls one after another, up to the first that breaks off. What the calls changed stays
changed. Also says whether all were called through. -/
def inTurn {α σ : Type} (call : α → σ → σ × Bool) : List α → σ → σ × Bool
  | [], s => (s, true)
  | a :: rest, s =>
    match call a s with
    | (s, true) => inTurn call rest s
    | (s, false) => (s, false)

end Metering
