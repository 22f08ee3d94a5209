import Metering.Subscriptions

/-!
# Metering — gatherings

Subscribers that are called may do anything with the subscriptions meanwhile: count them, bring
others along, make anybody leave, themselves included, and break off in the end. What they do may
depend on what they are told, on what they remember and on the answers that they get.

* `Conduct` — what a subscriber does when it is called;
* `Happening` — what can happen in a gathering;
* `Gathering` — subscriptions, with what the subscribers remember and all that has happened;
* `add`, `remove`, `count` — what anybody may do at any time;
* `carryOut`, `call`, `notify` — calling one member, and all members of the moment;
* `Request`, `run`, `after` — what is asked of a gathering from outside.
-/

namespace Metering

/-- What a subscriber does when it is called, one thing after another. -/
inductive Conduct (α σ : Type) where
  /-- It ends, whole or broken off, with something to remember. -/
  | ends (memory : σ) (whole : Bool)
  /-- It brings another one along, and goes on with the number of that one. -/
  | brings (a : α) (next : Nat → Conduct α σ)
  /-- It makes whoever has a number leave, and goes on knowing whether anybody had it. -/
  | dismisses (id : Nat) (next : Bool → Conduct α σ)
  /-- It asks how many subscribers there are, and goes on with their number. -/
  | counts (next : Nat → Conduct α σ)

/-- What can happen in a gathering. -/
inductive Happening (κ α : Type) where
  /-- Somebody came and got a number. -/
  | came (id : Nat) (a : α)
  /-- Whoever had a number was to leave, and somebody had it or not. -/
  | left (id : Nat) (found : Bool)
  /-- Somebody asked how many there are, and heard a number. -/
  | counted (n : Nat)
  /-- Somebody was called and told something. -/
  | called (told : κ) (a : α)
  /-- The one that was called last came to its end, whole or broken off. -/
  | ended (whole : Bool)

/-- Subscriptions, what the subscribers remember together, and all that has happened so far. -/
structure Gathering (κ α σ : Type) where
  members : Subscriptions α
  memory : σ
  chronicle : List (Happening κ α)

namespace Gathering

variable {κ α σ : Type}

/-- Nobody yet. -/
def empty (memory : σ) : Gathering κ α σ := ⟨.empty, memory, []⟩

/-- The gathering after something has happened. -/
def note (g : Gathering κ α σ) (h : Happening κ α) : Gathering κ α σ :=
  { g with chronicle := g.chronicle ++ [h] }

/-- One more member, and its number. -/
def add (g : Gathering κ α σ) (a : α) : Gathering κ α σ × Nat :=
  let (members, id) := g.members.add a
  ({ g with members := members }.note (.came id a), id)

/-- The gathering without the member of a number, and whether there was one. -/
def remove (g : Gathering κ α σ) (id : Nat) : Gathering κ α σ × Bool :=
  let (members, found) := g.members.remove id
  ({ g with members := members }.note (.left id found), found)

/-- The gathering after somebody has asked how many there are, and how many. -/
def count (g : Gathering κ α σ) : Gathering κ α σ × Nat :=
  (g.note (.counted g.members.size), g.members.size)

/-- The gathering after somebody has done what it does, and whether it came through. -/
def carryOut : Conduct α σ → Gathering κ α σ → Gathering κ α σ × Bool
  | .ends memory whole, g => ({ g with memory := memory }.note (.ended whole), whole)
  | .brings a next, g =>
    let (g, id) := g.add a
    carryOut (next id) g
  | .dismisses id next, g =>
    let (g, found) := g.remove id
    carryOut (next found) g
  | .counts next, g =>
    let (g, n) := g.count
    carryOut (next n) g

/-- The gathering after a member was called, and whether the member came through. -/
def call (conduct : κ → α → σ → Conduct α σ) (told : κ) (a : α) (g : Gathering κ α σ) :
    Gathering κ α σ × Bool :=
  carryOut (conduct told a g.memory) (g.note (.called told a))

/-- Calls all members of the moment, up to the first that breaks off. -/
def notify (conduct : κ → α → σ → Conduct α σ) (g : Gathering κ α σ) (told : κ) :
    Gathering κ α σ × Bool :=
  inTurn (call conduct told) g.members.subscribers g

/-! ## From outside -/

/-- What may be asked of a gathering. -/
inductive Request (κ α : Type) where
  | add (a : α)
  | remove (id : Nat)
  | count
  | notify (told : κ)

/-- The gathering after a request, whether or not somebody broke off. -/
def run (conduct : κ → α → σ → Conduct α σ) (g : Gathering κ α σ) :
    Request κ α → Gathering κ α σ
  | .add a => (g.add a).1
  | .remove id => (g.remove id).1
  | .count => g.count.1
  | .notify told => (g.notify conduct told).1

/-- The gathering after some requests, one after another. -/
def after (conduct : κ → α → σ → Conduct α σ) (g : Gathering κ α σ)
    (requests : List (Request κ α)) : Gathering κ α σ :=
  requests.foldl (run conduct) g

end Gathering

end Metering
