import Metering.Subscriptions.Gathering

/-!
# Metering — subscribers that react

The plainest subscribers that change the subscriptions while they are called: they make another
leave, bring one along and break off, as they are told to.

* `Reaction` — what such a subscriber does when it is called, and `Reaction.conduct`;
* `Circle` — a gathering of such subscribers;
* `Circle.notify` — calls all members of the moment;
* `Circle.calls` — who was called.
-/

namespace Metering

/-- What a subscriber does when it is called: whom it makes leave, whom it brings along, and
whether it breaks off then. -/
inductive Reaction where
  | mk (tag : String) (removes : Option Nat) (adds : Option Reaction) (breaks : Bool)

/-- The reaction as a conduct. There is nothing to remember. -/
def Reaction.conduct (_ : Bool) : Reaction → Unit → Conduct Reaction Unit
  | .mk _ removes adds breaks, memory =>
    let ending := .ends memory (!breaks)
    let bringing := match adds with
      | some other => .brings other fun _ => ending
      | none => ending
    match removes with
    | some id => .dismisses id fun _ => bringing
    | none => bringing

/-- Subscribers that react. -/
abbrev Circle := Gathering Bool Reaction Unit

namespace Circle

/-- Nobody. -/
def empty : Circle := Gathering.empty ()

/-- One more member, and its number. -/
def add (c : Circle) (r : Reaction) : Circle × Nat := Gathering.add c r

/-- The circle without the member of a number, and whether there was one. -/
def remove (c : Circle) (id : Nat) : Circle × Bool := Gathering.remove c id

/-- Calls all members of the moment. -/
def notify (c : Circle) (on : Bool) : Circle × Bool := Gathering.notify Reaction.conduct c on

/-- The tags of those who were called, with what they were told. -/
def calls (c : Circle) : List (String × Bool) :=
  c.chronicle.filterMap fun
    | .called on (.mk tag _ _ _) => some (tag, on)
    | _ => none

/-- The circle with nothing in its chronicle. -/
def cleared (c : Circle) : Circle := { c with chronicle := [] }

end Circle

end Metering
