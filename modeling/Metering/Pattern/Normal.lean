import Metering.Pattern.Basic

/-!
# Metering — patterns in normal form

Patterns are put together in one form only: sequences and alternatives lean to the right, no
sequence holds an empty pattern or two texts side by side, single characters among alternatives
are one set, and what all alternatives start with stands before them.

* `Pattern.ofSet` — one character of a set;
* `Pattern.row` — patterns one after the other;
* `Pattern.choice` — one of several patterns;
* `Pattern.repeated` — a pattern several times.
-/

namespace Metering.Pattern

/-! ## Characters -/

/-- One character of a set; if there is only one, it is a text. -/
def ofSet (s : Text.CharSet) : Pattern :=
  match s.single? with
  | some n => .text [Char.ofNat n]
  | none => .char s

/-! ## Sequences -/

/-- The members of a sequence. -/
def members : Pattern → List Pattern
  | empty => []
  | seq p q => p.members ++ q.members
  | p => [p]

/-- The sequence of some members. -/
def ofMembers : List Pattern → Pattern
  | [] => .empty
  | [p] => p
  | p :: q :: more => .seq p (ofMembers (q :: more))

/-- Members of a sequence with neighbouring texts joined. -/
def joinTexts : List Pattern → List Pattern
  | [] => []
  | .text a :: more =>
    match joinTexts more with
    | .text b :: rest => .text (a ++ b) :: rest
    | rest => .text a :: rest
  | p :: more => p :: joinTexts more

/-- Patterns one after the other. -/
def row (ps : List Pattern) : Pattern := ofMembers (joinTexts (ps.flatMap members))

/-! ## Alternatives -/

/-- The alternatives of a pattern. -/
def alternatives : Pattern → List Pattern
  | alt p q => p.alternatives ++ q.alternatives
  | p => [p]

/-- The pattern of some alternatives; without alternatives it describes nothing. -/
def ofAlternatives : List Pattern → Pattern
  | [] => .char .empty
  | [p] => p
  | p :: q :: more => .alt p (ofAlternatives (q :: more))

/-- The character that a pattern describes by a text. -/
def character? : Pattern → Option Char
  | .text [c] => some c
  | _ => none

/-- The set that a pattern describes one character of. -/
def set? : Pattern → Option Text.CharSet
  | char s => some s
  | _ => none

/-- One of several patterns, as one set if all are characters or all are sets. -/
def combined (ps : List Pattern) : Pattern :=
  match ps with
  | [] | [_] => ofAlternatives ps
  | _ =>
    match ps.mapM character? with
    | some cs => ofSet (.ofList cs)
    | none =>
      match ps.mapM set? with
      | some sets => ofSet (.unions sets)
      | none => ofAlternatives ps

/-- What two lists start with in common. -/
def sharedFront {α : Type} [DecidableEq α] : List α → List α → List α
  | a :: as, b :: bs => if a = b then a :: sharedFront as bs else []
  | _, _ => []

/-- The members that several sequences start with in common. -/
def commonFront : List Pattern → List Pattern
  | [] | [_] => []
  | p :: q :: more =>
    if (p :: q :: more).all fun r => 2 ≤ r.members.length then
      (q :: more).foldl (fun front r => sharedFront front r.members) p.members
    else []

/-- One of several patterns. -/
def choice (ps : List Pattern) : Pattern :=
  let all := ps.flatMap alternatives
  match commonFront all with
  | [] => combined all
  | front =>
    let rests := all.map fun p => ofMembers (p.members.drop front.length)
    row (front ++ [combined (rests.flatMap alternatives)])

/-! ## Repetitions -/

/-- A pattern at least and at most so many times. Several empty pieces are one. -/
def repeated (p : Pattern) (least : Nat) (most : Option Nat) (sparing : Bool) : Pattern :=
  let (least, most) :=
    if p.mostLength = some 0 then (min least 1, some (min (most.getD 1) 1)) else (least, most)
  if least = 0 ∧ most = some 0 then .empty
  else if least = 1 ∧ most = some 1 then p
  else .times p least most sparing

end Metering.Pattern
