import Metering.Settle
import Metering.Text.Property

/-!
# Metering — patterns

A pattern describes pieces of a text: single characters by sets, places by what stands on either
side, and their sequences, alternatives and repetitions.

* `Anchor` and `Pattern` — the descriptions;
* `Pattern.ends` — all places where a piece can end that starts at one of the given places;
* `Pattern.occursIn` — whether the pattern describes some piece of a text.
-/

namespace Metering

/-! ## Places -/

/-- A condition on a place between two characters. `crossing` lines end at line feeds, carriage
returns or both together; words are made of the letters of all scripts, or of plain ones. -/
inductive Anchor where
  | textStart
  | textEnd
  | lineStart
  | lineEnd
  | crossingLineStart
  | crossingLineEnd
  | wordEdge (plain : Bool)
  | noWordEdge (plain : Bool)
  | wordStart (plain : Bool)
  | wordEnd (plain : Bool)
  | wordStartHalf (plain : Bool)
  | wordEndHalf (plain : Bool)
  deriving DecidableEq

namespace Anchor

/-- Whether there is a character and it is part of a word. -/
def inWord (plain : Bool) : Option Char → Bool
  | some c => if plain then Text.isPlainWord c else Text.isWord c
  | none => false

/-- Whether the place between two neighbours satisfies the condition; at the ends of the text
one neighbour is missing. -/
def holds (a : Anchor) (before after : Option Char) : Bool :=
  match a with
  | textStart => before.isNone
  | textEnd => after.isNone
  | lineStart => before.isNone || before == some '\n'
  | lineEnd => after.isNone || after == some '\n'
  | crossingLineStart =>
    before.isNone || before == some '\n' || (before == some '\r' && after != some '\n')
  | crossingLineEnd =>
    after.isNone || after == some '\r' || (after == some '\n' && before != some '\r')
  | wordEdge plain => inWord plain before != inWord plain after
  | noWordEdge plain => inWord plain before == inWord plain after
  | wordStart plain => !inWord plain before && inWord plain after
  | wordEnd plain => inWord plain before && !inWord plain after
  | wordStartHalf plain => !inWord plain before
  | wordEndHalf plain => !inWord plain after

end Anchor

/-! ## Sets of places -/

namespace Places

/-- The union of two ascending lists of places. -/
def unite : List Nat → List Nat → List Nat
  | [], bs => bs
  | as, [] => as
  | a :: as, b :: bs =>
    if a < b then a :: unite as (b :: bs)
    else if b < a then b :: unite (a :: as) bs
    else a :: unite as bs
termination_by as bs => as.length + bs.length

/-- What is in the first of two ascending lists of places and not in the second. -/
def without : List Nat → List Nat → List Nat
  | [], _ => []
  | as, [] => as
  | a :: as, b :: bs =>
    if a < b then a :: without as (b :: bs)
    else if b < a then without (a :: as) bs
    else without as bs
termination_by as bs => as.length + bs.length

/-- The places that are reached from some places by at most so many steps: from those found in one
round the next round goes on, until it finds no others. -/
def spread (step : List Nat → List Nat) : Nat → List Nat → List Nat → List Nat
  | 0, reached, _ => reached
  | n + 1, reached, latest =>
    let found := without (step latest) reached
    if found.isEmpty then reached else spread step n (unite reached found) found

end Places

/-! ## Patterns -/

/-- A description of pieces of a text. -/
inductive Pattern where
  | empty
  /-- The characters of a text, one after the other. -/
  | text (cs : List Char)
  /-- One character of a set. -/
  | char (s : Text.CharSet)
  | anchor (a : Anchor)
  | seq (p q : Pattern)
  | alt (p q : Pattern)
  /-- At least `least` pieces, one after the other, and at most `most` if that is given, where few
  or many pieces are preferred. -/
  | times (p : Pattern) (least : Nat) (most : Option Nat) (sparing : Bool)
  /-- A group that is known by its number. -/
  | group (number : Nat) (p : Pattern)
  deriving DecidableEq

namespace Pattern

/-- The neighbours of the place before the `i`-th character. -/
def neighbours (text : Array Char) (i : Nat) : Option Char × Option Char :=
  (if i = 0 then none else text[i - 1]?, text[i]?)

/-- The place after some characters, if they stand in the text from a place on. -/
def placeAfter (text : Array Char) : List Char → Nat → Option Nat
  | [], i => some i
  | c :: cs, i => if text[i]? = some c then placeAfter text cs (i + 1) else none

/-- The places where a piece described by the pattern can end that starts at one of the given
places. -/
def ends (text : Array Char) : Pattern → List Nat → List Nat
  | empty, places => places
  | .text cs, places => places.filterMap (placeAfter text cs)
  | char s, places =>
    places.filterMap fun i =>
      match text[i]? with
      | some c => if s.holds c then some (i + 1) else none
      | none => none
  | anchor a, places =>
    places.filter fun i => a.holds (neighbours text i).1 (neighbours text i).2
  | seq p q, places => ends text q (ends text p places)
  | alt p q, places => Places.unite (ends text p places) (ends text q places)
  | times p least most _, places =>
    let reached := settle (ends text p) least places
    let further := match most with
      | some most => most - least
      | none => text.size + 1
    Places.spread (ends text p) further reached reached
  | group _ p, places => ends text p places

/-- Whether the pattern describes some piece of the text. -/
def occursIn (p : Pattern) (text : List Char) : Bool :=
  ends text.toArray p (List.range (text.length + 1)) != []

/-! ## Lengths -/

/-- The least number of characters of a piece, if it is known that there are pieces. -/
def leastLength : Pattern → Option Nat
  | empty | anchor _ => some 0
  | .text cs => some cs.length
  | char s => if s.isEmpty then none else some 1
  | seq p q => return (← p.leastLength) + (← q.leastLength)
  | alt p q => return min (← p.leastLength) (← q.leastLength)
  | times p least _ _ => return (← p.leastLength) * least
  | group _ p => p.leastLength

/-- The largest number of characters of a piece, if it is known that there are pieces and that
they are not arbitrarily long. -/
def mostLength : Pattern → Option Nat
  | empty | anchor _ => some 0
  | .text cs => some cs.length
  | char s => if s.isEmpty then none else some 1
  | seq p q => return (← p.mostLength) + (← q.mostLength)
  | alt p q => return max (← p.mostLength) (← q.mostLength)
  | times p _ most _ => return (← p.mostLength) * (← most)
  | group _ p => p.mostLength

end Pattern

end Metering
