import Metering.Pattern.Encoding
import Metering.Pattern.Normal
import Std.Data.HashMap

/-!
# Metering — how large the matcher of a pattern is

A pattern is matched by a machine with numbered states, of which most lead to one other state, some
to several. A pattern is refused if its machine, or the machine that reads texts backwards, needs
more memory than is allowed. So the machines are laid out state by state, without being built.

* `Machine` — the states laid out so far, and the memory they need;
* `Machine.addSet`, `Machine.addSetBackwards` — the states for a character of several bytes;
* `Pattern.lay` — the states for a pattern;
* `Pattern.fits` — whether both machines of a pattern are small enough.
-/

namespace Metering.Pattern

/-! ## Machines -/

/-- A machine as far as it is laid out: how many states it has, and how many bytes they need
beside those that every state needs. -/
structure Machine where
  states : Nat
  extra : Nat

namespace Machine

/-- The bytes that every state needs. -/
def bytesPerState : Nat := 32

/-- The bytes for each way to go on from a state with a byte range for every way. -/
def bytesPerRange : Nat := 8

/-- The bytes for each way to go on from a state without conditions. -/
def bytesPerBranch : Nat := 4

/-- The bytes that a machine may need. -/
def maxBytes : Nat := 10 * (1 <<< 20)

/-- The machine, if it is not too large. -/
def checked (m : Machine) : Option Machine :=
  if bytesPerState * m.states + m.extra ≤ maxBytes then some m else none

/-- The machine with more states and more bytes for them. -/
def add (m : Machine) (states extra : Nat) : Option Machine :=
  checked ⟨m.states + states, m.extra + extra⟩

/-- The machine with a way from the end of what was laid out last, which takes memory if the end is
a state that branches. -/
def link (m : Machine) (branching : Bool) : Option Machine :=
  if branching then m.add 0 bytesPerBranch else some m

/-! ## Characters of several bytes -/

/-- A way to go on with a byte of a range, to the state of a number. -/
structure Way where
  range : ByteRange
  target : Nat
  deriving DecidableEq

/-- One round of the hash of a sequence of numbers. -/
def hashWith (h : UInt64) (n : UInt64) : UInt64 := (h ^^^ n) * 1099511628211

/-- The hash of no numbers. -/
def emptyHash : UInt64 := 14695981039346656037

/-- The place of a sequence of numbers in a store of the given size. -/
def slot (size : UInt64) (numbers : List UInt64) : UInt64 :=
  numbers.foldl hashWith emptyHash % size

/-- The states laid out that can be used again: a store that keeps the latest key with its state in
each of its places. -/
abbrev Store (α : Type) := Std.HashMap UInt64 (α × Nat)

/-- The state stored under a key. -/
def Store.find? {α : Type} [DecidableEq α] (s : Store α) (place : UInt64) (key : α) : Option Nat :=
  match s[place]? with
  | some (stored, state) => if stored = key then some state else none
  | none => none

/-- A state that is not laid out yet, as more ways may come: the ways whose targets are known, the
latest first, and the byte range of a way whose target is not. -/
structure Open where
  ways : List Way
  last : Option ByteRange

/-- The ways of an open state, the earliest first, once its last target is known. -/
def Open.close (o : Open) (target : Nat) : List Way :=
  match o.last with
  | some range => (⟨range, target⟩ :: o.ways).reverse
  | none => o.ways.reverse

/-- A machine with the states of a set that can be used again. -/
abbrev Shared (α : Type) := Machine × Store α

/-- How many places there are for states with ways forwards. -/
def forwardPlaces : UInt64 := 10000

/-- The state with the given ways, a stored one if there is. -/
def Shared.state (m : Shared (List Way)) (ways : List Way) : Nat × Shared (List Way) :=
  let place := slot forwardPlaces (ways.flatMap fun w =>
    [w.range.first.toUInt64, w.range.last.toUInt64, w.target.toUInt64])
  match m.2.find? place ways with
  | some state => (state, m)
  | none =>
    let state := m.1.states
    (state, ⟨m.1.states + 1, m.1.extra + bytesPerRange * ways.length⟩,
      m.2.insert place (ways, state))

/-- Lays out the open states from the last one on, each of which leads to the one after it. -/
def Shared.close (m : Shared (List Way)) (target : Nat) (open' : List Open) :
    Nat × Shared (List Way) :=
  open'.foldr (fun o (target, m) => Shared.state m (o.close target)) (target, m)

/-- The number of ranges at the front of a row that are those of the open states. -/
def sharedRanges : List ByteRange → List Open → Nat
  | r :: row, o :: more => if o.last = some r then sharedRanges row more + 1 else 0
  | _, _ => 0

/-- Adds a row of byte ranges: the open states after the shared ones are laid out, and the rest of
the row is open. -/
def Shared.addRow (target : Nat) (m : Shared (List Way) × List Open) (row : List ByteRange) :
    Shared (List Way) × List Open :=
  let (m, open') := m
  let k := sharedRanges row open'
  let (next, m) := Shared.close m target (open'.drop (k + 1))
  let fork := (open'[k]?.map fun o => (o.close next).reverse).getD []
  (m, open'.take k ++ ⟨fork, row[k]?⟩ :: (row.drop (k + 1)).map fun r => ⟨[], some r⟩)

/-- The machine with the states for one character with the given rows, read forwards. -/
def addRows (m : Machine) (rows : List (List ByteRange)) : Option Machine :=
  let target := m.states
  let (m, open') := rows.foldl (Shared.addRow target) ((⟨m.states + 1, m.extra⟩, ∅), [⟨[], none⟩])
  checked (Shared.close m target open').2.1

/-- How many places there are for states with ways backwards. -/
def backwardPlaces : UInt64 := 1000

/-- The state that leads to another one with a byte of a range, a stored one if there is. -/
def Shared.stateBefore (m : Shared Way) (way : Way) : Nat × Shared Way :=
  let place := slot backwardPlaces
    [way.target.toUInt64, way.range.first.toUInt64, way.range.last.toUInt64]
  match m.2.find? place way with
  | some state => (state, m)
  | none =>
    let state := m.1.states
    (state, ⟨m.1.states + 1, m.1.extra⟩, m.2.insert place (way, state))

/-- Adds a row of byte ranges that is read from its end. -/
def Shared.addRowBackwards (target : Nat) (m : Shared Way) (row : List ByteRange) : Shared Way :=
  let (_, m, store) := row.foldl (fun (target, m) range => Shared.stateBefore m ⟨range, target⟩)
    (target, m)
  (⟨m.states, m.extra + bytesPerBranch⟩, store)

/-- The machine with the states for one character with the given rows, read backwards. -/
def addRowsBackwards (m : Machine) (rows : List (List ByteRange)) : Option Machine :=
  let target := m.states + 1
  checked (rows.foldl (Shared.addRowBackwards target) (⟨m.states + 2, m.extra⟩, ∅)).1

/-- The machine with the states for a character of a set. -/
def addSet (backwards : Bool) (m : Machine) (s : Text.CharSet) : Option Machine :=
  if s.isPlain then m.add 2 (bytesPerRange * s.intervals.length)
  else
    let rows := s.intervals.flatMap Text.Interval.byteRows
    if backwards then m.addRowsBackwards rows else m.addRows rows

end Machine

/-! ## Several texts -/

/-- The bytes of a text. -/
def textBytes (cs : List Char) : List UInt8 := cs.flatMap String.utf8EncodeChar

/-- The words before, between and after the empty ones; empty words at the front count once. -/
def sections (words : List (List UInt8)) : List (List (List UInt8)) :=
  let front := words.dropWhile List.isEmpty
  let rest := front.foldr
    (fun word found =>
      match word, found with
      | [], found => [] :: found
      | word, [] => [[word]]
      | word, s :: more => (word :: s) :: more) [[]]
  if front.length < words.length then [] :: rest else rest

/-- What follows a first byte in those words that start with it, for each first byte. -/
def byFirst (words : List (List UInt8)) : List (List (List UInt8)) :=
  (words.filterMap List.head?).eraseDups.map fun b =>
    words.filterMap fun word => if word.head? = some b then some word.tail else none

/-- The machine with the states for one of several words, which share their front. The longest word
has fewer bytes than there is fuel. -/
def layWords : Nat → List (List UInt8) → Machine → Option Machine
  | 0, _, m => some m
  | fuel + 1, words, m =>
    if words.all List.isEmpty then some m
    else
      let parts := sections words
      (parts.foldlM (fun (m : Machine) part =>
        let groups := byFirst part
        let added :=
          if groups.isEmpty then some m
          else if groups.length = 1 then m.add 1 Machine.bytesPerBranch
          else m.add 1 (Machine.bytesPerBranch + Machine.bytesPerRange * groups.length)
        groups.foldl (fun m group => m.bind (layWords fuel group)) added) m).bind fun m =>
      m.add 1 (Machine.bytesPerBranch * (parts.length - 1))

/-! ## Patterns -/

/-- A machine, and whether the state at the end of what was laid out last branches. -/
abbrev Laid := Option (Machine × Bool)

/-- Lays something out several times in a row. -/
def layTimes (lay : Machine → Laid) : Nat → Machine → Laid
  | 0, m => return (← m.add 1 0, false)
  | 1, m => lay m
  | n + 2, m => do
    let (m, branching) ← lay m
    layTimes lay (n + 1) (← m.link branching)

/-- Lays something out several times where each time may be the last. -/
def layAtMost (lay : Machine → Laid) : Nat → Machine × Bool → Laid
  | 0, (m, branching) => return (← m.link branching, false)
  | n + 1, (m, branching) => do
    let m ← (← m.link branching).add 1 (2 * Machine.bytesPerBranch)
    layAtMost lay n (← lay m)

/-- Lays out a repetition. -/
def layRepeated (lay : Machine → Laid) (nonempty : Bool) (least : Nat) (most : Option Nat)
    (m : Machine) : Laid := do
  match least, most with
  | 0, some 1 =>
    let (m, branching) ← lay (← m.add 1 (2 * Machine.bytesPerBranch))
    return (← (← m.link branching).add 1 0, false)
  | 0, none =>
    if nonempty then
      let (m, branching) ← lay (← m.add 1 Machine.bytesPerBranch)
      return (← m.link branching, true)
    else
      let (m, branching) ← lay m
      return (← (← m.link branching).add 3 (4 * Machine.bytesPerBranch), false)
  | least, none =>
    let (m, branching) ← layTimes lay least m
    return (← (← m.link branching).add 1 Machine.bytesPerBranch, true)
  | least, some most =>
    let (m, branching) ← layTimes lay least m
    if most = least then return (m, branching)
    else layAtMost lay (most - least) (← m.add 1 0, branching)

/-- The texts of some alternatives, if all are texts. -/
def texts? (ps : List Pattern) : Option (List (List Char)) :=
  ps.mapM fun p => match p with
    | .text cs => some cs
    | _ => none

/-- Whether a pattern is a choice of alternatives. -/
def isChoice : Pattern → Bool
  | alt _ _ => true
  | _ => false

/-- Lays out a pattern. `place` counts the alternatives before it in the same choice. -/
def lay (backwards : Bool) : Pattern → Nat → Machine → Laid
  | empty, _, m => return (← m.add 1 0, false)
  | .text cs, _, m => return (← m.add (textBytes cs).length 0, false)
  | char s, _, m => return (← m.addSet backwards s, false)
  | anchor _, _, m => return (← m.add 1 0, false)
  | seq p q, _, m => do
    if backwards then
      let (m, branching) ← lay backwards q 0 m
      lay backwards p 0 (← m.link branching)
    else
      let (m, branching) ← lay backwards p 0 m
      lay backwards q 0 (← m.link branching)
  | alt p q, place, m => do
    match if place = 0 then texts? (alternatives (alt p q)) else none with
    | some texts =>
      let words := texts.map fun cs => if backwards then (textBytes cs).reverse else textBytes cs
      let longest := (words.map List.length).foldl max 0
      return (← layWords (longest + 1) words (← m.add 1 0), false)
    | none =>
      let (m, branching) ← lay backwards p 0 m
      let m ← (← m.link branching).add 0 Machine.bytesPerBranch
      let m ← m.add (if place = 1 then 2 else 0) 0
      if q.isChoice then lay backwards q (place + 1) m
      else
        let (m, branching) ← lay backwards q 0 m
        let m ← (← m.link branching).add 0 Machine.bytesPerBranch
        return (← m.add (if place = 0 then 2 else 0) 0, false)
  | times p least most _, _, m =>
    layRepeated (lay backwards p 0) (p.leastLength.any (0 < ·)) least most m
  | group _ p, _, m => do
    if backwards then lay backwards p 0 m
    else
      let (m, branching) ← lay backwards p 0 (← m.add 1 0)
      return (← (← m.link branching).add 1 0, false)

/-! ## Whole machines -/

/-- Whether every piece starts at the start of the text, as can be seen from the pattern. -/
def startsText : Pattern → Bool
  | anchor a => a = .textStart
  | seq p q => p.startsText || (p.mostLength = some 0 && q.startsText)
  | alt p q => p.startsText && q.startsText
  | times p least _ _ => 0 < least && p.startsText
  | group _ p => p.startsText
  | empty | .text _ | char _ => false

/-- Whether every piece ends at the end of the text, as can be seen from the pattern. -/
def endsText : Pattern → Bool
  | anchor a => a = .textEnd
  | seq p q => q.endsText || (q.mostLength = some 0 && p.endsText)
  | alt p q => p.endsText && q.endsText
  | times p least _ _ => 0 < least && p.endsText
  | group _ p => p.endsText
  | empty | .text _ | char _ => false

/-- The machine for a pattern: it starts with states that skip any bytes, if the pattern does not
say where it starts, and ends with the state of a match. Read forwards, it notes where the piece
starts and ends. -/
def machine? (backwards : Bool) (p : Pattern) : Option Machine := do
  let bound := if backwards then p.endsText else p.startsText
  let m ← if bound then Machine.add ⟨0, 0⟩ 1 0
    else Machine.add ⟨0, 0⟩ 3 (2 * Machine.bytesPerBranch + Machine.bytesPerRange)
  let (m, branching) ← lay backwards (if backwards then p else .group 0 p) 0 m
  (← m.link branching).add 1 0

/-- Whether the machines for a pattern are small enough, read forwards and backwards. -/
def fits (p : Pattern) : Bool := (machine? false p).isSome && (machine? true p).isSome

end Metering.Pattern
