import Metering.Text.Span

/-!
# Metering — sets of characters

A set of characters is kept as the ascending intervals of their numbers, with other characters
between any two. Sets are combined interval by interval, so that even the set of all characters
but one is small.

* `Interval` and `CharSet` — the sets;
* `CharSet.holds` — whether a character belongs to a set;
* `CharSet.union`, `inter`, `diff`, `either`, `negated` — combinations of sets;
* `CharSet.ofTable`, `CharSet.listed?` — the sets whose characters texts and tables list.
-/

namespace Metering.Text

/-! ## Intervals -/

/-- The characters whose numbers go from `first` to `last`. -/
structure Interval where
  first : Nat
  last : Nat
  deriving DecidableEq

/-- The largest number of a character. -/
def lastNumber : Nat := 0x10FFFF

/-- The number of the next character: the surrogates are left out. -/
def numberAfter (n : Nat) : Nat := if n = 0xD7FF then 0xE000 else n + 1

/-- The number of the character before: the surrogates are left out. -/
def numberBefore (n : Nat) : Nat := if n = 0xE000 then 0xD7FF else n - 1

namespace Interval

/-- The interval of one number. -/
def one (n : Nat) : Interval := ⟨n, n⟩

/-- The interval from the smaller of two numbers to the larger. -/
def between (a b : Nat) : Interval := if a ≤ b then ⟨a, b⟩ else ⟨b, a⟩

/-- What two intervals have in common, as a list of at most one interval. -/
def common (i j : Interval) : List Interval :=
  let first := max i.first j.first
  let last := min i.last j.last
  if first ≤ last then [⟨first, last⟩] else []

/-- The intervals of a span: one, or one for each number if the numbers have distances. -/
def ofSpan (s : Span) : List Interval :=
  if s.step ≤ 1 then [⟨s.first, s.last⟩]
  else (List.range ((s.last - s.first) / s.step + 1)).map fun k => one (s.first + k * s.step)

/-- Whether a number belongs to one of some ascending intervals. -/
def anyHolds : List Interval → Nat → Bool
  | [], _ => false
  | i :: more, n => if n < i.first then false else n ≤ i.last || anyHolds more n

/-- Intervals in the order of their first numbers, with those put together that overlap or leave
nothing between them. -/
def joined (i : Interval) : List Interval → List Interval
  | [] => [i]
  | j :: more =>
    if j.first ≤ i.last + 1 then joined ⟨i.first, max i.last j.last⟩ more else i :: joined j more

/-- What two lists of ascending intervals have in common. -/
def meet : List Interval → List Interval → List Interval
  | [], _ => []
  | _, [] => []
  | i :: is, j :: js =>
    if i.last < j.last then i.common j ++ meet is (j :: js) else i.common j ++ meet (i :: is) js
termination_by is js => is.length + js.length

/-- What is left of ascending intervals without others. -/
def without : List Interval → List Interval → List Interval
  | [], _ => []
  | is, [] => is
  | i :: is, j :: js =>
    if j.last < i.first then without (i :: is) js
    else if i.last < j.first then i :: without is (j :: js)
    else
      let front := if i.first < j.first then [⟨i.first, numberBefore j.first⟩] else []
      if j.last < i.last then front ++ without (⟨numberAfter j.last, i.last⟩ :: is) js
      else front ++ without is (j :: js)
termination_by is js => is.length + js.length

/-- What lies between ascending intervals and after them. Between the intervals that end and start
at the surrogates there is no character, and the two characters beside the surrogates stand in. -/
def after (i : Interval) : List Interval → List Interval
  | [] => if i.last < lastNumber then [⟨numberAfter i.last, lastNumber⟩] else []
  | j :: more => between (numberAfter i.last) (numberBefore j.first) :: after j more

end Interval

/-! ## Sets -/

/-- A set of characters by the ascending intervals of their numbers. -/
structure CharSet where
  intervals : List Interval
  deriving DecidableEq

namespace CharSet

/-- The set without characters. -/
def empty : CharSet := ⟨[]⟩

/-- The set of all characters. -/
def all : CharSet := ⟨[⟨0, lastNumber⟩]⟩

/-- The set of the characters of intervals, which may overlap and be in any order. -/
def ofIntervals (is : List Interval) : CharSet :=
  match is.mergeSort fun i j => i.first ≤ j.first with
  | [] => empty
  | i :: more => ⟨i.joined more⟩

/-- The set of the characters from one number to another. -/
def span (first last : Nat) : CharSet := ⟨[⟨first, last⟩]⟩

/-- The set of one character. -/
def one (c : Char) : CharSet := span c.toNat c.toNat

/-- The set of the listed characters. -/
def ofList (cs : List Char) : CharSet := ofIntervals (cs.map fun c => .one c.toNat)

/-- The set whose characters a text lists by their spans. -/
def ofTable (text : String) : CharSet := ofIntervals ((Span.readAll text).flatMap Interval.ofSpan)

/-- Whether a character belongs to the set. -/
def holds (s : CharSet) (c : Char) : Bool := Interval.anyHolds s.intervals c.toNat

/-- Whether no character belongs to the set. -/
def isEmpty (s : CharSet) : Bool := s.intervals.isEmpty

/-- Whether the set holds some of the first 128 characters only. -/
def isPlain (s : CharSet) : Bool := s.intervals.all fun i => i.last < 128

/-- The number of the only character of the set. -/
def single? (s : CharSet) : Option Nat :=
  match s.intervals with
  | [i] => if i.first = i.last then some i.first else none
  | _ => none

/-! ## Combinations -/

/-- What is in one of the two sets. -/
def union (a b : CharSet) : CharSet := ofIntervals (a.intervals ++ b.intervals)

/-- What is in one of some sets. -/
def unions (sets : List CharSet) : CharSet := ofIntervals (sets.flatMap intervals)

/-- What is in both sets. -/
def inter (a b : CharSet) : CharSet := ⟨Interval.meet a.intervals b.intervals⟩

/-- What is in the first set and not in the second. -/
def diff (a b : CharSet) : CharSet := ⟨Interval.without a.intervals b.intervals⟩

/-- What is in one of the two sets and not in both. -/
def either (a b : CharSet) : CharSet := (a.union b).diff (a.inter b)

/-- What is not in the set. -/
def negated (s : CharSet) : CharSet :=
  match s.intervals with
  | [] => all
  | i :: more =>
    ⟨(if 0 < i.first then [⟨0, numberBefore i.first⟩] else []) ++ i.after more⟩

/-! ## Tables of sets -/

/-- The entry of a table whose names, with blanks between them, hold the given name. -/
def named? (table : List (String × String)) (name : List Char) : Option (String × String) :=
  table.find? fun entry => (Span.words entry.1.toList).contains name

/-- The set that a table lists under a name. -/
def listed? (table : List (String × String)) (name : List Char) : Option CharSet :=
  (named? table name).map fun entry => ofTable entry.2

end CharSet

end Metering.Text
