/-!
# Metering — spans of characters

Large sets of characters are written down as spans of character numbers: `41-5a` from one number
to another, `41` for a single one, and `100-12e:2` for every second one, as where capital and
small letters alternate.

* `Span` and `Span.holds` — a span and what belongs to it;
* `Span.readAll` — the spans that a text lists in hexadecimal.
-/

namespace Metering.Text

/-- The numbers from `first` to `last` at the distance `step`. -/
structure Span where
  first : Nat
  last : Nat
  step : Nat
  deriving DecidableEq

namespace Span

/-- Whether a number belongs to the span. -/
def holds (s : Span) (n : Nat) : Bool :=
  s.first ≤ n && n ≤ s.last && (n - s.first) % s.step == 0

/-! ## Reading -/

/-- The value of a digit in a table, which is hexadecimal with small letters. -/
def digitValue (c : Char) : Nat :=
  if c.toNat < 'a'.toNat then c.toNat - '0'.toNat else c.toNat - 'a'.toNat + 10

/-- The number that a text of hexadecimal digits stands for. -/
def number (cs : List Char) : Nat := cs.foldl (fun n c => 16 * n + digitValue c) 0

/-- Cuts a text at the first occurrence of a character, which is dropped. -/
def cut (mark : Char) (cs : List Char) : List Char × List Char :=
  (cs.takeWhile (· ≠ mark), (cs.dropWhile (· ≠ mark)).drop 1)

/-- The span that a word of a table stands for. -/
def read (word : List Char) : Span :=
  let (numbers, step) := cut ':' word
  let (first, last) := cut '-' numbers
  { first := number first
    last := if last = [] then number first else number last
    step := if step = [] then 1 else number step }

/-- A text cut at its blanks and line ends: the piece at the front, and the words after it. -/
def cutWords : List Char → List Char × List (List Char)
  | [] => ([], [])
  | c :: rest =>
    let (piece, done) := cutWords rest
    if c = ' ' || c = '\n' then ([], if piece = [] then done else piece :: done)
    else (c :: piece, done)

/-- The words of a text. -/
def words (cs : List Char) : List (List Char) :=
  let (piece, done) := cutWords cs
  if piece = [] then done else piece :: done

/-- The spans that a text lists. -/
def readAll (text : String) : List Span := (words text.toList).map read

end Span

end Metering.Text
