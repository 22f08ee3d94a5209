import Metering.Text.CharSet

/-!
# Metering — characters as bytes

A matcher reads characters as sequences of one to four bytes. The characters of an interval are
those of a few rows of byte ranges, in which every byte can be chosen without regard to the others.

* `ByteRange` — the bytes from one to another;
* `Interval.byteRows` — the rows of an interval, in the order of their characters.
-/

namespace Metering

/-- The bytes from `first` to `last`. -/
structure ByteRange where
  first : UInt8
  last : UInt8
  deriving DecidableEq

namespace Text.Interval

/-- The intervals of the characters of one, two, three and four bytes, without the surrogates. -/
def sameLength : List Interval :=
  [⟨0, 0x7F⟩, ⟨0x80, 0x7FF⟩, ⟨0x800, 0xD7FF⟩, ⟨0xE000, 0xFFFF⟩, ⟨0x10000, lastNumber⟩]

/-- The interval cut in two where its numbers differ before their last `6 * k` bits although it
does not hold all numbers with the same bits before, for the first such `k`. -/
def cut? (i : Interval) : List Nat → Option (Interval × Interval)
  | [] => none
  | k :: more =>
    let size := 2 ^ (6 * k)
    if i.first / size ≠ i.last / size ∧ i.first % size ≠ 0 then
      let next := (i.first / size + 1) * size
      some (⟨i.first, next - 1⟩, ⟨next, i.last⟩)
    else if i.first / size ≠ i.last / size ∧ i.last % size ≠ size - 1 then
      let next := i.last / size * size
      some (⟨i.first, next - 1⟩, ⟨next, i.last⟩)
    else cut? i more

/-- The parts of an interval of characters of the same length that need no more cuts. There are at
most six cuts, three at either end. -/
def parts : Nat → Interval → List Interval
  | 0, i => [i]
  | fuel + 1, i =>
    match i.cut? [1, 2, 3] with
    | some (front, rest) => parts fuel front ++ parts fuel rest
    | none => [i]

/-- The bytes of the character of a number. -/
def bytes (n : Nat) : List UInt8 := String.utf8EncodeChar (Char.ofNat n)

/-- The rows of byte ranges of the characters of an interval. -/
def byteRows (i : Interval) : List (List ByteRange) :=
  ((sameLength.flatMap i.common).flatMap (parts 8)).map fun part =>
    (bytes part.first).zipWith ByteRange.mk (bytes part.last)

end Text.Interval

end Metering
