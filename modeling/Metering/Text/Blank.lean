/-!
# Metering — blank characters and plain letter case

Texts that people type (level names, switches) are read after the blanks at both ends are cut
off and without regard to the case of the letters `A` to `Z`.

* `isBlank` — the characters that count as blank, in all scripts;
* `trimmed` — a text without the blanks at its ends;
* `sameLetters` — equality of two texts up to the case of plain letters.
-/

namespace Metering.Text

/-- The blank characters: controls 9 to 13, the space, and the spaces and line or paragraph
separators outside the first 128 characters. -/
def isBlank (c : Char) : Bool :=
  let n := c.toNat
  (9 ≤ n && n ≤ 13) || n == 0x20 || n == 0x85 || n == 0xA0 || n == 0x1680 ||
    (0x2000 ≤ n && n ≤ 0x200A) || n == 0x2028 || n == 0x2029 || n == 0x202F ||
    n == 0x205F || n == 0x3000

/-- The text without the blanks at its front. -/
def trimmedFront (cs : List Char) : List Char := cs.dropWhile isBlank

/-- The text without the blanks at either end. -/
def trimmed (cs : List Char) : List Char :=
  (trimmedFront (trimmedFront cs).reverse).reverse

/-- The text with every letter `A` to `Z` replaced by its small form. -/
def lowered (cs : List Char) : List Char := cs.map Char.toLower

/-- Equality up to the case of the letters `A` to `Z`. -/
def sameLetters (a b : List Char) : Bool := lowered a == lowered b

end Metering.Text
