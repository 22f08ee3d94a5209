import Metering.Text.Property
import Metering.Text.Span

/-!
# Metering — the tokens of RON

RON is a notation for settings with named records, optional values and comments.

* `gap?` — the text after blanks and comments;
* `identifier?` — a name, which may be marked as raw to hold dots, dashes and plus signs;
* `text?` — a quoted text, with escapes or raw;
* `word?` — a whole number below `2 ^ 64`;
* `afterNumberOrRange?` — the text after a number of any kind or a range.

A token reader gives the token and the text after it, or nothing if the text does not start with
such a token.
-/

namespace Metering.Ron

/-! ## Gaps -/

/-- The blanks of RON. -/
def isBlank (c : Char) : Bool :=
  [0x20, 0x09, 0x0A, 0x0D, 0x0B, 0x0C, 0x85, 0x200E, 0x200F, 0x2028, 0x2029].contains c.toNat

/-- Where a reader of gaps is: between tokens, in a comment up to the end of the line, or in a
comment that ends with a mark of its own and lies in `outer` others. -/
inductive GapState where
  | outside
  | line
  | block (outer : Nat)

/-- The text after a gap. A slash must start a comment, and a comment with marks must end. -/
def gapFrom : GapState → List Char → Option (List Char)
  | .outside, '/' :: '/' :: rest => gapFrom .line rest
  | .outside, '/' :: '*' :: rest => gapFrom (.block 0) rest
  | .outside, '/' :: _ => none
  | .outside, c :: rest => if isBlank c then gapFrom .outside rest else some (c :: rest)
  | .outside, [] => some []
  | .line, c :: rest => if c = '\n' then gapFrom .outside rest else gapFrom .line rest
  | .line, [] => some []
  | .block n, '/' :: '*' :: rest => gapFrom (.block (n + 1)) rest
  | .block 0, '*' :: '/' :: rest => gapFrom .outside rest
  | .block (n + 1), '*' :: '/' :: rest => gapFrom (.block n) rest
  | .block n, _ :: rest => gapFrom (.block n) rest
  | .block _, [] => none

/-- The text after blanks and comments. -/
def gap? (cs : List Char) : Option (List Char) := gapFrom .outside cs

/-- The text after a fixed text, if it starts with that. -/
def after? (fixed cs : List Char) : Option (List Char) :=
  if fixed.isPrefixOf cs then some (cs.drop fixed.length) else none

/-- Whether there was a comma between two gaps, and the text after it. -/
def comma? (cs : List Char) : Option (Bool × List Char) :=
  match gap? cs with
  | some (',' :: rest) => (gap? rest).map fun rest => (true, rest)
  | some rest => some (false, rest)
  | none => none

/-! ## Names -/

/-- Whether a character may start a name. -/
def startsName (c : Char) : Bool := c == '_' || Text.startsIdentifier c

/-- Whether a character may be part of a name. -/
def isNameChar (c : Char) : Bool := Text.continuesIdentifier c

/-- Whether a character may be part of a raw name. -/
def isRawNameChar (c : Char) : Bool := c == '.' || c == '+' || c == '-' || isNameChar c

/-- Whether the text starts with a character of a name. -/
def nameGoesOn (cs : List Char) : Bool := cs.head?.any isNameChar

/-- The text after a fixed name that does not go on. -/
def keyword? (name : String) (cs : List Char) : Option (List Char) :=
  match after? name.toList cs with
  | some rest => if nameGoesOn rest then none else some rest
  | none => none

/-- Whether the text starts with a quoted text that has a letter in front. -/
def startsMarkedText (cs : List Char) : Bool :=
  match cs with
  | 'b' :: '"' :: _ | 'b' :: '\'' :: _ | 'r' :: '"' :: _ | 'b' :: 'r' :: '"' :: _
  | 'b' :: 'r' :: '#' :: _ | 'r' :: '#' :: '"' :: _ | 'r' :: '#' :: '#' :: _ => true
  | _ => false

/-- A name. After the mark of a raw name all of its characters belong to it; an unmarked name
must not be followed by one that only a raw name may hold. -/
def identifier? (cs : List Char) : Option (String × List Char) :=
  if startsMarkedText cs then none
  else
    match cs with
    | [] => none
    | first :: _ =>
      if !startsName first then none
      else
        match after? ['r', '#'] cs with
        | some rest =>
          let name := rest.takeWhile isRawNameChar
          if name = [] then none
          else some (String.ofList name, rest.dropWhile isRawNameChar)
        | none =>
          let rest := cs.dropWhile isNameChar
          if rest.head?.any isRawNameChar then none
          else some (String.ofList (cs.takeWhile isNameChar), rest)

/-! ## Quoted text -/

/-- The value of a hexadecimal digit. -/
def hexValue? (c : Char) : Option Nat :=
  if c.isDigit || ('a' ≤ c.toLower && c.toLower ≤ 'f') then
    some (Text.Span.digitValue c.toLower)
  else none

/-- The byte of two hexadecimal digits. -/
def byte? (a b : Char) : Option Nat := do return (← hexValue? a) * 16 + (← hexValue? b)

/-- The character of a number, if there is one. -/
def charOf? (n : Nat) : Option Char := if n.isValidChar then some (Char.ofNat n) else none

/-- Further bytes of a character, each written as an escape. -/
def moreBytes : Nat → List Char → Option (List Nat × List Char)
  | 0, cs => some ([], cs)
  | n + 1, '\\' :: 'x' :: a :: b :: rest =>
    match byte? a b, moreBytes n rest with
    | some byte, some (bytes, rest) => some (byte :: bytes, rest)
    | _, _ => none
  | _ + 1, _ => none

/-- The number of a character from the part of its first byte and its further bytes. -/
def joinBytes (first : Nat) (bytes : List Nat) : Option Nat :=
  if bytes.all fun b => 0x80 ≤ b && b < 0xC0 then
    some (bytes.foldl (fun n b => n * 64 + (b - 0x80)) first)
  else none

/-- The character of bytes written as escapes, of which the first has been read: one byte below
128, or two to four bytes as the first one says. -/
def byteChar? (first : Nat) (cs : List Char) : Option (Char × List Char) :=
  let finish (part least count : Nat) : Option (Char × List Char) :=
    match moreBytes count cs with
    | some (bytes, rest) =>
      match joinBytes part bytes with
      | some n => if n < least then none else (charOf? n).map fun c => (c, rest)
      | none => none
    | none => none
  if first < 0x80 then some (Char.ofNat first, cs)
  else if 0xC0 ≤ first ∧ first < 0xE0 then finish (first - 0xC0) 0x80 1
  else if 0xE0 ≤ first ∧ first < 0xF0 then finish (first - 0xE0) 0x800 2
  else if 0xF0 ≤ first ∧ first < 0xF8 then finish (first - 0xF0) 0x10000 3
  else none

/-- The character that an escape stands for, after the backslash. In a quoted character an escape
for one byte must stand for a whole character. -/
def escape? (lone : Bool) (cs : List Char) : Option (Char × List Char) :=
  match cs with
  | '\'' :: rest => some ('\'', rest)
  | '"' :: rest => some ('"', rest)
  | '\\' :: rest => some ('\\', rest)
  | 'n' :: rest => some ('\n', rest)
  | 'r' :: rest => some ('\r', rest)
  | 't' :: rest => some ('\t', rest)
  | '0' :: rest => some (Char.ofNat 0, rest)
  | 'x' :: a :: b :: rest =>
    (byte? a b).bind fun first => if lone && 0x80 ≤ first then none else byteChar? first rest
  | 'u' :: '{' :: rest =>
    let digits := rest.takeWhile (· ≠ '}')
    match rest.dropWhile (· ≠ '}') with
    | '}' :: rest =>
      if digits = [] ∨ 6 < digits.length then none
      else
        match digits.mapM hexValue? with
        | some values =>
          (charOf? (values.foldl (fun n d => 16 * n + d) 0)).map fun c => (c, rest)
        | none => none
    | _ => none
  | _ => none

/-- The text after the end of a line and the blanks after it, at which a backslash breaks a quoted
text so that it goes on in a later line. -/
def afterBreak? (cs : List Char) : Option (List Char) :=
  let isSkipped (c : Char) : Bool := c == ' ' || c == '\t' || c == '\n' || c == '\r'
  match cs with
  | '\n' :: rest | '\r' :: '\n' :: rest => some (rest.dropWhile isSkipped)
  | _ => none

/-- The rest of a text after its opening quote. Each step reads at least one character, so the
length of the text is fuel enough. -/
def textRest : Nat → List Char → Option (List Char × List Char)
  | 0, _ => none
  | _ + 1, [] => none
  | _ + 1, '"' :: rest => some ([], rest)
  | fuel + 1, '\\' :: rest =>
    match afterBreak? rest, escape? false rest with
    | some rest, _ => textRest fuel rest
    | none, some (c, rest) => (textRest fuel rest).map fun (s, after) => (c :: s, after)
    | none, none => none
  | fuel + 1, c :: rest => (textRest fuel rest).map fun (s, after) => (c :: s, after)

/-- The text up to a closing mark, and the text after the mark. -/
def upTo (mark : List Char) : List Char → Option (List Char × List Char)
  | [] => none
  | c :: rest =>
    if mark.isPrefixOf (c :: rest) then some ([], (c :: rest).drop mark.length)
    else (upTo mark rest).map fun (s, after) => (c :: s, after)

/-- The rest of a raw text after its letter: hash signs, and a text between quotes that ends at a
quote with as many hash signs. -/
def rawTextRest (cs : List Char) : Option (List Char × List Char) :=
  let hashes := cs.takeWhile (· = '#')
  match cs.dropWhile (· = '#') with
  | '"' :: rest => upTo ('"' :: hashes) rest
  | _ => none

/-- A quoted text, with escapes or raw. -/
def text? (cs : List Char) : Option (List Char × List Char) :=
  match cs with
  | '"' :: rest => textRest (rest.length + 1) rest
  | 'r' :: rest => rawTextRest rest
  | _ => none

/-! ## Whole numbers -/

/-- Whether a character may be part of a whole number. -/
def isNumberChar (c : Char) : Bool := (hexValue? c).isSome || c == '_'

/-- The base that the start of a number names, and the text after that. -/
def base (cs : List Char) : Nat × List Char :=
  match cs with
  | '0' :: 'b' :: rest => (2, rest)
  | '0' :: 'o' :: rest => (8, rest)
  | '0' :: 'x' :: rest => (16, rest)
  | cs => (10, cs)

/-- A sign, if there is one: whether it is a minus, and the text after it. -/
def sign (cs : List Char) : Bool × List Char :=
  match cs with
  | '+' :: rest => (false, rest)
  | '-' :: rest => (true, rest)
  | cs => (false, cs)

/-- What comes of reading a whole number. -/
inductive Reading where
  /-- The number without its sign, and the text after it. -/
  | number (n : Nat) (rest : List Char)
  /-- There are no digits, or the text starts with one that does not fit. -/
  | misfit (rest : List Char)
  /-- The number is too large; the text after its digits. -/
  | tooLarge (rest : List Char)

/-- Reads the further digits of a number up to a bound; underscores count for nothing. -/
def readDigits (base bound : Nat) : Nat → List Char → Reading
  | n, [] => .number n []
  | n, c :: rest =>
    if c = '_' then readDigits base bound n rest
    else
      match hexValue? c with
      | none => .number n (c :: rest)
      | some d =>
        if bound < n * base then .tooLarge ((c :: rest).dropWhile isNumberChar)
        else if base ≤ d then .misfit (c :: rest)
        else if bound < n * base + d then .tooLarge ((c :: rest).dropWhile isNumberChar)
        else readDigits base bound (n * base + d) rest

/-- Reads a whole number without its sign up to a bound. -/
def readMagnitude (bound : Nat) (cs : List Char) : Reading :=
  let (base, rest) := base cs
  match rest with
  | [] => .misfit []
  | c :: more =>
    if (hexValue? c).isSome then readDigits base bound 0 (c :: more) else .misfit (c :: more)

/-- The types that a whole number may name, with their bounds below and above. -/
def wordTypes : List (String × Nat × Nat) :=
  [("i8", UInt8.size / 2, UInt8.size / 2 - 1), ("i16", UInt16.size / 2, UInt16.size / 2 - 1),
    ("i32", UInt32.size / 2, UInt32.size / 2 - 1), ("i64", UInt64.size / 2, UInt64.size / 2 - 1),
    ("u8", 0, UInt8.size - 1), ("u16", 0, UInt16.size - 1), ("u32", 0, UInt32.size - 1),
    ("u64", 0, UInt64.size - 1)]

/-- The type that the number after a sign names, with its bounds: the name follows the first run
of digits, so a base that is named hides it, unless its letter is a digit. -/
def wordType? (unsigned : List Char) : Option (String × Nat × Nat) :=
  wordTypes.find? fun type => (keyword? type.1 (unsigned.dropWhile isNumberChar)).isSome

/-- The text after the name of a type. -/
def afterType (type : String) (cs : List Char) : List Char := (keyword? type cs).getD cs

/-- A whole number below `2 ^ 64`. Only zero may have a minus in front, and a type may be named
if it is the type of these numbers. -/
def word? (cs : List Char) : Option (UInt64 × List Char) :=
  let (negative, rest) := sign cs
  let type := ((wordType? rest).map Prod.fst).getD "u64"
  match readMagnitude (if negative then 0 else UInt64.size - 1) rest with
  | .number n rest => if type = "u64" then some (UInt64.ofNat n, afterType type rest) else none
  | .misfit _ | .tooLarge _ => none

/-- What comes of reading a whole number with its sign and type. -/
def readInteger (cs : List Char) : Reading :=
  let (negative, rest) := sign cs
  match wordType? rest with
  | some (type, below, above) =>
    match readMagnitude (if negative then below else above) rest with
    | .number n rest => .number n (afterType type rest)
    | .misfit rest => .misfit rest
    | .tooLarge rest => .tooLarge (afterType type rest)
  | none => readMagnitude (if negative then UInt64.size / 2 else UInt64.size - 1) rest

/-! ## Real numbers -/

/-- Whether a character may be part of a real number. -/
def isRealChar (c : Char) : Bool :=
  c.isDigit || c == 'e' || c == 'E' || c == '.' || c == '+' || c == '-' || c == '_'

/-- The characters of a real number at the front of a text, which end before two points, and the
text after them. -/
def realRun : List Char → List Char × List Char
  | [] => ([], [])
  | '.' :: '.' :: rest => ([], '.' :: '.' :: rest)
  | c :: rest =>
    if isRealChar c then
      let (run, after) := realRun rest
      (c :: run, after)
    else ([], c :: rest)

/-- Whether the underscores of a real number stand after digits and exponent marks only. -/
def underscoresFit (allowed : Bool) : List Char → Bool
  | [] => true
  | c :: rest =>
    if c = '_' then allowed && underscoresFit allowed rest
    else if c.isDigit || c == 'e' || c == 'E' then underscoresFit true rest
    else if c = '.' then underscoresFit false rest
    else underscoresFit allowed rest

/-- Whether a text without underscores is a real number: digits with at most one point among
them, and an exponent that may be missing. -/
def isReal (cs : List Char) : Bool :=
  let (_, cs) := sign cs
  let whole := cs.takeWhile Char.isDigit
  let rest := cs.dropWhile Char.isDigit
  let (fraction, rest) := match rest with
    | '.' :: rest => (rest.takeWhile Char.isDigit, rest.dropWhile Char.isDigit)
    | rest => ([], rest)
  let exponentFits := match rest with
    | [] => true
    | e :: rest =>
      let digits := (sign rest).2
      (e == 'e' || e == 'E') && !digits.isEmpty && digits.all Char.isDigit
  (!whole.isEmpty || !fraction.isEmpty) && exponentFits

/-- The first of the names that the text starts with, and the text after it. -/
def anyKeyword? (names : List String) (cs : List Char) : Option (List Char) :=
  names.findSome? fun name => keyword? name cs

/-- The text after the name of a number that is not finite. -/
def afterUnbounded? (cs : List Char) : Option (List Char) :=
  anyKeyword? ["inf", "inff32", "inff64", "NaN", "NaNf32", "NaNf64"] cs

/-- The text after a real number. -/
def afterReal? (cs : List Char) : Option (List Char) :=
  match afterUnbounded? (sign cs).2 with
  | some rest => some rest
  | none =>
    let (written, rest) := realRun cs
    if written.head?.any (· ≠ '_') && underscoresFit false written
      && isReal (written.filter (· ≠ '_')) then some ((anyKeyword? ["f32", "f64"] rest).getD rest)
    else none

/-! ## Numbers of any kind -/

/-- The text after a byte between quotes. -/
def afterByte? (cs : List Char) : Option (List Char) :=
  match cs with
  | 'b' :: '\'' :: '\\' :: 'x' :: a :: b :: '\'' :: rest =>
    if (byte? a b).isSome then some rest else none
  | 'b' :: '\'' :: '\\' :: 'u' :: _ => none
  | 'b' :: '\'' :: '\\' :: rest =>
    match escape? true rest with
    | some (_, '\'' :: rest) => some rest
    | _ => none
  | 'b' :: '\'' :: c :: '\'' :: rest => if c.toNat < 128 then some rest else none
  | _ => none

/-- The text after a number of any kind. It is real if it is longer so, or if the real number goes
at least as far as a whole number that cannot be read. -/
def afterNumber? (cs : List Char) : Option (List Char) :=
  let unsigned := (sign cs).2
  let real (stopped : List Char) : Option (List Char) :=
    (afterReal? cs).filter fun rest => rest.length ≤ stopped.length
  match cs with
  | 'b' :: '\'' :: _ => afterByte? cs
  | _ =>
    if (unsigned.takeWhile isNumberChar).length < (realRun unsigned).1.length then afterReal? cs
    else
      match readInteger cs with
      | .number _ rest => some rest
      | .misfit rest | .tooLarge rest => real rest

/-- Whether the text starts like a number. -/
def startsNumber (cs : List Char) : Bool :=
  match cs with
  | 'b' :: '\'' :: _ => true
  | c :: _ => c.isDigit || c == '+' || c == '-' || c == '.' || (afterUnbounded? cs).isSome
  | [] => false

/-- The text after the rest of a range, if there is one: two points and a number that may be
missing, or the points, an equals sign and a number. -/
def afterRange? (cs : List Char) : Option (List Char) :=
  match cs with
  | '.' :: '.' :: '=' :: rest => afterNumber? rest
  | '.' :: '.' :: rest => if startsNumber rest then afterNumber? rest else some rest
  | cs => some cs

/-- The text after a number of any kind, or a range with a number at either end or without. -/
def afterNumberOrRange? (cs : List Char) : Option (List Char) :=
  match cs with
  | '.' :: '.' :: _ => afterRange? cs
  | cs => (afterNumber? cs).bind afterRange?

end Metering.Ron
