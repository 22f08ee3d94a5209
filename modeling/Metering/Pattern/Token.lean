import Metering.Pattern.Named
import Metering.Pattern.Normal
import Metering.Text.Folding

/-!
# Metering — the parts of a written pattern

A written pattern is a row of tokens: pieces that describe characters or places, repetitions of
the piece before them, groups, bars between alternatives, and changes of the modes in which what
follows is read.

* `Modes` — the modes and their changes;
* `gap` — the blanks and comments that count for nothing in the spacious mode;
* `Token` and `Token.read` — the next token of a text;
* `escape`, `bracketed` — pieces after a backslash and between brackets.
-/

namespace Metering.Pattern

open Text (CharSet)

/-! ## Modes -/

/-- The modes in which a pattern is read. -/
structure Modes where
  /-- Letters stand for both cases. -/
  caseless : Bool := false
  /-- Line ends count as ends of the text. -/
  multiLine : Bool := false
  /-- A dot stands for line ends too. -/
  dotAll : Bool := false
  /-- Repetitions prefer few pieces, unless they are marked. -/
  sparing : Bool := false
  /-- Sets of characters hold letters of all scripts. -/
  allScripts : Bool := true
  /-- Carriage returns end lines too. -/
  crossing : Bool := false
  /-- Blanks and comments count for nothing. -/
  spacious : Bool := false

/-- The letters that name the modes. -/
def modeLetters : List Char := ['i', 'm', 's', 'U', 'u', 'R', 'x']

/-- The modes with the mode of a letter turned on or off. -/
def Modes.set (m : Modes) (letter : Char) (on : Bool) : Modes :=
  match letter with
  | 'i' => { m with caseless := on }
  | 'm' => { m with multiLine := on }
  | 's' => { m with dotAll := on }
  | 'U' => { m with sparing := on }
  | 'u' => { m with allScripts := on }
  | 'R' => { m with crossing := on }
  | 'x' => { m with spacious := on }
  | _ => m

/-- Letters of modes, each to be turned on or off. -/
abbrev Change := List (Char × Bool)

/-- The modes after a change. -/
def Modes.apply (m : Modes) (change : Change) : Modes :=
  change.foldl (fun m c => m.set c.1 c.2) m

/-! ## Gaps -/

/-- The text after blanks and comments, which go from a hash sign to the end of the line. -/
def afterGap (inComment : Bool) : List Char → List Char
  | [] => []
  | c :: rest =>
    if inComment then afterGap (c != '\n') rest
    else if Text.isBlank c then afterGap false rest
    else if c = '#' then afterGap true rest
    else c :: rest

/-- The text after a gap, if gaps count for nothing. -/
def gap (m : Modes) (cs : List Char) : List Char :=
  if m.spacious then afterGap false cs else cs

/-- The characters of a class off the front of a text, at most so many if there is a limit, without
the gaps between and after them, and the text after them. -/
def run (m : Modes) (p : Char → Bool) : Option Nat → Bool → List Char → List Char × List Char
  | _, _, [] => ([], [])
  | limit, inComment, c :: rest =>
    if inComment then run m p limit (c != '\n') rest
    else if m.spacious && Text.isBlank c then run m p limit false rest
    else if m.spacious && c == '#' then run m p limit true rest
    else if limit ≠ some 0 ∧ p c = true then
      let (taken, after) := run m p (limit.map (· - 1)) false rest
      (c :: taken, after)
    else ([], c :: rest)

/-- All characters of a class off the front of a text. -/
def runAll (m : Modes) (p : Char → Bool) (cs : List Char) : List Char × List Char :=
  run m p none false cs

/-! ## Pieces -/

/-- A piece of a pattern, with how deep it is nested. -/
structure Piece where
  pattern : Pattern
  depth : Nat

/-- What stands after a backslash: one character, a set of characters, or a condition. -/
inductive Escape where
  | literal (c : Char)
  /-- A character of one byte by its number, which may stand for no character. -/
  | byte (n : Nat)
  | set (s : CharSet)
  | anchor (a : Anchor)

/-- Whether a character stands for something else in patterns. -/
def isMeta (c : Char) : Bool := "\\.+*?()|[]\x7b\x7d^$#&-~".toList.contains c

/-- Whether a backslash may stand before a character that stands for itself. -/
def isEscapable (c : Char) : Bool :=
  isMeta c || (c.toNat < 128 && !c.isAlphanum && c != '<' && c != '>')

/-- Whether a character is a hexadecimal digit. -/
def isHex (c : Char) : Bool := c.isDigit || ('a' ≤ c.toLower && c.toLower ≤ 'f')

/-- The number that a text of hexadecimal digits stands for. -/
def hexNumber (cs : List Char) : Nat := Text.Span.number (cs.map Char.toLower)

/-- The character of a number, if there is one. -/
def charOf? (n : Nat) : Option Char :=
  if n.isValidChar then some (Char.ofNat n) else none

/-- A character by its number in hexadecimal: in braces, or with a fixed count of digits. -/
def hexEscape (m : Modes) (count : Nat) (cs : List Char) : Option (Escape × List Char) :=
  match gap m cs with
  | [] => none
  | '{' :: rest =>
    match runAll m (· ≠ '}') (gap m rest) with
    | (digits, '}' :: rest) =>
      if digits ≠ [] ∧ digits.all isHex = true then
        (charOf? (hexNumber digits)).map fun c => (.literal c, gap m rest)
      else none
    | _ => none
  | c :: rest =>
    match run m isHex (some count) false (c :: rest) with
    | (digits, rest) =>
      if digits.length < count then none
      else if count = 2 then some (.byte (hexNumber digits), rest)
      else (charOf? (hexNumber digits)).map fun c => (.literal c, rest)

/-- The texts before and after the first occurrence of a mark. -/
def splitAtMark (mark : List Char) : List Char → Option (List Char × List Char)
  | [] => none
  | c :: rest =>
    if mark.isPrefixOf (c :: rest) then some ([], (c :: rest).drop mark.length)
    else (splitAtMark mark rest).map fun (before, after) => (c :: before, after)

/-- The property in braces, a name, or a name and a value: its set, and whether it is what is left
without the set. -/
def bracedProperty? (written : List Char) : Option (CharSet × Bool) :=
  match splitAtMark ['!', '='] written with
  | some (name, value) => (valuedProperty? name value).map fun s => (s, true)
  | none =>
    match splitAtMark [':'] written with
    | some (name, value) => (valuedProperty? name value).map fun s => (s, false)
    | none =>
      match splitAtMark ['='] written with
      | some (name, value) => (valuedProperty? name value).map fun s => (s, false)
      | none => (property? written).map fun s => (s, false)

/-- The set with the variants in letter case that the modes ask for. -/
def Modes.variants (m : Modes) (s : CharSet) : CharSet :=
  if m.caseless then if m.allScripts then s.variants else s.plainVariants else s

/-- The set with its variants or what is left without them, if it stays among the plain characters
where sets hold only those. -/
def Modes.finish (m : Modes) (negated : Bool) (s : CharSet) : Option CharSet :=
  let s := if negated then (m.variants s).negated else m.variants s
  if m.allScripts || s.isPlain then some s else none

/-- The set of a property after a backslash and `p`, or what is left after `P`. -/
def propertyEscape (m : Modes) (negated : Bool) (cs : List Char) :
    Option (Escape × List Char) :=
  let finish (found : Option (CharSet × Bool)) (rest : List Char) : Option (Escape × List Char) :=
    match found with
    | some (s, inverse) =>
      if m.allScripts then (m.finish (negated != inverse) s).map fun s => (.set s, rest) else none
    | none => none
  match gap m cs with
  | [] => none
  | '{' :: rest =>
    match runAll m (· ≠ '}') (gap m rest) with
    | (written, '}' :: rest) => finish (bracedProperty? written) rest
    | _ => none
  | c :: rest =>
    if c = '\\' then none
    else finish ((property? [c]).map fun s => (s, false)) (gap m rest)

/-- The condition that a word in braces after `b` names. -/
def edgeWord? (plain : Bool) (word : List Char) : Option Anchor :=
  match String.ofList word with
  | "start" => some (.wordStart plain)
  | "end" => some (.wordEnd plain)
  | "start-half" => some (.wordStartHalf plain)
  | "end-half" => some (.wordEndHalf plain)
  | _ => none

/-- Whether a character may stand in a word in braces after `b`. -/
def isEdgeChar (c : Char) : Bool := c.isAlpha || c == '-'

/-- The edge of a word, of the kind that a word in braces names. Braces that hold no word are a
repetition. -/
def edgeEscape (m : Modes) (cs : List Char) : Option (Escape × List Char) :=
  let plain := !m.allScripts
  match cs with
  | '{' :: rest =>
    match gap m rest with
    | [] => none
    | c :: rest =>
      if isEdgeChar c then
        match runAll m isEdgeChar (c :: rest) with
        | (word, '}' :: rest) => (edgeWord? plain word).map fun a => (.anchor a, rest)
        | _ => none
      else some (.anchor (.wordEdge plain), cs)
  | _ => some (.anchor (.wordEdge plain), cs)

/-- What the text after a backslash starts with. -/
def escape (m : Modes) (cs : List Char) : Option (Escape × List Char) :=
  let plain := !m.allScripts
  match cs with
  | [] => none
  | 'x' :: rest => hexEscape m 2 rest
  | 'u' :: rest => hexEscape m 4 rest
  | 'U' :: rest => hexEscape m 8 rest
  | 'p' :: rest => propertyEscape m false rest
  | 'P' :: rest => propertyEscape m true rest
  | 'a' :: rest => some (.literal (Char.ofNat 7), rest)
  | 'f' :: rest => some (.literal (Char.ofNat 12), rest)
  | 't' :: rest => some (.literal '\t', rest)
  | 'n' :: rest => some (.literal '\n', rest)
  | 'r' :: rest => some (.literal '\r', rest)
  | 'v' :: rest => some (.literal (Char.ofNat 11), rest)
  | 'A' :: rest => some (.anchor .textStart, rest)
  | 'z' :: rest => some (.anchor .textEnd, rest)
  | 'b' :: rest => edgeEscape m rest
  | 'B' :: rest => some (.anchor (.noWordEdge plain), rest)
  | '<' :: rest => some (.anchor (.wordStart plain), rest)
  | '>' :: rest => some (.anchor (.wordEnd plain), rest)
  | c :: rest =>
    match perl? plain c, perl? plain c.toLower with
    | some s, _ => some (.set s, rest)
    | none, some s => if plain then none else some (.set s.negated, rest)
    | none, none => if isEscapable c then some (.literal c, rest) else none

/-! ## Brackets -/

/-- A set inside brackets, with how deep it is nested. -/
abbrev Item := CharSet × Nat

/-- How sets inside brackets are combined. -/
inductive SetOp where
  | inter
  | diff
  | either
  deriving DecidableEq

/-- The combination of two sets. -/
def SetOp.apply : SetOp → CharSet → CharSet → CharSet
  | inter => .inter
  | diff => .diff
  | either => .either

/-- An open bracket: whether its set is negated, what was combined before, and the items since,
the latest first. -/
structure Bracket where
  negated : Bool
  before : Option (Item × SetOp)
  items : List Item

/-- The union of the items since the last combination. -/
def Bracket.union (b : Bracket) : Item :=
  let depth := (b.items.map Prod.snd).foldl max 0
  (.unions (b.items.map Prod.fst), if b.items.length ≤ 1 then depth else depth + 1)

/-- The set of the bracket so far. -/
def Bracket.whole (m : Modes) (b : Bracket) : Item :=
  match b.before with
  | none => b.union
  | some ((s, d), op) =>
    let (s', d') := b.union
    (op.apply (m.variants s) (m.variants s'), max d d' + 1)

/-- The set of the bracket as it is closed. -/
def Bracket.close (m : Modes) (b : Bracket) : Option Item :=
  let (s, d) := b.whole m
  (m.finish b.negated s).map fun s => (s, d + 1)

/-- The bracket with one more item. -/
def Bracket.add (b : Bracket) (item : Item) : Bracket := { b with items := item :: b.items }

/-- The bracket with the set so far as the first part of a combination. -/
def Bracket.combine (m : Modes) (b : Bracket) (op : SetOp) : Bracket :=
  { b with before := some (b.whole m, op), items := [] }

/-- What follows an opening bracket: whether the set is negated, dashes that stand for themselves
because they come first, and a closing bracket that does so without them. -/
def openBracket (m : Modes) (cs : List Char) : Option (Bracket × List Char) :=
  let (negated, cs) := match gap m cs with
    | '^' :: rest => (true, gap m rest)
    | cs => (false, cs)
  match runAll m (· == '-') cs with
  | (_, []) => none
  | ([], ']' :: rest) =>
    match gap m rest with
    | [] => none
    | rest => some (⟨negated, none, [(.one ']', 0)]⟩, rest)
  | (dashes, rest) => some (⟨negated, none, dashes.map fun c => (.one c, 0)⟩, rest)

/-- A set named by a word between colons, at an opening bracket inside brackets. -/
def posixItem (m : Modes) (cs : List Char) : Option (Item × List Char) :=
  match cs with
  | '[' :: ':' :: rest =>
    let (negated, rest) := match rest with
      | '^' :: rest => (true, rest)
      | rest => (false, rest)
    match rest.dropWhile (· ≠ ':') with
    | ':' :: ']' :: after =>
      ((posix? (rest.takeWhile (· ≠ ':'))).bind (m.finish negated)).map fun s => ((s, 0), after)
    | _ => none
  | _ => none

/-- The character that an escape stands for; a number of one byte above 127 stands for one only
where sets hold letters of all scripts. -/
def Escape.char? (m : Modes) : Escape → Option Char
  | literal c => some c
  | byte n => if m.allScripts || n < 128 then some (Char.ofNat n) else none
  | set _ | anchor _ => none

/-- A character of a set, which must be plain where sets hold plain characters only. -/
def allowed (m : Modes) (c : Char) : Bool := m.allScripts || c.toNat < 128

/-- The next part of a set: a character or an escape. -/
def setPart (m : Modes) (cs : List Char) : Option (Escape × List Char) :=
  match cs with
  | [] => none
  | '\\' :: rest => escape m rest
  | c :: rest => some (.literal c, rest)

/-- The first character that counts after the one in front. -/
def peekPast (m : Modes) (cs : List Char) : Option Char :=
  let rest := cs.drop 1
  if m.spacious then
    match rest.dropWhile Text.isBlank with
    | '#' :: rest => (rest.dropWhile Text.isBlank).head?
    | rest => rest.head?
  else rest.head?

/-- The item of one part. -/
def partItem (m : Modes) (part : Escape) : Option Item :=
  match part with
  | .set s => some (s, 0)
  | .anchor _ => none
  | part =>
    match part.char? m with
    | some c => if allowed m c then some (.one c, 0) else none
    | none => none

/-- The next item of a set: a part, or all characters from one to another. -/
def setItem (m : Modes) (cs : List Char) : Option (Item × List Char) :=
  match setPart m cs with
  | none => none
  | some (first, rest) =>
    match gap m rest with
    | [] => none
    | '-' :: more =>
      if peekPast m ('-' :: more) = some ']' ∨ peekPast m ('-' :: more) = some '-' then
        (partItem m first).map fun item => (item, '-' :: more)
      else
        match setPart m (gap m more) with
        | none => none
        | some (last, rest) =>
          match first.char? m, last.char? m with
          | some a, some b =>
            if a ≤ b ∧ allowed m a = true ∧ allowed m b = true then
              some ((.span a.toNat b.toNat, 0), rest)
            else none
          | _, _ => none
    | rest => (partItem m first).map fun item => (item, rest)

/-- The set in brackets, of which some are open. Each step reads at least one character, so the
length of the text is fuel enough. -/
def bracketLoop (m : Modes) : Nat → Bracket → List Bracket → List Char →
    Option (Item × List Char)
  | 0, _, _, _ => none
  | fuel + 1, b, outer, cs =>
    match gap m cs with
    | [] => none
    | '[' :: rest =>
      match posixItem m ('[' :: rest) with
      | some (item, rest) => bracketLoop m fuel (b.add item) outer rest
      | none =>
        match openBracket m rest with
        | some (inner, rest) => bracketLoop m fuel inner (b :: outer) rest
        | none => none
    | ']' :: rest =>
      match outer with
      | [] => (b.close m).map fun item => (item, rest)
      | o :: outer =>
        match b.close m with
        | some item => bracketLoop m fuel (o.add item) outer rest
        | none => none
    | '&' :: '&' :: rest => bracketLoop m fuel (b.combine m .inter) outer rest
    | '-' :: '-' :: rest => bracketLoop m fuel (b.combine m .diff) outer rest
    | '~' :: '~' :: rest => bracketLoop m fuel (b.combine m .either) outer rest
    | cs =>
      match setItem m cs with
      | some (item, rest) => bracketLoop m fuel (b.add item) outer rest
      | none => none

/-- The set after an opening bracket. -/
def bracketed (m : Modes) (cs : List Char) : Option (Piece × List Char) :=
  match openBracket m cs with
  | none => none
  | some (b, rest) =>
    match bracketLoop m (rest.length + 1) b [] rest with
    | some ((s, depth), rest) => some (⟨.ofSet s, depth⟩, rest)
    | none => none

/-! ## Tokens -/

/-- A part of a written pattern. -/
inductive Token where
  | piece (p : Piece)
  /-- The piece before it, at least and at most so many times, where few or many are preferred. -/
  | times (least : Nat) (most : Option Nat) (sparing : Bool)
  /-- The start of a group that is known by its number, and which may have a name. -/
  | numbered (name : Option (List Char))
  /-- The start of another group, in which the modes change. -/
  | opened (change : Change)
  | closed
  | bar
  /-- A change of the modes for the rest of the group. -/
  | modes (change : Change)

/-- The largest number of repetitions. -/
def maxTimes : Nat := UInt32.size - 1

/-- A number of repetitions; blanks on either side count for nothing. -/
def count (m : Modes) (cs : List Char) : Option (Nat × List Char) :=
  match runAll m Char.isDigit (cs.dropWhile Text.isBlank) with
  | (digits, rest) =>
    let n := digits.foldl (fun n d => 10 * n + (d.toNat - '0'.toNat)) 0
    if digits = [] ∨ maxTimes < n then none else some (n, gap m (rest.dropWhile Text.isBlank))

/-- A repetition, and the text after the mark that it does not prefer what others prefer. -/
def Token.repetition (m : Modes) (least : Nat) (most : Option Nat) (cs : List Char) :
    Token × List Char :=
  match cs with
  | '?' :: rest => (.times least most (!m.sparing), rest)
  | cs => (.times least most m.sparing, cs)

/-- A repetition in braces. -/
def countedTimes (m : Modes) (cs : List Char) : Option (Token × List Char) :=
  match count m (gap m cs) with
  | none => none
  | some (least, ',' :: rest) =>
    match gap m rest with
    | '}' :: rest => some (Token.repetition m least none (gap m rest))
    | rest =>
      match count m rest with
      | some (most, '}' :: rest) =>
        if least ≤ most then some (Token.repetition m least (some most) (gap m rest)) else none
      | _ => none
  | some (least, '}' :: rest) => some (Token.repetition m least (some least) (gap m rest))
  | some _ => none

/-- The letters of a change of modes, up to the colon or closing parenthesis: those after a dash
are turned off. No letter and no dash may come twice, and a dash must be followed by a letter. -/
def changeLoop (dashed : Bool) (done : Change) : List Char → Option (Change × List Char)
  | [] => none
  | c :: rest =>
    if c = ':' ∨ c = ')' then some (done.reverse, c :: rest)
    else if c = '-' then
      match rest with
      | d :: _ => if dashed || d == ':' || d == ')' then none else changeLoop true done rest
      | [] => none
    else if modeLetters.contains c && !done.any (·.1 == c) then
      changeLoop dashed ((c, !dashed) :: done) rest
    else none

/-- Whether a character may stand in a group's name, at its start or later. -/
def isNameChar (first : Bool) (c : Char) : Bool :=
  if first then c == '_' || Text.isAlphabetic c
  else c == '_' || c == '.' || c == '[' || c == ']' || Text.isAlphanumeric c

/-- A group's name, up to the closing angle bracket. -/
def groupName (cs : List Char) : Option (List Char × List Char) :=
  match cs.takeWhile (· ≠ '>'), cs.dropWhile (· ≠ '>') with
  | c :: name, '>' :: rest =>
    if isNameChar true c && name.all (isNameChar false) then some (c :: name, rest) else none
  | _, _ => none

/-- What follows an opening parenthesis. -/
def parenthesis (m : Modes) (cs : List Char) : Option (Token × List Char) :=
  let named (rest : List Char) : Option (Token × List Char) :=
    (groupName rest).map fun (name, rest) => (.numbered (some name), rest)
  match gap m cs with
  | '?' :: '=' :: _ | '?' :: '!' :: _ | '?' :: '<' :: '=' :: _ | '?' :: '<' :: '!' :: _ => none
  | '?' :: 'P' :: '<' :: rest => named rest
  | '?' :: '<' :: rest => named rest
  | '?' :: rest =>
    match changeLoop false [] rest with
    | some (change, ':' :: rest) => some (.opened change, rest)
    | some (change, ')' :: rest) => if change = [] then none else some (.modes change, rest)
    | _ => none
  | cs => some (.numbered none, cs)

/-- The piece of a character that stands for itself. -/
def literalPiece (m : Modes) (c : Char) : Piece :=
  ⟨if m.caseless then .ofSet (m.variants (.one c)) else .text [c], 0⟩

/-- The set of a dot. -/
def dotSet (m : Modes) : CharSet :=
  if m.dotAll then .all
  else if m.crossing then (CharSet.ofList ['\n', '\r']).negated
  else (CharSet.one '\n').negated

/-- The start of the text, or of a line. -/
def startAnchor (m : Modes) : Anchor :=
  if m.multiLine then (if m.crossing then .crossingLineStart else .lineStart) else .textStart

/-- The end of the text, or of a line. -/
def endAnchor (m : Modes) : Anchor :=
  if m.multiLine then (if m.crossing then .crossingLineEnd else .lineEnd) else .textEnd

/-- The piece of an escape outside brackets. -/
def escapePiece (m : Modes) (e : Escape) : Option Piece :=
  match e with
  | .set s => some ⟨.ofSet s, 0⟩
  | .anchor a => some ⟨.anchor a, 0⟩
  | e => (e.char? m).map (literalPiece m)

/-- The next token of a text that does not start with a gap. -/
def Token.read (m : Modes) (cs : List Char) : Option (Token × List Char) :=
  match cs with
  | [] => none
  | '(' :: rest => parenthesis m rest
  | ')' :: rest => some (.closed, rest)
  | '|' :: rest => some (.bar, rest)
  | '[' :: rest => (bracketed m rest).map fun (p, rest) => (.piece p, rest)
  | '?' :: rest => some (Token.repetition m 0 (some 1) rest)
  | '*' :: rest => some (Token.repetition m 0 none rest)
  | '+' :: rest => some (Token.repetition m 1 none rest)
  | '{' :: rest => countedTimes m rest
  | '\\' :: rest =>
    match escape m rest with
    | some (e, rest) => (escapePiece m e).map fun p => (.piece p, rest)
    | none => none
  | '.' :: rest => if m.allScripts then some (.piece ⟨.ofSet (dotSet m), 0⟩, rest) else none
  | '^' :: rest => some (.piece ⟨.anchor (startAnchor m), 0⟩, rest)
  | '$' :: rest => some (.piece ⟨.anchor (endAnchor m), 0⟩, rest)
  | c :: rest => some (.piece (literalPiece m c), rest)

end Metering.Pattern
