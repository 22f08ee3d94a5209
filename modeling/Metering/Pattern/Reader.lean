import Metering.Pattern.Size
import Metering.Pattern.Token

/-!
# Metering — reading patterns

A written pattern is read token by token. Groups that are open wait on a stack with what stood
before them and the modes to return to.

* `Branch` and `Group` — what has been read of the innermost group, and what waits;
* `Reading` and `Reading.next` — what has been read, and how a token goes on;
* `Pattern.read?` — the pattern of a text, if the text is one;
* `Pattern.whole?` — the pattern of a text that is to describe whole names.
-/

namespace Metering.Pattern

/-! ## Groups -/

/-- A piece in a row, and whether a repetition may follow it. -/
structure Slot where
  piece : Piece
  repeatable : Bool

/-- What has been read of a group: the alternatives before the last bar and the pieces after it,
both with the latest first. -/
structure Branch where
  alternatives : List Piece
  slots : List Slot

/-- The branch of which nothing has been read. -/
def Branch.start : Branch := ⟨[], []⟩

/-- How deep pieces are nested that are put together: a single one as it is. -/
def joinedDepth (ps : List Piece) : Nat :=
  let depth := (ps.map Piece.depth).foldl max 0
  if ps.length ≤ 1 then depth else depth + 1

/-- The row after the last bar. -/
def Branch.row (b : Branch) : Piece :=
  let ps := b.slots.reverse.map Slot.piece
  ⟨.row (ps.map Piece.pattern), joinedDepth ps⟩

/-- The branch with one more piece. -/
def Branch.add (b : Branch) (piece : Piece) : Branch :=
  { b with slots := ⟨piece, true⟩ :: b.slots }

/-- The branch after a change of modes, which cannot be repeated. -/
def Branch.addChange (b : Branch) : Branch :=
  { b with slots := ⟨⟨.empty, 0⟩, false⟩ :: b.slots }

/-- The branch after a bar. -/
def Branch.bar (b : Branch) : Branch := ⟨b.row :: b.alternatives, []⟩

/-- The branch with its last piece repeated. -/
def Branch.times? (b : Branch) (least : Nat) (most : Option Nat) (sparing : Bool) :
    Option Branch :=
  match b.slots with
  | ⟨piece, true⟩ :: more =>
    let repeated := piece.pattern.repeated least most sparing
    some { b with slots := ⟨⟨repeated, piece.depth + 1⟩, true⟩ :: more }
  | _ => none

/-- All that a branch describes. -/
def Branch.whole (b : Branch) : Piece :=
  let ps := (b.row :: b.alternatives).reverse
  ⟨.choice (ps.map Piece.pattern), joinedDepth ps⟩

/-- A group that is open: what stood before it, the modes that hold again after it, and its
number, if it has one. -/
structure Group where
  outer : Branch
  modes : Modes
  number : Option Nat

/-- The piece of the group when it is closed. -/
def Group.piece (g : Group) (inside : Piece) : Piece :=
  let pattern := match g.number with
    | some number => .group number inside.pattern
    | none => inside.pattern
  ⟨pattern, inside.depth + 1⟩

/-! ## Reading -/

/-- What has been read of a pattern: the modes, the innermost group, the groups that wait, how many
groups have numbers, and the names that are taken. -/
structure Reading where
  modes : Modes
  branch : Branch
  pending : List Group
  numbered : Nat
  names : List (List Char)

/-- The reading before the first token. -/
def Reading.start : Reading := ⟨{}, .start, [], 0, []⟩

/-- The reading after one more token. -/
def Reading.next (r : Reading) (token : Token) : Option Reading :=
  match token with
  | .piece p => some { r with branch := r.branch.add p }
  | .times least most sparing =>
    (r.branch.times? least most sparing).map fun branch => { r with branch }
  | .bar => some { r with branch := r.branch.bar }
  | .modes change =>
    some { r with modes := r.modes.apply change, branch := r.branch.addChange }
  | .numbered name =>
    if name.any r.names.contains then none
    else
      let number := r.numbered + 1
      some { r with
        branch := .start
        pending := ⟨r.branch, r.modes, some number⟩ :: r.pending
        numbered := number
        names := name.toList ++ r.names }
  | .opened change =>
    some { r with
      modes := r.modes.apply change
      branch := .start
      pending := ⟨r.branch, r.modes, none⟩ :: r.pending }
  | .closed =>
    match r.pending with
    | [] => none
    | inner :: pending =>
      some { r with
        modes := inner.modes
        branch := inner.outer.add (inner.piece r.branch.whole)
        pending }

/-- Reads a pattern to the end of the text. Each step reads at least one character, so the
length of the text is fuel enough. -/
def readLoop : Nat → Reading → List Char → Option Piece
  | 0, _, _ => none
  | fuel + 1, r, cs =>
    match gap r.modes cs with
    | [] => if r.pending.isEmpty then some r.branch.whole else none
    | cs =>
      match Token.read r.modes cs with
      | none => none
      | some (token, rest) =>
        match r.next token with
        | some r => readLoop fuel r rest
        | none => none

/-- How deep the pieces of a pattern may be nested. -/
def maxDepth : Nat := 250

/-- The pattern of a text, if the text is one that is not nested too deep and whose matcher is not
too large. -/
def read? (cs : List Char) : Option Pattern :=
  match readLoop (cs.length + 1) .start cs with
  | some piece =>
    if piece.depth ≤ maxDepth ∧ piece.pattern.fits = true then some piece.pattern else none
  | none => none

/-- The pattern of a text put between the start and the end of the name. -/
def whole? (expression : String) : Option Pattern :=
  read? ("^(?:".toList ++ expression.toList ++ ")$".toList)

end Metering.Pattern
