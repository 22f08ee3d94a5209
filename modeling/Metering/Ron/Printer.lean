import Metering.Document.Shape
import Metering.Text.Quoted

/-!
# Metering — writing RON

A datum is written over several lines: each field, item and entry on a line of its own, two
blanks deeper than what holds it and with a comma after it. What is empty takes no lines.

* `render` — the lines of a datum at a depth.
-/

namespace Metering.Ron

/-- The blanks in front of a line. -/
def indent (depth : Nat) : List Char := List.replicate (2 * depth) ' '

/-- A text between quotes. -/
def quote (s : String) : List Char := Text.quoted true s.toList

mutual

/-- The text of a datum whose last line is at a depth. -/
def render (depth : Nat) : Datum → List Char
  | .switch on => (if on then "true" else "false").toList
  | .word n => (toString n.toNat).toList
  | .text s => quote s
  | .choice w => w.toList
  | .absent => "None".toList
  | .present d => "Some(".toList ++ render depth d ++ [')']
  | .list [] => ['[', ']']
  | .list (d :: ds) => '[' :: '\n' :: renderItems (depth + 1) (d :: ds) ++ indent depth ++ [']']
  | .map [] => ['{', '}']
  | .map (e :: es) => '{' :: '\n' :: renderEntries (depth + 1) (e :: es) ++ indent depth ++ ['}']
  | .record [] => ['(', ')']
  | .record (f :: fs) => '(' :: '\n' :: renderFields (depth + 1) (f :: fs) ++ indent depth ++ [')']

/-- The lines of the items of a list. -/
def renderItems (depth : Nat) : List Datum → List Char
  | [] => []
  | d :: ds => indent depth ++ render depth d ++ ',' :: '\n' :: renderItems depth ds

/-- The lines of the entries of a map. -/
def renderEntries (depth : Nat) : List (String × Datum) → List Char
  | [] => []
  | (key, d) :: es =>
    indent depth ++ quote key ++ ':' :: ' ' :: render depth d ++ ',' :: '\n' ::
      renderEntries depth es

/-- The lines of the fields of a record. -/
def renderFields (depth : Nat) : List (String × Datum) → List Char
  | [] => []
  | (name, d) :: fs =>
    indent depth ++ name.toList ++ ':' :: ' ' :: render depth d ++ ',' :: '\n' ::
      renderFields depth fs

end

end Metering.Ron
