import Metering.Document.Shape
import Metering.Ron.Token

/-!
# Metering — reading RON

A document is read by its shape. Fields that the shape does not know are read over, whatever
they hold.

* `Extensions` — what a document may ask for in its first lines;
* `skip?` — the text after a value of any shape;
* `datum?` — the datum of a shape at the front of a text;
* `readDatum?` — the datum that a whole text holds.

Records, lists, maps and their parts may be nested to a fixed depth, which each reader counts
down.
-/

namespace Metering.Ron

/-! ## Extensions -/

/-- What a document may ask for. -/
structure Extensions where
  /-- What may be absent is taken as present without a mark. -/
  implicitSome : Bool := false
  /-- The names of records must be given. -/
  explicitNames : Bool := false
  /-- What is marked as present may be a record or a tuple without its own parentheses. -/
  unwrapped : Bool := false

/-- The extensions with one more. -/
def Extensions.add? (x : Extensions) (name : String) : Option Extensions :=
  if name = "implicit_some" then some { x with implicitSome := true }
  else if name = "explicit_struct_names" then some { x with explicitNames := true }
  else if name = "unwrap_variant_newtypes" then some { x with unwrapped := true }
  else if name = "unwrap_newtypes" then some x
  else none

/-- Fixed texts, one after the other, with gaps after each. -/
def marks? : List String → List Char → Option (List Char)
  | [], cs => some cs
  | mark :: more, cs => ((after? mark.toList cs).bind gap?).bind (marks? more)

/-- The names of extensions, set off by commas. -/
def names? : Nat → Extensions → List Char → Option (Extensions × List Char)
  | 0, _, _ => none
  | fuel + 1, x, cs =>
    match identifier? cs with
    | none => none
    | some (name, rest) =>
      match x.add? name, comma? rest with
      | some x, some (comma, rest) =>
        if comma && nameGoesOn rest then names? fuel x rest
        else if !comma && nameGoesOn rest then none
        else some (x, rest)
      | _, _ => none

/-- What a line at the start of a document says after its opening bracket: extensions, or the name
of the document's type or schema, which does not count. -/
def attribute? (x : Extensions) (cs : List Char) : Option (Extensions × List Char) :=
  match marks? ["enable", "("] cs with
  | some rest => do
    let (x, rest) ← names? (rest.length + 1) x rest
    return (x, ← (gap? rest).bind (marks? [")"]))
  | none => do
    let rest ← (marks? ["type", "="] cs).or (marks? ["schema", "="] cs)
    let (_, rest) ← text? rest
    return (x, ← gap? rest)

/-- All that is asked for in lines at the start of a text, and the text after them. -/
def extensions? : Nat → Extensions → List Char → Option (Extensions × List Char)
  | 0, _, _ => none
  | fuel + 1, x, cs =>
    match cs with
    | '#' :: _ =>
      match (marks? ["#", "!", "["] cs).bind (attribute? x) with
      | none => none
      | some (x, rest) =>
        match marks? ["]"] rest with
        | some rest => extensions? fuel x rest
        | none => none
    | cs => some (x, cs)

/-! ## Values of any shape -/

/-- How deep a document may be nested. -/
def maxDepth : Nat := 128

/-- What may stand between the ends of a nested value. -/
inductive Inside where
  /-- Named fields up to a closing parenthesis. -/
  | fields
  /-- Values up to a closing parenthesis. -/
  | tuple
  /-- Values up to a closing bracket. -/
  | list
  /-- Pairs of values up to a closing brace. -/
  | map

/-- The character that ends a nested value. -/
def Inside.ending : Inside → Char
  | fields | tuple => ')'
  | list => ']'
  | map => '}'

/-- Whether the text inside a parenthesis starts with a field. -/
def startsField (cs : List Char) : Bool :=
  match (gap? cs).bind identifier? with
  | some (_, rest) =>
    match gap? rest with
    | some (':' :: _) => true
    | _ => false
  | none => false

/-- The text after one quoted character. -/
def afterChar? (cs : List Char) : Option (List Char) :=
  match cs with
  | '\'' :: '\\' :: rest =>
    match escape? true rest with
    | some (_, '\'' :: rest) => some rest
    | _ => none
  | '\'' :: _ :: '\'' :: rest => some rest
  | _ => none

/-- The rest of a text of bytes after its opening quote. -/
def bytesRest : Nat → List Char → Option (List Char)
  | 0, _ => none
  | _ + 1, [] => none
  | _ + 1, '"' :: rest => some rest
  | fuel + 1, '\\' :: 'x' :: a :: b :: rest =>
    if (byte? a b).isSome then bytesRest fuel rest else none
  | fuel + 1, '\\' :: rest =>
    match afterBreak? rest, escape? false rest with
    | some rest, _ => bytesRest fuel rest
    | none, some (_, rest) => bytesRest fuel rest
    | none, none => none
  | fuel + 1, _ :: rest => bytesRest fuel rest

/-- The text after a text of bytes, with escapes or raw. -/
def afterBytes? (cs : List Char) : Option (List Char) :=
  match cs with
  | 'b' :: '"' :: rest => bytesRest (rest.length + 1) rest
  | 'b' :: 'r' :: rest => (rawTextRest rest).map Prod.snd
  | _ => none

/-- The text after a value that is one token without being a name. -/
def afterPlain? (cs : List Char) : Option (List Char) :=
  match cs with
  | [] => none
  | c :: _ =>
    if startsNumber cs then afterNumberOrRange? cs
    else if c = '"' ∨ c = 'r' then (text? cs).map Prod.snd
    else if c = 'b' then afterBytes? cs
    else if c = '\'' then afterChar? cs
    else none

/-- Whether a comma with something after it comes before the end of a nested value, of which some
are open. Comments, texts and quoted characters are read over. -/
def hasSecond? : Nat → Nat → List Char → Option Bool
  | 0, _, _ => none
  | fuel + 1, isOpen, cs =>
    match gap? cs with
    | none => none
    | some cs =>
      let cs := (afterChar? cs).getD cs
      let cs := ((text? cs).map Prod.snd).getD cs
      match (afterBytes? cs).getD cs with
      | [] => none
      | c :: rest =>
        if c = '(' ∨ c = '[' ∨ c = '{' then hasSecond? fuel (isOpen + 1) rest
        else if c = ')' ∨ c = ']' ∨ c = '}' then
          if isOpen ≤ 1 then some false else hasSecond? fuel (isOpen - 1) rest
        else if c = ',' ∧ isOpen = 1 then (gap? rest).map fun rest => rest.head? ≠ some ')'
        else hasSecond? fuel isOpen rest

/-- How what is marked as present is to be read where its parentheses can be left out: as fields,
as several values, or as one. -/
def unwrappedKind? (cs : List Char) : Option (Option Inside) :=
  if startsField cs then some (some .fields)
  else (hasSecond? (cs.length + 1) 1 cs).map fun second => if second then some .tuple else none

mutual

/-- The text after a value of any shape. -/
def skip? (x : Extensions) : Nat → Nat → List Char → Option (List Char)
  | 0, _, _ => none
  | fuel + 1, depth, cs =>
    match anyKeyword? ["true", "false", "None"] cs with
    | some rest => some rest
    | none =>
      match keyword? "Some" cs with
      | some rest => skipSome? x fuel depth rest
      | none =>
        match after? ['(', ')'] cs with
        | some rest => some rest
        | none =>
          match afterUnbounded? cs with
          | some rest => afterRange? rest
          | none =>
            match identifier? cs with
            | some (_, rest) =>
              match gap? rest with
              | some ('(' :: rest) => skipParenthesis? x fuel depth rest
              | rest => rest
            | none =>
              match cs with
              | '(' :: rest => skipParenthesis? x fuel depth rest
              | '[' :: rest => skipInside? x fuel depth .list rest
              | '{' :: rest => skipInside? x fuel depth .map rest
              | cs => afterPlain? cs

/-- The text after what is marked as present. -/
def skipSome? (x : Extensions) : Nat → Nat → List Char → Option (List Char)
  | 0, _, _ | _, 0, _ => none
  | fuel + 1, depth + 1, cs =>
    match gap? cs with
    | some ('(' :: rest) => (gap? rest).bind (skipPresent? x fuel depth)
    | some rest => if x.implicitSome then skip? x fuel depth rest else none
    | none => none

/-- The text after the closing parenthesis of what is marked as present. -/
def skipPresent? (x : Extensions) : Nat → Nat → List Char → Option (List Char)
  | 0, _, _ => none
  | fuel + 1, depth, cs =>
    let whole : Option (List Char) :=
      match (skip? x fuel depth cs).bind comma? with
      | some (_, ')' :: rest) => some rest
      | _ => none
    if x.unwrapped then
      match cs with
      | ')' :: rest => some rest
      | cs =>
        match unwrappedKind? cs with
        | none => none
        | some none => whole
        | some (some inside) => skipInside? x fuel depth inside cs
    else whole

/-- The text after a parenthesis, which holds fields or values. -/
def skipParenthesis? (x : Extensions) : Nat → Nat → List Char → Option (List Char)
  | 0, _, _ => none
  | fuel + 1, depth, cs =>
    skipInside? x fuel depth (if startsField cs then .fields else .tuple) cs

/-- The text after the end of a nested value. -/
def skipInside? (x : Extensions) : Nat → Nat → Inside → List Char → Option (List Char)
  | 0, _, _, _ | _, 0, _, _ => none
  | fuel + 1, depth + 1, inside, cs => skipParts? x fuel depth inside true cs

/-- The text after the further parts of a nested value. Parts are set off by commas, and the last
one may have a comma after it. -/
def skipParts? (x : Extensions) : Nat → Nat → Inside → Bool → List Char → Option (List Char)
  | 0, _, _, _, _ => none
  | fuel + 1, depth, inside, comma, cs =>
    match gap? cs with
    | none => none
    | some [] => none
    | some (c :: rest) =>
      if c = inside.ending then some rest
      else if !comma then none
      else
        match skipPart? x fuel depth inside (c :: rest) with
        | none => none
        | some rest =>
          match comma? rest with
          | some (comma, rest) => skipParts? x fuel depth inside comma rest
          | none => none

/-- The text after one part of a nested value. -/
def skipPart? (x : Extensions) : Nat → Nat → Inside → List Char → Option (List Char)
  | 0, _, _, _ | _, 0, _, _ => none
  | fuel + 1, depth + 1, inside, cs =>
    let value (rest : List Char) : Option (List Char) :=
      match gap? rest with
      | some (':' :: rest) => (gap? rest).bind (skip? x fuel depth)
      | _ => none
    match inside with
    | .fields =>
      match identifier? cs with
      | some (_, rest) => value rest
      | none => none
    | .map =>
      match skip? x fuel depth cs with
      | some rest => value rest
      | none => none
    | .tuple | .list => skip? x fuel depth cs

end

/-! ## Values of a shape -/

/-- The name of a record, which may be left out unless names are asked for. -/
def recordName? (x : Extensions) (name : String) (cs : List Char) : Option (List Char) :=
  if nameGoesOn cs then
    match identifier? cs with
    | some (found, rest) => if found = name then some rest else none
    | none => none
  else if x.explicitNames then none
  else some cs

mutual

/-- The datum of a shape at the front of a text without a gap in front, and the text after it. -/
def datum? (x : Extensions) : Nat → Nat → Shape → List Char → Option (Datum × List Char)
  | 0, _, _, _ => none
  | fuel + 1, depth, shape, cs =>
    match shape with
    | .switch =>
      match keyword? "true" cs, keyword? "false" cs with
      | some rest, _ => some (.switch true, rest)
      | none, some rest => some (.switch false, rest)
      | none, none => none
    | .word => (word? cs).map fun (n, rest) => (.word n, rest)
    | .text => (text? cs).map fun (s, rest) => (.text (String.ofList s), rest)
    | .choice words =>
      match identifier? cs with
      | some (w, rest) => if words.contains w ∧ 0 < depth then some (.choice w, rest) else none
      | none => none
    | .optional shape =>
      match keyword? "None" cs with
      | some rest => some (.absent, rest)
      | none =>
        match depth with
        | 0 => none
        | depth + 1 => optional? x fuel depth shape cs
    | .list shape =>
      match depth, cs with
      | depth + 1, '[' :: rest =>
        (items? x fuel depth shape true rest).map fun (ds, rest) => (.list ds, rest)
      | _, _ => none
    | .map shape =>
      match depth, cs with
      | depth + 1, '{' :: rest =>
        (entries? x fuel depth shape true rest).map fun (es, rest) => (.map es, rest)
      | _, _ => none
    | .record name fields =>
      match depth, (recordName? x name cs).bind gap? with
      | depth + 1, some ('(' :: rest) =>
        (fields? x fuel depth fields [] true rest).map fun (fs, rest) => (.record fs, rest)
      | _, _ => none

/-- What may be absent and is not: marked as present, or without a mark if that is asked for. -/
def optional? (x : Extensions) : Nat → Nat → Shape → List Char → Option (Datum × List Char)
  | 0, _, _, _ => none
  | fuel + 1, depth, shape, cs =>
    let unmarked (cs : List Char) : Option (Datum × List Char) :=
      if x.implicitSome then
        (datum? x fuel depth shape cs).map fun (d, rest) => (.present d, rest)
      else none
    match keyword? "Some" cs with
    | none => unmarked cs
    | some rest =>
      match gap? rest with
      | none => none
      | some ('(' :: rest) =>
        match (gap? rest).bind (datum? x fuel depth shape) with
        | none => none
        | some (d, rest) =>
          match comma? rest with
          | some (_, ')' :: rest) => some (.present d, rest)
          | _ => none
      | some rest => unmarked rest

/-- The items of a list up to its end. -/
def items? (x : Extensions) : Nat → Nat → Shape → Bool → List Char →
    Option (List Datum × List Char)
  | 0, _, _, _, _ => none
  | fuel + 1, depth, shape, comma, cs =>
    match gap? cs with
    | none => none
    | some (']' :: rest) => some ([], rest)
    | some cs =>
      match comma, depth with
      | true, inner + 1 =>
        match datum? x fuel inner shape cs with
        | none => none
        | some (d, rest) =>
          match comma? rest with
          | none => none
          | some (comma, rest) =>
            (items? x fuel depth shape comma rest).map fun (ds, rest) => (d :: ds, rest)
      | _, _ => none

/-- The entries of a map up to its end; their keys are texts. -/
def entries? (x : Extensions) : Nat → Nat → Shape → Bool → List Char →
    Option (List (String × Datum) × List Char)
  | 0, _, _, _, _ => none
  | fuel + 1, depth, shape, comma, cs =>
    match gap? cs with
    | none => none
    | some ('}' :: rest) => some ([], rest)
    | some cs =>
      match comma, depth, text? cs with
      | true, inner + 1, some (key, rest) =>
        match gap? rest with
        | some (':' :: rest) =>
          match (gap? rest).bind (datum? x fuel inner shape) with
          | none => none
          | some (d, rest) =>
            match comma? rest with
            | none => none
            | some (comma, rest) =>
              (entries? x fuel depth shape comma rest).map fun (es, rest) =>
                ((String.ofList key, d) :: es, rest)
        | _ => none
      | _, _, _ => none

/-- The fields of a record up to its end. A known field may stand once, and unknown ones are read
over. -/
def fields? (x : Extensions) : Nat → Nat → List (String × Shape) → List String → Bool →
    List Char → Option (List (String × Datum) × List Char)
  | 0, _, _, _, _, _ => none
  | fuel + 1, depth, shapes, seen, comma, cs =>
    match gap? cs with
    | none => none
    | some (')' :: rest) => some ([], rest)
    | some cs =>
      match comma, depth, identifier? cs with
      | true, inner + 1, some (name, rest) =>
        match gap? rest with
        | some (':' :: rest) =>
          match shapes.lookup name with
          | some shape =>
            if seen.contains name then none
            else
              match (gap? rest).bind (datum? x fuel inner shape) with
              | none => none
              | some (d, rest) =>
                match comma? rest with
                | none => none
                | some (comma, rest) =>
                  (fields? x fuel depth shapes (name :: seen) comma rest).map fun (fs, rest) =>
                    ((name, d) :: fs, rest)
          | none =>
            match (gap? rest).bind (skip? x fuel inner) with
            | none => none
            | some rest =>
              match comma? rest with
              | none => none
              | some (comma, rest) => fields? x fuel depth shapes seen comma rest
        | _ => none
      | _, _, _ => none

end

/-- The datum of a shape that a text holds. Each step reads at least one character or goes one
part deeper, so a multiple of the length is fuel enough. -/
def readDatum? (shape : Shape) (text : String) : Option Datum :=
  let cs := text.toList
  match (gap? cs).bind (extensions? (cs.length + 1) {}) with
  | none => none
  | some (x, rest) =>
    match datum? x (6 * cs.length + 16) maxDepth shape rest with
    | none => none
    | some (d, rest) => if gap? rest = some [] then some d else none

end Metering.Ron
