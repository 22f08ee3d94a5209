import Metering.Document.Shape
import Metering.Json.Value

/-!
# Metering — reading JSON

* `Json.read?` — the value of a text, if the text is one value with nothing but blanks around it;
* `Json.datum?` — the datum of a shape that a value stands for. A record may also be written as
  the list of its fields, and a word also as an object with the word as its only key.
-/

namespace Metering.Json

/-! ## Tokens -/

/-- The blanks of JSON. -/
def isBlank (c : Char) : Bool := c == ' ' || c == '\t' || c == '\n' || c == '\r'

/-- The text after blanks. -/
def gap (cs : List Char) : List Char := cs.dropWhile isBlank

/-- Whether a character is a hexadecimal digit. -/
def isHex (c : Char) : Bool := (Text.hexValue? c).isSome

/-- The rest of a string after its opening quote: the characters up to the closing quote with
escapes unread, and the text after it. -/
def stringRest : List Char → Option (List Char × List Char)
  | [] => none
  | '"' :: rest => some ([], rest)
  | '\\' :: 'u' :: a :: b :: c :: d :: rest =>
    if isHex a && isHex b && isHex c && isHex d then
      (stringRest rest).map fun (s, after) => ('\\' :: 'u' :: a :: b :: c :: d :: s, after)
    else none
  | '\\' :: e :: rest =>
    if (Text.escaped? e).isSome then
      (stringRest rest).map fun (s, after) => ('\\' :: e :: s, after)
    else none
  | c :: rest =>
    if c.toNat < 0x20 || c == '\\' then none
    else (stringRest rest).map fun (s, after) => (c :: s, after)

/-- At least one digit, and the text after the digits. -/
def digits? (cs : List Char) : Option (List Char × List Char) :=
  match cs.takeWhile Char.isDigit with
  | [] => none
  | ds => some (ds, cs.dropWhile Char.isDigit)

/-- The whole part of a number, which has no needless zero in front. -/
def whole? (cs : List Char) : Option (List Char × List Char) :=
  match cs with
  | '0' :: c :: rest => if c.isDigit then none else some (['0'], c :: rest)
  | cs => digits? cs

/-- The fraction of a number, which may be missing. -/
def fraction? (cs : List Char) : Option (List Char × List Char) :=
  match cs with
  | '.' :: rest => (digits? rest).map fun (ds, after) => ('.' :: ds, after)
  | cs => some ([], cs)

/-- The exponent of a number, which may be missing. -/
def exponent? (cs : List Char) : Option (List Char × List Char) :=
  match cs with
  | e :: rest =>
    if e = 'e' ∨ e = 'E' then
      match rest with
      | s :: more =>
        if s = '+' ∨ s = '-' then (digits? more).map fun (ds, after) => (e :: s :: ds, after)
        else (digits? rest).map fun (ds, after) => (e :: ds, after)
      | [] => none
    else some ([], e :: rest)
  | [] => some ([], [])

/-- A number as it is written. -/
def number? (cs : List Char) : Option (List Char × List Char) := do
  let (sign, cs) := match cs with
    | '-' :: rest => (['-'], rest)
    | cs => ([], cs)
  let (whole, cs) ← whole? cs
  let (fraction, cs) ← fraction? cs
  let (exponent, cs) ← exponent? cs
  return (sign ++ whole ++ fraction ++ exponent, cs)

/-! ## Values -/

mutual

/-- The value at the front of a text without blanks in front, and the text after it. -/
def value? : Nat → List Char → Option (Json × List Char)
  | 0, _ => none
  | fuel + 1, cs =>
    match cs with
    | 'n' :: 'u' :: 'l' :: 'l' :: rest => some (.null, rest)
    | 't' :: 'r' :: 'u' :: 'e' :: rest => some (.bool true, rest)
    | 'f' :: 'a' :: 'l' :: 's' :: 'e' :: rest => some (.bool false, rest)
    | '"' :: rest => (stringRest rest).map fun (s, after) => (.string s, after)
    | '[' :: rest =>
      match gap rest with
      | ']' :: after => some (.array [], after)
      | rest => (items? fuel rest).map fun (vs, after) => (.array vs, after)
    | '{' :: rest =>
      match gap rest with
      | '}' :: after => some (.object [], after)
      | rest => (members? fuel rest).map fun (ms, after) => (.object ms, after)
    | cs => (number? cs).map fun (n, after) => (.number n, after)

/-- The items of an array up to its end. -/
def items? : Nat → List Char → Option (List Json × List Char)
  | 0, _ => none
  | fuel + 1, cs =>
    match value? fuel (gap cs) with
    | none => none
    | some (v, rest) =>
      match gap rest with
      | ',' :: rest => (items? fuel rest).map fun (vs, after) => (v :: vs, after)
      | ']' :: rest => some ([v], rest)
      | _ => none

/-- The members of an object up to its end. -/
def members? : Nat → List Char → Option (List (List Char × Json) × List Char)
  | 0, _ => none
  | fuel + 1, cs =>
    match gap cs with
    | '"' :: rest =>
      match stringRest rest with
      | none => none
      | some (key, rest) =>
        match gap rest with
        | ':' :: rest =>
          match value? fuel (gap rest) with
          | none => none
          | some (v, rest) =>
            match gap rest with
            | ',' :: rest => (members? fuel rest).map fun (ms, after) => ((key, v) :: ms, after)
            | '}' :: rest => some ([(key, v)], rest)
            | _ => none
        | _ => none
    | _ => none

end

/-- The value of a text. Every step reads at least one character, so twice its length is fuel
enough. -/
def read? (cs : List Char) : Option Json :=
  match value? (2 * cs.length + 1) (gap cs) with
  | some (v, rest) => if gap rest = [] then some v else none
  | none => none

/-! ## Data -/

/-- The number that a written number without sign, fraction and exponent stands for. -/
def wordOf? (written : List Char) : Option UInt64 :=
  if written.all Char.isDigit then
    let n := written.foldl (fun n d => 10 * n + (d.toNat - '0'.toNat)) 0
    if n < UInt64.size then some (UInt64.ofNat n) else none
  else none

/-- The text that a string stands for. -/
def textOf? (written : List Char) : Option String := (Text.decode? written).map String.ofList

/-- The keys of an object's members, read. -/
def readKeys? (members : List (List Char × Json)) : Option (List (String × Json)) :=
  members.mapM fun m => (textOf? m.1).map fun key => (key, m.2)

mutual

/-- The datum of a shape that a value stands for. -/
def datum? : Shape → Json → Option Datum
  | .switch, .bool b => some (.switch b)
  | .word, .number written => (wordOf? written).map .word
  | .text, .string written => (textOf? written).map .text
  | .choice words, .string written =>
    (textOf? written).bind fun w => if words.contains w then some (.choice w) else none
  | .choice words, .object [(key, .null)] =>
    (textOf? key).bind fun w => if words.contains w then some (.choice w) else none
  | .optional _, .null => some .absent
  | .optional shape, v => (datum? shape v).map .present
  | .list shape, .array vs => (vs.mapM (datum? shape)).map .list
  | .map shape, .object members =>
    ((readKeys? members).bind fun ms =>
      ms.mapM fun m => (datum? shape m.2).map fun d => (m.1, d)).map .map
  | .record _ fields, .object members =>
    ((readKeys? members).bind fun ms =>
      if (ms.filter fun m => fields.any fun f => f.1 == m.1).map Prod.fst |>.Nodup then
        fields? fields ms
      else none).map .record
  | .record _ fields, .array vs =>
    if vs.length ≤ fields.length then (leading? fields vs).map .record else none
  | _, _ => none

/-- The fields of a record that are among the named values. -/
def fields? : List (String × Shape) → List (String × Json) → Option (List (String × Datum))
  | [], _ => some []
  | (name, shape) :: fields, ms =>
    match ms.lookup name with
    | none => fields? fields ms
    | some v =>
      match datum? shape v with
      | none => none
      | some d => (fields? fields ms).map ((name, d) :: ·)

/-- The first fields of a record, one for each value. -/
def leading? : List (String × Shape) → List Json → Option (List (String × Datum))
  | (name, shape) :: fields, v :: vs =>
    match datum? shape v with
    | none => none
    | some d => (leading? fields vs).map ((name, d) :: ·)
  | _, _ => some []

end

/-- The datum of a shape that a text holds. -/
def readDatum? (shape : Shape) (text : String) : Option Datum :=
  (read? text.toList).bind (datum? shape)

end Metering.Json
