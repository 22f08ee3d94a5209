import Metering.Json.Text

/-!
# Metering — JSON values

A JSON value with its strings and numbers as they are written, so that a reader decides what
they stand for and a value that nobody asks for needs to be well formed only.

* `Json` — the six shapes of values; members stand in the order of the text;
* `Json.ofText` — the string of a text;
* `Json.render` — the text of a value without any blanks.
-/

namespace Metering

/-- A JSON value. Strings hold the characters between the quotes with escapes unread, numbers
the characters of the number. -/
inductive Json where
  | null
  | bool (value : Bool)
  | number (written : List Char)
  | string (written : List Char)
  | array (items : List Json)
  | object (members : List (List Char × Json))

namespace Json

/-- The string of a text. -/
def ofText (text : String) : Json := .string (Text.encode text.toList)

/-- The object of named values. -/
def ofMembers (members : List (String × Json)) : Json :=
  .object (members.map fun m => (Text.encode m.1.toList, m.2))

/-- A text between quotes. -/
def quote (written : List Char) : List Char := '"' :: written ++ ['"']

mutual

/-- The text of a value without any blanks. -/
def render : Json → List Char
  | .null => "null".toList
  | .bool true => "true".toList
  | .bool false => "false".toList
  | .number written => written
  | .string written => quote written
  | .array [] => "[]".toList
  | .array (v :: vs) => '[' :: render v ++ renderItems vs
  | .object [] => ['{', '}']
  | .object ((key, v) :: ms) => '{' :: quote key ++ ':' :: render v ++ renderMembers ms

/-- The text of the further items of an array, with its end. -/
def renderItems : List Json → List Char
  | [] => [']']
  | v :: vs => ',' :: render v ++ renderItems vs

/-- The text of the further members of an object, with its end. -/
def renderMembers : List (List Char × Json) → List Char
  | [] => ['}']
  | (key, v) :: ms => ',' :: quote key ++ ':' :: render v ++ renderMembers ms

end

end Json

end Metering
