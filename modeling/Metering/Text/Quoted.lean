import Metering.Text.Property

/-!
# Metering — quoted text

A text between double quotes shows each character as it is, if it can be shown by itself, and
as an escape otherwise.

* `escapeChar`, `quoted` — the quoted form, with or without escapes for single quotes;
* `listing` — quoted texts in brackets.
-/

namespace Metering.Text

/-- The hexadecimal digits of a number. -/
def hexDigits (n : Nat) : List Char := Nat.toDigits 16 n

/-- The form of one character inside quotes. `single` says whether a single quote is escaped. -/
def escapeChar (single : Bool) (c : Char) : List Char :=
  if c = '"' then ['\\', '"']
  else if c = '\\' then ['\\', '\\']
  else if c = '\'' then if single then ['\\', '\''] else ['\'']
  else if c = '\n' then ['\\', 'n']
  else if c = '\r' then ['\\', 'r']
  else if c = '\t' then ['\\', 't']
  else if c.toNat = 0 then ['\\', '0']
  else if isShown c then [c]
  else '\\' :: 'u' :: '{' :: hexDigits c.toNat ++ ['}']

/-- A text between quotes. -/
def quoted (single : Bool) (cs : List Char) : List Char :=
  '"' :: cs.flatMap (escapeChar single) ++ ['"']

/-- A text as it is shown in messages. -/
def shown (s : String) : String := String.ofList (quoted false s.toList)

/-- Texts as they are listed in messages. -/
def listing (texts : List String) : String :=
  "[" ++ String.intercalate ", " (texts.map shown) ++ "]"

end Metering.Text
