import Metering.Text.Age
import Metering.Text.Break
import Metering.Text.Script

/-!
# Metering — named sets of characters

Patterns refer to sets of characters by name: by a letter after a backslash, by a property in
braces, or by a word between colons inside brackets.

* `perl?` — digits, blanks and word characters;
* `property?` — categories, scripts and other properties, under long and short names;
* `posix?` — sets among the first 128 characters.
-/

namespace Metering.Pattern

open Text (CharSet Category)

/-! ## Letters -/

/-- The set that a small letter after a backslash names, in all scripts or among the first 128
characters. -/
def perl? (plain : Bool) : Char → Option CharSet
  | 'd' => some (if plain then .span 0x30 0x39 else Category.set .earlier .digit)
  | 's' => some (if plain then .ofTable "9-d 20" else .blanks)
  | 'w' => some (if plain then .plainWord else .word)
  | _ => none

/-! ## Properties -/

/-- A property's name without regard to letter case, blanks, dashes, underscores, characters
outside the first 128 and a leading `is`. -/
def looseName (cs : List Char) : List Char :=
  let strict (cs : List Char) : List Char :=
    (cs.filter fun c => c != ' ' && c != '_' && c != '-' && c.toNat < 128).map Char.toLower
  match cs with
  | i :: s :: rest =>
    if i.toLower = 'i' ∧ s.toLower = 's' then
      if strict rest = ['c'] then ['i', 's', 'c'] else strict rest
    else strict cs
  | cs => strict cs

/-- The names of groups of categories. -/
def groupNames : List (String × List Category) :=
  [("l letter", Text.letters), ("lc casedletter", [.upperLetter, .lowerLetter, .titleLetter]),
    ("m mark combiningmark", Text.marks), ("n number", Text.numbers),
    ("p punctuation punct", Text.punctuation), ("s symbol", Text.symbols),
    ("z separator", Text.separators), ("c other", Text.undrawn)]

/-- The categories of a name: a group, or a single one. Surrogates are no characters. -/
def categories? (name : List Char) : Option (List Category) :=
  let named (names : String) : Bool := (Text.Span.words names.toList).contains name
  match groupNames.find? fun entry => named entry.1 with
  | some entry => some entry.2
  | none =>
    ((Category.unassigned :: Category.assigned).find? fun category =>
      category ≠ .surrogate ∧ named category.names).map fun category => [category]

/-- The set of a category or group of categories. -/
def category? (name : List Char) : Option CharSet :=
  match String.ofList name with
  | "any" => some .all
  | "assigned" => some (Category.set .earlier .unassigned).negated
  | "ascii" => some (.span 0 0x7F)
  | _ => (categories? name).map (Category.unions .earlier)

/-- The set that a property's name stands for: a plain property, a category or a script. -/
def property? (written : List Char) : Option CharSet :=
  let name := looseName written
  ((CharSet.ofTrait? name).or (category? name)).or (CharSet.ofScript? name)

/-- The set of a property with a value: a category, a script, the characters at home in one, an
age, or a kind of character where texts are divided. -/
def valuedProperty? (property value : List Char) : Option CharSet :=
  let value := looseName value
  match String.ofList (looseName property) with
  | "gc" | "generalcategory" => category? value
  | "sc" | "script" => CharSet.ofScript? value
  | "scx" | "scriptextensions" => CharSet.atHome? value
  | "age" => CharSet.ofAge? value
  | "gcb" | "graphemeclusterbreak" => CharSet.ofDrawnKind? .earlier value
  | "wb" | "wordbreak" => CharSet.ofWordKind? .earlier value
  | "sb" | "sentencebreak" => CharSet.ofSentenceKind? .earlier value
  | _ => none

/-! ## Words between colons -/

/-- The set that a word between colons names, among the first 128 characters. -/
def posix? (name : List Char) : Option CharSet :=
  match String.ofList name with
  | "alnum" => some (.ofTable "30-39 41-5a 61-7a")
  | "alpha" => some (.ofTable "41-5a 61-7a")
  | "ascii" => some (.span 0 0x7F)
  | "blank" => some (.ofTable "9 20")
  | "cntrl" => some (.ofTable "0-1f 7f")
  | "digit" => some (.span 0x30 0x39)
  | "graph" => some (.span 0x21 0x7E)
  | "lower" => some (.span 0x61 0x7A)
  | "print" => some (.span 0x20 0x7E)
  | "punct" => some (.ofTable "21-2f 3a-40 5b-60 7b-7e")
  | "space" => some (.ofTable "9-d 20")
  | "upper" => some (.span 0x41 0x5A)
  | "word" => some .plainWord
  | "xdigit" => some (.ofTable "30-39 41-46 61-66")
  | _ => none

end Metering.Pattern
