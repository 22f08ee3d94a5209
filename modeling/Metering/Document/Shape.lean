/-!
# Metering — shapes of documents

A settings document can be written in two notations. What it may hold is said once, by a shape,
and read into a datum of that shape, in which all that depends on the notation is gone.

* `Shape` — what may stand at a place of a document;
* `Datum` — what stands there;
* `Datum.field?`, `Datum.asText?`, … — the parts of a datum.
-/

namespace Metering

/-- What may stand at a place of a document. -/
inductive Shape where
  | switch
  /-- A whole number below `2 ^ 64`. -/
  | word
  | text
  /-- One of the listed words. -/
  | choice (words : List String)
  | optional (shape : Shape)
  | list (items : Shape)
  /-- Values under texts. -/
  | map (values : Shape)
  /-- Named fields, of which any may be missing. -/
  | record (name : String) (fields : List (String × Shape))

/-- What stands at a place of a document. -/
inductive Datum where
  | switch (on : Bool)
  | word (n : UInt64)
  | text (s : String)
  | choice (word : String)
  | absent
  | present (d : Datum)
  | list (items : List Datum)
  | map (entries : List (String × Datum))
  | record (fields : List (String × Datum))

namespace Datum

/-- The value of a switch. -/
def asSwitch? : Datum → Option Bool
  | switch on => some on
  | _ => none

/-- The value of a number. -/
def asWord? : Datum → Option UInt64
  | word n => some n
  | _ => none

/-- The value of a text. -/
def asText? : Datum → Option String
  | text s => some s
  | _ => none

/-- The word that was chosen. -/
def asChoice? : Datum → Option String
  | choice w => some w
  | _ => none

/-- What may be absent. -/
def asOptional? : Datum → Option (Option Datum)
  | absent => some none
  | present d => some (some d)
  | _ => none

/-- The items of a list. -/
def asList? : Datum → Option (List Datum)
  | list items => some items
  | _ => none

/-- The entries of a map. -/
def asMap? : Datum → Option (List (String × Datum))
  | map entries => some entries
  | _ => none

/-- The field of a record under a name. -/
def field? (d : Datum) (name : String) : Option Datum :=
  match d with
  | record fields => fields.lookup name
  | _ => none

/-- A field that is read if it is there, and has a default if it is missing. -/
def fieldOr {α : Type} (d : Datum) (name : String) (read : Datum → Option α) (default : α) :
    Option α :=
  match d.field? name with
  | some value => read value
  | none => some default

end Datum

end Metering
