import Metering.Host
import Metering.Settings.Text

/-!
# Metering — settings from files

* `LoadFault` — why settings cannot be had from a file;
* `Settings.load` — reads a file, in JSON if its name says so and in RON otherwise.
-/

namespace Metering

/-- Why settings cannot be had from a file. -/
inductive LoadFault where
  /-- The file cannot be read as text. -/
  | unreadable (path : String)
  /-- The text is not what it should be. -/
  | malformed (path : String)
  /-- A switch of the environment cannot be read. -/
  | override (fault : Fault)
  deriving DecidableEq

/-- The fault in words. -/
def LoadFault.message : LoadFault → String
  | unreadable path => s!"Failed to read metrics configuration {path}"
  | malformed path => s!"Failed to parse metrics configuration {path}"
  | override _ => "Invalid metrics environment override"

namespace Settings

/-- What follows the last dot of a file's name, unless the dot comes first. -/
def extension? (path : String) : Option (List Char) :=
  match (Files.Path.ofString path).steps.getLast? with
  | none => none
  | some name =>
    if name = ['.', '.'] then none
    else
      match (Text.pieces '.' name).dropLast with
      | [] => none
      | [[]] => none
      | _ => some ((Text.pieces '.' name).getLastD [])

/-- Whether a file's name says that it holds JSON. -/
def isJson (path : String) : Bool :=
  (extension? path).any fun ext => Text.sameLetters ext "json".toList

/-- Reads settings from a file. -/
def load (h : Host) (path : String) : Host × Except LoadFault Settings :=
  match h.files.read? path with
  | none => (h, .error (.unreadable path))
  | some text =>
    match if isJson path then ofJson? text else ofRon? text with
    | none => (h, .error (.malformed path))
    | some s => (h.say .debug s!"Loaded metrics configuration from {path}.", .ok s)

end Settings

end Metering
