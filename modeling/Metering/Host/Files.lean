import Metering.NameMap
import Metering.Text.Pieces

/-!
# Metering — files

Reporters write into files and settings are read from files. Files and directories are kept under
their full paths; the paths that operations are given may be longer than they need to be.

* `Files` — what is there;
* `PathFault` — why a path cannot be followed;
* `Files.locate?` — the full path that a path leads to;
* `Files.read?`, `Files.write?`, `Files.append?`, `Files.makeAll`, `Files.removeAll` — the
  operations, of which one that is impossible gives nothing or says so.
-/

namespace Metering

/-- What is under a path. A file whose bytes are no text has no content to speak of. -/
inductive Entry where
  | directory
  | file (content : Option String)
  deriving DecidableEq

/-- Directories and files under their full paths. -/
structure Files where
  entries : NameMap Entry

namespace Files

/-! ## Paths -/

/-- A path in parts: whether it starts at the root, the steps, and whether it must end at a
directory. -/
structure Path where
  rooted : Bool
  steps : List (List Char)
  closed : Bool

/-- The parts of a path. Empty steps and single dots lead nowhere. -/
def Path.ofString (path : String) : Path where
  rooted := path.toList.head? == some '/'
  steps := (Text.pieces '/' path.toList).filter fun s => s ≠ [] && s ≠ ['.']
  closed := ["".toList, ".".toList].contains ((Text.pieces '/' path.toList).getLastD [])

/-- The full path of steps without detours. -/
def fullPath (rooted : Bool) (steps : List (List Char)) : String :=
  String.ofList ((if rooted then ['/'] else []) ++ Text.joined '/' steps)

/-- Whether something can have this name: no more than 255 bytes. -/
def isUsable (step : List Char) : Bool := (String.ofList step).utf8ByteSize ≤ 255

/-- Whether a path can be followed: no zero character, and fewer than 4096 bytes. -/
def isPath (path : String) : Bool :=
  path.utf8ByteSize < 4096 && !path.toList.contains (Char.ofNat 0)

/-- Why a path cannot be followed, or why nothing can be made at its end. -/
inductive PathFault where
  /-- There is nothing where a directory should be. -/
  | missing
  /-- There is something already. -/
  | taken
  /-- The path or a step is too long, or leads through a file. -/
  | unusable
  deriving DecidableEq

/-- What is at a full path; a path without steps is a directory. -/
def at? (f : Files) (rooted : Bool) (steps : List (List Char)) : Option Entry :=
  if steps.isEmpty then some .directory else f.entries.get? (fullPath rooted steps)

/-- Goes along steps from a place. All places on the way must be directories. -/
def walk (f : Files) (rooted : Bool) (place : List (List Char)) :
    List (List Char) → Except PathFault (List (List Char))
  | [] => .ok place
  | step :: rest =>
    match f.at? rooted place with
    | none => .error .missing
    | some (.file _) => .error .unusable
    | some .directory =>
      if step = ['.', '.'] then f.walk rooted place.dropLast rest
      else if isUsable step then f.walk rooted (place ++ [step]) rest
      else .error .unusable

/-- Goes along steps to a directory. -/
def enter (f : Files) (rooted : Bool) (steps : List (List Char)) :
    Except PathFault (List (List Char)) := do
  let place ← f.walk rooted [] steps
  match f.at? rooted place with
  | none => .error .missing
  | some (.file _) => .error .unusable
  | some .directory => .ok place

/-- The full path that a path leads to. There need not be anything, except on the way. -/
def locate? (f : Files) (path : String) : Option String :=
  let p := Path.ofString path
  if isPath path then
    match if p.closed then f.enter p.rooted p.steps else f.walk p.rooted [] p.steps with
    | .ok place => some (fullPath p.rooted place)
    | .error _ => none
  else none

/-- What a path leads to. -/
def entry? (f : Files) (path : String) : Option Entry :=
  match f.locate? path with
  | some full => if full = "" ∨ full = "/" then some .directory else f.entries.get? full
  | none => none

/-- Whether there is something. -/
def exists? (f : Files) (path : String) : Bool := (f.entry? path).isSome

/-- Whether there is a directory. -/
def isDirectory (f : Files) (path : String) : Bool := f.entry? path == some .directory

/-! ## Operations -/

/-- The text of a file. -/
def read? (f : Files) (path : String) : Option String :=
  match f.entry? path with
  | some (.file content) => content
  | _ => none

/-- Writes a file whole. -/
def write? (f : Files) (path : String) (content : Option String) : Option Files :=
  match f.locate? path, f.entry? path with
  | some _, some .directory => none
  | some full, _ => some ⟨f.entries.insert full (.file content)⟩
  | none, _ => none

/-- Writes at the end of a file, which is made if it is not there. -/
def append? (f : Files) (path text : String) : Option Files :=
  match f.entry? path with
  | some (.file content) => f.write? path (content.map (· ++ text))
  | some .directory => none
  | none => f.write? path (some text)

/-- Makes one directory at the end of steps. Where the path ends in dots, the last step must be
there, and then nothing is made. -/
def makeOne (f : Files) (rooted dotted : Bool) (steps : List (List Char)) :
    Except PathFault Files := do
  if dotted || steps.getLast?.all (· = ['.', '.']) then
    let _ ← f.enter rooted (if dotted then steps else steps.dropLast)
    .error .taken
  else
    let place ← f.enter rooted steps.dropLast
    let name := steps.getLastD []
    let full := fullPath rooted (place ++ [name])
    if !isUsable name then .error .unusable
    else if f.entries.contains full then .error .taken
    else .ok ⟨f.entries.insert full .directory⟩

/-- Whether a fault does not matter as there is a directory already. -/
def isThere (f : Files) (rooted : Bool) (steps : List (List Char)) (fault : PathFault) : Bool :=
  fault = .taken && (f.enter rooted steps).isOk

/-- Makes a directory and, if it is missing, first the one that it lies in, and says whether that
was possible. The number of steps is fuel enough. -/
def makeSteps : Nat → Files → Bool → Bool → List (List Char) → Files × Bool
  | fuel, f, rooted, dotted, steps =>
    match f.makeOne rooted dotted steps with
    | .ok f => (f, true)
    | .error .missing =>
      match fuel with
      | 0 => (f, false)
      | fuel + 1 =>
        match makeSteps fuel f rooted false steps.dropLast with
        | (f, false) => (f, false)
        | (f, true) =>
          match f.makeOne rooted dotted steps with
          | .ok f => (f, true)
          | .error fault => (f, f.isThere rooted steps fault)
    | .error fault => (f, f.isThere rooted steps fault)

/-- Makes a directory and all directories on the way, and says whether that was possible. -/
def makeAll (f : Files) (path : String) : Files × Bool :=
  let p := Path.ofString path
  let last := ((Text.pieces '/' path.toList).filter (· ≠ [])).getLast?
  if path = "" then (f, true)
  else if isPath path then makeSteps p.steps.length f p.rooted (last = some ['.']) p.steps
  else (f, false)

/-- Whether a full path is another one or lies below it. -/
def isBelow (above full : String) : Bool :=
  full == above || (above.toList ++ ['/']).isPrefixOf full.toList

/-- Removes a directory or file with all that is below it. -/
def removeAll (f : Files) (path : String) : Files :=
  match f.locate? path with
  | some full => ⟨f.entries.keep fun name _ => !isBelow full name⟩
  | none => f

/-- All that lies below a directory, by the rest of the path, in the order of the paths. -/
def below (f : Files) (directory : String) : List (String × Entry) :=
  f.entries.toList.filterMap fun (name, entry) =>
    let front := directory.toList ++ ['/']
    if front.isPrefixOf name.toList then
      some (String.ofList (name.toList.drop front.length), entry)
    else none

/-- Only a directory, and the directories on the way. -/
def ofDirectory (directory : String) : Files := (makeAll ⟨.empty⟩ directory).1

end Files

end Metering
