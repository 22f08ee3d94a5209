import Metering.Fault
import Metering.Text.Pieces

/-!
# Metering — metric names

A metric name is a text cut into segments by dots. A segment that ends in the marker `[+]`
after at least one other character is *marked*: the metric is also to be counted for the
ancestor that ends there. The last segment names the statistic and the one before it what is
measured; neither can be marked.

* `segments` and `ofSegments` — a name and its segments;
* `unmarked?`, `isMarked` — the marker of a segment and of a name;
* `hierarchy` — the plain names that a name with markers stands for, itself first and then its
  ancestors, least specific first;
* `parent?`, `lineage` — the names above a name;
* `ofParts`, `ofMethod`, `ofModule` — building names.
-/

namespace Metering.Name

/-- The segments of a name. -/
def segments (name : String) : List (List Char) := Text.pieces '.' name.toList

/-- The name with the given segments. -/
def ofSegments (segs : List (List Char)) : String := String.ofList (Text.joined '.' segs)

/-! ## Markers -/

/-- The text that marks a segment. -/
def marker : List Char := ['[', '+', ']']

/-- The segment without its marker, if it is marked. -/
def unmarked? (seg : List Char) : Option (List Char) :=
  if marker.isSuffixOf seg && marker.length < seg.length then
    some (seg.take (seg.length - marker.length))
  else none

/-- The segment without its marker, if it has one. -/
def plain (seg : List Char) : List Char := (unmarked? seg).getD seg

/-- Whether a segment is marked. -/
def isMarkedSegment (seg : List Char) : Bool := (unmarked? seg).isSome

/-- Whether some segment of the name is marked. -/
def isMarked (name : String) : Bool := (segments name).any isMarkedSegment

/-! ## Expansion -/

/-- A path made one segment longer; a path that is still empty takes no dot. -/
def extend (path seg : List Char) : List Char :=
  if path = [] then plain seg else path ++ '.' :: plain seg

/-- The paths that end at a marked segment, from the front. -/
def markedPaths (path : List Char) : List (List Char) → List (List Char)
  | [] => []
  | seg :: rest =>
    let longer := extend path seg
    if isMarkedSegment seg then longer :: markedPaths longer rest
    else markedPaths longer rest

/-- The name of a statistic under a path. -/
def under (path statistic : List Char) : String := String.ofList (path ++ '.' :: statistic)

/-- The plain names that a path and a statistic stand for: the path itself, then its marked
ancestors from the least specific. -/
def expansion (path : List (List Char)) (statistic : List Char) : List String :=
  under (path.foldl extend []) statistic ::
    (markedPaths [] path).map fun ancestor => under ancestor statistic

/-- The plain names that a name with markers stands for. -/
def hierarchy (name : String) : Except Fault (List String) :=
  let segs := segments name
  if segs.length < 3 then .error (.invalidName name .tooFewSegments)
  else
    let path := segs.dropLast
    let statistic := segs.getLastD []
    if isMarkedSegment statistic || isMarkedSegment (path.getLastD []) then
      .error (.invalidName name .markedTail)
    else .ok (expansion path statistic)

/-! ## Ancestors -/

/-- The nonempty beginnings of a list, the longest first. -/
def beginnings {α : Type} : List α → List (List α)
  | [] => []
  | a :: rest => (beginnings rest).map (a :: ·) ++ [[a]]

/-- The name itself and the names above it, from the closest. -/
def lineage (name : String) : List String := (beginnings (segments name)).map ofSegments

/-- The name directly above: all but the last segment. -/
def parent? (name : String) : Option String :=
  match (segments name).dropLast with
  | [] => none
  | above => some (ofSegments above)

/-! ## Building names -/

/-- The nonempty parts, joined by dots. -/
def ofParts (first : String) (rest : List String) : String :=
  ofSegments (((first :: rest).filter (· ≠ "")).map String.toList)

/-- The name of a metric that belongs to a method: an absolute explicit name stands for itself,
any other is put under the scope and the method. -/
def ofMethod (explicit : Option String) (absolute : Bool) (scope method : String) : String :=
  match explicit.filter (· ≠ "") with
  | some name => if absolute then name else ofParts scope [method, name]
  | none => ofParts scope [method]

/-- A path written with double colons, written with dots. -/
def dotted : List Char → List Char
  | ':' :: ':' :: rest => '.' :: dotted rest
  | c :: rest => c :: dotted rest
  | [] => []

/-- The name of the scope that a module path stands for. -/
def ofModule (path : String) : String := String.ofList (dotted path.toList)

end Metering.Name
