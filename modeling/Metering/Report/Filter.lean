import Metering.NameMap
import Metering.Pattern.Reader
import Metering.Report.Fault

/-!
# Metering — which names are reported

A filter lists the names to report and the names never to report, as they are or as expressions
that must describe the whole name. No name to report means all names.

* `NameFilter` — the lists as they are configured;
* `Selection` — the filter with its expressions read;
* `Selection.accepts` — whether a name passes.
-/

namespace Metering

/-- A set of names, listed in ascending order. -/
abbrev NameSet := NameMap Unit

/-- The set of the listed names. -/
def NameSet.ofList (names : List String) : NameSet :=
  NameMap.ofList (names.map fun name => (name, ()))

namespace Report

/-- Which names are reported, as it is configured. -/
structure NameFilter where
  useExpressions : Bool
  includes : NameSet
  excludes : NameSet

/-- The filter that lets all names through. -/
def NameFilter.all : NameFilter := ⟨false, .empty, .empty⟩

/-- Names, or patterns of names. -/
inductive Matcher where
  | exact (names : NameSet)
  | patterns (ps : List Pattern)

namespace Matcher

/-- Whether there is nothing to match with. -/
def isEmpty : Matcher → Bool
  | exact names => names.size == 0
  | patterns ps => ps.isEmpty

/-- Whether a name is one of the names or described by one of the patterns. -/
def holds (matcher : Matcher) (name : String) : Bool :=
  match matcher with
  | exact names => names.contains name
  | patterns ps => ps.any fun p => p.occursIn name.toList

/-- Reads one expression. -/
def readOne (reporter expression : String) : Except ReportFault Pattern :=
  match Pattern.whole? expression with
  | some p => .ok p
  | none => .error (.build reporter (.badExpression expression))

/-- The matcher of a set of names or expressions. -/
def ofSet (useExpressions : Bool) (reporter : String) (names : NameSet) :
    Except ReportFault Matcher :=
  if useExpressions then .patterns <$> names.names.mapM (readOne reporter)
  else .ok (.exact names)

end Matcher

/-- A filter with its expressions read. -/
structure Selection where
  includes : Matcher
  excludes : Matcher

/-- Reads the expressions of a filter, those of the names to report first. -/
def NameFilter.read (filter : NameFilter) (reporter : String) : Except ReportFault Selection := do
  let includes ← Matcher.ofSet filter.useExpressions reporter filter.includes
  let excludes ← Matcher.ofSet filter.useExpressions reporter filter.excludes
  return ⟨includes, excludes⟩

/-- Whether a name passes the filter, given whether the metric counts. -/
def Selection.accepts (s : Selection) (enabled : String → Bool) (name : String) : Bool :=
  enabled name && !s.excludes.holds name && (s.includes.isEmpty || s.includes.holds name)

end Report

end Metering
