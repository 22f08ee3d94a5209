/-!
# Metering — what can go wrong with a reporter

* `BuildDefect` — why a reporter cannot be made from its settings;
* `ReportFault` — why an operation on a reporter was refused or failed, with the reporter's name;
* `ReportFault.message` — the fault in words.
-/

namespace Metering.Report

/-- Why a reporter cannot be made from its settings. -/
inductive BuildDefect where
  | badExpression (expression : String)
  | shortPeriod
  | noTarget
  | noLocation
  | noDirectory (path : String)
  deriving DecidableEq

/-- The defect in words. What is wrong with an expression is not said. -/
def BuildDefect.reason : BuildDefect → String
  | badExpression expression => s!"invalid filter expression '{expression}': "
  | shortPeriod => "the polling period must be at least one second"
  | noTarget => "the log target is not specified"
  | noLocation => "the CSV reporting location is not specified"
  | noDirectory path => s!"{path} is not a directory"

/-- Why an operation on a reporter was refused or failed. -/
inductive ReportFault where
  | build (name : String) (defect : BuildDefect)
  | disabled (name : String)
  | notFound (name : String)
  /-- The outer system failed to read or write. -/
  | io (name : String)
  | failed (name reason : String)
  deriving DecidableEq

/-- The fault in words; the outer system's own words are left out. -/
def ReportFault.message : ReportFault → String
  | build name defect => s!"failed to build reporter '{name}': {defect.reason}"
  | disabled name => s!"reporter '{name}' is disabled"
  | notFound name => s!"reporter '{name}' not found"
  | io name => s!"reporter '{name}' failed to write: <os>"
  | failed name reason => s!"reporter '{name}' failed: {reason}"

end Metering.Report
