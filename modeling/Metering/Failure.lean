import Metering.Fault
import Metering.Report.Fault

/-!
# Metering — failures

* `Failure` — why an operation did not come to its end: it was refused, a reporter failed, or it
  broke off. What was changed before a failure stays changed.
-/

namespace Metering

/-- Why an operation did not come to its end. -/
inductive Failure where
  | refused (fault : Fault)
  | unreported (fault : Report.ReportFault)
  /-- Something that was called broke off, or there was no room for what was to be made. -/
  | brokenOff
  deriving DecidableEq

end Metering
