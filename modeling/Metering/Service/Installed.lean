import Metering.Service.Basic

/-!
# Metering — the service of a process

* `Installed` — the place for the one service of a process, which is filled once.
-/

namespace Metering

/-- The place for the one service of a process. -/
structure Installed where
  service : Option Service

namespace Installed

/-- Nothing is installed yet. -/
def empty : Installed := ⟨none⟩

/-- Installs a service if none is there; otherwise gives it back. -/
def install (i : Installed) (s : Service) : Installed × Option Service :=
  match i.service with
  | none =>
    (⟨some { s with site := s.site.say .info "Process-wide metrics service installed." }⟩, none)
  | some _ => (i, some s)

end Installed

end Metering
