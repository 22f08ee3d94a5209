import Metering.Name
import Metering.NameMap

/-!
# Metering — configured levels

Levels are configured for names, and one for all the rest. A name without a level of its own
takes that of the closest name above it.

* `LevelMap` — the root level and the levels of names;
* `LevelMap.effective` — the level that applies to a name;
* `LevelMap.enables` — whether a metric of a level counts under a name.
-/

namespace Metering

/-- The root level and the levels configured for names. -/
structure LevelMap where
  root : Level
  named : NameMap Level

namespace LevelMap

/-- Only a root level. -/
def ofRoot (root : Level) : LevelMap := ⟨root, .empty⟩

instance : Inhabited LevelMap := ⟨ofRoot default⟩

/-- The level configured for exactly this name. -/
def level? (m : LevelMap) (name : String) : Option Level := m.named.get? name

/-- The map with a level configured for a name. -/
def set (m : LevelMap) (name : String) (level : Level) : LevelMap :=
  { m with named := m.named.insert name level }

/-- The map with another root level. -/
def setRoot (m : LevelMap) (level : Level) : LevelMap := { m with root := level }

/-- The level that applies to a name: its own, that of the closest name above it that has one,
or the root level. -/
def effective (m : LevelMap) (name : String) : Level :=
  ((Name.lineage name).findSome? m.level?).getD m.root

/-- Whether a metric of the given level counts under a name. -/
def enables (m : LevelMap) (name : String) (level : Level) (switchedOn : Bool) : Bool :=
  switchedOn && (m.effective name).admits level

end LevelMap

end Metering
