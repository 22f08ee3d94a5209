import Metering.Text.Blank

/-!
# Metering — levels

A metric is created at a level, and a level is configured for names. The five levels are
ordered from `off` to `all`; a metric counts where its own level does not exceed the
configured one.

* `Level.rank` — the place of a level in that order;
* `Level.label` and `Level.ofText?` — the written form and its reader;
* `Level.admits` — whether a configured level lets a metric's level through.
-/

namespace Metering

/-- How much detail is asked for, from none to everything. -/
inductive Level where
  | off
  | info
  | debug
  | trace
  | all
  deriving DecidableEq

namespace Level

instance : Inhabited Level := ⟨info⟩

/-- The place of a level in the order. -/
def rank : Level → Nat
  | off => 0
  | info => 1
  | debug => 2
  | trace => 3
  | all => 4

instance : LE Level := ⟨fun a b => a.rank ≤ b.rank⟩
instance : LT Level := ⟨fun a b => a.rank < b.rank⟩
instance (a b : Level) : Decidable (a ≤ b) := inferInstanceAs (Decidable (a.rank ≤ b.rank))
instance (a b : Level) : Decidable (a < b) := inferInstanceAs (Decidable (a.rank < b.rank))

/-- All levels, in ascending order. -/
def values : List Level := [off, info, debug, trace, all]

/-- The written form of a level. -/
def label : Level → String
  | off => "OFF"
  | info => "INFO"
  | debug => "DEBUG"
  | trace => "TRACE"
  | all => "ALL"

/-- The level's name as a person would write it in a listing of values. -/
def title : Level → String
  | off => "Off"
  | info => "Info"
  | debug => "Debug"
  | trace => "Trace"
  | all => "All"

/-- Reads a level's written form, without regard to blanks at the ends and letter case. -/
def ofText? (text : String) : Option Level :=
  values.find? fun level => Text.sameLetters level.label.toList (Text.trimmed text.toList)

/-- A configured level lets a metric through when it is at least the metric's level; `off` lets
nothing through, a metric of level `off` included. -/
def admits (configured metric : Level) : Bool :=
  decide (off < configured) && decide (metric ≤ configured)

theorem admits_iff {configured metric : Level} :
    configured.admits metric = true ↔ off < configured ∧ metric ≤ configured := by
  simp [admits]

end Level

end Metering
