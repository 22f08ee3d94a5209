import Metering.Proofs.Registry.Usage

/-!
# Metering — groups update what is registered

A group holds its instruments itself, so an update through it looks up no names. It is entered
under its own name next to the metrics, several groups may share members, and a member may be
removed by its name, by the name of another group, or with the group itself. A group that is
still there was never left with an instrument that is not registered any more.

* `Serves.record?` — the instrument that a group updates in some place is the one that is
  registered under the name in this place, and of the kind of the group;
* `find?_of_group` — who looks for a group gets it, because no metric is in its way;
* `groups_intact_run` — both after every run.
-/

namespace Metering.Registry

variable {r : Registry} {key : String} {g : Group}

/-- A name with markers is the name of no metric. -/
theorem Sound.records_of_marked (h : Sound r) (hMarked : Name.isMarked key = true) :
    r.records.get? key = none := by
  cases hRecord : r.records.get? key with
  | none => rfl
  | some id =>
    have hPlain := h.plain hRecord
    rw [hMarked] at hPlain
    cases hPlain

/-- What serves under a name is registered there under its own name. -/
theorem Serves.record? {kind : Kind} {name : String} {id : InstrumentId} (hSound : Sound r)
    (h : r.Serves kind name id) :
    r.records.get? name = some id ∧
      ∃ i, r.instrument? id = some i ∧ r.record? name = some i ∧ i.name = name ∧ i.kind = kind := by
  obtain ⟨hRecord, i, hAt, hKind⟩ := h
  refine ⟨hRecord, i, hAt, ?_, hSound.name_eq hRecord hAt, hKind⟩
  rw [Registry.record?, hRecord]
  exact hAt

/-- Whoever looks for a group by its name gets a handle that reaches its instruments. -/
theorem find?_of_group (hSound : Sound r) (hIntact : g.IntactIn r key)
    (hGroup : r.groups.get? key = some g) :
    r.find? g.measure.kind key = .ok ⟨g.measure.kind, g.targets⟩ := by
  simp only [find?, hSound.records_of_marked hIntact.marked, hGroup, if_true]

/-- After every run each group is entered under a name with markers and has the expansion of this
name for its members. In each place it updates the very instrument that is registered under the
member's name at that moment, one of the group's kind. No metric is registered under a name with
markers, so that who looks for a group gets it. -/
theorem groups_intact_run (levels : LevelMap) (window : Window) (on : Bool)
    (steps : List (Instant × Request)) :
    let r := Usage.after levels window on steps
    (∀ key g, r.groups.get? key = some g →
      Name.isMarked key = true ∧ Name.hierarchy key = .ok g.members ∧
      List.Forall₂ (fun member id => r.records.get? member = some id ∧
          ∃ i, r.instrument? id = some i ∧ r.record? member = some i ∧ i.name = member ∧
            i.kind = g.measure.kind)
        g.members g.targets ∧
      r.find? g.measure.kind key = .ok ⟨g.measure.kind, g.targets⟩) ∧
    (∀ name, r.has name = true → Name.isMarked name = false) ∧
    ∀ name, r.has name = true → r.groups.contains name = false := by
  intro r
  have hValid : Usage.Valid ((Usage.start levels window on).run steps) :=
    Usage.valid_run levels window on steps
  have hSound : Sound r := hValid.sound
  have hPlain : ∀ name, r.has name = true → Name.isMarked name = false := by
    intro name hHas
    obtain ⟨id, hRecord⟩ := NameMap.contains_eq_true_iff.mp hHas
    exact hSound.plain hRecord
  refine ⟨?_, hPlain, ?_⟩
  · intro key g hGroup
    have hIntact : g.IntactIn r key := hValid.grouped hGroup
    refine ⟨hIntact.marked, hIntact.expanded, ?_, find?_of_group hSound hIntact hGroup⟩
    exact hIntact.served.imp fun member id hServes => hServes.record? hSound
  · intro name hHas
    -- the name of a metric is plain, that of a group has markers
    rw [NameMap.contains_eq_false_iff]
    cases hGroup : r.groups.get? name with
    | none => rfl
    | some g =>
      have hMarked := (hValid.grouped hGroup).marked
      rw [hPlain name hHas] at hMarked
      cases hMarked

end Metering.Registry
