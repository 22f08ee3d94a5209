import Metering.Proofs.Subscriptions
import Metering.Service.Announcement

/-!
# Metering — what announcements keep

Whatever an observer does on a change comes down to a few things: the registry changes, an entry is
put into the journal, somebody subscribes or leaves, and a change is announced in turn. What each of
these keeps, an observer keeps by all of its actions, and an announcement by all who hear of it,
however deep it goes.

* `changed_keeps`, `changedLevel_keeps` — what a change keeps with its announcement;
* `Kept` — what is kept by the things of which actions consist;
* `Kept.perform`, `Kept.performNoted`, `Kept.respond` — what observers keep;
* `Kept.announceTo` — what announcements keep.
-/

namespace Metering

/-- Whether an action makes a change of its own, which would be announced. -/
def Action.announces : Action → Bool
  | .setRoot _ | .setLevel .. | .setEnabled _ => true
  | _ => false

namespace Service

variable {P : Service → Prop} {admits : Action → Prop} {s : Service} {o : Observer}
  {action : Action} {announcing : Change → Service → Service × Bool}

/-! ## Changes -/

theorem deedOf_fst (outcome : Service × Bool) : (deedOf outcome).1 = outcome.1 := by
  obtain ⟨s, whole⟩ := outcome
  cases whole <;> rfl

/-- A level is refused, or the change is announced. -/
theorem changedLevel_cases (announcing : Change → Service → Service × Bool) (s : Service)
    (name : String) (level : Level) :
    (∃ r fault, s.registry.setLevel name level = (r, .error fault) ∧
      (s.changedLevel announcing name level).1 = s.adopt r) ∨
    (∃ r change, s.registry.setLevel name level = (r, .ok change) ∧
      (s.changedLevel announcing name level).1 = (s.changed announcing (r, change)).1) := by
  rw [changedLevel]
  split
  · next r fault hRefused => exact .inl ⟨r, fault, hRefused, rfl⟩
  · next r change hOutcome =>
    refine .inr ⟨r, change, hOutcome, ?_⟩
    split <;> (next hChanged => rw [hChanged])

theorem changed_keeps (hAdopt : ∀ s r, P s → P (s.adopt r))
    (hAnnouncing : ∀ change s, P s → P (announcing change s).1) (h : P s)
    (outcome : Registry × Option Change) : P (s.changed announcing outcome).1 := by
  rw [changed]
  split
  · exact hAnnouncing _ _ (hAdopt s outcome.1 h)
  · exact hAdopt s outcome.1 h

theorem changedLevel_keeps (hAdopt : ∀ s r, P s → P (s.adopt r))
    (hAnnouncing : ∀ change s, P s → P (announcing change s).1) (h : P s) (name : String)
    (level : Level) : P (s.changedLevel announcing name level).1 := by
  obtain ⟨r, fault, -, hAfter⟩ | ⟨r, change, -, hAfter⟩ :=
    changedLevel_cases announcing s name level
  · rw [hAfter]
    exact hAdopt s r h
  · rw [hAfter]
    exact changed_keeps hAdopt hAnnouncing h (r, change)

/-! ## Observers -/

/-- Something is kept by all of which actions consist, as far as they are admitted. -/
structure Kept (P : Service → Prop) (admits : Action → Prop)
    (announcing : Change → Service → Service × Bool) : Prop where
  adopt : ∀ s r, P s → P (s.adopt r)
  note : ∀ s n, (∀ tag call well, n ≠ .called tag call well) → P s →
    P { s with site := s.site.note n }
  subscribe : ∀ s channel label actions, admits (.subscribe channel label actions) → P s →
    P (s.subscribe channel ⟨label, actions⟩)
  leave : ∀ s label among, admits (.leave label among) → P s → P (s.leave label among).1
  announce : ∀ action, action.announces = true → admits action →
    ∀ change s, P s → P (announcing change s).1

namespace Kept

theorem perform (hKept : Kept P admits announcing) (hAdmits : admits action) (h : P s) :
    P (s.perform announcing action).1 := by
  cases action with
  | probe name =>
    rw [Service.perform]
    split <;> exact h
  | count | breakOff => exact h
  | subscribe channel label actions => exact hKept.subscribe s channel label actions hAdmits h
  | leave label among =>
    have hLeave := hKept.leave s label among hAdmits h
    rw [Service.perform]
    split <;>
    · next hOutcome =>
      rw [hOutcome] at hLeave
      exact hLeave
  | setRoot level =>
    rw [Service.perform, deedOf_fst]
    exact changed_keeps hKept.adopt (hKept.announce _ rfl hAdmits) h _
  | setEnabled on =>
    rw [Service.perform, deedOf_fst]
    exact changed_keeps hKept.adopt (hKept.announce _ rfl hAdmits) h _
  | setLevel name level =>
    have hLevel := changedLevel_keeps hKept.adopt (hKept.announce _ rfl hAdmits) h name level
    rw [Service.perform]
    split <;>
    · next hOutcome =>
      rw [hOutcome] at hLevel
      exact hLevel
  | counter name level =>
    rw [Service.perform]
    split <;> exact hKept.adopt s _ h
  | remove name =>
    rw [Service.perform]
    split <;> exact hKept.adopt s _ h

theorem performNoted (hKept : Kept P admits announcing) (label : String)
    (hAdmits : admits action) (h : P s) : P (performNoted announcing label action s).1 := by
  have hPerform := hKept.perform hAdmits h
  rw [Service.performNoted]
  split
  · next now outcome hOutcome =>
    rw [hOutcome] at hPerform
    exact hKept.note now _ nofun hPerform
  · next hOutcome =>
    rw [hOutcome] at hPerform
    exact hPerform

theorem respond (hKept : Kept P admits announcing) (hAdmits : ∀ a ∈ o.actions, admits a)
    (change : Change) (h : P s) : P (respond announcing change (.observer o) s).1 :=
  inTurn_keeps (P := P) o.actions
    (fun action hMem _ hNow => hKept.performNoted o.label (hAdmits action hMem) hNow)
    (hKept.note s _ nofun h)

/-- By induction on the depth: what listeners bring about is announced one step deeper. -/
theorem announceTo
    (hKept : ∀ {announcing : Change → Service → Service × Bool},
      (∀ change s, P s → P (announcing change s).1) → Kept P admits announcing)
    (hAdmits : ∀ s channel o, P s → .observer o ∈ (s.listeners channel).subscribers →
      ∀ a ∈ o.actions, admits a)
    (hSupervisor : ∀ s change, P s → P (s.supervised fun rs => rs.heed change).1)
    (depth : Nat) (change : Change) (h : P s) : P (announceTo depth change s).1 := by
  induction depth generalizing change s with
  | zero => exact h
  | succ depth ih =>
    -- who is called was settled at the beginning, so what they may do is known from there
    refine inTurn_keeps (P := P) _ (fun l hMem now hNow => ?_) h
    cases l with
    | observer o =>
      exact (hKept fun change _ hThen => ih change hThen).respond (hAdmits s _ o h hMem) change hNow
    | supervisor => exact hSupervisor now change hNow

end Kept

end Service

end Metering
