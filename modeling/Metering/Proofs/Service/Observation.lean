import Metering.Proofs.Registry.Told
import Metering.Proofs.Service.Announcement
import Metering.Proofs.Subscriptions

/-!
# Metering — announcements among those who only look

Observers that only look at what counts let every announcement come to its end. What they put into
the journal is what they heard of and what they saw, one observer after another in the order in
which they came; and what they saw is what is configured since the change.

* `Listener.Observes` — an observer that only looks;
* `Listener.notes` — what it puts into the journal on a change;
* `Service.heeded` — what all who hear of a change put there;
* `Watched` — a service where everybody who hears of changes only looks;
* `Watched.announce`, `Watched.changed` — what an announcement comes to;
* `Tells` — what a call does there, and `Watched.tells_changed`, `Watched.tells_adopt`, … — one lemma
  a call.
-/

namespace Metering

/-- Whether an action only looks at what counts. -/
def Action.observes : Action → Bool
  | .probe _ | .count => true
  | _ => false

/-- An observer that only looks at what counts. -/
def Listener.Observes : Listener → Prop
  | .observer o => ∀ a ∈ o.actions, a.observes = true
  | .supervisor => False

/-- What one sees who looks at what counts, worked out anew from the switch and the levels. -/
def Registry.sight (r : Registry) : Action → Except Failure Answer
  | .probe name =>
    (r.resolved? name).elim (.error (.refused (.notFound name))) fun on => .ok (.truth on)
  | _ => .ok (.number (r.records.names.countP fun name => r.resolved? name = some true))

/-- What a listener puts into the journal on a change: what it hears of, and then what it sees. -/
def Listener.notes (r : Registry) (change : Change) : Listener → List Note
  | .observer o => .heard o.label change :: o.actions.map fun a => .acted o.label a (r.sight a)
  | .supervisor => []

/-- Whether a listener is an observer of a label. -/
def Listener.bears (label : String) : Listener → Bool
  | .observer o => o.label = label
  | .supervisor => false

/-- The change that the observers of a label have heard of, if this is such an entry. -/
def Note.heardBy (label : String) : Note → Option Change
  | .heard by_ change => if by_ = label then some change else none
  | _ => none

namespace Registry

/-! ## What is seen -/

theorem Coherent.countingSize_eq {r : Registry} (h : Coherent r) :
    r.countingSize = r.records.names.countP fun name => r.resolved? name = some true := by
  refine List.countP_congr fun name _ => ?_
  rw [counts_eq_getD, h.enabled_eq_resolved?]
  cases r.resolved? name with
  | none => simp
  | some counting => simp

theorem Coherent.counts?_eq {r : Registry} (h : Coherent r) (name : String) :
    r.counts? name = (r.resolved? name).elim (.error (.notFound name)) .ok := by
  rw [counts?_eq_elim, h.enabled_eq_resolved?]

end Registry

namespace Service

variable {s s' : Service} {l : Listener} {change : Change} {label : String} {channel : Channel}
  {announcing : Change → Service → Service × Bool}

/-- The service with more entries in the journal. -/
def noted (s : Service) (notes : List Note) : Service :=
  { s with site := { s.site with journal := s.site.journal ++ notes } }

theorem noted_nil (s : Service) : s.noted [] = s := by
  rw [noted, List.append_nil]

theorem noted_noted (s : Service) (first second : List Note) :
    (s.noted first).noted second = s.noted (first ++ second) := by
  simp only [noted, List.append_assoc]

theorem listeners_noted (s : Service) (notes : List Note) (channel : Channel) :
    (s.noted notes).listeners channel = s.listeners channel := listeners_onSite s _ channel

/-- What all who hear of a change put into the journal, one after another. -/
def heeded (s : Service) (change : Change) : List Note :=
  (s.listeners change.channel).subscribers.flatMap (Listener.notes s.registry change)

/-- How many observers of a label hear of changes of a kind. -/
def bearers (s : Service) (channel : Channel) (label : String) : Nat :=
  (s.listeners channel).subscribers.countP (Listener.bears label)

/-! ## Looking -/

theorem perform_observes {action : Action} (hCoherent : s.registry.Coherent)
    (h : action.observes = true) :
    s.perform announcing action = (s, some (s.registry.sight action)) := by
  cases action with
  | probe name =>
    rw [perform, hCoherent.counts?_eq, Registry.sight]
    cases s.registry.resolved? name <;> rfl
  | count =>
    rw [perform, hCoherent.countingSize_eq]
    rfl
  | _ => cases h

theorem performNoted_observes {actions : List Action} (hCoherent : s.registry.Coherent)
    (h : ∀ a ∈ actions, a.observes = true) :
    inTurn (performNoted announcing label) actions s =
      (s.noted (actions.map fun a => .acted label a (s.registry.sight a)), true) := by
  -- to put something into the journal does not change what is seen
  induction actions generalizing s with
  | nil => rw [inTurn, List.map_nil, noted_nil]
  | cons action rest ih =>
    obtain ⟨hFirst, hRest⟩ := List.forall_mem_cons.mp h
    have hNoted : performNoted announcing label action s =
        (s.noted [.acted label action (s.registry.sight action)], true) := by
      rw [performNoted, perform_observes hCoherent hFirst]
      rfl
    have hSame : (s.noted [.acted label action (s.registry.sight action)]).registry =
      s.registry := rfl
    rw [inTurn_cons, hNoted, if_pos rfl, ih (hSame ▸ hCoherent) hRest, noted_noted, hSame]
    rfl

theorem respond_observes (hCoherent : s.registry.Coherent) (h : l.Observes) :
    respond announcing change l s = (s.noted (l.notes s.registry change), true) := by
  cases l with
  | observer o =>
    have hHeard : ({ s with site := s.site.note (.heard o.label change) } : Service) =
      s.noted [.heard o.label change] := rfl
    rw [respond, hHeard, performNoted_observes (s := s.noted _) hCoherent h, noted_noted]
    rfl
  | supervisor => exact h.elim

theorem inTurn_respond_observes {ls : List Listener} (hCoherent : s.registry.Coherent)
    (h : ∀ l ∈ ls, l.Observes) :
    inTurn (respond announcing change) ls s =
      (s.noted (ls.flatMap (Listener.notes s.registry change)), true) := by
  induction ls generalizing s with
  | nil => rw [inTurn, List.flatMap_nil, noted_nil]
  | cons l rest ih =>
    obtain ⟨hFirst, hRest⟩ := List.forall_mem_cons.mp h
    have hSame : (s.noted (l.notes s.registry change)).registry = s.registry := rfl
    rw [inTurn_cons, respond_observes hCoherent hFirst, if_pos rfl, ih (hSame ▸ hCoherent) hRest,
      noted_noted, hSame, List.flatMap_cons]

/-! ## Services where everybody only looks -/

/-- Everybody who hears of changes only looks, and is there in the order of coming; and the flags of
the registry agree with what is configured. -/
structure Watched (s : Service) : Prop where
  observes : ∀ channel, ∀ l ∈ (s.listeners channel).subscribers, l.Observes
  inOrder : ∀ channel, (s.listeners channel).InOrder
  sound : s.registry.Sound
  coherent : s.registry.Coherent

theorem watched_new (host : Host) (now : Instant) (levels : LevelMap) (window : Window)
    (on : Bool) : (Service.new host now (.new levels window on)).Watched where
  observes channel l hMem := by cases channel <;> cases hMem
  inOrder channel := by cases channel <;> exact .empty
  sound :=
    have hSound := Registry.sound_new levels window on
    ⟨hSound.recorded, hSound.plain, hSound.measured, hSound.apart⟩
  coherent _ _ _ hRecord hAt := Registry.coherent_new levels window on hRecord hAt

namespace Watched

theorem noted (h : s.Watched) (notes : List Note) : (s.noted notes).Watched where
  observes channel := listeners_noted s notes channel ▸ h.observes channel
  inOrder channel := listeners_noted s notes channel ▸ h.inOrder channel
  sound := h.sound
  coherent := h.coherent

/-- The registry may come to another state by moves; its notices go into the log. -/
theorem adopt {r : Registry} (h : s.Watched) (hMoves : Registry.Moves s.registry r) :
    (s.adopt r).Watched := by
  obtain ⟨hSound, hCoherent⟩ : r.Sound ∧ r.Coherent :=
    hMoves.keep (P := fun now => now.Sound ∧ now.Coherent)
      (fun hMove hNow => ⟨hNow.1.move hMove, hNow.2.move hMove hNow.1⟩) ⟨h.sound, h.coherent⟩
  exact {
    observes := fun channel => listeners_onSite s _ channel ▸ h.observes channel
    inOrder := fun channel => listeners_onSite s _ channel ▸ h.inOrder channel
    sound := ⟨hSound.recorded, hSound.plain, hSound.measured, hSound.apart⟩
    coherent := fun _ _ _ hRecord hAt => hCoherent hRecord hAt }

theorem announce (h : s.Watched) (change : Change) :
    Service.announce change s = (s.noted (s.heeded change), true) := by
  rw [announce_eq, inTurn_respond_observes h.coherent (h.observes change.channel), heeded]

/-- To change what is configured is to adopt it and to let all who hear of the change put down what
they hear and see. -/
theorem changed {r : Registry} {change : Option Change} (h : s.Watched)
    (hMoves : Registry.Moves s.registry r) (hTold : s.registry.told r = change.toList) :
    s.changed Service.announce (r, change) =
      ((s.adopt r).noted ((s.registry.told r).flatMap (s.adopt r).heeded), true) := by
  rw [hTold]
  cases change with
  | none =>
    rw [Service.changed, Option.toList_none, List.flatMap_nil, noted_nil]
  | some change =>
    show Service.announce change (s.adopt r) = _
    rw [(h.adopt hMoves).announce, Option.toList_some, List.flatMap_singleton]

end Watched

/-! ## What a call tells -/

/-- What a call does where everybody only looks. It tells of at most one change, which all who hear
of such changes put into the journal with what they see; otherwise the journal stays as it is. -/
structure Tells (s s' : Service) : Prop where
  watched : s'.Watched
  keepsLevels : s.registry.KeepsLevels s'.registry
  single : (s.registry.told s'.registry).length ≤ 1
  journal : s'.site.journal = s.site.journal ++ (s.registry.told s'.registry).flatMap s'.heeded

/-- A call that configures nothing tells nothing. -/
theorem Tells.of_same (hWatched : s'.Watched)
    (hSame : s'.registry.configuration = s.registry.configuration)
    (hJournal : s'.site.journal = s.site.journal) : s.Tells s' where
  watched := hWatched
  keepsLevels := Registry.keepsLevels_of_same hSame
  single := by
    rw [Registry.told_of_same hSame]
    exact Nat.zero_le _
  journal := by rw [Registry.told_of_same hSame, List.flatMap_nil, List.append_nil, hJournal]

namespace Watched

theorem tells_adopt {r : Registry} (h : s.Watched) (hMoves : Registry.Moves s.registry r)
    (hSame : r.configuration = s.registry.configuration) : s.Tells (s.adopt r) :=
  .of_same (h.adopt hMoves) hSame rfl

theorem tells_self (h : s.Watched) : s.Tells s := .of_same h rfl rfl

theorem tells_changed {r : Registry} {change : Option Change} (h : s.Watched)
    (hMoves : Registry.Moves s.registry r) (hKeeps : s.registry.KeepsLevels r)
    (hTold : s.registry.told r = change.toList) :
    s.Tells (s.changed Service.announce (r, change)).1 := by
  rw [h.changed hMoves hTold]
  have hHeeded : ∀ notes, ((s.adopt r).noted notes).heeded = (s.adopt r).heeded := by
    intro notes
    funext change
    rw [heeded, listeners_noted, heeded]
    rfl
  have hSame : s.registry.told (s.adopt r).registry = s.registry.told r := Registry.told_congr rfl
  refine ⟨(h.adopt hMoves).noted _, hKeeps, ?_, ?_⟩
  · show (s.registry.told (s.adopt r).registry).length ≤ 1
    rw [hSame, hTold]
    cases change with
    | none => exact Nat.zero_le _
    | some change => exact Nat.le_refl _
  · rw [hHeeded]
    show s.site.journal ++ (s.registry.told r).flatMap _ =
      s.site.journal ++ (s.registry.told (s.adopt r).registry).flatMap _
    rw [hSame]

theorem tells_setEnabled (h : s.Watched) (on : Bool) : s.Tells (s.setEnabled on).1 :=
  h.tells_changed (Registry.setEnabled_moves _ on) (Registry.keepsLevels_setEnabled _ on)
    (Registry.told_setEnabled _ on)

theorem tells_setRoot (h : s.Watched) (level : Level) : s.Tells (s.setRoot level).1 :=
  h.tells_changed (Registry.setRoot_moves _ level) (Registry.keepsLevels_setRoot _ level)
    (Registry.told_setRoot _ level)

theorem tells_setLevel (h : s.Watched) (name : String) (level : Level) :
    s.Tells (s.setLevel name level).1 := by
  have hMoves := Registry.setLevel_moves s.registry name level
  have hKeeps := Registry.keepsLevels_setLevel s.registry name level
  rw [setLevel]
  rcases changedLevel_cases Service.announce s name level with
    ⟨r, fault, hRefused, hAfter⟩ | ⟨r, change, hOutcome, hAfter⟩
  · rcases s.registry.setLevel_cases name level with ⟨-, hSame⟩ | ⟨-, r', change, hOther⟩
    · rw [hAfter]
      have hUntouched : r = s.registry := congrArg Prod.fst (hRefused.symm.trans hSame)
      rw [hRefused] at hMoves
      exact h.tells_adopt hMoves (by rw [hUntouched])
    · cases hRefused.symm.trans hOther
  · rw [hAfter]
    rw [hOutcome] at hMoves hKeeps
    exact h.tells_changed hMoves hKeeps (Registry.told_setLevel hOutcome)

theorem subscribe {o : Observer} (h : s.Watched) (channel : Channel)
    (hObserves : (Listener.observer o).Observes) : (s.subscribe channel o).Watched := by
  have hRegistry : (s.subscribe channel o).registry = s.registry := by cases channel <;> rfl
  refine ⟨fun other l hMem => ?_, fun other => ?_, hRegistry ▸ h.sound, hRegistry ▸ h.coherent⟩
  · rw [listeners_subscribe] at hMem
    split at hMem
    · rw [subscribers_add] at hMem
      rcases List.mem_append.mp hMem with hOld | hNew
      · exact h.observes channel l hOld
      · rw [List.mem_singleton.mp hNew]
        exact hObserves
    · exact h.observes other l hMem
  · rw [listeners_subscribe]
    split
    · exact (h.inOrder channel).add _
    · exact h.inOrder other

theorem removeListener (h : s.Watched) (channel : Channel) (id : Nat) :
    (s.removeListener channel id).1.Watched := by
  have hRegistry : (s.removeListener channel id).1.registry = s.registry := by cases channel <;> rfl
  refine ⟨fun other l hMem => ?_, fun other => ?_, hRegistry ▸ h.sound, hRegistry ▸ h.coherent⟩
  · rw [listeners_removeListener] at hMem
    split at hMem
    · obtain ⟨e, hEntry, rfl⟩ := List.mem_map.mp hMem
      exact h.observes channel e.2 (List.mem_map_of_mem (List.mem_of_mem_filter hEntry))
    · exact h.observes other l hMem
  · rw [listeners_removeListener]
    split
    · exact (h.inOrder channel).remove id
    · exact h.inOrder other

theorem tells_subscribe {o : Observer} (h : s.Watched) (channel : Channel)
    (hObserves : (Listener.observer o).Observes) : s.Tells (s.subscribe channel o) := by
  refine .of_same (h.subscribe channel hObserves) ?_ ?_ <;> cases channel <;> rfl

theorem tells_leave (h : s.Watched) (label : String) (among : Option Channel) :
    s.Tells (s.leave label among).1 := by
  rw [leave]
  split
  · next channel id _ =>
    refine .of_same (h.removeListener (among.getD channel) id) ?_ ?_ <;>
      cases among.getD channel <;> rfl
  · exact h.tells_self

end Watched

end Service

end Metering
