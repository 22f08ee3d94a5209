import Metering.Proofs.Registry.Switch
import Metering.Proofs.Service.Keeping
import Metering.Proofs.Supervisor
import Metering.Service.Announcement

/-!
# Metering — announcements that nobody answers

Observers that do not call back leave everything alone that reporters depend on, so that an
announcement comes down to what the supervisor does on it, if it gets so far.

* `Observer.Quiet` — an observer that does not call back; it may break off;
* `Alike` — services with the same reporters, listeners and switch, and `Framed` — those that differ
  in nothing but their site;
* `Attended` — a service with a supervisor that hears of all changes, among quiet observers only;
* `Attended.announce_cases`, `Attended.announce_ends` — what an announcement comes to;
* `Attended.changed`, `Attended.changedLevel`, `Attended.supervised`, … — services stay attended;
* `setEnabled_same`, `Attended.setEnabled_moved`, `Attended.setEnabled_ends` — what becomes of the
  reporters when the switch is moved, and when it is where it is.
-/

namespace Metering

/-- Whether an action asks anything of the service. -/
def Action.callsBack : Action → Bool
  | .breakOff => false
  | _ => true

/-- An observer that does not call back. -/
def Observer.Quiet (o : Observer) : Prop := ∀ a ∈ o.actions, a.callsBack = false

/-- All subscribers are quiet observers. -/
def Subscriptions.Quiet (ls : Subscriptions Listener) : Prop :=
  ∃ os : List Observer, ls.subscribers = os.map .observer ∧ ∀ o ∈ os, o.Quiet

/-- The supervisor is among the subscribers, once, and the others are quiet observers. -/
def Subscriptions.Attended (ls : Subscriptions Listener) : Prop :=
  ∃ ahead behind : List Observer,
    ls.subscribers = ahead.map .observer ++ .supervisor :: behind.map .observer ∧
      (∀ o ∈ ahead, o.Quiet) ∧ ∀ o ∈ behind, o.Quiet

namespace Service

variable {s s' s'' : Service} {o : Observer} {change : Change}
  {announcing : Change → Service → Service × Bool}

/-! ## Services that are alike -/

/-- Two services are alike in what reporters depend on: the reporters themselves, the listeners and
the switch. -/
structure Alike (s s' : Service) : Prop where
  supervisor : s'.supervisor = s.supervisor
  listeners : ∀ channel, s'.listeners channel = s.listeners channel
  enabled : s'.registry.enabled = s.registry.enabled

theorem Alike.refl (s : Service) : s.Alike s := ⟨rfl, fun _ => rfl, rfl⟩

theorem Alike.trans (h₁ : s.Alike s') (h₂ : s'.Alike s'') : s.Alike s'' :=
  ⟨h₂.supervisor.trans h₁.supervisor,
    fun channel => (h₂.listeners channel).trans (h₁.listeners channel),
    h₂.enabled.trans h₁.enabled⟩

theorem listeners_onSite (s : Service) (site : Site) (channel : Channel) :
    ({ s with site := site } : Service).listeners channel = s.listeners channel := by
  cases channel <;> rfl

/-- Only the site of a service has changed, and on it not the switch. -/
theorem alike_onSite (site : Site) (h : site.registry.enabled = s.registry.enabled) :
    s.Alike { s with site := site } :=
  ⟨rfl, listeners_onSite s site, h⟩

theorem alike_adopt {r : Registry} (h : r.enabled = s.registry.enabled) : s.Alike (s.adopt r) :=
  alike_onSite _ h

/-- Only the site of a service has changed, and on it neither the switch nor the journal. -/
structure Framed (s s' : Service) : Prop where
  site : s' = { s with site := s'.site }
  journal : s'.site.journal = s.site.journal
  enabled : s'.registry.enabled = s.registry.enabled

theorem Framed.refl (s : Service) : s.Framed s := ⟨rfl, rfl, rfl⟩

theorem Framed.trans (h₁ : s.Framed s') (h₂ : s'.Framed s'') : s.Framed s'' :=
  ⟨by rw [h₂.site, h₁.site], h₂.journal.trans h₁.journal, h₂.enabled.trans h₁.enabled⟩

theorem Framed.alike (h : s.Framed s') : s.Alike s' := by
  rw [h.site]
  exact alike_onSite _ h.enabled

theorem framed_adopt {r : Registry} (h : r.enabled = s.registry.enabled) : s.Framed (s.adopt r) :=
  ⟨rfl, rfl, h⟩

theorem framed_configured {r : Registry} (h : r.configuration = s.registry.configuration) :
    s.Framed (s.adopt r) := framed_adopt (Registry.enabled_eq_of_configuration h)

theorem Alike.reporters (h : s.Alike s') : s'.reporters.byName = s.reporters.byName := by
  rw [Service.reporters, Service.reporters, h.supervisor]

/-! ## Quiet observers -/

theorem alike_performNoted {action : Action} (h : action.callsBack = false) (label : String)
    (s : Service) : s.Alike (performNoted announcing label action s).1 := by
  cases action with
  | breakOff => exact .refl s
  | _ => cases h

/-- A quiet observer only puts into the journal what it hears. -/
theorem alike_respond (h : o.Quiet) (s : Service) :
    s.Alike (respond announcing change (.observer o) s).1 :=
  inTurn_keeps (P := s.Alike) o.actions
    (fun _ hMem now hAlike => hAlike.trans (alike_performNoted (h _ hMem) o.label now))
    (alike_onSite _ rfl)

theorem alike_observers (announcing : Change → Service → Service × Bool) (change : Change)
    {os : List Observer} (h : ∀ o ∈ os, o.Quiet) (s : Service) :
    s.Alike (inTurn (respond announcing change) (os.map .observer) s).1 := by
  refine inTurn_keeps (P := s.Alike) _ (fun l hMem now hAlike => ?_) (.refl s)
  obtain ⟨o, ho, rfl⟩ := List.mem_map.mp hMem
  exact hAlike.trans (alike_respond (h o ho) now)

/-- Observers that do nothing let an announcement go on. -/
theorem observers_end {os : List Observer} (h : ∀ o ∈ os, o.actions = []) (s : Service) :
    (inTurn (respond announcing change) (os.map .observer) s).2 = true := by
  refine inTurn_returns (fun l hMem now => ?_) s
  obtain ⟨o, ho, rfl⟩ := List.mem_map.mp hMem
  rw [respond, h o ho]
  rfl

/-! ## The supervisor among the listeners -/

/-- There is a supervisor, which hears of all changes, and only quiet observers hear of them
besides. -/
structure Attended (s : Service) : Prop where
  hired : s.supervisor.isSome = true
  heard : ∀ channel, (s.listeners channel).Attended

theorem reporters_supervised {α : Type} (h : s.supervisor.isSome = true)
    (deal : Reporters → Reporters × α) :
    (s.supervised deal).1.reporters = (deal s.reporters).1 := by
  obtain ⟨v, hv⟩ := Option.isSome_iff_exists.mp h
  simp only [supervised, setReporters, reporters, hv, Option.map_some, Option.getD_some]

theorem listeners_supervised {α : Type} (s : Service) (deal : Reporters → Reporters × α)
    (channel : Channel) : (s.supervised deal).1.listeners channel = s.listeners channel := by
  cases channel <;> rfl

theorem listeners_subscribe (s : Service) (channel other : Channel) (o : Observer) :
    (s.subscribe channel o).listeners other =
      if other = channel then ((s.listeners channel).add (.observer o)).1
      else s.listeners other := by
  cases channel <;> cases other <;> rfl

theorem listeners_removeListener (s : Service) (channel other : Channel) (id : Nat) :
    (s.removeListener channel id).1.listeners other =
      if other = channel then ((s.listeners channel).remove id).1 else s.listeners other := by
  cases channel <;> cases other <;> rfl

theorem subscribers_add {α : Type} (ls : Subscriptions α) (a : α) :
    (ls.add a).1.subscribers = ls.subscribers ++ [a] := by
  rw [Subscriptions.add, Subscriptions.subscribers, List.map_append]
  rfl

/-- An announcement calls those who are listening when it begins. Whatever they bring about is
announced one step deeper. -/
theorem announce_eq (change : Change) (s : Service) :
    announce change s = inTurn (respond (announceTo 999) change)
      (s.listeners change.channel).subscribers s := rfl

namespace Attended

theorem alike (h : s.Attended) (hAlike : s.Alike s') : s'.Attended :=
  ⟨hAlike.supervisor ▸ h.hired, fun channel => hAlike.listeners channel ▸ h.heard channel⟩

theorem onSite (h : s.Attended) (site : Site) : Attended { s with site := site } :=
  ⟨h.hired, fun channel => listeners_onSite s site channel ▸ h.heard channel⟩

theorem adopt (h : s.Attended) (r : Registry) : (s.adopt r).Attended := h.onSite _

theorem supervised {α : Type} (h : s.Attended) (deal : Reporters → Reporters × α) :
    (s.supervised deal).1.Attended := by
  refine ⟨?_, fun channel => listeners_supervised s deal channel ▸ h.heard channel⟩
  show (s.supervisor.map _).isSome = true
  rw [Option.isSome_map, h.hired]

/-- A quiet observer may subscribe. -/
theorem subscribe (h : s.Attended) (channel : Channel) (hQuiet : o.Quiet) :
    (s.subscribe channel o).Attended := by
  refine ⟨?_, fun other => ?_⟩
  · cases channel <;> exact h.hired
  · rw [listeners_subscribe]
    split
    · obtain ⟨ahead, behind, hSubscribers, hAhead, hBehind⟩ := h.heard channel
      refine ⟨ahead, behind ++ [o], ?_, hAhead, ?_⟩
      · rw [subscribers_add, hSubscribers, List.map_append, List.append_assoc]
        rfl
      · intro o' ho'
        rcases List.mem_append.mp ho' with hOld | hNew
        · exact hBehind o' hOld
        · rw [List.mem_singleton.mp hNew]
          exact hQuiet
    · exact h.heard other

/-! ## Announcements -/

/-- An announcement breaks off ahead of the supervisor, or the supervisor heeds the change, and
the others change nothing of what matters. -/
theorem announce_cases (h : s.Attended) (change : Change) :
    ((announce change s).2 = false ∧ s.Alike (announce change s).1) ∨
    ∃ now, s.Alike now ∧
      (now.supervised fun rs => rs.heed change).1.Alike (announce change s).1 ∧
      ((announce change s).2 = true → (now.supervised fun rs => rs.heed change).2 = true) := by
  obtain ⟨ahead, behind, hSubscribers, hAhead, hBehind⟩ := h.heard change.channel
  have hFirst := alike_observers (announceTo 999) change hAhead s
  rw [announce_eq, hSubscribers, inTurn_append]
  -- it is the supervisor's turn only if nobody ahead of it has broken off
  split
  · refine .inr ⟨_, hFirst, ?_⟩
    rw [inTurn_cons]
    split
    · next hHeeded => exact ⟨alike_observers _ _ hBehind _, fun _ => hHeeded⟩
    · exact ⟨.refl _, id⟩
  · next hBroken => exact .inl ⟨Bool.eq_false_iff.mpr hBroken, hFirst⟩

/-- An announcement comes to its end if observers do nothing and the supervisor comes to its
end. -/
theorem announce_ends (h : s.Attended)
    (hSilent : ∀ o, .observer o ∈ (s.listeners change.channel).subscribers → o.actions = [])
    (hHeed : ∀ now, s.Alike now → (now.supervised fun rs => rs.heed change).2 = true) :
    (announce change s).2 = true := by
  obtain ⟨ahead, behind, hSubscribers, hAhead, hBehind⟩ := h.heard change.channel
  rw [hSubscribers] at hSilent
  have hFirst : (inTurn (respond (announceTo 999) change) (ahead.map .observer) s).2 = true :=
    observers_end (fun o ho => hSilent o (by simp [ho])) s
  have hThen := hHeed _ (alike_observers (announceTo 999) change hAhead s)
  rw [announce_eq, hSubscribers, inTurn_append, if_pos hFirst, inTurn_cons, respond, if_pos hThen]
  exact observers_end (fun o ho => hSilent o (by simp [ho])) _

theorem announce (h : s.Attended) (change : Change) : (announce change s).1.Attended := by
  rcases h.announce_cases change with ⟨-, hAlike⟩ | ⟨now, hNow, hAlike, -⟩
  · exact h.alike hAlike
  · exact ((h.alike hNow).supervised _).alike hAlike

theorem changed (h : s.Attended) (outcome : Registry × Option Change) :
    (s.changed Service.announce outcome).1.Attended :=
  changed_keeps (P := Attended) (fun _ r h => h.adopt r) (fun change _ h => h.announce change) h _

theorem changedLevel (h : s.Attended) (name : String) (level : Level) :
    (s.changedLevel Service.announce name level).1.Attended :=
  changedLevel_keeps (P := Attended) (fun _ r h => h.adopt r)
    (fun change _ h => h.announce change) h name level

end Attended

/-! ## The switch -/

/-- To move the switch to where it is is not announced. -/
theorem setEnabled_same {on : Bool} (hSame : s.registry.enabled = on) :
    (s.setEnabled on).2 = true ∧ s.Alike (s.setEnabled on).1 := by
  rcases Registry.setEnabled_cases s.registry on with ⟨-, hOutcome⟩ | ⟨hOther, -⟩
  · rw [Service.setEnabled, hOutcome]
    exact ⟨rfl, alike_adopt rfl⟩
  · rw [hSame] at hOther
    cases on <;> cases hOther

namespace Attended

/-- To move the switch elsewhere is announced when it is there, and what becomes of the reporters is
what the supervisor makes of them, unless the announcement breaks off before. -/
theorem setEnabled_moved (h : s.Attended) (on : Bool) (hOther : s.registry.enabled = !on) :
    ∃ now : Reporters, now.byName = s.reporters.byName ∧ now.site.registry.enabled = on ∧
      ((s.setEnabled on).2 = false ∨
        (now.heed (.switch on)).2 = true ∧
        (s.setEnabled on).1.reporters.byName = (now.heed (.switch on)).1.byName ∧
        (s.setEnabled on).1.registry.enabled =
          (now.heed (.switch on)).1.site.registry.enabled) := by
  rcases Registry.setEnabled_cases s.registry on with ⟨hSame, -⟩ | ⟨-, r, hOutcome, hOn⟩
  · rw [hSame] at hOther
    cases on <;> cases hOther
  · have hAnnounced : s.setEnabled on = Service.announce (.switch on) (s.adopt r) := by
      rw [Service.setEnabled, Service.changed, hOutcome]
    have hSwitched : (s.adopt r).registry.enabled = on := hOn
    rw [hAnnounced]
    rcases (h.adopt r).announce_cases (.switch on) with ⟨hBroken, -⟩ | ⟨now, hNow, hAfter, hEnds⟩
    · exact ⟨(s.adopt r).reporters, rfl, hSwitched, .inl hBroken⟩
    · have hReporters := reporters_supervised ((h.adopt r).alike hNow).hired
        fun rs => rs.heed (.switch on)
      refine ⟨now.reporters, hNow.reporters, hNow.enabled.trans hSwitched, ?_⟩
      cases hEnd : (Service.announce (.switch on) (s.adopt r)).2 with
      | false => exact .inl rfl
      | true =>
        refine .inr ⟨hEnds hEnd, ?_, ?_⟩
        · rw [hAfter.reporters, hReporters]
        · rw [hAfter.enabled, ← hReporters]
          rfl

/-- The switch can be moved if observers do nothing and the supervisor comes to its end. -/
theorem setEnabled_ends (h : s.Attended) {on : Bool}
    (hSilent : ∀ o, .observer o ∈ s.switchListeners.subscribers → o.actions = [])
    (hHeed : ∀ now : Reporters, now.byName = s.reporters.byName →
      now.site.registry.enabled = on → (now.heed (.switch on)).2 = true) :
    (s.setEnabled on).2 = true := by
  rcases Registry.setEnabled_cases s.registry on with ⟨hSame, -⟩ | ⟨-, r, hOutcome, hOn⟩
  · exact (setEnabled_same hSame).1
  · rw [Service.setEnabled, Service.changed, hOutcome]
    refine (h.adopt r).announce_ends hSilent fun now hNow => ?_
    exact hHeed now.reporters hNow.reporters (hNow.enabled.trans hOn)

end Attended

end Service

end Metering
