import Metering.Proofs.Service.Turnover

/-!
# Metering — a supervisor that goes on hearing

Observers leave by their numbers. The numbers of those who hear of one kind of change mean nothing
among those who hear of another kind, where somebody else may have the same. As long as nobody uses
them there, a supervisor hears of all changes from its first moment to its last, whatever observers
do on what they hear.

* `Action.Own` — actions by which nobody uses a number where it was not given;
* `Service.Wired` — a supervisor, if there is one, hears of all changes, and its numbers are nobody
  else's; `Wired.subscribe`, `Wired.leave`, `Wired.announce`, … — one lemma for each thing done;
* `Wired.dropSupervisor`, `Wired.renewSupervisor` — supervisors end and are hired;
* `Wired.subscribers_eq` — the supervisor is called once, among observers.
-/

namespace Metering

/-- Whether an action lets anybody come or go among those who hear of changes. -/
def Action.comesOrGoes : Action → Bool
  | .subscribe .. | .leave .. => true
  | _ => false

/-- An action by which nobody, now or later, leaves by a number from another kind of change. -/
inductive Action.Own : Action → Prop where
  | subscribe {channel : Channel} {label : String} {actions : List Action}
      (h : ∀ a ∈ actions, a.Own) : Own (.subscribe channel label actions)
  | leave {label : String} : Own (.leave label none)
  | other {a : Action} (h : a.comesOrGoes = false) : Own a

namespace Service

variable {s s' : Service} {v : Supervisor} {o : Observer} {channel : Channel}
  {announcing : Change → Service → Service × Bool}

/-! ## Numbers that are not mixed up -/

/-- Whoever hears of changes is known by a number that was given among those who hear of the same
kind. The supervisor, if there is one, hears of all changes, and no observer's label stands for one
of its numbers. -/
structure Wired (s : Service) : Prop where
  inOrder : ∀ channel, (s.listeners channel).InOrder
  hears : ∀ {v}, s.supervisor = some v → ∀ channel,
    (v.ticket channel, .supervisor) ∈ (s.listeners channel).entries
  own : ∀ {channel o}, .observer o ∈ (s.listeners channel).subscribers → ∀ a ∈ o.actions, a.Own
  given : ∀ {label channel id}, s.tickets.get? label = some (channel, id) →
    id < (s.listeners channel).next ∧ ∀ v, s.supervisor = some v → id ≠ v.ticket channel

theorem wired_new (host : Host) (now : Instant) (registry : Registry) :
    (Service.new host now registry).Wired where
  inOrder channel := by cases channel <;> exact .empty
  hears := nofun
  own {channel _} hMem := by cases channel <;> cases hMem
  given := nofun

/-- What matters are the listeners, the labels, and the numbers of the supervisor. -/
theorem Wired.of_same (h : s.Wired)
    (hListeners : ∀ channel, s'.listeners channel = s.listeners channel)
    (hTickets : s'.tickets = s.tickets)
    (hSupervisor : s'.supervisor.map Supervisor.ticket = s.supervisor.map Supervisor.ticket) :
    s'.Wired := by
  have hSame {v' : Supervisor} (hv' : s'.supervisor = some v') :
      ∃ v, s.supervisor = some v ∧ v.ticket = v'.ticket := by
    rw [hv', Option.map_some, eq_comm] at hSupervisor
    exact Option.map_eq_some_iff.mp hSupervisor
  refine ⟨fun channel => ?_, fun {v'} hv' channel => ?_, fun {channel o} hMem => ?_,
    fun {label channel id} hAt => ?_⟩
  · rw [hListeners]
    exact h.inOrder channel
  · obtain ⟨v, hv, hTicket⟩ := hSame hv'
    rw [hListeners, ← hTicket]
    exact h.hears hv channel
  · rw [hListeners] at hMem
    exact h.own hMem
  · rw [hTickets] at hAt
    obtain ⟨hNext, hOther⟩ := h.given hAt
    rw [hListeners]
    refine ⟨hNext, fun v' hv' => ?_⟩
    obtain ⟨v, hv, hTicket⟩ := hSame hv'
    rw [← hTicket]
    exact hOther v hv

theorem Wired.onSite (h : s.Wired) (site : Site) : Wired { s with site := site } :=
  h.of_same (listeners_onSite s site) rfl rfl

theorem Wired.adopt (h : s.Wired) (r : Registry) : (s.adopt r).Wired := h.onSite _

theorem Wired.supervised {α : Type} (h : s.Wired) (deal : Reporters → Reporters × α) :
    (s.supervised deal).1.Wired := by
  refine h.of_same (listeners_supervised s deal) rfl ?_
  show (s.supervisor.map fun v => { v with reporters := (deal s.reporters).1.byName }).map _ = _
  rw [Option.map_map]
  rfl

/-- A supervisor's number was given before the next one. -/
theorem Wired.ticket_lt (h : s.Wired) (hHired : s.supervisor = some v) (channel : Channel) :
    v.ticket channel < (s.listeners channel).next :=
  (h.inOrder channel).given _ (h.hears hHired channel)

/-! ## Observers that come and go -/

theorem tickets_subscribe (s : Service) (channel : Channel) (o : Observer) :
    (s.subscribe channel o).tickets =
      s.tickets.insert o.label (channel, (s.listeners channel).next) := by
  cases channel <;> rfl

theorem supervisor_subscribe (s : Service) (channel : Channel) (o : Observer) :
    (s.subscribe channel o).supervisor = s.supervisor := by
  cases channel <;> rfl

theorem next_le_subscribe (s : Service) (channel other : Channel) (o : Observer) :
    (s.listeners other).next ≤ ((s.subscribe channel o).listeners other).next := by
  rw [listeners_subscribe]
  split
  · next hSame =>
    rw [hSame]
    exact Nat.le_succ _
  · exact Nat.le_refl _

theorem Wired.subscribe (h : s.Wired) (channel : Channel) (hOwn : ∀ a ∈ o.actions, a.Own) :
    (s.subscribe channel o).Wired := by
  refine ⟨fun other => ?_, fun {v} hv other => ?_, fun {other o'} hMem => ?_,
    fun {label other id} hAt => ?_⟩
  · rw [listeners_subscribe]
    split
    · exact (h.inOrder channel).add _
    · exact h.inOrder other
  · rw [supervisor_subscribe] at hv
    rw [listeners_subscribe]
    split
    · next hSame =>
      rw [← hSame]
      exact List.mem_append_left _ (h.hears hv other)
    · exact h.hears hv other
  · rw [listeners_subscribe] at hMem
    split at hMem
    · rw [subscribers_add] at hMem
      obtain hOld | hNew := List.mem_append.mp hMem
      · exact h.own hOld
      · cases List.mem_singleton.mp hNew
        exact hOwn
    · exact h.own hMem
  · rw [tickets_subscribe, NameMap.get?_insert] at hAt
    rw [supervisor_subscribe]
    split at hAt
    · -- the label stands for the new number, which the supervisor cannot have
      cases hAt
      refine ⟨?_, fun v hv => (h.ticket_lt hv channel).ne'⟩
      rw [listeners_subscribe, if_pos rfl]
      exact Nat.lt_succ_self _
    · obtain ⟨hNext, hOther⟩ := h.given hAt
      exact ⟨hNext.trans_le (next_le_subscribe s channel other o), hOther⟩

theorem tickets_removeListener (s : Service) (channel : Channel) (id : Nat) :
    (s.removeListener channel id).1.tickets = s.tickets := by cases channel <;> rfl

/-- A listener may be removed that is not the supervisor. -/
theorem Wired.removeListener (h : s.Wired) (channel : Channel) {id : Nat}
    (hOther : ∀ v, s.supervisor = some v → id ≠ v.ticket channel) :
    (s.removeListener channel id).1.Wired := by
  refine ⟨fun other => ?_, fun {v} hv other => ?_, fun {other o} hMem => ?_,
    fun {label other number} hAt => ?_⟩
  · rw [listeners_removeListener]
    split
    · exact (h.inOrder channel).remove id
    · exact h.inOrder other
  · rw [supervisor_removeListener] at hv
    rw [listeners_removeListener]
    split
    · next hSame =>
      rw [← hSame] at hOther ⊢
      refine List.mem_filter.mpr ⟨h.hears hv other, ?_⟩
      rw [bne_iff_ne]
      exact (hOther v hv).symm
    · exact h.hears hv other
  · rw [listeners_removeListener] at hMem
    split at hMem
    · next hSame =>
      obtain ⟨e, hEntry, hObserver⟩ := List.mem_map.mp hMem
      have hOld : e.2 ∈ (s.listeners channel).subscribers :=
        List.mem_map_of_mem (List.mem_of_mem_filter hEntry)
      rw [hObserver] at hOld
      exact h.own hOld
    · exact h.own hMem
  · rw [tickets_removeListener] at hAt
    rw [supervisor_removeListener, listeners_removeListener]
    split
    · next hSame =>
      rw [hSame] at hAt ⊢
      exact h.given hAt
    · exact h.given hAt

/-- An observer leaves by its own number. -/
theorem Wired.leave (h : s.Wired) (label : String) : (s.leave label none).1.Wired := by
  rw [Service.leave]
  split
  · next hAt => exact h.removeListener _ (h.given hAt).2
  · exact h

/-! ## Announcements -/

/-- Whatever observers do whose actions are their own, the supervisor goes on hearing. -/
theorem Wired.kept (hAnnouncing : ∀ change s, Wired s → (announcing change s).1.Wired) :
    Kept Wired Action.Own announcing where
  adopt _ r h := h.adopt r
  note _ _ _ h := h.onSite _
  subscribe _ channel _ _ hOwn h := by
    cases hOwn with
    | subscribe hActions => exact h.subscribe channel hActions
    | other hOther => cases hOther
  leave _ label _ hOwn h := by
    cases hOwn with
    | leave => exact h.leave label
    | other hOther => cases hOther
  announce _ _ _ := hAnnouncing

theorem Wired.announce (h : s.Wired) (change : Change) : (announce change s).1.Wired :=
  Kept.announceTo Wired.kept (fun _ _ _ h hMem => h.own hMem)
    (fun _ change h => h.supervised fun rs => rs.heed change) announcementDepth change h

theorem Wired.changed (h : s.Wired) (outcome : Registry × Option Change) :
    (s.changed Service.announce outcome).1.Wired :=
  changed_keeps (P := Wired) (fun _ r h => h.adopt r) (fun change _ h => h.announce change) h _

theorem Wired.perform (h : s.Wired) {action : Action} (hOwn : action.Own) :
    (s.perform Service.announce action).1.Wired :=
  (Wired.kept fun change _ h => h.announce change).perform hOwn h

/-! ## Supervisors that come and leave -/

theorem listeners_setSupervisor (s : Service) (v : Option Supervisor) (channel : Channel) :
    ({ s with supervisor := v } : Service).listeners channel = s.listeners channel := by
  cases channel <;> rfl

/-- A supervisor ends whose numbers are not those of one that stays. -/
theorem Wired.retire (h : s.Wired)
    (hOther : ∀ v', s.supervisor = some v' → ∀ channel, v.ticket channel ≠ v'.ticket channel) :
    (s.retire v).1.Wired := by
  have hFirst := h.removeListener .switch fun v' hv' => hOther v' hv' .switch
  have hSecond := hFirst.removeListener .root fun v' hv' =>
    hOther v' ((supervisor_removeListener ..).symm.trans hv') .root
  have hThird := hSecond.removeListener .metric fun v' hv' =>
    hOther v' ((supervisor_removeListener ..).symm.trans
      ((supervisor_removeListener ..).symm.trans hv')) .metric
  exact hThird.onSite _

theorem Wired.dropSupervisor (h : s.Wired) : s.dropSupervisor.1.Wired := by
  have hNone (v : Supervisor) : { s with supervisor := none }.supervisor ≠ some v :=
    (Option.some_ne_none v).symm
  have hNobody : Wired { s with supervisor := none } :=
    ⟨fun channel => listeners_setSupervisor s none channel ▸ h.inOrder channel,
      fun {v} hv => absurd hv (hNone v),
      fun {channel _} hMem => h.own (listeners_setSupervisor s none channel ▸ hMem),
      fun {_ channel _} hAt => ⟨listeners_setSupervisor s none channel ▸ (h.given hAt).1,
        fun v hv => absurd hv (hNone v)⟩⟩
  rw [Service.dropSupervisor]
  split
  · exact hNobody.retire fun v hv => absurd hv (hNone v)
  · exact h

/-- A supervisor is hired, which gets new numbers. -/
theorem Wired.hire (h : s.Wired) : Wired { s.hire.1 with supervisor := some s.hire.2 } := by
  have hListeners (channel : Channel) :
      ({ s.hire.1 with supervisor := some s.hire.2 } : Service).listeners channel =
        ((s.listeners channel).add .supervisor).1 := by
    cases channel <;> rfl
  refine ⟨fun channel => ?_, fun {v} hv channel => ?_, fun {channel o} hMem => ?_,
    fun {label channel id} hAt => ?_⟩
  · rw [hListeners]
    exact (h.inOrder channel).add _
  · cases hv
    rw [hListeners, (listeners_hire s channel).2]
    exact List.mem_append_right _ (List.mem_singleton_self _)
  · rw [hListeners, subscribers_add] at hMem
    obtain hOld | hNew := List.mem_append.mp hMem
    · exact h.own hOld
    · cases List.mem_singleton.mp hNew
  · have hNext := (h.given hAt).1
    rw [hListeners]
    refine ⟨Nat.lt_succ_of_lt hNext, fun v hv => ?_⟩
    cases hv
    rw [(listeners_hire s channel).2]
    exact hNext.ne

theorem Wired.renewSupervisor (h : s.Wired) : s.renewSupervisor.1.Wired := by
  rw [Service.renewSupervisor]
  dsimp only
  split
  · next old hOld =>
    refine h.hire.retire fun v' hv' channel => ?_
    cases hv'
    rw [(listeners_hire s channel).2]
    exact (h.ticket_lt hOld channel).ne
  · exact h.hire

/-! ## Who is called -/

theorem exists_observers {ls : List Listener} (h : .supervisor ∉ ls) :
    ∃ os : List Observer, ls = os.map .observer := by
  induction ls with
  | nil => exact ⟨[], rfl⟩
  | cons l rest ih =>
    rw [List.mem_cons, not_or] at h
    obtain ⟨os, rfl⟩ := ih h.2
    cases l with
    | observer o => exact ⟨o :: os, rfl⟩
    | supervisor => exact absurd rfl h.1

/-- The supervisor is among those who hear of a kind of change, once. -/
theorem Wired.subscribers_eq (h : s.Wired) (hListening : s.Listening)
    (hHired : s.supervisor.isSome = true) (channel : Channel) :
    ∃ ahead behind : List Observer, (s.listeners channel).subscribers =
      ahead.map .observer ++ .supervisor :: behind.map .observer := by
  obtain ⟨v, hv⟩ := Option.isSome_iff_exists.mp hHired
  -- whoever else heard as a supervisor would have its number
  have hNumber {id : Nat} (hMem : (id, .supervisor) ∈ (s.listeners channel).entries) :
      id = v.ticket channel := by
    obtain ⟨v', hv', hTicket⟩ := hListening.own hMem
    cases hv.symm.trans hv'
    exact hTicket
  obtain ⟨before, after, hEntries⟩ := List.append_of_mem (h.hears hv channel)
  have hOrder := (h.inOrder channel).ascending
  rw [hEntries] at hNumber hOrder
  obtain ⟨-, hRest, hBefore⟩ := List.pairwise_append.mp hOrder
  obtain ⟨ahead, hAhead⟩ : ∃ os : List Observer, before.map Prod.snd = os.map .observer := by
    refine exists_observers fun hMem => ?_
    obtain ⟨⟨id, l⟩, hEntry, rfl⟩ := List.mem_map.mp hMem
    have hLess : id < v.ticket channel := hBefore _ hEntry _ List.mem_cons_self
    exact hLess.ne (hNumber (List.mem_append_left _ hEntry))
  obtain ⟨behind, hBehind⟩ : ∃ os : List Observer, after.map Prod.snd = os.map .observer := by
    refine exists_observers fun hMem => ?_
    obtain ⟨⟨id, l⟩, hEntry, rfl⟩ := List.mem_map.mp hMem
    have hLess : v.ticket channel < id := (List.pairwise_cons.mp hRest).1 _ hEntry
    exact hLess.ne' (hNumber (List.mem_append_right _ (List.mem_cons_of_mem _ hEntry)))
  refine ⟨ahead, behind, ?_⟩
  rw [Subscriptions.subscribers, hEntries, List.map_append, List.map_cons, hAhead, hBehind]

end Service

end Metering
