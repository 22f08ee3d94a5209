import Metering.Proofs.Report.Turnover
import Metering.Proofs.Service.Announcement
import Metering.Proofs.Subscriptions

/-!
# Metering — a service and its reporters

Whatever those who hear of changes do on them, observers that call back included, the reporters of a
service stay with it: only registering, discharging and ending a supervisor bring somebody in or
out. A supervisor that has ended hears of nothing any more.

* `Service.Listening` — only the supervisor that is there hears of changes as a supervisor;
* `Service.Stays` — a service with the reporters that it had, and `Stays.announce` — an
  announcement comes to this, however deep it goes;
* `Service.Turnover` — a service with reporters that come and leave; `Turnover.supervised`,
  `Turnover.dropSupervisor`, `Turnover.renewSupervisor`, with those who are stopped.
-/

namespace Metering

open Report

/-- The number of a supervisor among those who hear of a kind of change. -/
def Supervisor.ticket (v : Supervisor) : Channel → Nat
  | .switch => v.switchTicket
  | .root => v.rootTicket
  | .metric => v.metricTicket

namespace Service

variable {s s' s'' : Service} {came left : List Reporter}
  {announcing : Change → Service → Service × Bool}

/-! ## Hearing as a supervisor -/

/-- Subscribers are in the order of coming, and nobody hears of changes as a supervisor but the
supervisor that is there. -/
structure Listening (s : Service) : Prop where
  inOrder : ∀ channel, (s.listeners channel).InOrder
  own : ∀ {channel id}, (id, .supervisor) ∈ (s.listeners channel).entries →
    ∃ v, s.supervisor = some v ∧ id = v.ticket channel

theorem listening_new (host : Host) (now : Instant) (registry : Registry) :
    (Service.new host now registry).Listening where
  inOrder channel := by cases channel <;> exact .empty
  own {channel _} hMem := by cases channel <;> cases hMem

/-- What becomes of the site does not matter. -/
theorem Listening.onSite (h : s.Listening) (site : Site) :
    Listening { s with site := site } where
  inOrder channel := listeners_onSite s site channel ▸ h.inOrder channel
  own {channel _} hMem := h.own (listeners_onSite s site channel ▸ hMem)

theorem Listening.supervised {α : Type} (h : s.Listening) (deal : Reporters → Reporters × α) :
    (s.supervised deal).1.Listening where
  inOrder channel := listeners_supervised s deal channel ▸ h.inOrder channel
  own {channel id} hMem := by
    obtain ⟨v, hHired, hTicket⟩ := h.own (listeners_supervised s deal channel ▸ hMem)
    refine ⟨{ v with reporters := (deal s.reporters).1.byName }, ?_, ?_⟩
    · show s.supervisor.map _ = _
      rw [hHired]
      rfl
    · rw [hTicket]
      cases channel <;> rfl

theorem Listening.subscribe (h : s.Listening) (channel : Channel) (o : Observer) :
    (s.subscribe channel o).Listening := by
  have hSupervisor : (s.subscribe channel o).supervisor = s.supervisor := by cases channel <;> rfl
  refine ⟨fun other => ?_, fun {other id} hMem => ?_⟩
  · rw [listeners_subscribe]
    split
    · exact (h.inOrder channel).add _
    · exact h.inOrder other
  · rw [hSupervisor]
    rw [listeners_subscribe] at hMem
    split at hMem
    · next hSame =>
      rcases List.mem_append.mp hMem with hOld | hNew
      · exact hSame ▸ h.own hOld
      · cases List.mem_singleton.mp hNew
    · exact h.own hMem

theorem supervisor_removeListener (s : Service) (channel : Channel) (id : Nat) :
    (s.removeListener channel id).1.supervisor = s.supervisor := by cases channel <;> rfl

theorem Listening.removeListener (h : s.Listening) (channel : Channel) (id : Nat) :
    (s.removeListener channel id).1.Listening := by
  refine ⟨fun other => ?_, fun {other number} hMem => ?_⟩
  · rw [listeners_removeListener]
    split
    · exact (h.inOrder channel).remove id
    · exact h.inOrder other
  · rw [supervisor_removeListener]
    rw [listeners_removeListener] at hMem
    split at hMem
    · next hSame => exact hSame ▸ h.own (List.mem_filter.mp hMem).1
    · exact h.own hMem

theorem reporters_of_none (h : s.supervisor = none) : s.reporters.byName = .empty := by
  rw [reporters, h]
  rfl

/-- Where there is no supervisor, dealing with reporters brings none. -/
theorem supervisor_supervised {α : Type} (h : s.supervisor = none)
    (deal : Reporters → Reporters × α) : (s.supervised deal).1.supervisor = none := by
  show s.supervisor.map _ = none
  rw [h]
  rfl

/-! ## Reporters that stay -/

/-- The reporters of a service stay with it, and nobody else is called; and if its supervisor alone
hears of changes as such, this stays so. -/
structure Stays (s s' : Service) : Prop where
  reporters : s.reporters.Stays s'.reporters
  hired : s'.supervisor.isSome = s.supervisor.isSome
  listening : s.Listening → s'.Listening

namespace Stays

theorem refl (s : Service) : s.Stays s := ⟨.refl _, rfl, id⟩

theorem trans (h : s.Stays s') (h' : s'.Stays s'') : s.Stays s'' :=
  ⟨h.reporters.trans h'.reporters, h'.hired.trans h.hired, h'.listening ∘ h.listening⟩

/-- The site may change where the journal tells of no call. -/
theorem onSite (s : Service) (site : Site)
    (hCalls : s.site.CallsOnly site (Tagged s.reporters.byName.values)) :
    s.Stays { s with site := site } :=
  ⟨.of_goOn (.refl _) hCalls, rfl, fun h => h.onSite site⟩

theorem of_framed (h : s.Framed s') : s.Stays s' := by
  rw [h.site]
  exact onSite s _ (.of_same h.journal)

theorem adopt (s : Service) (r : Registry) : s.Stays (s.adopt r) := onSite s _ (.of_same rfl)

/-- An entry of the journal that is no call. -/
theorem note (s : Service) (n : Note) (h : ∀ tag call well, n ≠ .called tag call well) :
    s.Stays { s with site := s.site.note n } :=
  onSite s _ (.note s.site n fun tag call well hCall => absurd hCall (h tag call well))

theorem supervised {α : Type} (deal : Reporters → Reporters × α)
    (h : s.reporters.Stays (deal s.reporters).1) : s.Stays (s.supervised deal).1 := by
  refine ⟨?_, ?_, fun hListening => hListening.supervised deal⟩
  · cases hHired : s.supervisor with
    | some v =>
      rw [reporters_supervised (by rw [hHired]; rfl)]
      exact h
    | none =>
      -- without a supervisor there is nobody before and afterwards
      have hNone := supervisor_supervised hHired deal
      refine .of_goOn ?_ ?_
      · rw [reporters_of_none hHired, reporters_of_none hNone]
        exact .refl _
      · exact h.there.2
  · show (s.supervisor.map _).isSome = _
    rw [Option.isSome_map]

theorem subscribe (s : Service) (channel : Channel) (o : Observer) :
    s.Stays (s.subscribe channel o) := by
  refine ⟨?_, ?_, fun h => h.subscribe channel o⟩ <;> cases channel
  all_goals exact .refl _

theorem leave (s : Service) (label : String) (among : Option Channel) :
    s.Stays (s.leave label among).1 := by
  rw [Service.leave]
  split
  · next channel id _ =>
    refine ⟨?_, ?_, fun h => h.removeListener _ id⟩ <;> cases among.getD channel
    all_goals exact .refl _
  · exact refl s

/-! ## Announcements -/

/-- Whatever observers do, the reporters of a service stay with it. -/
theorem kept (hAnnouncing : ∀ change s', s.Stays s' → s.Stays (announcing change s').1) :
    Kept s.Stays (fun _ => True) announcing where
  adopt now r h := h.trans (adopt now r)
  note now n hCall h := h.trans (note now n hCall)
  subscribe now channel label actions _ h := h.trans (subscribe now channel ⟨label, actions⟩)
  leave now label among _ h := h.trans (leave now label among)
  announce _ _ _ := hAnnouncing

theorem announce (change : Change) (s : Service) : s.Stays (announce change s).1 :=
  Kept.announceTo kept (fun _ _ _ _ _ _ _ => trivial)
    (fun _ change h => h.trans (supervised (fun rs => rs.heed change) (.heed _ change)))
    announcementDepth change (refl s)

theorem changed (s : Service) (outcome : Registry × Option Change) :
    s.Stays (s.changed Service.announce outcome).1 :=
  changed_keeps (fun now r h => h.trans (adopt now r))
    (fun change now h => h.trans (announce change now)) (refl s) outcome

theorem perform (s : Service) (action : Action) :
    s.Stays (s.perform Service.announce action).1 :=
  (kept fun change now h => h.trans (announce change now)).perform trivial (refl s)

end Stays

/-! ## Reporters that come and leave -/

/-- Those that were there and those that were brought, if there was a supervisor to take them, go on
as those that are there now and those that left; nobody else was called; and if the supervisor alone
hears of changes as such, this stays so. -/
structure Turnover (s : Service) (brought : List Reporter) (s' : Service)
    (left : List Reporter) : Prop where
  goOn : GoOn (s.reporters.byName.values ++ if s.supervisor.isSome then brought else [])
    (s'.reporters.byName.values ++ left)
  calls : s.site.CallsOnly s'.site (Tagged (s.reporters.byName.values ++ brought))
  listening : s.Listening → s'.Listening

theorem Stays.turnover (h : s.Stays s') : s.Turnover [] s' [] := by
  refine ⟨?_, h.reporters.calls, h.listening⟩
  rw [ite_self]
  exact h.reporters.goOn

/-- Before anybody comes or leaves, those that are there may be called. -/
theorem Stays.then_turnover {brought : List Reporter} (h : s.Stays s')
    (h' : s'.Turnover brought s'' left) : s.Turnover brought s'' left := by
  obtain ⟨hThere, hCalls⟩ := h.reporters.there
  refine ⟨?_, ?_, h'.listening ∘ h.listening⟩
  · rw [← h.hired]
    exact (hThere.append (.refl _)).trans h'.goOn
  · refine (hCalls.imp fun tag hTag => ?_).trans (h'.calls.imp fun tag hTag => ?_)
    · obtain ⟨r, hMem, hAt⟩ := hTag
      exact ⟨r, List.mem_append_left _ hMem, hAt⟩
    · exact (hThere.append (.refl brought)).tagged hTag

/-- What a supervisor does with its reporters. Without a supervisor, whoever is brought is called
and not kept. -/
theorem Turnover.supervised {α : Type} {brought left : List Reporter}
    (deal : Reporters → Reporters × α)
    (h : s.reporters.Turnover brought (deal s.reporters).1 left)
    (hNobody : s.supervisor = none → left = []) :
    s.Turnover brought (s.supervised deal).1 left := by
  refine ⟨?_, h.calls, fun hListening => hListening.supervised deal⟩
  cases hHired : s.supervisor with
  | some v =>
    rw [reporters_supervised (by rw [hHired]; rfl), Option.isSome_some, if_pos rfl]
    exact h.goOn
  | none =>
    have hNone := supervisor_supervised hHired deal
    rw [Option.isSome_none, if_neg Bool.false_ne_true, hNobody hHired, reporters_of_none hNone,
      reporters_of_none hHired]
    exact .refl _

/-! ## Supervisors that come and leave -/

theorem listeners_retire (s : Service) (v : Supervisor) (channel : Channel) :
    (s.retire v).1.listeners channel =
      ((s.listeners channel).remove (v.ticket channel)).1 := by
  cases channel <;> rfl

theorem listeners_hire (s : Service) (channel : Channel) :
    (s.hire.1.listeners channel) = ((s.listeners channel).add .supervisor).1 ∧
      s.hire.2.ticket channel = (s.listeners channel).next := by
  cases channel <;> exact ⟨rfl, rfl⟩

theorem values_of_none (h : s.supervisor = none) : s.reporters.byName.values = [] := by
  rw [reporters_of_none h]
  rfl

/-- A supervisor that retires calls its reporters as when all are stopped, and if all of them can be
stopped, they are. -/
theorem close_retire {old : Supervisor} (hHired : s.supervisor = some old) (now : Service)
    (hSite : now.site = s.site) :
    let after := (now.retire old).1.site
    ∃ left, GoOn s.reporters.byName.values left ∧
      s.site.CallsOnly after (Tagged s.reporters.byName.values) ∧
      ((∀ r ∈ s.reporters.byName.values, r.Stoppable) →
        StopsMade after s.site s.reporters.byName.values left) := by
  have hThere : s.reporters = ⟨now.site, old.reporters⟩ := by
    rw [Service.reporters, hHired, hSite]
    rfl
  have hAfter : (now.retire old).1.site = s.reporters.close.1 := by
    rw [hThere]
    rfl
  rw [hAfter]
  exact Reporters.Turnover.close s.reporters

/-- When the last supervisor leaves, its reporters leave, and nobody hears of changes as a
supervisor any more. -/
theorem Turnover.dropSupervisor (s : Service) :
    ∃ left, s.Turnover [] s.dropSupervisor.1 left ∧
      ((∀ r ∈ s.reporters.byName.values, r.Stoppable) →
        StopsMade s.dropSupervisor.1.site s.site s.reporters.byName.values left) := by
  cases hHired : s.supervisor with
  | none =>
    have hSame : s.dropSupervisor.1 = s := by rw [Service.dropSupervisor, hHired]
    rw [hSame, values_of_none hHired]
    exact ⟨[], (Stays.refl s).turnover, fun _ => .none _⟩
  | some old =>
    obtain ⟨left, hGoOn, hCalls, hStops⟩ := close_retire hHired { s with supervisor := none } rfl
    rw [Service.dropSupervisor, hHired]
    refine ⟨left, ?_, hStops⟩
    refine ⟨?_, ?_, fun h => ⟨fun channel => ?_, fun {channel id} hMem => ?_⟩⟩
    · rw [ite_self, List.append_nil]
      exact hGoOn
    · rw [List.append_nil]
      exact hCalls
    · rw [listeners_retire]
      have hRest : ({ s with supervisor := none } : Service).listeners channel =
        s.listeners channel := by cases channel <;> rfl
      rw [hRest]
      exact (h.inOrder channel).remove _
    · -- whoever heard as a supervisor had the number that was taken away
      rw [listeners_retire] at hMem
      obtain ⟨hOld, hOther⟩ := List.mem_filter.mp hMem
      have hRest : ({ s with supervisor := none } : Service).listeners channel =
        s.listeners channel := by cases channel <;> rfl
      rw [hRest] at hOld
      obtain ⟨v, hv, hTicket⟩ := h.own hOld
      rw [hHired] at hv
      cases hv
      simp [hTicket] at hOther

/-- Where a supervisor is hired, the entries of supervisors are its own, and those of the one that
was there. -/
theorem Listening.entry_hired (h : s.Listening) {channel : Channel} {id : Nat}
    (hMem : (id, .supervisor) ∈ ((s.listeners channel).add .supervisor).1.entries) :
    id = s.hire.2.ticket channel ∨ ∃ v, s.supervisor = some v ∧ id = v.ticket channel := by
  rcases List.mem_append.mp hMem with hOld | hNew
  · exact .inr (h.own hOld)
  · rw [(listeners_hire s channel).2]
    exact .inl (congrArg Prod.fst (List.mem_singleton.mp hNew))

/-- A new supervisor takes the place of the one that was there, whose reporters leave. -/
theorem Turnover.renewSupervisor (s : Service) :
    ∃ left, s.Turnover [] s.renewSupervisor.1 left ∧
      ((∀ r ∈ s.reporters.byName.values, r.Stoppable) →
        StopsMade s.renewSupervisor.1.site s.site s.reporters.byName.values left) := by
  let hired : Service := { s.hire.1 with supervisor := some s.hire.2 }
  have hListeners : ∀ channel, hired.listeners channel =
      ((s.listeners channel).add .supervisor).1 := by
    intro channel
    cases channel <;> rfl
  cases hHired : s.supervisor with
  | none =>
    have hAfter : s.renewSupervisor.1 = hired := by rw [Service.renewSupervisor, hHired]
    rw [hAfter, values_of_none hHired]
    refine ⟨[], ?_, fun _ => .none _⟩
    refine ⟨?_, .of_same rfl, fun h => ⟨fun channel => ?_, fun {channel id} hMem => ?_⟩⟩
    · rw [ite_self, reporters_of_none hHired]
      exact .refl _
    · rw [hListeners]
      exact (h.inOrder channel).add _
    · rw [hListeners] at hMem
      rcases h.entry_hired hMem with hNew | ⟨v, hv, -⟩
      · exact ⟨_, rfl, hNew⟩
      · cases hHired.symm.trans hv
  | some old =>
    have hAfter : s.renewSupervisor.1 = (hired.retire old).1 := by
      rw [Service.renewSupervisor, hHired]
    obtain ⟨left, hGoOn, hCalls, hStops⟩ := close_retire hHired hired rfl
    rw [hAfter]
    refine ⟨left, ?_, hStops⟩
    refine ⟨?_, ?_, fun h => ⟨fun channel => ?_, fun {channel id} hMem => ?_⟩⟩
    · rw [ite_self, List.append_nil]
      exact hGoOn
    · rw [List.append_nil]
      exact hCalls
    · rw [listeners_retire, hListeners]
      exact ((h.inOrder channel).add _).remove _
    · rw [listeners_retire, hListeners] at hMem
      obtain ⟨hEntry, hOther⟩ := List.mem_filter.mp hMem
      rcases h.entry_hired hEntry with hNew | ⟨v, hv, hOld⟩
      · exact ⟨_, rfl, hNew⟩
      · rw [hHired] at hv
        cases hv
        simp [hOld] at hOther

end Service

end Metering
