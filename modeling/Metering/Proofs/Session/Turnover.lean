import Metering.Proofs.Service.Turnover
import Metering.Proofs.Session.Attended

/-!
# Metering — reporters that leave

A reporter leaves the supervisor in three ways: it is discharged by its name, another one takes its
name, or the supervisor ends. Until then whoever hears of changes may start it, and start it anew,
as often as it likes. It is stopped as it leaves, so that it rests, and nobody calls it from then on.

* `Session.bringing`, `Session.leaving` — the reporters that come and leave with a command;
* `turnover_run` — one step, for every command: only those that are there, or come, are called, and
  those that leave are stopped;
* `Session.registered`, `Session.Departs` — those that come in the course of a run, and what stops
  have made of those that leave;
* `departs_after`, `Departs.count_le`, `callsOnly_after` — the accounts of a run;
* `departed_rest_run` — whoever has left was stopped and rests, and is called by nobody.
-/

namespace Metering

open Report

/-- Whether reporters may come or leave with a command. -/
def Command.turnsOver : Command → Bool
  | .register _ | .addBuiltIn _ | .discharge _ | .dropSupervisor | .renewSupervisor => true
  | _ => false

namespace Session

variable {st st' : Session} {c : Command} {commands : List Command}

/-- The reporters of the supervisor. -/
abbrev there (st : Session) : List Reporter := st.service.reporters.byName.values

/-- The reporters that a command brings. -/
def bringing (st : Session) : Command → List Reporter
  | .register r => [r]
  | .addBuiltIn b => (b.build st.service.site.host none).2.toOption.toList.map .polled
  | _ => []

/-- The reporters that a command registers. Without a supervisor nobody can be registered. -/
def registering (st : Session) (c : Command) : List Reporter :=
  if st.service.supervisor.isSome then st.bringing c else []

/-- The reporters that leave the supervisor with a command: one that is discharged, all of a
supervisor that ends, and one whose name another takes. -/
def leaving (st : Session) (c : Command) : List Reporter :=
  match c with
  | .discharge name => st.service.reporters.named name
  | .dropSupervisor | .renewSupervisor => st.there
  | c => (st.bringing c).flatMap fun r => st.service.reporters.named r.name

/-- A session with a service that was just made, from settings if there are any. -/
def opened (host : Host) (now : Instant) (registry : Registry) (settings : Option Settings) :
    Session := .new { Service.new host now registry with settings := settings }

/-! ## One command -/

theorem visit_visitOf (c : Call) : Visit (visitOf c) := by
  cases c with
  | start => exact .start
  | stop => exact .stop
  | report => exact .report

theorem stays_visitAll (c : Call) (rs : Reporters) : rs.Stays (visitAll c rs).1 := by
  cases c with
  | start => exact .attendAll .start _ rs
  | stop => exact .attendAll .stop _ rs
  | report => exact .attendAll .reportIfScheduled _ rs

theorem stays_setEnabled (s : Service) (on : Bool) : s.Stays (s.setEnabled on).1 :=
  .changed s _

/-- With most commands nobody comes and nobody leaves. -/
theorem stays_run (st : Session) (h : c.turnsOver = false) :
    st.service.Stays (st.run c).1.service := by
  by_cases hConcerns : c.concerns = true
  · cases c with
    | act action =>
      rw [run, service_act]
      exact .perform _ action
    | call kind name =>
      exact .supervised (fun rs => rs.callOne (visitOf kind) name)
        (.callOne (visit_visitOf kind) _ name)
    | callAll kind => exact .supervised (visitAll kind) (stays_visitAll kind _)
    | activate =>
      show st.service.Stays st.service.activate.1
      rw [Service.activate]
      split
      · exact stays_setEnabled _ true
      · exact .onSite _ _ (.of_same rfl)
    | deactivate => exact stays_setEnabled _ false
    | register | addBuiltIn | discharge | dropSupervisor | renewSupervisor => cases h
    | _ => cases hConcerns
  · exact .of_framed (framed_run st (Bool.eq_false_iff.mpr hConcerns))

/-- Whoever leaves was there. -/
theorem leaving_subset (st : Session) (c : Command) : st.leaving c ⊆ st.there := by
  have hNamed : ∀ name, st.service.reporters.named name ⊆ st.there := fun name r hMem =>
    NameMap.mem_values_iff.mpr ⟨name, Option.mem_toList.mp hMem⟩
  cases c
  case discharge name => exact hNamed name
  case dropSupervisor | renewSupervisor => exact List.Subset.refl _
  all_goals
    intro r hMem
    obtain ⟨r', -, hLeft⟩ := List.mem_flatMap.mp hMem
    exact hNamed r'.name hLeft

/-- Where there is no supervisor, nobody can be stopped. -/
theorem eq_nil_of_nobody {s : Service} (h : s.supervisor = none) {name : String} {after : Site}
    {left : List Reporter} (hStops : StopsMade after s.site (s.reporters.named name) left) :
    left = [] := by
  have hNobody : s.reporters.byName.get? name = none := by
    rw [Service.reporters_of_none h]
    rfl
  rw [Reporters.named_of_none hNobody] at hStops
  cases hStops
  rfl

theorem turnover_register (s : Service) (r : Reporter) :
    let after := (s.supervised fun rs => rs.register r).1
    ∃ left, s.Turnover [r] after left ∧
      StopsMade after.site s.site (s.reporters.named r.name) left := by
  obtain ⟨left, hTurnover, hStops⟩ := Reporters.Turnover.register s.reporters r
  exact ⟨left, .supervised (fun rs => rs.register r) hTurnover fun hNobody =>
    eq_nil_of_nobody hNobody hStops, hStops⟩

theorem turnover_discharge (s : Service) (name : String) :
    let after := (s.supervised fun rs => rs.discharge name).1
    ∃ left, s.Turnover [] after left ∧
      StopsMade after.site s.site (s.reporters.named name) left := by
  obtain ⟨left, hTurnover, hStops⟩ := Reporters.Turnover.discharge s.reporters name
  exact ⟨left, .supervised (fun rs => rs.discharge name) hTurnover fun hNobody =>
    eq_nil_of_nobody hNobody hStops, hStops⟩

/-- A reporter that is built in is built on the host, and registered then. -/
theorem turnover_addBuiltIn (st : Session) (b : BuiltIn) :
    ∃ left, st.service.Turnover (st.bringing (.addBuiltIn b)) (st.service.addBuiltIn b).1 left ∧
      StopsMade (st.service.addBuiltIn b).1.site st.service.site (st.leaving (.addBuiltIn b))
        left := by
  let built := b.build st.service.site.host none
  let now : Service := { st.service with site := { st.service.site with host := built.1 } }
  have hNow : st.service.Stays now := .onSite _ _ (.of_same rfl)
  have hLeads : st.service.site.Leads now.site := ⟨List.prefix_rfl, b.log_build _ none⟩
  have hAdded := addBuiltIn_eq st.service b
  have hLeaving : st.leaving (.addBuiltIn b) =
      (st.bringing (.addBuiltIn b)).flatMap fun r => st.service.reporters.named r.name := rfl
  cases hBuilt : built.2 with
  | ok p =>
    have hBringing : st.bringing (.addBuiltIn b) = [.polled p] := by
      show List.map _ (built.2.toOption.toList) = _
      rw [hBuilt]
      rfl
    dsimp only at hAdded
    rw [show (b.build st.service.site.host none).2 = .ok p from hBuilt] at hAdded
    rw [hLeaving, hAdded, hBringing, List.flatMap_singleton]
    obtain ⟨left, hTurnover, hStops⟩ := turnover_register now (.polled p)
    exact ⟨left, hNow.then_turnover hTurnover, hStops.since hLeads⟩
  | error fault =>
    have hBringing : st.bringing (.addBuiltIn b) = [] := by
      show List.map _ (built.2.toOption.toList) = _
      rw [hBuilt]
      rfl
    dsimp only at hAdded
    rw [show (b.build st.service.site.host none).2 = .error fault from hBuilt] at hAdded
    rw [hLeaving, hAdded, hBringing]
    exact ⟨[], hNow.turnover, .none _⟩

/-- Only those that are there, or come, are called, and nobody gets lost. Those that leave are
stopped, if all that are there can be. -/
theorem turnover_run (st : Session) (c : Command) :
    ∃ left, st.service.Turnover (st.bringing c) (st.run c).1.service left ∧
      ((∀ r ∈ st.there, r.Stoppable) →
        StopsMade (st.run c).1.service.site st.service.site (st.leaving c) left) := by
  cases hTurns : c.turnsOver with
  | false =>
    have hNobody : st.bringing c = [] ∧ st.leaving c = [] := by
      cases c
      case register | addBuiltIn | discharge | dropSupervisor | renewSupervisor => cases hTurns
      all_goals exact ⟨rfl, rfl⟩
    rw [hNobody.1, hNobody.2]
    exact ⟨[], (stays_run st hTurns).turnover, fun _ => .none _⟩
  | true =>
    cases c with
    | register r =>
      have hLeaving : st.leaving (.register r) = st.service.reporters.named r.name :=
        List.flatMap_singleton _ _
      rw [hLeaving]
      obtain ⟨left, hTurnover, hStops⟩ := turnover_register st.service r
      exact ⟨left, hTurnover, fun _ => hStops⟩
    | addBuiltIn b =>
      obtain ⟨left, hTurnover, hStops⟩ := turnover_addBuiltIn st b
      exact ⟨left, hTurnover, fun _ => hStops⟩
    | discharge name =>
      obtain ⟨left, hTurnover, hStops⟩ := turnover_discharge st.service name
      exact ⟨left, hTurnover, fun _ => hStops⟩
    | dropSupervisor => exact Service.Turnover.dropSupervisor st.service
    | renewSupervisor => exact Service.Turnover.renewSupervisor st.service
    | _ => cases hTurns

/-- Only a new supervisor brings a supervisor back. -/
theorem supervisor_run (hNone : st.service.supervisor = none) (h : c ≠ .renewSupervisor) :
    (st.run c).1.service.supervisor = none := by
  cases hTurns : c.turnsOver with
  | false =>
    have hHired := (stays_run st hTurns).hired
    rw [hNone] at hHired
    exact Option.isNone_iff_eq_none.mp (by simpa using hHired)
  | true =>
    cases c with
    | register r => exact Service.supervisor_supervised hNone fun rs => rs.register r
    | discharge name => exact Service.supervisor_supervised hNone fun rs => rs.discharge name
    | addBuiltIn b =>
      show (st.service.addBuiltIn b).1.supervisor = none
      rw [addBuiltIn_eq]
      split
      · refine Service.supervisor_supervised ?_ _
        exact hNone
      · exact hNone
    | dropSupervisor =>
      show st.service.dropSupervisor.1.supervisor = none
      rw [Service.dropSupervisor, hNone]
      exact hNone
    | renewSupervisor => exact absurd rfl h
    | _ => cases hTurns

/-! ## Runs -/

/-- All who come or leave with some commands, one after another. -/
def gathered (among : Session → Command → List Reporter) (st : Session) :
    List Command → List Reporter
  | [] => []
  | c :: rest => among st c ++ (st.run c).1.gathered among rest

/-- Whoever is brought by some commands. -/
def brought (st : Session) (commands : List Command) : List Reporter :=
  st.gathered bringing commands

/-- Whoever is registered by some commands. -/
def registered (st : Session) (commands : List Command) : List Reporter :=
  st.gathered registering commands

/-- Whoever leaves the supervisor during some commands. -/
def departing (st : Session) (commands : List Command) : List Reporter :=
  st.gathered leaving commands

/-- The reporters that have left in the course of some commands. Each was stopped while its command
was carried out, and is what the stop has made of it. -/
inductive Departs : Session → List Command → List Reporter → Prop where
  | none (st : Session) : Departs st [] []
  | next {st : Session} {c : Command} {rest : List Command} {left later : List Reporter}
      (hStops : StopsMade (st.run c).1.service.site st.service.site (st.leaving c) left)
      (hRest : Departs (st.run c).1 rest later) : Departs st (c :: rest) (left ++ later)

theorem registering_subset (st : Session) (c : Command) : st.registering c ⊆ st.bringing c := by
  rw [registering]
  split
  · exact List.Subset.refl _
  · exact List.nil_subset _

theorem registered_subset (st : Session) (commands : List Command) :
    st.registered commands ⊆ st.brought commands := by
  induction commands generalizing st with
  | nil => exact List.Subset.refl _
  | cons c rest ih =>
    exact List.append_subset.mpr ⟨fun r hMem => List.mem_append_left _ (registering_subset st c hMem),
      fun r hMem => List.mem_append_right _ (ih _ hMem)⟩

/-- Whoever is there after a command was there, or was brought. -/
theorem exists_of_there {r' : Reporter} (hMem : r' ∈ (st.run c).1.there) :
    ∃ r ∈ st.there ++ st.bringing c, r.Onward r' := by
  obtain ⟨left, hTurnover, -⟩ := turnover_run st c
  obtain ⟨r, hr, hOnward⟩ := hTurnover.goOn.exists_of_mem (List.mem_append_left left hMem)
  refine ⟨r, ?_, hOnward⟩
  rcases List.mem_append.mp hr with hThere | hNew
  · exact List.mem_append_left _ hThere
  · exact List.mem_append_right _ (registering_subset st c hNew)

/-- During a run only those are called that were there or were brought. -/
theorem callsOnly_after (st : Session) (commands : List Command) :
    st.service.site.CallsOnly (st.after commands).service.site
      (Tagged (st.there ++ st.brought commands)) := by
  induction commands generalizing st with
  | nil => exact .of_same rfl
  | cons c rest ih =>
    let next := (st.run c).1
    obtain ⟨left, hTurnover, -⟩ := turnover_run st c
    have hBrought : st.brought (c :: rest) = st.bringing c ++ next.brought rest := rfl
    rw [hBrought]
    refine (hTurnover.calls.imp fun tag hTag => ?_).trans ((ih next).imp fun tag hTag => ?_)
    · obtain ⟨r, hMem, hAt⟩ := hTag
      rw [← List.append_assoc]
      exact ⟨r, List.mem_append_left _ hMem, hAt⟩
    · obtain ⟨r', hMem, hAt⟩ := hTag
      rw [← List.append_assoc]
      rcases List.mem_append.mp hMem with hThere | hLater
      · obtain ⟨r, hr, hOnward⟩ := exists_of_there hThere
        exact ⟨r, List.mem_append_left _ hr, hOnward.name_eq.2 ▸ hAt⟩
      · exact ⟨r', List.mem_append_right _ hLater, hAt⟩

/-- Where all can be stopped that are there or are brought, it stays so. -/
theorem stoppable_run {rest : List Command}
    (h : ∀ r ∈ st.there ++ st.brought (c :: rest), r.Stoppable) :
    ∀ r ∈ (st.run c).1.there ++ (st.run c).1.brought rest, r.Stoppable := by
  intro r' hMem
  rcases List.mem_append.mp hMem with hThere | hLater
  · obtain ⟨r, hr, hOnward⟩ := exists_of_there hThere
    refine (h r ?_).onward hOnward
    exact List.append_assoc .. ▸ List.mem_append_left _ hr
  · exact h r' (List.mem_append_right _ (List.mem_append_right _ hLater))

/-- If all can be stopped, then whoever leaves during a run is stopped and rests. Nobody gets lost,
and nobody is there twice. -/
theorem departs_after (h : ∀ r ∈ st.there ++ st.brought commands, r.Stoppable) :
    ∃ departed, st.Departs commands departed ∧
      GoOn (st.there ++ st.registered commands) ((st.after commands).there ++ departed) ∧
      ∀ r ∈ departed, r.running = false := by
  -- by induction on the commands; that all can be stopped goes on from one to the next
  induction commands generalizing st with
  | nil => exact ⟨[], .none st, .refl _, nofun⟩
  | cons c rest ih =>
    let next := (st.run c).1
    have hThere : ∀ r ∈ st.there, r.Stoppable := fun r hMem => h r (List.mem_append_left _ hMem)
    obtain ⟨left, hTurnover, hLeft⟩ := turnover_run st c
    obtain ⟨later, hDeparts, hLater, hRest⟩ := ih (stoppable_run h)
    have hStops := hLeft hThere
    refine ⟨left ++ later, .next hStops hDeparts, ?_, List.forall_mem_append.mpr
      ⟨hStops.rests fun r hMem => hThere r (leaving_subset st c hMem), hRest⟩⟩
    -- those that leave with the first command stand aside during the others
    have hStep : GoOn (st.there ++ st.registering c) (next.there ++ left) := hTurnover.goOn
    have hAside : GoOn (next.there ++ left ++ next.registered rest)
        ((next.there ++ next.registered rest) ++ left) := by
      refine .of_perm ?_
      rw [List.append_assoc, List.append_assoc]
      exact List.perm_append_comm.append_left next.there
    have hBack : GoOn ((next.after rest).there ++ later ++ left)
        ((next.after rest).there ++ (left ++ later)) := by
      refine .of_perm ?_
      rw [List.append_assoc]
      exact List.perm_append_comm.append_left (next.after rest).there
    show GoOn (st.there ++ (st.registering c ++ next.registered rest)) _
    rw [← List.append_assoc]
    exact (hStep.append (.refl _)).trans (hAside.trans ((hLater.append (.refl _)).trans hBack))

namespace Departs

variable {departed : List Reporter}

/-- Whoever has departed has the tag of one that was departing. -/
theorem tags (h : st.Departs commands departed) :
    departed.map Reporter.tag? = (st.departing commands).map Reporter.tag? := by
  induction h with
  | none => rfl
  | @next st c rest left later hStops _ ih =>
    have hDeparting : st.departing (c :: rest) = st.leaving c ++ (st.run c).1.departing rest := rfl
    rw [hDeparting, List.map_append, List.map_append, hStops.tags, ih]

/-- In a run the journal gets at least as many entries on stops under a tag as reporters of this tag
depart. -/
theorem count_le (h : st.Departs commands departed) (tag : String) :
    st.service.site.journal.countP (Note.isStop tag) +
        departed.countP (fun r => r.tag? = some tag) ≤
      (st.after commands).service.site.journal.countP (Note.isStop tag) := by
  induction h with
  | none st => exact Nat.le_refl _
  | @next st c rest left later hStops _ ih =>
    obtain ⟨_, hTurnover, -⟩ := turnover_run st c
    obtain ⟨notes, hJournal, -⟩ := hTurnover.calls
    -- the journal grows with every command, also where nobody leaves
    have hFirst := hStops.count_le ⟨notes, hJournal.symm⟩ tag
    have hAfter : st.after (c :: rest) = (st.run c).1.after rest := rfl
    rw [hAfter, List.countP_append]
    omega

end Departs

theorem listening_after (h : st.service.Listening) (commands : List Command) :
    (st.after commands).service.Listening := by
  induction commands generalizing st with
  | nil => exact h
  | cons c rest ih =>
    obtain ⟨_, hTurnover, -⟩ := turnover_run st c
    exact ih (hTurnover.listening h)

theorem supervisor_after (hNone : st.service.supervisor = none)
    (h : .renewSupervisor ∉ commands) : (st.after commands).service.supervisor = none := by
  induction commands generalizing st with
  | nil => exact hNone
  | cons c rest ih =>
    rw [List.mem_cons, not_or] at h
    exact ih (supervisor_run hNone (Ne.symm h.1)) h.2

/-- Without a supervisor nobody hears of changes as one. -/
theorem notMem_subscribers (h : st.service.Listening) (hNone : st.service.supervisor = none)
    (channel : Channel) : .supervisor ∉ (st.service.listeners channel).subscribers := by
  intro hMem
  obtain ⟨⟨id, l⟩, hEntry, rfl⟩ := List.mem_map.mp hMem
  obtain ⟨v, hHired, -⟩ := h.own hEntry
  cases hNone.symm.trans hHired

theorem brought_stoppable (h : ∀ r, .register r ∈ commands → r.Stoppable) :
    ∀ r ∈ st.brought commands, r.Stoppable := by
  induction commands generalizing st with
  | nil => exact nofun
  | cons c rest ih =>
    intro r hMem
    rcases List.mem_append.mp hMem with hFirst | hRest
    · cases c
      case register r' =>
        rw [List.mem_singleton.mp hFirst]
        exact h r' List.mem_cons_self
      case addBuiltIn b =>
        obtain ⟨p, -, rfl⟩ := List.mem_map.mp hFirst
        exact Reporter.stoppable_polled p
      all_goals cases hFirst
    · exact ih (fun r hMem => h r (List.mem_cons_of_mem _ hMem)) r hRest

theorem supervisor_dropped (st : Session) :
    (st.run .dropSupervisor).1.service.supervisor = none := by
  show st.service.dropSupervisor.1.supervisor = none
  rw [Service.dropSupervisor]
  split
  · rfl
  · next h => exact h

/-- A service is made, with or without settings, and used by whatever commands there are, with
observers that call back and reporters that can be stopped. Whoever was ever registered is there or
has left, once, and has become what some calls have made of it. Whoever has left was stopped when it
left, of which the journal tells, and rests. From any moment on nobody is called but those who are
there and those who are brought. When the supervisor ends, all that are there are stopped and rest;
afterwards nobody is there and nobody hears of changes as a supervisor any more, whatever is done
with the registry, until there is a new one, and of all reporters only those may be called that are
brought since. -/
theorem departed_rest_run (host : Host) (now : Instant) (registry : Registry)
    (settings : Option Settings) (commands : List Command)
    (hStops : ∀ r, .register r ∈ commands → r.Stoppable) :
    let start := opened host now registry settings
    let st := start.after commands
    let dropped := (st.run .dropSupervisor).1
    (∃ departed, start.Departs commands departed ∧
      GoOn (start.registered commands) (st.there ++ departed) ∧
      (∀ r ∈ departed, r.running = false) ∧
      ∀ tag, departed.countP (fun r => r.tag? = some tag) ≤
        st.service.site.journal.countP (Note.isStop tag)) ∧
    (∀ later, st.service.site.CallsOnly (st.after later).service.site
      (Tagged (st.there ++ st.brought later))) ∧
    (∃ left, StopsMade dropped.service.site st.service.site st.there left ∧
      ∀ r ∈ left, r.running = false) ∧
    ∀ later, .renewSupervisor ∉ later →
      let final := dropped.after later
      final.there = [] ∧
      (∀ channel, .supervisor ∉ (final.service.listeners channel).subscribers) ∧
      dropped.service.site.CallsOnly final.service.site (Tagged (dropped.brought later)) := by
  intro start st dropped
  have hBrought : ∀ r ∈ start.brought commands, r.Stoppable := brought_stoppable hStops
  obtain ⟨departed, hDeparts, hGoOn, hRest⟩ := @departs_after start commands hBrought
  have hThere : ∀ r ∈ st.there, r.Stoppable := by
    intro r' hMem
    obtain ⟨r, hr, hOnward⟩ := hGoOn.exists_of_mem (List.mem_append_left departed hMem)
    exact (hBrought r (registered_subset start commands hr)).onward hOnward
  have hListening : start.service.Listening :=
    have hNew := Service.listening_new host now registry
    ⟨hNew.inOrder, hNew.own⟩
  obtain ⟨left, hTurnover, hLeft⟩ := turnover_run st .dropSupervisor
  refine ⟨⟨departed, hDeparts, hGoOn, hRest, fun tag => ?_⟩, callsOnly_after st,
    ⟨left, hLeft hThere, (hLeft hThere).rests hThere⟩, fun later hLater => ?_⟩
  · exact (Nat.le_add_left _ _).trans (hDeparts.count_le tag)
  · intro final
    have hDropped : dropped.there = [] := Service.values_of_none (supervisor_dropped st)
    have hNone : final.service.supervisor = none :=
      supervisor_after (supervisor_dropped st) hLater
    have hCalls := callsOnly_after dropped later
    rw [hDropped] at hCalls
    refine ⟨Service.values_of_none hNone, notMem_subscribers ?_ hNone, hCalls⟩
    exact listening_after (hTurnover.listening (listening_after hListening commands)) later

/-- Two reporters fail while they stop: one as another takes its name, after it was started anew,
and one as it is discharged. Both rest, and after the end of the supervisor nobody is called. -/
theorem departed_rest_dropped :
    let reporter (name tag : String) (stops : List Verdict) : Reporter :=
      .scripted ⟨name, tag, .listening, false, [], stops, []⟩
    let commands : List Command := [.renewSupervisor,
      .register (reporter "m" "first" [.well, .grudging]), .act (.setRoot .debug),
      .register (reporter "m" "second" []), .register (reporter "n" "third" [.grudging]),
      .discharge "n"]
    let later : List Command :=
      [.act (.setEnabled false), .act (.setEnabled true), .act (.setRoot .off)]
    let start := opened ⟨0, ⟨.empty⟩, "", []⟩ 0 (.new default (.values 4) true) none
    let dropped := ((start.after commands).run .dropSupervisor).1
    (∃ departed, start.Departs commands departed ∧
      departed.map Reporter.tag? = [some "first", some "third"] ∧
      ∀ r ∈ departed, r.running = false) ∧
    ["first", "second", "third"].map
      (fun tag => dropped.service.site.journal.countP (Note.isStop tag)) = [2, 1, 1] ∧
    dropped.service.site.CallsOnly (dropped.after later).service.site fun _ => False := by
  intro reporter commands later start dropped
  have hStops : ∀ r, .register r ∈ commands → r.Stoppable := by
    intro r hMem
    simp only [commands, List.mem_cons, List.not_mem_nil, reduceCtorEq, Command.register.injEq,
      false_or, or_false] at hMem
    rcases hMem with rfl | rfl | rfl <;> exact Reporter.stoppable_scripted (by decide)
  have hDeparting : (start.departing commands).map Reporter.tag? =
      [some "first", some "third"] := by decide +kernel
  have hCounts : ["first", "second", "third"].map
      (fun tag => dropped.service.site.journal.countP (Note.isStop tag)) = [2, 1, 1] := by
    decide +kernel
  obtain ⟨⟨departed, hDeparts, -, hRest, -⟩, -, -, hDropped⟩ :=
    departed_rest_run ⟨0, ⟨.empty⟩, "", []⟩ 0 (.new default (.values 4) true) none commands hStops
  obtain ⟨-, -, hCalls⟩ := hDropped later (by simp [later])
  have hNobody : ∀ tag, Tagged (dropped.brought later) tag → False := by
    have hBrought : dropped.brought later = [] := rfl
    rintro tag ⟨r, hMem, -⟩
    rw [hBrought] at hMem
    cases hMem
  have hNever := hCalls.imp hNobody
  -- the sessions are spelled out, or else they would be compared by running the commands
  dsimp only [start, dropped] at hCounts ⊢
  exact ⟨⟨departed, hDeparts, hDeparts.tags.trans hDeparting, hRest⟩, hCounts, hNever⟩

end Session

end Metering
