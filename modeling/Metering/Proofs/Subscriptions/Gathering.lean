import Mathlib.Data.List.Range
import Mathlib.Tactic.Common
import Metering.Proofs.Subscriptions
import Metering.Subscriptions.Reaction

/-!
# Metering — subscriptions that change while subscribers are called

Those who are called may bring others along, make anybody leave and break off. The calls go on
through those who were there when the first was called, in the order in which they had come, up to
the first that breaks off; whoever comes or leaves meanwhile does so for the calls that follow.
Every number is given once, and every answer that anybody gets, in the middle of the calls or
outside, is what it ought to be by all that has happened until then.

* `arrivals`, `departures`, `calls` — who came, who left and who was called, by a chronicle;
* `Right` — an answer is right after what has happened;
* `Gathering.Orderly` — the subscriptions are what the chronicle makes of them; `Orderly.add`,
  `Orderly.remove`, `Orderly.carryOut`, `Orderly.notify` — and stay so;
* `Ran`, `CallRound` — what happens when a member is called, and some one after another;
* `gathering_run` — all of this for everything that may be asked of a gathering.
-/

namespace Metering

variable {κ α σ : Type}

/-! ## Chronicles -/

/-- Who came. -/
def Happening.came? : Happening κ α → Option (Nat × α)
  | .came id a => some (id, a)
  | _ => none

/-- Who left. Somebody who was not there did not leave. -/
def Happening.left? : Happening κ α → Option Nat
  | .left id true => some id
  | _ => none

/-- Who was called, and told what. -/
def Happening.called? : Happening κ α → Option (κ × α)
  | .called told a => some (told, a)
  | _ => none

/-- Those who have come, with their numbers, in the order of coming. -/
def arrivals (chronicle : List (Happening κ α)) : List (Nat × α) :=
  chronicle.filterMap Happening.came?

/-- The numbers of those who have left. -/
def departures (chronicle : List (Happening κ α)) : List Nat :=
  chronicle.filterMap Happening.left?

/-- Those who were called, in the order of the calls, with what they were told. -/
def calls (chronicle : List (Happening κ α)) : List (κ × α) :=
  chronicle.filterMap Happening.called?

theorem arrivals_append (first second : List (Happening κ α)) :
    arrivals (first ++ second) = arrivals first ++ arrivals second := List.filterMap_append

theorem departures_append (first second : List (Happening κ α)) :
    departures (first ++ second) = departures first ++ departures second := List.filterMap_append

theorem calls_append (first second : List (Happening κ α)) :
    calls (first ++ second) = calls first ++ calls second := List.filterMap_append

/-- What somebody is answered is right after what has happened before: a number is new, somebody can
leave who has come and has not left, and those are counted who have come and have not left. -/
def Right (before : List (Happening κ α)) : Happening κ α → Prop
  | .came id _ => id = (arrivals before).length
  | .left id found =>
    found = true ↔ id ∈ (arrivals before).map Prod.fst ∧ id ∉ departures before
  | .counted n => n + (departures before).length = (arrivals before).length
  | .called .. | .ended _ => True

/-- All answers were right when they were given. -/
def AllRight (chronicle : List (Happening κ α)) : Prop :=
  ∀ before h after, chronicle = before ++ h :: after → Right before h

theorem AllRight.concat {chronicle : List (Happening κ α)} {h : Happening κ α}
    (hAll : AllRight chronicle) (hLast : Right chronicle h) : AllRight (chronicle ++ [h]) := by
  intro before h' after hEq
  obtain rfl | ⟨init, last, rfl⟩ := List.eq_nil_or_concat after
  · obtain ⟨rfl, hSame⟩ := List.append_inj' hEq rfl
    cases hSame
    exact hLast
  · rw [List.concat_eq_append, ← List.cons_append, ← List.append_assoc] at hEq
    exact hAll before h' init (List.append_inj' hEq rfl).1

namespace Gathering

variable {g : Gathering κ α σ} {conduct : κ → α → σ → Conduct α σ}

/-! ## Subscriptions by the chronicle -/

/-- The members are those who have come and have not left, in the order of coming. Their numbers
count those who come; nobody leaves twice; and all answers were right. -/
structure Orderly (g : Gathering κ α σ) : Prop where
  numbered : (arrivals g.chronicle).map Prod.fst = List.range g.members.next
  present : g.members.entries =
    (arrivals g.chronicle).filter fun e => e.1 ∉ departures g.chronicle
  once : (departures g.chronicle).Nodup
  given : ∀ id ∈ departures g.chronicle, id < g.members.next
  right : AllRight g.chronicle

theorem orderly_empty (memory : σ) : (empty memory : Gathering κ α σ).Orderly where
  numbered := rfl
  present := rfl
  once := .nil
  given := nofun
  right before h after hEq := by
    have hNone : before ++ h :: after = [] := hEq.symm
    cases before <;> cases hNone

namespace Orderly

theorem length_arrivals (h : g.Orderly) : (arrivals g.chronicle).length = g.members.next := by
  rw [← List.length_map Prod.fst, h.numbered, List.length_range]

/-- A member has a number that was given and whose bearer has not left. -/
theorem has_iff (h : g.Orderly) (id : Nat) : g.members.has id = true ↔
    id ∈ (arrivals g.chronicle).map Prod.fst ∧ id ∉ departures g.chronicle := by
  rw [Subscriptions.has, List.any_eq_true, h.present]
  simp only [List.mem_filter, decide_eq_true_eq, beq_iff_eq, List.mem_map]
  constructor
  · rintro ⟨e, ⟨hMem, hThere⟩, rfl⟩
    exact ⟨⟨e, hMem, rfl⟩, hThere⟩
  · rintro ⟨⟨e, hMem, rfl⟩, hThere⟩
    exact ⟨e, ⟨hMem, hThere⟩, rfl⟩

/-- There are as many members as have come and have not left. -/
theorem size_eq (h : g.Orderly) :
    g.members.size + (departures g.chronicle).length = (arrivals g.chronicle).length := by
  -- of the numbers that were given some are those of the members
  have hThere : g.members.size =
      ((List.range g.members.next).filter fun id => id ∉ departures g.chronicle).length := by
    rw [Subscriptions.size, h.present, ← h.numbered, List.filter_map, List.length_map]
    rfl
  -- and the others, once each, those of all who have left
  have hGone : ((List.range g.members.next).filter fun id =>
      !decide (id ∉ departures g.chronicle)).Perm (departures g.chronicle) := by
    refine (List.perm_ext_iff_of_nodup (List.nodup_range.filter _) h.once).mpr fun id => ?_
    rw [List.mem_filter, List.mem_range]
    simp only [decide_not, Bool.not_not, decide_eq_true_eq, and_iff_right_iff_imp]
    exact h.given id
  rw [hThere, ← hGone.length_eq, h.length_arrivals, ← List.length_eq_length_filter_add,
    List.length_range]

/-- Something happens by which nobody comes or leaves. -/
theorem note (h : g.Orderly) {x : Happening κ α} (hCame : x.came? = none)
    (hLeft : x.left? = none) (hRight : Right g.chronicle x) : (g.note x).Orderly := by
  have hNobody : arrivals [x] = [] := List.filterMap_cons_none hCame
  have hNoOne : departures [x] = [] := List.filterMap_cons_none hLeft
  have hArrivals : arrivals (g.chronicle ++ [x]) = arrivals g.chronicle := by
    rw [arrivals_append, hNobody, List.append_nil]
  have hDepartures : departures (g.chronicle ++ [x]) = departures g.chronicle := by
    rw [departures_append, hNoOne, List.append_nil]
  refine ⟨?_, ?_, ?_, ?_, h.right.concat hRight⟩
  · show (arrivals (g.chronicle ++ [x])).map _ = _
    rw [hArrivals]
    exact h.numbered
  · show g.members.entries = (arrivals (g.chronicle ++ [x])).filter fun e =>
      e.1 ∉ departures (g.chronicle ++ [x])
    rw [hArrivals, hDepartures]
    exact h.present
  · show (departures (g.chronicle ++ [x])).Nodup
    rw [hDepartures]
    exact h.once
  · show ∀ id ∈ departures (g.chronicle ++ [x]), id < g.members.next
    rw [hDepartures]
    exact h.given

/-- Somebody comes. -/
theorem add (h : g.Orderly) (a : α) : (g.add a).1.Orderly := by
  have hArrivals : arrivals (g.add a).1.chronicle =
      arrivals g.chronicle ++ [(g.members.next, a)] := arrivals_append ..
  have hDepartures : departures (g.add a).1.chronicle = departures g.chronicle :=
    (departures_append ..).trans (List.append_nil _)
  have hNew : g.members.next ∉ departures g.chronicle := fun hMem =>
    (h.given _ hMem).ne rfl
  refine ⟨?_, ?_, ?_, ?_, h.right.concat h.length_arrivals.symm⟩
  · rw [hArrivals, List.map_append, h.numbered]
    exact List.range_succ.symm
  · have hLast : [(g.members.next, a)].filter (fun e => e.1 ∉ departures g.chronicle) =
        [(g.members.next, a)] := List.filter_cons_of_pos (decide_eq_true hNew)
    rw [hArrivals, hDepartures, List.filter_append, ← h.present, hLast]
    rfl
  · rw [hDepartures]
    exact h.once
  · rw [hDepartures]
    exact fun id hMem => Nat.lt_succ_of_lt (h.given id hMem)

/-- Somebody is to leave, who is there or not. -/
theorem remove (h : g.Orderly) (id : Nat) : (g.remove id).1.Orderly := by
  have hChronicle : (g.remove id).1.chronicle =
    g.chronicle ++ [.left id (g.members.has id)] := rfl
  have hArrivals : arrivals (g.remove id).1.chronicle = arrivals g.chronicle :=
    (arrivals_append ..).trans (List.append_nil _)
  have hDepartures : departures (g.remove id).1.chronicle =
      departures g.chronicle ++ if g.members.has id then [id] else [] := by
    rw [hChronicle, departures_append]
    cases g.members.has id <;> rfl
  have hGone (n : Nat) : n ∈ departures (g.remove id).1.chronicle ↔
      n ∈ departures g.chronicle ∨ n = id ∧ g.members.has id = true := by
    rw [hDepartures, List.mem_append]
    cases g.members.has id <;> simp
  refine ⟨?_, ?_, ?_, fun n hMem => ?_, h.right.concat (h.has_iff id)⟩
  · rw [hArrivals]
    exact h.numbered
  · show g.members.entries.filter (fun e => e.1 != id) = _
    rw [hArrivals, h.present, List.filter_filter]
    refine List.filter_congr fun e hMem => ?_
    rw [Bool.eq_iff_iff, Bool.and_eq_true, bne_iff_ne, decide_eq_true_eq, decide_eq_true_eq,
      hGone, not_or, not_and]
    constructor
    · exact fun hOther => ⟨hOther.2, fun hSame => absurd hSame hOther.1⟩
    · -- whoever has the number, has come and has not left, is a member
      refine fun hThere => ⟨fun hSame => hThere.2 hSame ?_, hThere.1⟩
      exact (h.has_iff id).mpr (hSame ▸ ⟨List.mem_map_of_mem hMem, hThere.1⟩)
  · rw [hDepartures]
    split
    · next hHas =>
      refine List.nodup_append.mpr ⟨h.once, List.pairwise_singleton _ id, fun n hMem m hSame => ?_⟩
      rw [List.mem_singleton.mp hSame]
      rintro rfl
      exact ((h.has_iff n).mp hHas).2 hMem
    · rw [List.append_nil]
      exact h.once
  · obtain hMem | ⟨rfl, hHas⟩ := (hGone n).mp hMem
    · exact h.given n hMem
    · rw [← List.mem_range]
      exact h.numbered ▸ ((h.has_iff n).mp hHas).1

theorem count (h : g.Orderly) : g.count.1.Orderly := h.note rfl rfl h.size_eq

/-- Whatever somebody does who is called, by induction on its conduct. -/
theorem carryOut (h : g.Orderly) (c : Conduct α σ) : (g.carryOut c).1.Orderly := by
  induction c generalizing g with
  | ends memory whole =>
    -- who is there has nothing to do with what is remembered
    exact note (g := { g with memory := memory }) ⟨h.numbered, h.present, h.once, h.given, h.right⟩
      rfl rfl trivial
  | brings a next ih => exact ih _ (h.add a)
  | dismisses id next ih => exact ih _ (h.remove id)
  | counts next ih => exact ih _ h.count

theorem call (h : g.Orderly) (told : κ) (a : α) : (call conduct told a g).1.Orderly :=
  carryOut (h.note (x := .called told a) rfl rfl trivial) _

theorem notify (h : g.Orderly) (told : κ) : (g.notify conduct told).1.Orderly :=
  inTurn_keeps (P := Orderly) _ (fun a _ _ hNow => hNow.call told a) h

theorem run (h : g.Orderly) (request : Request κ α) : (g.run conduct request).Orderly := by
  cases request with
  | add a => exact h.add a
  | remove id => exact h.remove id
  | count => exact h.count
  | notify told => exact h.notify told

theorem after (h : g.Orderly) (requests : List (Request κ α)) :
    (g.after conduct requests).Orderly := by
  induction requests generalizing g with
  | nil => exact h
  | cons request rest ih => exact ih (h.run request)

end Orderly

end Gathering

/-! ## Rounds of calls -/

/-- Whether something happens in the course of a call. -/
def Happening.isDeed : Happening κ α → Bool
  | .came .. | .left .. | .counted _ => true
  | .called .. | .ended _ => false

/-- What has happened between two moments is what somebody did who was called, and its end. -/
def Ran (before after : List (Happening κ α)) (whole : Bool) : Prop :=
  ∃ deeds, (∀ x ∈ deeds, x.isDeed = true) ∧ after = before ++ (deeds ++ [.ended whole])

/-- One more deed came first. -/
theorem Ran.cons {before after : List (Happening κ α)} {x : Happening κ α} {whole : Bool}
    (hDeed : x.isDeed = true) (hRest : Ran (before ++ [x]) after whole) :
    Ran before after whole := by
  obtain ⟨deeds, hDeeds, rfl⟩ := hRest
  exact ⟨x :: deeds, List.forall_mem_cons.mpr ⟨hDeed, hDeeds⟩, List.append_assoc _ _ _⟩

/-- What happens when some are to be called in turn: each is called, does what it does, and comes
to its end; then it is the turn of the next one, unless it broke off, which ends the round. -/
inductive CallRound (told : κ) : List α → List (Happening κ α) → Bool → Prop where
  | done : CallRound told [] [] true
  | through {a : α} {rest : List α} {deeds events : List (Happening κ α)} {whole : Bool}
      (hDeeds : ∀ x ∈ deeds, x.isDeed = true) (hRest : CallRound told rest events whole) :
      CallRound told (a :: rest) (.called told a :: (deeds ++ .ended true :: events)) whole
  | broken {a : α} {rest : List α} {deeds : List (Happening κ α)}
      (hDeeds : ∀ x ∈ deeds, x.isDeed = true) :
      CallRound told (a :: rest) (.called told a :: (deeds ++ [.ended false])) false

theorem calls_called (told : κ) (a : α) (events : List (Happening κ α)) :
    calls (.called told a :: events) = (told, a) :: calls events := rfl

theorem calls_ended (whole : Bool) (events : List (Happening κ α)) :
    calls (.ended whole :: events) = calls events := rfl

theorem calls_deeds {deeds : List (Happening κ α)} (h : ∀ x ∈ deeds, x.isDeed = true) :
    calls deeds = [] := by
  refine List.filterMap_eq_nil_iff.mpr fun x hMem => ?_
  have hDeed := h x hMem
  cases x with
  | called | ended => cases hDeed
  | came | left | counted => rfl

namespace CallRound

variable {told : κ} {as : List α} {events : List (Happening κ α)} {whole : Bool}

/-- A round that nobody broke off has called all, once each and in turn. -/
theorem calls_of_whole (h : CallRound told as events true) :
    calls events = as.map fun a => (told, a) := by
  generalize hWhole : true = whole at h
  induction h with
  | done => rfl
  | through hDeeds _ ih =>
    rw [calls_called, calls_append, calls_deeds hDeeds, calls_ended, ih hWhole]
    rfl
  | broken => cases hWhole

/-- A round that somebody broke off has called all ahead of that one, that one, and nobody else. -/
theorem calls_of_broken (h : CallRound told as events false) :
    ∃ ahead last behind, as = ahead ++ last :: behind ∧
      calls events = (ahead ++ [last]).map fun a => (told, a) := by
  generalize hWhole : false = whole at h
  induction h with
  | done => cases hWhole
  | @through a _ _ _ _ hDeeds _ ih =>
    obtain ⟨ahead, last, behind, hAll, hCalls⟩ := ih hWhole
    refine ⟨a :: ahead, last, behind, congrArg (List.cons a) hAll, ?_⟩
    rw [calls_called, calls_append, calls_deeds hDeeds, calls_ended, hCalls]
    rfl
  | @broken a rest _ hDeeds =>
    refine ⟨[], a, rest, rfl, ?_⟩
    rw [calls_called, calls_append, calls_deeds hDeeds]
    rfl

end CallRound

namespace Gathering

variable {g : Gathering κ α σ} {conduct : κ → α → σ → Conduct α σ}

/-- What somebody does who is called, and its end, by induction on its conduct. -/
theorem ran_carryOut (c : Conduct α σ) (g : Gathering κ α σ) :
    Ran g.chronicle (g.carryOut c).1.chronicle (g.carryOut c).2 := by
  induction c generalizing g with
  | ends memory whole => exact ⟨[], nofun, rfl⟩
  | brings a next ih => exact .cons (x := .came g.members.next a) rfl (ih _ (g.add a).1)
  | dismisses id next ih =>
    exact .cons (x := .left id (g.members.has id)) rfl (ih _ (g.remove id).1)
  | counts next ih => exact .cons (x := .counted g.members.size) rfl (ih _ g.count.1)

/-- Calls one after another are a round, by induction on those to be called. -/
theorem round_inTurn (conduct : κ → α → σ → Conduct α σ) (told : κ) (as : List α)
    (g : Gathering κ α σ) :
    ∃ events, (inTurn (call conduct told) as g).1.chronicle = g.chronicle ++ events ∧
      CallRound told as events (inTurn (call conduct told) as g).2 := by
  induction as generalizing g with
  | nil => exact ⟨[], (List.append_nil _).symm, .done⟩
  | cons a rest ih =>
    obtain ⟨deeds, hDeeds, hCall⟩ := ran_carryOut (conduct told a g.memory)
      (g.note (.called told a))
    have hChronicle : (call conduct told a g).1.chronicle = g.chronicle ++
        (.called told a :: (deeds ++ [.ended (call conduct told a g).2])) := by
      refine hCall.trans ?_
      show g.chronicle ++ [.called told a] ++ _ = _
      rw [List.append_assoc]
      rfl
    rw [inTurn_cons]
    split
    -- whoever is to be called was settled before, whatever this call has changed
    · next hWhole =>
      obtain ⟨events, hRest, hRound⟩ := ih (call conduct told a g).1
      refine ⟨.called told a :: (deeds ++ .ended true :: events), ?_, .through hDeeds hRound⟩
      rw [hRest, hChronicle, hWhole]
      simp only [List.append_assoc, List.cons_append, List.nil_append]
    · next hBroken =>
      rw [Bool.not_eq_true] at hBroken
      rw [hBroken] at hChronicle ⊢
      exact ⟨_, hChronicle, .broken hDeeds⟩

/-- Whatever is asked of a gathering that begins with nobody, and whatever its members do when they
are called: the members are those who have come and have not left, in the order of coming, with
numbers that count those who come; nobody leaves twice; there are as many as have come less those
who have left; and every answer that anybody got, in the middle of calls or outside, was right. To
notify the members then is a round of calls through those who are there when it begins: if it comes
to its end, each was called once, in turn, and if somebody breaks off, those ahead and that one.
What they change meanwhile is what the next round begins with. -/
theorem gathering_run (conduct : κ → α → σ → Conduct α σ) (memory : σ)
    (requests : List (Request κ α)) :
    let g := (empty memory).after conduct requests
    g.Orderly ∧
    g.members.size = (arrivals g.chronicle).length - (departures g.chronicle).length ∧
    ∀ told, let outcome := g.notify conduct told
      outcome.1.Orderly ∧
      ∃ events, outcome.1.chronicle = g.chronicle ++ events ∧
        CallRound told g.members.subscribers events outcome.2 ∧
        (outcome.2 = true → calls events = g.members.subscribers.map fun a => (told, a)) ∧
        (outcome.2 = false → ∃ ahead last behind,
          g.members.subscribers = ahead ++ last :: behind ∧
          calls events = (ahead ++ [last]).map fun a => (told, a)) := by
  intro g
  have hOrderly : g.Orderly := (orderly_empty memory).after requests
  have hSize := hOrderly.size_eq
  refine ⟨hOrderly, by omega, fun told => ?_⟩
  intro outcome
  obtain ⟨events, hChronicle, hRound⟩ := round_inTurn conduct told g.members.subscribers g
  refine ⟨hOrderly.notify told, events, hChronicle, hRound, fun hWhole => ?_, fun hBroken => ?_⟩
  · exact CallRound.calls_of_whole (hWhole ▸ hRound)
  · exact CallRound.calls_of_broken (hBroken ▸ hRound)

/-- Five come, of whom the first makes the third leave and brings another one along, and the fourth
breaks off; then all are notified. -/
def fiveThenNotified : List (Request Bool Reaction) :=
  [.add (.mk "first" (some 2) (some (.mk "late" none none false)) false),
    .add (.mk "second" none none false), .add (.mk "third" none none false),
    .add (.mk "fourth" none none true), .add (.mk "fifth" none none false), .notify true]

/-- The third was still called, though made to leave by the first. It is not in the second round,
which ends with the fourth again; the fifth and the late one, who are members, hear of neither. -/
theorem gathering_run_broken_off :
    let g := after Reaction.conduct (empty ()) fiveThenNotified
    let outcome := g.notify Reaction.conduct false
    Circle.calls g = [("first", true), ("second", true), ("third", true), ("fourth", true)] ∧
    g.Orderly ∧ g.members.size = 5 ∧ outcome.2 = false ∧
    ∃ events, outcome.1.chronicle = g.chronicle ++ events ∧
      ∃ ahead last behind, g.members.subscribers = ahead ++ last :: behind ∧
        calls events = (ahead ++ [last]).map (fun a => (false, a)) ∧
        Circle.calls outcome.1 = Circle.calls g ++
          [("first", false), ("second", false), ("fourth", false)] := by
  obtain ⟨hOrderly, hSize, hRound⟩ := gathering_run Reaction.conduct () fiveThenNotified
  obtain ⟨events, hChronicle, -, -, hBroken⟩ := (hRound false).2
  obtain ⟨ahead, last, behind, hAll, hCalls⟩ := hBroken rfl
  exact ⟨rfl, hOrderly, hSize, rfl, events, hChronicle, ahead, last, behind, hAll, hCalls, rfl⟩

end Gathering

end Metering
