import Metering.Report.Cycle

/-!
# Metering — between a start and a stop

The owner of a reporter and its workers make their moves in any order that is possible. Whatever
the order, there is never a second worker, and a worker is only there while the owner has started
the reporter and the stop after that has not returned.

* `standing` — where the owner is between a start and the return of the next stop or drop, told by
  its moves alone; `engaged` — whether it is there at all;
* `Shift.Manned` — the invariant of all orders of moves; `Manned.move` — no move breaks it;
* `Manned.joined` — whoever is waited for comes to its end;
* `Shift.Orderly` — what follows from it, and `engagement_run` — it is so after every run of moves;
* `Pace.Settled` — a reporter between two calls of its owner; each call and each cycle leads from
  one such reporter to another by moves that can be made.
-/

namespace Metering.Report

/-! ## What the owner's moves say -/

/-- Where an owner is between its starts and stops. -/
inductive Standing where
  /-- It has started no worker since the last stop or drop of one has returned. -/
  | off
  /-- It has started a worker, and has called neither a stop nor a drop since. -/
  | on
  /-- It has called a stop or a drop after a start, and the call has not returned. -/
  | stopping
  deriving DecidableEq

/-- Where the owner is after one more move. To return from the call that stops a worker is to join
it. -/
def Move.standingAfter (was : Standing) : Move → Standing
  | .start => if was = .off then .on else was
  | .stop | .drop => if was = .on then .stopping else was
  | .join => .off
  | _ => was

/-- Where the owner is after some moves. -/
def standing (ms : List Move) : Standing := ms.foldl Move.standingAfter .off

/-- Whether the owner is between a start and the return of the next stop or drop after some
moves. -/
def engaged (ms : List Move) : Bool := standing ms ≠ .off

namespace Shift

variable {s s' : Shift} {m : Move} {ms : List Move} {st : Standing} {id other : Nat}
  {w w' : Worker} {phase : Phase}

/-! ## Workers -/

theorem getElem?_changed (workers : List Worker) (id other : Nat) (change : Worker → Worker) :
    (workers.modify id change)[other]? =
      if other = id then workers[other]?.map change else workers[other]? := by
  rw [List.getElem?_modify]
  by_cases h : other = id
  · simp [h]
  · simp [h, Ne.symm h]

theorem workerIn?_eq_some :
    s.workerIn? id phase = some w ↔ s.workers[id]? = some w ∧ w.phase = phase := by
  rw [workerIn?, Option.filter_eq_some_iff, decide_eq_true_eq]

theorem ownerFree_iff : s.ownerFree = true ↔ s.awaited = none ∧ s.dropped = false := by
  simp [ownerFree]

theorem move?_join_eq_some :
    s.move? .join = some s' ↔
      ∃ id, s.awaited = some id ∧ s.workers[id]?.any Worker.ended = true ∧
        s.released id = s' := by
  simp only [move?]
  cases hAwaited : s.awaited with
  | none => simp
  | some id => simp

theorem current_dismissed (s : Shift) : s.dismissed.current = none := by
  rw [Shift.dismissed]
  split
  · assumption
  · rfl

/-! ## The invariant -/

/-- Only the worker that the owner has started, or for whose end it waits, is there at all. The
first was sent no message, the second was, and the owner holds on to the channel of either. -/
structure Manned (s : Shift) (st : Standing) : Prop where
  going : s.current.isSome = true ↔ st = .on
  waits : s.awaited.isSome = true ↔ st = .stopping
  ended : ∀ {id w}, s.workers[id]? = some w →
    s.current = some id ∨ s.awaited = some id ∨ w.ended = true
  working : ∀ {id}, s.current = some id →
    ∃ phase, s.workers[id]? = some ⟨phase, false, true⟩ ∧ phase ≠ .left
  leaving : ∀ {id}, s.awaited = some id → ∃ phase, s.workers[id]? = some ⟨phase, true, true⟩
  dropped : s.dropped = true → s.current = none

theorem manned_idle : idle.Manned .off where
  going := by decide
  waits := by decide
  ended h := by cases h
  working h := by cases h
  leaving h := by cases h
  dropped _ := rfl

namespace Manned

theorem on_of_current (h : s.Manned st) (hAt : s.current = some id) : st = .on :=
  h.going.mp (by rw [hAt]; rfl)

theorem stopping_of_awaited (h : s.Manned st) (hAt : s.awaited = some id) : st = .stopping :=
  h.waits.mp (by rw [hAt]; rfl)

theorem current_none (h : s.Manned st) (hNot : st ≠ .on) : s.current = none :=
  Option.not_isSome_iff_eq_none.mp fun hSome => hNot (h.going.mp hSome)

theorem awaited_none (h : s.Manned st) (hNot : st ≠ .stopping) : s.awaited = none :=
  Option.not_isSome_iff_eq_none.mp fun hSome => hNot (h.waits.mp hSome)

theorem awaited_none_of_current (h : s.Manned st) (hAt : s.current = some id) :
    s.awaited = none :=
  h.awaited_none (by rw [h.on_of_current hAt]; decide)

theorem current_none_of_awaited (h : s.Manned st) (hAt : s.awaited = some id) :
    s.current = none :=
  h.current_none (by rw [h.stopping_of_awaited hAt]; decide)

theorem there (h : s.Manned st) (hAt : s.workers[id]? = some w) (hThere : w.ended = false) :
    s.current = some id ∨ s.awaited = some id := by
  rcases h.ended hAt with hCurrent | hAwaited | hEnded
  · exact .inl hCurrent
  · exact .inr hAwaited
  · rw [hThere] at hEnded
    cases hEnded

/-- A worker that goes on without a message is the one that the owner has started. -/
theorem current_of_untold (h : s.Manned st) (hAt : s.workers[id]? = some w)
    (hThere : w.ended = false) (hTold : w.told = false) : s.current = some id := by
  refine (h.there hAt hThere).resolve_right fun hAwaited => ?_
  obtain ⟨phase, hWorker⟩ := h.leaving hAwaited
  rw [hAt] at hWorker
  rw [Option.some.inj hWorker] at hTold
  cases hTold

/-- A worker that goes on with a message is the one for whose end the owner waits. -/
theorem awaited_of_told (h : s.Manned st) (hAt : s.workers[id]? = some w)
    (hThere : w.ended = false) (hTold : w.told = true) : s.awaited = some id := by
  refine (h.there hAt hThere).resolve_left fun hCurrent => ?_
  obtain ⟨phase, hWorker, -⟩ := h.working hCurrent
  rw [hAt] at hWorker
  rw [Option.some.inj hWorker] at hTold
  cases hTold

/-- Of two workers that are there the second is the first. -/
theorem only (h : s.Manned st) (hAt : s.workers[id]? = some w)
    (hOther : s.workers[other]? = some w') (hThere : w.ended = false)
    (hThere' : w'.ended = false) : other = id := by
  rcases h.there hAt hThere with hFirst | hFirst <;>
    rcases h.there hOther hThere' with hSecond | hSecond
  · rw [hFirst] at hSecond
    exact (Option.some.inj hSecond).symm
  · rw [h.awaited_none_of_current hFirst] at hSecond
    cases hSecond
  · rw [h.awaited_none_of_current hSecond] at hFirst
    cases hFirst
  · rw [hFirst] at hSecond
    exact (Option.some.inj hSecond).symm

/-- A worker that is there means that the owner is engaged. -/
theorem engaged_of_there (h : s.Manned st) (hAt : s.workers[id]? = some w)
    (hThere : w.ended = false) : st ≠ .off := by
  rcases h.there hAt hThere with hCurrent | hAwaited
  · rw [h.on_of_current hCurrent]
    decide
  · rw [h.stopping_of_awaited hAwaited]
    decide

/-! ## Moves of the owner -/

theorem hired (h : s.Manned st) (hNone : s.current = none) (hFree : s.ownerFree = true) :
    s.hired.Manned .on := by
  obtain ⟨hAwaited, hDropped⟩ := ownerFree_iff.mp hFree
  refine ⟨iff_of_true rfl rfl, ?_, ?_, ?_, ?_, ?_⟩
  · simp [Shift.hired, hAwaited]
  · intro id w hAt
    by_cases hOld : id < s.workers.length
    · rw [Shift.hired, List.getElem?_append_left hOld] at hAt
      rcases h.ended hAt with hCurrent | hAwaited | hEnded
      · rw [hNone] at hCurrent
        cases hCurrent
      · exact .inr (.inl hAwaited)
      · exact .inr (.inr hEnded)
    · -- the place after the old workers is that of the new one
      have hLength : id < (s.workers ++ [Worker.fresh]).length :=
        (List.getElem?_eq_some_iff.mp hAt).1
      rw [List.length_append, List.length_singleton] at hLength
      exact .inl (congrArg some (by omega))
  · intro id hCurrent
    cases hCurrent
    exact ⟨.waiting, by simp [Shift.hired, Worker.fresh], by decide⟩
  · intro id hLeaving
    rw [Shift.hired, hAwaited] at hLeaving
    cases hLeaving
  · intro hGone
    rw [Shift.hired, hDropped] at hGone
    cases hGone

/-- An owner that waits for nobody and has nobody at work is between no start and stop. -/
theorem off_of_free (h : s.Manned st) (hNone : s.current = none) (hFree : s.ownerFree = true) :
    st = .off := by
  cases st with
  | off => rfl
  | on => cases hNone ▸ h.going.mpr rfl
  | stopping => cases (ownerFree_iff.mp hFree).1 ▸ h.waits.mpr rfl

theorem start (h : s.Manned st) (hFree : s.ownerFree = true) :
    Manned (if s.running then s else s.hired) (Move.start.standingAfter st) := by
  cases hCurrent : s.current with
  | none =>
    rw [if_neg (by simp [running, hCurrent]), h.off_of_free hCurrent hFree]
    exact h.hired hCurrent hFree
  | some id =>
    rw [if_pos (by simp [running, hCurrent])]
    have hOn := h.on_of_current hCurrent
    subst hOn
    exact h

/-- When the message is sent, the worker that was at work is the one that is waited for. -/
theorem dismissed (h : s.Manned st) : s.dismissed.Manned (Move.stop.standingAfter st) := by
  cases hCurrent : s.current with
  | none =>
    have hNot : st ≠ .on := fun hOn => by cases hCurrent ▸ h.going.mpr hOn
    rw [Shift.dismissed, hCurrent, Move.standingAfter, if_neg hNot]
    exact h
  | some id =>
    obtain ⟨phase, hWorker, -⟩ := h.working hCurrent
    rw [h.on_of_current hCurrent]
    simp only [Shift.dismissed, hCurrent]
    refine ⟨iff_of_false nofun nofun, iff_of_true rfl rfl, ?_, nofun, ?_, fun _ => rfl⟩
    · intro other w hAt
      by_cases hOther : other = id
      · exact .inr (.inl (congrArg some hOther.symm))
      · rw [getElem?_changed, if_neg hOther] at hAt
        rcases h.ended hAt with hAgain | hAwaited | hEnded
        · rw [hCurrent] at hAgain
          exact absurd (Option.some.inj hAgain).symm hOther
        · rw [h.awaited_none_of_current hCurrent] at hAwaited
          cases hAwaited
        · exact .inr (.inr hEnded)
    · intro other hOther
      cases hOther
      refine ⟨phase, ?_⟩
      rw [getElem?_changed, if_pos rfl, hWorker]
      rfl

theorem drop (h : s.Manned st) :
    Manned { s.dismissed with dropped := true } (Move.drop.standingAfter st) :=
  have hDismissed := h.dismissed
  ⟨hDismissed.going, hDismissed.waits, hDismissed.ended, hDismissed.working, hDismissed.leaving,
    fun _ => current_dismissed s⟩

/-- Whoever is joined has ended, so nobody is there afterwards. -/
theorem released (h : s.Manned st) (hAwaited : s.awaited = some id)
    (hEnded : ∀ w, s.workers[id]? = some w → w.ended = true) : (s.released id).Manned .off := by
  have hNone := h.current_none_of_awaited hAwaited
  refine ⟨?_, iff_of_false nofun nofun, ?_, ?_, nofun, h.dropped⟩
  · simp [Shift.released, hNone]
  · intro other w hAt
    refine .inr (.inr ?_)
    simp only [Shift.released] at hAt
    rw [getElem?_changed] at hAt
    split at hAt
    · next hSame =>
      obtain ⟨old, hOld, rfl⟩ := Option.map_eq_some_iff.mp hAt
      exact hEnded old (hSame ▸ hOld)
    · next hOther =>
      rcases h.ended hAt with hCurrent | hAgain | hOver
      · rw [hNone] at hCurrent
        cases hCurrent
      · rw [hAwaited] at hAgain
        exact absurd (Option.some.inj hAgain).symm hOther
      · exact hOver
  · intro other hCurrent
    rw [Shift.released, hNone] at hCurrent
    cases hCurrent

/-! ## Moves of the workers -/

/-- A worker that is there may come to another phase. It leaves only if its end is waited for. -/
theorem setPhase (h : s.Manned st) (hAt : s.workers[id]? = some w) (hThere : w.ended = false)
    (hLeft : phase = .left → s.awaited = some id) : (s.setPhase id phase).Manned st := by
  refine ⟨h.going, h.waits, ?_, ?_, ?_, h.dropped⟩
  · intro other w' hOther
    rw [Shift.setPhase, getElem?_changed] at hOther
    split at hOther
    · next hSame =>
      rcases h.there hAt hThere with hCurrent | hAwaited
      · exact .inl (hSame ▸ hCurrent)
      · exact .inr (.inl (hSame ▸ hAwaited))
    · exact h.ended hOther
  · intro other hCurrent
    have hOther : s.current = some other := hCurrent
    obtain ⟨old, hWorker, hStays⟩ := h.working hOther
    rw [Shift.setPhase, getElem?_changed, hWorker]
    split
    · refine ⟨phase, rfl, fun hGone => ?_⟩
      rw [h.awaited_none_of_current hOther] at hLeft
      cases hLeft hGone
    · exact ⟨old, rfl, hStays⟩
  · intro other hAwaited
    obtain ⟨old, hWorker⟩ := h.leaving hAwaited
    rw [Shift.setPhase, getElem?_changed, hWorker]
    split
    · exact ⟨phase, rfl⟩
    · exact ⟨old, rfl⟩

/-- A worker never finds that nobody holds the other end of its channel: the owner lets go of it
only after the worker's end. -/
theorem lose_impossible (h : s.Manned st) (id : Nat) : s.move? (.lose id) = none := by
  rw [move?, Option.map_eq_none_iff, Option.filter_eq_none_iff]
  intro w hIn hGone
  obtain ⟨hAt, hWaits⟩ := workerIn?_eq_some.mp hIn
  rw [Bool.and_eq_true, Bool.not_eq_true', Bool.not_eq_true'] at hGone
  obtain ⟨phase, hWorker, -⟩ :=
    h.working (h.current_of_untold hAt (by simp [Worker.ended, hWaits]) hGone.1)
  rw [hAt] at hWorker
  rw [Option.some.inj hWorker] at hGone
  cases hGone.2

/-- No move of the owner or of a worker breaks the invariant. -/
theorem move (h : s.Manned st) (hMove : s.move? m = some s') :
    s'.Manned (m.standingAfter st) := by
  cases m with
  | start =>
    obtain ⟨hFree, ⟨⟩⟩ := Option.ite_none_right_eq_some.mp hMove
    exact h.start hFree
  | balk =>
    obtain ⟨-, ⟨⟩⟩ := Option.ite_none_right_eq_some.mp hMove
    exact h
  | report =>
    obtain ⟨-, ⟨⟩⟩ := Option.ite_none_right_eq_some.mp hMove
    exact h
  | stop =>
    obtain ⟨-, ⟨⟩⟩ := Option.ite_none_right_eq_some.mp hMove
    exact h.dismissed
  | drop =>
    obtain ⟨-, ⟨⟩⟩ := Option.ite_none_right_eq_some.mp hMove
    exact h.drop
  | join =>
    obtain ⟨id, hAwaited, hOver, rfl⟩ := move?_join_eq_some.mp hMove
    refine h.released hAwaited fun w hAt => ?_
    rw [hAt] at hOver
    exact hOver
  | tick id =>
    obtain ⟨w, hIn, rfl⟩ := Option.map_eq_some_iff.mp hMove
    obtain ⟨hIn, -⟩ := Option.filter_eq_some_iff.mp hIn
    obtain ⟨hAt, hWaits⟩ := workerIn?_eq_some.mp hIn
    exact h.setPhase hAt (by simp [Worker.ended, hWaits]) nofun
  | finish id =>
    obtain ⟨w, hIn, rfl⟩ := Option.map_eq_some_iff.mp hMove
    obtain ⟨hAt, hWrites⟩ := workerIn?_eq_some.mp hIn
    exact h.setPhase hAt (by simp [Worker.ended, hWrites]) nofun
  | crash id =>
    obtain ⟨w, hIn, rfl⟩ := Option.map_eq_some_iff.mp hMove
    obtain ⟨hAt, hWrites⟩ := workerIn?_eq_some.mp hIn
    exact h.setPhase hAt (by simp [Worker.ended, hWrites]) nofun
  | hear id =>
    obtain ⟨w, hIn, rfl⟩ := Option.map_eq_some_iff.mp hMove
    obtain ⟨hIn, hTold⟩ := Option.filter_eq_some_iff.mp hIn
    obtain ⟨hAt, hWaits⟩ := workerIn?_eq_some.mp hIn
    have hThere : w.ended = false := by simp [Worker.ended, hWaits]
    exact h.setPhase hAt hThere fun _ => h.awaited_of_told hAt hThere hTold
  | lose id =>
    rw [h.lose_impossible id] at hMove
    cases hMove

theorem moves (h : s.Manned st) (hMoves : s.moves? ms = some s') :
    s'.Manned (ms.foldl Move.standingAfter st) := by
  induction ms generalizing s st with
  | nil =>
    cases hMoves
    exact h
  | cons m rest ih =>
    obtain ⟨now, hMove, hRest⟩ := Option.bind_eq_some_iff.mp hMoves
    exact ih (h.move hMove) hRest

end Manned

/-! ## The end of a worker -/

theorem setPhase_self (hAt : s.workers[id]? = some w) (phase : Phase) :
    (s.setPhase id phase).workers[id]? = some { w with phase := phase } := by
  rw [setPhase, getElem?_changed, if_pos rfl, hAt]
  rfl

theorem move?_finish (hAt : s.workers[id]? = some w) (hWrites : w.phase = .writing) :
    s.move? (.finish id) = some (s.setPhase id .waiting) := by
  rw [move?, workerIn?_eq_some.mpr ⟨hAt, hWrites⟩, Option.map_some]

theorem move?_hear (hAt : s.workers[id]? = some w) (hWaits : w.phase = .waiting)
    (hTold : w.told = true) : s.move? (.hear id) = some (s.setPhase id .left) := by
  rw [move?, workerIn?_eq_some.mpr ⟨hAt, hWaits⟩, Option.filter_some_pos hTold, Option.map_some]

theorem move?_join (hAwaited : s.awaited = some id) (hAt : s.workers[id]? = some w)
    (hEnded : w.ended = true) : s.move? .join = some (s.released id) := by
  simp only [move?, hAwaited, hAt, Option.any_some, hEnded, if_true]

/-- Nobody is at work, nobody is waited for, and whoever was there has ended. -/
structure Vacant (s : Shift) : Prop where
  running : s.running = false
  awaited : s.awaited = none
  ended : ∀ {id : Nat} {w : Worker}, s.workers[id]? = some w → w.ended = true

theorem Manned.vacant (h : s.Manned .off) : s.Vacant where
  running := by rw [running, h.current_none nofun, Option.isSome_none]
  awaited := h.awaited_none nofun
  ended {id w} hAt := by
    cases hThere : w.ended with
    | true => rfl
    | false => exact absurd rfl (h.engaged_of_there hAt hThere)

/-- After moves of which the last is that of the owner going on, nobody is there. -/
theorem Manned.vacant_of_joined {back : Shift} (h : s.Manned st) (rest : List Move)
    (hMoves : s.moves? (rest ++ [.join]) = some back) : back.Vacant := by
  have hOff := h.moves hMoves
  rw [List.foldl_append] at hOff
  exact hOff.vacant

theorem move?_start_of_stopped (hFree : s.ownerFree = true) (hStopped : s.running = false) :
    s.move? .start = some s.hired := by
  simp only [move?, hFree, hStopped, if_true, Bool.false_eq_true, if_false]

/-- A worker can be started again where nobody is there. -/
theorem Vacant.starts (h : s.Vacant) (hKept : s.dropped = false) :
    ∃ again, s.move? .start = some again ∧ again.running = true :=
  ⟨s.hired, move?_start_of_stopped (ownerFree_iff.mpr ⟨h.awaited, hKept⟩) h.running, rfl⟩

/-- A worker comes to its end within a few moves of its own, of which none begins a cycle, and the
owner goes on after it: then nobody is there. -/
def Joins (s : Shift) (id : Nat) : Prop :=
  ∃ rest back, (∀ m ∈ rest, m = .finish id ∨ m = .hear id) ∧
    s.moves? (rest ++ [.join]) = some back ∧ back.Vacant ∧ back.dropped = s.dropped

/-- Whoever the owner waits for comes to its end. -/
theorem Manned.joined (h : s.Manned st) (hAwaited : s.awaited = some id) : s.Joins id := by
  obtain ⟨phase, hAt⟩ := h.leaving hAwaited
  -- from where the message finds a worker that waits
  have hHeard : ∀ now : Shift, now.awaited = some id →
      now.workers[id]? = some ⟨.waiting, true, true⟩ →
      now.moves? [.hear id, .join] = some ((now.setPhase id .left).released id) := by
    intro now hNow hWaits
    have hLeft := setPhase_self hWaits .left
    have hStill : (now.setPhase id .left).awaited = some id := hNow
    rw [moves?, move?_hear hWaits rfl rfl, Option.bind_some, moves?, move?_join hStill hLeft rfl]
    rfl
  -- a cycle it is in ends first; one that has ended needs no message
  cases phase with
  | waiting =>
    have hMoves := hHeard s hAwaited hAt
    exact ⟨[.hear id], _, by simp, hMoves, h.vacant_of_joined [.hear id] hMoves, rfl⟩
  | writing =>
    have hMoves : s.moves? ([.finish id, .hear id] ++ [.join]) =
        some (((s.setPhase id .waiting).setPhase id .left).released id) := by
      rw [List.cons_append, moves?, move?_finish hAt rfl, Option.bind_some]
      exact hHeard _ hAwaited (setPhase_self hAt .waiting)
    exact ⟨[.finish id, .hear id], _, by simp, hMoves, h.vacant_of_joined _ hMoves, rfl⟩
  | left | crashed =>
    have hMoves : s.moves? ([] ++ [.join]) = some (s.released id) := by
      rw [List.nil_append, moves?, move?_join hAwaited hAt rfl]
      rfl
    exact ⟨[], _, nofun, hMoves, h.vacant_of_joined _ hMoves, rfl⟩

/-- A move that goes on with a cycle needs a worker that is there. -/
theorem Manned.engaged_of_cycle (h : s.Manned st)
    (hCycle : m = .tick id ∨ m = .finish id ∨ m = .crash id) (hMove : s.move? m = some s') :
    st ≠ .off := by
  rcases hCycle with rfl | rfl | rfl <;> obtain ⟨w, hIn, -⟩ := Option.map_eq_some_iff.mp hMove
  · obtain ⟨hAt, hWaits⟩ := workerIn?_eq_some.mp (Option.filter_eq_some_iff.mp hIn).1
    exact h.engaged_of_there hAt (by simp [Worker.ended, hWaits])
  all_goals
    obtain ⟨hAt, hWrites⟩ := workerIn?_eq_some.mp hIn
    exact h.engaged_of_there hAt (by simp [Worker.ended, hWrites])

/-- Once the message is sent, no further cycle begins. -/
theorem Manned.current_of_tick (h : s.Manned st) (hMove : s.move? (.tick id) = some s') :
    s.current = some id := by
  obtain ⟨w, hIn, -⟩ := Option.map_eq_some_iff.mp hMove
  obtain ⟨hIn, hTold⟩ := Option.filter_eq_some_iff.mp hIn
  obtain ⟨hAt, hWaits⟩ := workerIn?_eq_some.mp hIn
  rw [Bool.not_eq_true'] at hTold
  exact h.current_of_untold hAt (by simp [Worker.ended, hWaits]) hTold

/-- An owner that waits for nobody has a worker at work exactly while it is engaged. -/
theorem Manned.running_eq (h : s.Manned st) (hFree : s.ownerFree = true) :
    s.running = decide (st ≠ .off) := by
  cases hCurrent : s.current with
  | none => rw [running, hCurrent, h.off_of_free hCurrent hFree]; rfl
  | some id => rw [running, hCurrent, h.on_of_current hCurrent]; rfl

/-- When the owner goes on after the end of a worker, nobody is there. -/
theorem Manned.stopped (h : s.Manned st) (hMove : s.move? .join = some s') : s'.Vacant :=
  (h.move hMove).vacant

theorem move?_stop_of_free (hFree : s.ownerFree = true) : s.move? .stop = some s.dismissed := by
  simp only [move?, hFree, if_true]

theorem move?_drop_of_free (hFree : s.ownerFree = true) :
    s.move? .drop = some { s.dismissed with dropped := true } := by
  simp only [move?, hFree, if_true]

theorem dismissed_at (hCurrent : s.current = some id) (hAt : s.workers[id]? = some w) :
    s.dismissed.awaited = some id ∧ s.dismissed.workers[id]? = some { w with told := true } := by
  simp only [dismissed, hCurrent]
  refine ⟨trivial, ?_⟩
  rw [getElem?_changed, if_pos rfl, hAt]
  rfl

/-- To stop or to drop a reporter that runs sends the message to its worker, for whose end the
owner waits then, and the worker comes to it. -/
theorem Manned.halts (h : s.Manned st) (hHalt : m = .stop ∨ m = .drop)
    (hFree : s.ownerFree = true) (hRunning : s.running = true) :
    ∃ id w now, s.current = some id ∧ s.workers[id]? = some w ∧ s.move? m = some now ∧
      now.awaited = some id ∧ now.workers[id]? = some { w with told := true } ∧
      now.dropped = decide (m = .drop) ∧ now.Joins id := by
  obtain ⟨id, hCurrent⟩ := Option.isSome_iff_exists.mp hRunning
  obtain ⟨phase, hAt, -⟩ := h.working hCurrent
  obtain ⟨hAwaited, hTold⟩ := dismissed_at hCurrent hAt
  have hKept : s.dismissed.dropped = false := by
    rw [Shift.dismissed, hCurrent]
    exact (ownerFree_iff.mp hFree).2
  rcases hHalt with rfl | rfl
  · exact ⟨id, _, _, hCurrent, hAt, move?_stop_of_free hFree, hAwaited, hTold, hKept,
      h.dismissed.joined hAwaited⟩
  · exact ⟨id, _, _, hCurrent, hAt, move?_drop_of_free hFree, hAwaited, hTold, rfl,
      h.drop.joined hAwaited⟩

/-- The end of a worker that has crashed is over, and the owner's call fails. -/
theorem joined_of_crashed (hAwaited : s.awaited = some id) (hAt : s.workers[id]? = some w)
    (hCrashed : w.phase = .crashed) :
    s.bereft = true ∧ s.move? .join = some (s.released id) := by
  refine ⟨?_, move?_join hAwaited hAt (by simp [Worker.ended, hCrashed])⟩
  rw [bereft, hAwaited, Option.any_some, workerIn?_eq_some.mpr ⟨hAt, hCrashed⟩]
  rfl

/-! ## What is so after a run -/

/-- What is so of a shift to which some moves have led. -/
structure Orderly (ms : List Move) (s : Shift) : Prop where
  /-- No two workers are there. -/
  alone : ∀ {first second : Nat} {w w' : Worker}, s.workers[first]? = some w →
    s.workers[second]? = some w' → w.ended = false → w'.ended = false → second = first
  /-- The cycles of a worker begin, come to their end or break off only while the owner is
  engaged. -/
  cycles : ∀ {m id s'}, (m = .tick id ∨ m = .finish id ∨ m = .crash id) →
    s.move? m = some s' → engaged ms = true
  /-- They only begin while the owner has called neither a stop nor a drop. -/
  begins : ∀ {id s'}, s.move? (.tick id) = some s' → s.current = some id ∧ standing ms = .on
  /-- The owner is told that a worker is at work just while it is engaged. -/
  running : s.ownerFree = true → s.running = engaged ms
  /-- To start a reporter that does not run gives it a worker. -/
  start_stopped : s.ownerFree = true → s.running = false →
    ∃ now, s.move? .start = some now ∧ now.running = true ∧ now.workers = s.workers ++ [.fresh]
  /-- To start a reporter that runs changes nothing. -/
  start_running : s.ownerFree = true → s.running = true → s.move? .start = some s
  /-- To stop a reporter that does not run changes nothing. -/
  stop_stopped : s.ownerFree = true → s.running = false → s.move? .stop = some s
  /-- To drop it only gives it up. -/
  drop_stopped : s.ownerFree = true → s.running = false →
    s.move? .drop = some { s with dropped := true }
  /-- To stop or to drop a reporter that runs sends the message to the worker at work, for whose
  end the owner waits then, and the worker comes to it. -/
  halts : ∀ {m}, (m = .stop ∨ m = .drop) → s.ownerFree = true → s.running = true →
    ∃ id w now, s.current = some id ∧ s.workers[id]? = some w ∧ s.move? m = some now ∧
      now.awaited = some id ∧ now.workers[id]? = some { w with told := true } ∧
      now.dropped = decide (m = .drop) ∧ now.Joins id
  /-- The owner waits for the end of a worker just from the call of such a stop or drop to its
  return, and makes no other move. -/
  waits : (s.awaited.isSome = true ↔ standing ms = .stopping) ∧
    (s.awaited.isSome = true →
      ∀ m ∈ [Move.start, .balk, .report, .stop, .drop], s.move? m = none)
  /-- No worker finds that the owner has let go of its channel. -/
  connected : ∀ id, s.move? (.lose id) = none
  /-- The worker for whose end the owner waits comes to it by itself, whatever it does; a cycle it
  is in comes to its end first, and no other begins. -/
  ends : ∀ {id}, s.awaited = some id → s.Joins id
  /-- If it has crashed then the owner goes on at once, and its call fails. -/
  panicked : ∀ {id : Nat} {w : Worker}, s.awaited = some id → s.workers[id]? = some w →
    w.phase = .crashed → s.bereft = true ∧ ∃ back, s.move? .join = some back
  /-- When the owner goes on, the call having failed or not, no worker is there any more, and the
  owner can start another one unless it has given up the reporter. -/
  stopped : ∀ {s'}, s.move? .join = some s' →
    s'.Vacant ∧ (s'.dropped = false → ∃ again, s'.move? .start = some again ∧ again.running = true)

theorem moves?_append (s : Shift) (first second : List Move) :
    s.moves? (first ++ second) = (s.moves? first).bind fun now => now.moves? second := by
  induction first generalizing s with
  | nil => rfl
  | cons m rest ih =>
    rw [List.cons_append, moves?, moves?]
    cases s.move? m with
    | none => rfl
    | some now => exact ih now

theorem dismissed_of_stopped (hStopped : s.running = false) : s.dismissed = s := by
  have hNone : s.current = none := Option.not_isSome_iff_eq_none.mp (Bool.not_eq_true _ ▸ hStopped)
  rw [Shift.dismissed, hNone]

/-- Whoever waits makes no move but to go on. -/
theorem move?_of_waiting (hWaits : s.awaited.isSome = true)
    (hMove : m ∈ [Move.start, .balk, .report, .stop, .drop]) : s.move? m = none := by
  have hBusy : s.ownerFree = false := by
    rw [ownerFree, ← Option.not_isSome, hWaits]
    rfl
  simp only [List.mem_cons, List.not_mem_nil, or_false] at hMove
  rcases hMove with rfl | rfl | rfl | rfl | rfl <;> simp [move?, hBusy]

theorem Manned.orderly (h : s.Manned (standing ms)) : Orderly ms s where
  alone := h.only
  cycles hCycle hMove := decide_eq_true (h.engaged_of_cycle hCycle hMove)
  begins hMove :=
    have hCurrent := h.current_of_tick hMove
    ⟨hCurrent, h.on_of_current hCurrent⟩
  running := h.running_eq
  start_stopped hFree hStopped := ⟨s.hired, move?_start_of_stopped hFree hStopped, rfl, rfl⟩
  start_running hFree hRunning := by simp only [move?, hFree, hRunning, if_true]
  stop_stopped hFree hStopped := by
    rw [move?_stop_of_free hFree, dismissed_of_stopped hStopped]
  drop_stopped hFree hStopped := by
    rw [move?_drop_of_free hFree, dismissed_of_stopped hStopped]
  halts := h.halts
  waits := ⟨h.waits, fun hWaits _ => move?_of_waiting hWaits⟩
  connected := h.lose_impossible
  ends := h.joined
  panicked hAwaited hAt hCrashed :=
    have ⟨hBereft, hJoin⟩ := joined_of_crashed hAwaited hAt hCrashed
    ⟨hBereft, _, hJoin⟩
  stopped hMove := ⟨h.stopped hMove, (h.stopped hMove).starts⟩

end Shift

/-! ## A reporter between two calls -/

namespace Pace

variable {p : Pace} {id : Nat} {w : Worker} {m : Move} {s : Shift}

theorem moved_of (p : Pace) (hMove : p.shift.move? m = some s) :
    p.moved m = { p with shift := s } := by
  rw [moved, hMove, Option.getD_some]

/-- A stop after the worker has crashed fails, and leaves the reporter as any stop does. -/
theorem stop_of_crashed (hFree : p.shift.ownerFree = true) (hCurrent : p.shift.current = some id)
    (hAt : p.shift.workers[id]? = some w) (hCrashed : w.phase = .crashed) :
    p.stop = ({ p with shift := p.shift.dismissed.released id },
        .error (.failed p.name "reporter thread panicked")) ∧
      p.shift.moves? [.stop, .join] = some (p.shift.dismissed.released id) := by
  obtain ⟨hAwaited, hStill⟩ := Shift.dismissed_at hCurrent hAt
  obtain ⟨hBereft, hJoin⟩ := Shift.joined_of_crashed hAwaited hStill hCrashed
  have hDeaf : p.shift.dismissed.move? (.hear id) = none := by
    rw [Shift.move?, Shift.workerIn?, hStill]
    simp [hCrashed]
  have hTold : (p.moved .stop).moved (.hear id) = { p with shift := p.shift.dismissed } := by
    rw [p.moved_of (Shift.move?_stop_of_free hFree), moved, hDeaf]
    rfl
  constructor
  · simp only [stop, hCurrent, hTold, hBereft, if_true]
    rw [moved_of _ hJoin]
  · rw [Shift.moves?, Shift.move?_stop_of_free hFree, Option.bind_some, Shift.moves?, hJoin]
    rfl

/-- A stop of a worker that waits for the period to be over goes through. -/
theorem stop_of_waiting (hFree : p.shift.ownerFree = true) (hCurrent : p.shift.current = some id)
    (hAt : p.shift.workers[id]? = some w) (hWaits : w.phase = .waiting) :
    p.stop = ({ p with shift := (p.shift.dismissed.setPhase id .left).released id }, .ok ()) ∧
      p.shift.moves? [.stop, .hear id, .join] =
        some ((p.shift.dismissed.setPhase id .left).released id) := by
  obtain ⟨hAwaited, hStill⟩ := Shift.dismissed_at hCurrent hAt
  have hLeft := Shift.setPhase_self hStill .left
  have hWaited : (p.shift.dismissed.setPhase id .left).awaited = some id := hAwaited
  have hStop := Shift.move?_stop_of_free hFree
  have hHear := Shift.move?_hear hStill hWaits rfl
  have hJoin := Shift.move?_join hWaited hLeft rfl
  have hTold : (p.moved .stop).moved (.hear id) =
      { p with shift := p.shift.dismissed.setPhase id .left } := by
    rw [p.moved_of hStop, moved_of _ hHear]
  have hFine : (p.shift.dismissed.setPhase id .left).bereft = false := by
    simp [Shift.bereft, hWaited, Shift.workerIn?, hLeft]
  constructor
  · simp only [stop, hCurrent, hTold, hFine]
    rw [moved_of _ hJoin]
    rfl
  · rw [Shift.moves?, hStop, Option.bind_some, Shift.moves?, hHear, Option.bind_some, Shift.moves?,
      hJoin]
    rfl

/-- A reporter between two calls of its owner: its shift is one to which some moves have led, the
owner is free for another call, and the worker at work, if any, is not in a cycle. -/
structure Settled (p : Pace) : Prop where
  reached : ∃ ms, Shift.idle.moves? ms = some p.shift
  free : p.shift.ownerFree = true
  calm : ∀ {id : Nat} {w : Worker}, p.shift.current = some id → p.shift.workers[id]? = some w →
    w.phase ≠ .writing

theorem settled_new (name : String) (samples : List Sample) (sink : CycleSink) :
    Settled ⟨name, samples, sink, .idle⟩ :=
  ⟨⟨[], rfl⟩, rfl, nofun⟩

namespace Settled

variable {q : Pace}

/-- What a call does to anything but the shift does not matter. -/
theorem congr (h : p.Settled) (hShift : q.shift = p.shift) : q.Settled :=
  ⟨hShift ▸ h.reached, hShift ▸ h.free,
    fun hCurrent hAt => h.calm (hShift ▸ hCurrent) (hShift ▸ hAt)⟩

theorem reached_after (h : p.Settled) (ms : List Move) (hMoves : p.shift.moves? ms = some s) :
    ∃ ms, Shift.idle.moves? ms = some s := by
  obtain ⟨before, hBefore⟩ := h.reached
  exact ⟨before ++ ms, by rw [Shift.moves?_append, hBefore]; exact hMoves⟩

theorem manned (h : p.Settled) : ∃ st, p.shift.Manned st :=
  have ⟨_, hMoves⟩ := h.reached
  ⟨_, Shift.manned_idle.moves hMoves⟩

theorem start (h : p.Settled) : p.start.1.Settled := by
  rw [Pace.start]
  split
  · exact h
  · next hStopped =>
    rw [Bool.not_eq_true] at hStopped
    split
    · have hStart := Shift.move?_start_of_stopped h.free hStopped
      rw [p.moved_of hStart]
      refine ⟨h.reached_after [.start] ?_, h.free, fun hCurrent hAt => ?_⟩
      · rw [Shift.moves?, hStart]
        rfl
      · cases hCurrent
        simp only [Shift.hired, List.getElem?_concat_length, Option.some.injEq] at hAt
        rw [← hAt]
        decide
    · have hBalk : p.shift.move? .balk = some p.shift := by
        simp only [Shift.move?, h.free, hStopped, Bool.not_false, Bool.and_true, if_true]
      rw [p.moved_of hBalk]
      exact h

theorem stop (h : p.Settled) : p.stop.1.Settled := by
  cases hCurrent : p.shift.current with
  | none =>
    rw [Pace.stop, hCurrent]
    exact h
  | some id =>
    obtain ⟨st, hManned⟩ := h.manned
    obtain ⟨phase, hAt, hStays⟩ := hManned.working hCurrent
    have hKept : p.shift.dismissed.dropped = false := by
      rw [Shift.dismissed, hCurrent]
      exact (Shift.ownerFree_iff.mp h.free).2
    have hFree : ∀ now : Shift, now.dropped = false → (now.released id).ownerFree = true :=
      fun now hNow => Shift.ownerFree_iff.mpr ⟨rfl, hNow⟩
    have hNobody : p.shift.dismissed.current = none := Shift.current_dismissed _
    cases phase with
    | waiting =>
      obtain ⟨hStop, hMoves⟩ := stop_of_waiting h.free hCurrent hAt rfl
      rw [hStop]
      refine ⟨h.reached_after _ hMoves, hFree _ hKept, fun hAgain => ?_⟩
      cases hNobody.symm.trans hAgain
    | crashed =>
      obtain ⟨hStop, hMoves⟩ := stop_of_crashed h.free hCurrent hAt rfl
      rw [hStop]
      refine ⟨h.reached_after _ hMoves, hFree _ hKept, fun hAgain => ?_⟩
      cases hNobody.symm.trans hAgain
    | writing => exact absurd rfl (h.calm hCurrent hAt)
    | left => exact absurd rfl hStays

/-- A cycle that somebody waits for is a tick of the worker and the end of its cycle, and the
worker is then out of it. -/
theorem cycle? (h : p.Settled) (hCycle : p.cycle? = some q) : q.Settled := by
  obtain ⟨id, hCurrent, hCycle⟩ := Option.bind_eq_some_iff.mp hCycle
  obtain ⟨ticked, hTick, hCycle⟩ := Option.bind_eq_some_iff.mp hCycle
  obtain ⟨w, -, rfl⟩ := Option.map_eq_some_iff.mp hTick
  obtain ⟨st, hManned⟩ := h.manned
  obtain ⟨phase, hAt, -⟩ := hManned.working hCurrent
  have hWrites := Shift.setPhase_self hAt .writing
  -- whatever phase the cycle ends in, if it is not that of a cycle
  have hSettled : ∀ (m : Move) (phase : Phase) (sink : CycleSink), phase ≠ .writing →
      (p.shift.setPhase id .writing).move? m =
        some ((p.shift.setPhase id .writing).setPhase id phase) →
      (Pace.moved ⟨p.name, p.samples, sink, p.shift.setPhase id .writing⟩ m).Settled := by
    intro m phase sink hOut hMove
    rw [moved_of _ hMove]
    refine ⟨h.reached_after [.tick id, m] ?_, h.free, fun {other w'} hAgain hOther => ?_⟩
    · rw [Shift.moves?, hTick, Option.bind_some, Shift.moves?, hMove]
      rfl
    · have hSame : other = id := Option.some.inj (hAgain.symm.trans hCurrent)
      rw [hSame, Shift.setPhase_self hWrites phase] at hOther
      rw [← Option.some.inj hOther]
      exact hOut
  simp only at hCycle
  split at hCycle
  · cases hCycle
    exact hSettled _ .waiting _ nofun (Shift.move?_finish hWrites rfl)
  · cases hCycle
    exact hSettled _ .waiting _ nofun (Shift.move?_finish hWrites rfl)
  · cases hCycle
    refine hSettled _ .crashed _ nofun ?_
    rw [Shift.move?, Shift.workerIn?_eq_some.mpr ⟨hWrites, rfl⟩, Option.map_some]

theorem take (h : p.Settled) (n : Nat) : (p.take n).1.Settled := by
  induction n generalizing p with
  | zero => exact h
  | succ n ih =>
    have hWaited : (if p.sink.published.isEmpty then p.cycle?.getD p else p).Settled := by
      split
      · cases hCycle : p.cycle? with
        | none => exact h
        | some q => exact h.cycle? hCycle
      · exact h
    simp only [Pace.take]
    split
    · exact hWaited
    · exact ih (hWaited.congr rfl)

theorem report (h : p.Settled) : p.report.1.Settled := h.congr rfl

theorem drain (h : p.Settled) : p.drain.Settled := h.congr rfl

end Settled

end Pace

/-- After any moves that can be made one after another the shift is in order. A stop that finds its
worker waiting goes through, one that finds it crashed fails; either leaves a reporter that does not
run and can be started again. -/
theorem engagement_run (ms : List Move) (s : Shift) (hRun : Shift.idle.moves? ms = some s) :
    Shift.Orderly ms s ∧
      ∀ (p : Pace) (id : Nat) (w : Worker), p.shift = s → s.ownerFree = true →
        s.current = some id → s.workers[id]? = some w →
        s.running = true ∧
        (w.phase = .waiting →
          ∃ back, s.moves? [.stop, .hear id, .join] = some back ∧
            p.stop = ({ p with shift := back }, .ok ()) ∧
            back.Vacant ∧ ∃ again, back.move? .start = some again ∧ again.running = true) ∧
        (w.phase = .crashed →
          ∃ back, s.moves? [.stop, .join] = some back ∧
            p.stop =
              ({ p with shift := back }, .error (.failed p.name "reporter thread panicked")) ∧
            back.Vacant ∧ ∃ again, back.move? .start = some again ∧ again.running = true) := by
  have hManned : s.Manned (standing ms) := Shift.manned_idle.moves hRun
  refine ⟨hManned.orderly, fun p id w hShift hFree hCurrent hAt => ?_⟩
  subst hShift
  have hKept : p.shift.dismissed.dropped = false := by
    rw [Shift.dismissed, hCurrent]
    exact (Shift.ownerFree_iff.mp hFree).2
  refine ⟨by rw [Shift.running, hCurrent]; rfl, fun hWaits => ?_, fun hCrashed => ?_⟩
  · obtain ⟨hStop, hMoves⟩ := Pace.stop_of_waiting hFree hCurrent hAt hWaits
    have hBack := hManned.vacant_of_joined [.stop, .hear id] hMoves
    exact ⟨_, hMoves, hStop, hBack, hBack.starts hKept⟩
  · obtain ⟨hStop, hMoves⟩ := Pace.stop_of_crashed hFree hCurrent hAt hCrashed
    have hBack := hManned.vacant_of_joined [.stop] hMoves
    exact ⟨_, hMoves, hStop, hBack, hBack.starts hKept⟩

/-- A reporter whose second background cycle broke off, and which was started again in vain; and
one that is dropped in the middle of a cycle. -/
theorem engagement_run_crashed :
    let ms : List Move := [.start, .tick 0, .finish 0, .report, .tick 0, .crash 0, .start]
    let s : Shift := ⟨[⟨.crashed, false, true⟩], some 0, none, false⟩
    let p : Pace := ⟨"pump", [], ⟨2, [], some 1, []⟩, s⟩
    let busy : Shift := ⟨[⟨.writing, false, true⟩], some 0, none, false⟩
    Shift.idle.moves? ms = some s ∧ Shift.Orderly ms s ∧ s.running = true ∧
      (∃ back, s.moves? [.stop, .join] = some back ∧
        p.stop = ({ p with shift := back }, .error (.failed "pump" "reporter thread panicked")) ∧
        back.Vacant ∧ ∃ again, back.move? .start = some again ∧ again.running = true) ∧
      Shift.idle.moves? [.start, .tick 0] = some busy ∧ engaged [.start, .tick 0] = true ∧
      busy.move? .drop = some ⟨[⟨.writing, true, true⟩], none, some 0, true⟩ ∧
      Shift.Joins ⟨[⟨.writing, true, true⟩], none, some 0, true⟩ 0 := by
  intro ms s p busy
  have hRun : Shift.idle.moves? ms = some s := by decide
  have hBusy : Shift.idle.moves? [.start, .tick 0] = some busy := by decide
  obtain ⟨hOrderly, hCrashed⟩ := engagement_run ms s hRun
  obtain ⟨hRunning, -, hCrashed⟩ := hCrashed p 0 ⟨.crashed, false, true⟩ rfl rfl rfl rfl
  obtain ⟨id, w, now, hCurrent, -, hDrop, -, -, -, hJoins⟩ :=
    (engagement_run _ busy hBusy).1.halts (m := .drop) (.inr rfl) rfl rfl
  cases hCurrent
  cases hDrop
  exact ⟨hRun, hOrderly, hRunning, hCrashed rfl, hBusy, by decide, rfl, hJoins⟩

end Metering.Report
