import Mathlib.Data.List.TakeWhile
import Mathlib.Tactic.Common
import Metering.Statistic.Reservoir

/-!
# Metering — what a reservoir holds

A reservoir lets values go only when a value is recorded or a snapshot is taken: the earliest first,
and no more from the first on that is still in the window. After any uses it holds exactly what its
window keeps of all values that were ever recorded. For the instants are those of a clock that never
goes back: the values stand in the order of their age, and what has left one window is in no later
one.

* `Descending` — values in the order of their recording, the latest first;
* `Outgrown`, `kept_trimmed` — which values leave, and what is left of a reservoir;
* `Holds` — the invariant of a reservoir: it holds what its window keeps of a history
  (`Holds.record`, `Holds.look`, `Holds.used`);
* `Use`, `used`, `recorded` — recording and looking, in any order and as often as one likes;
* `look_used`, `snapshot_used` — what a snapshot shows after any uses;
* `time_window_exact` — the window of a time.
-/

namespace Metering

/-! ## Snapshots -/

theorem Snapshot.perm_ofList (values : List Int64) : (Snapshot.ofList values).values.Perm values :=
  List.mergeSort_perm values _

/-- A snapshot does not show in which order the values were given. -/
theorem Snapshot.ofList_eq_of_perm {values others : List Int64} (h : values.Perm others) :
    Snapshot.ofList values = Snapshot.ofList others := by
  have hPerm : (Snapshot.ofList values).values.Perm (Snapshot.ofList others).values :=
    (perm_ofList values).trans (h.trans (perm_ofList others).symm)
  have hSame : (Snapshot.ofList values).values = (Snapshot.ofList others).values :=
    hPerm.eq_of_pairwise (fun a b _ _ hab hba => Int64.le_antisymm hab hba)
      (Snapshot.ofList values).ascending (Snapshot.ofList others).ascending
  rw [Snapshot.mk.injEq]
  exact hSame

namespace Reservoir

variable {r : Reservoir} {window : Window} {length : Duration} {now earlier later : Instant}
  {x e : Recorded} {init kept history : List Recorded}

/-! ## Values and windows -/

/-- Values in the order of their recording, the latest first. -/
def Descending (history : List Recorded) : Prop :=
  history.Pairwise fun later earlier => earlier.instant ≤ later.instant

/-- A window lets the earliest of some values go, of which there are so many. -/
def Outgrown (now : Instant) (count : Nat) (earliest : Recorded) : Window → Prop
  | .values size => size < count
  | .time length => length < since earliest.instant now

/-- A value is not in the window of a time any more if it was not at an earlier instant. -/
theorem since_mono (x : Recorded) (h : earlier ≤ later) :
    since x.instant earlier ≤ since x.instant later :=
  Nat.sub_le_sub_right h x.instant

theorem retained_nil (window : Window) (now : Instant) : retained window now [] = [] := by
  cases window with
  | values size => exact List.take_nil
  | time length => rfl

theorem retained_concat (h : Outgrown now (init.length + 1) e window) :
    retained window now (init ++ [e]) = retained window now init := by
  cases window with
  | values size => exact List.take_append_of_le_length (Nat.le_of_lt_succ h)
  | time length =>
    have hOut : ¬ since e.instant now ≤ length := Nat.not_le_of_lt h
    simp only [retained, List.takeWhile_append, List.takeWhile_cons, List.takeWhile_nil,
      decide_eq_true_eq, if_neg hOut, List.append_nil]
    split
    · next hAll =>
      exact ((List.takeWhile_prefix _).eq_of_length hAll).symm
    · rfl

/-- A window that does not let the earliest value go keeps them all. -/
theorem retained_eq_self (hOrder : Descending (init ++ [e]))
    (h : ¬ Outgrown now (init.length + 1) e window) :
    retained window now (init ++ [e]) = init ++ [e] := by
  cases window with
  | values size =>
    refine List.take_of_length_le ?_
    rw [List.length_append]
    exact Nat.le_of_not_lt h
  | time length =>
    refine List.takeWhile_eq_self_iff.mpr fun x hMem => decide_eq_true ?_
    have hIn : since e.instant now ≤ length := Nat.le_of_not_lt h
    obtain hMem | hLast := List.mem_append.mp hMem
    · -- no value is older than the earliest
      have hLater : e.instant ≤ x.instant :=
        (List.pairwise_append.mp hOrder).2.2 x hMem e (List.mem_singleton_self e)
      exact (Nat.sub_le_sub_left hLater now).trans hIn
    · rw [List.mem_singleton.mp hLast]
      exact hIn

theorem takeWhile_takeWhile_of_imp {α : Type} {p q : α → Bool} (h : ∀ x, p x = true → q x = true)
    (xs : List α) : (xs.takeWhile q).takeWhile p = xs.takeWhile p := by
  rw [List.takeWhile_takeWhile]
  refine congrArg (fun test => xs.takeWhile test) (funext fun x => ?_)
  rw [Bool.eq_iff_iff, decide_eq_true_eq]
  exact ⟨And.left, fun hp => ⟨hp, h x hp⟩⟩

/-- What a window keeps later it keeps of what it kept before. -/
theorem retained_retained (h : earlier ≤ later) :
    retained window later (retained window earlier history) = retained window later history := by
  cases window with
  | values size =>
    show (history.take size).take size = _
    rw [List.take_take, Nat.min_self]
    rfl
  | time length =>
    refine takeWhile_takeWhile_of_imp (fun x hx => ?_) history
    exact decide_eq_true ((since_mono x h).trans (of_decide_eq_true hx))

/-- What a window keeps with one more value it keeps of that and of what it kept before. -/
theorem retained_cons_retained (h : earlier ≤ now) :
    retained window now (x :: retained window earlier history) =
      retained window now (x :: history) := by
  cases window with
  | values size =>
    show (x :: history.take size).take size = (x :: history).take size
    cases size with
    | zero => rfl
    | succ more =>
      rw [List.take_succ_cons, List.take_succ_cons, List.take_take,
        Nat.min_eq_left (Nat.le_succ more)]
  | time length =>
    have hRest : retained (.time length) now (retained (.time length) earlier history) =
        retained (.time length) now history := retained_retained h
    simp only [retained, List.takeWhile_cons] at hRest ⊢
    rw [hRest]

theorem retained_sublist : (retained window now history).Sublist history := by
  cases window with
  | values size => exact List.take_sublist size history
  | time length => exact List.takeWhile_sublist _

/-- Where a test fails for all that follows once it has failed, what passes stands in front. -/
theorem takeWhile_eq_filter {α : Type} {p : α → Bool} {xs : List α}
    (h : xs.Pairwise fun x y => p y = true → p x = true) : xs.takeWhile p = xs.filter p := by
  induction xs with
  | nil => rfl
  | cons x rest ih =>
    obtain ⟨hFirst, hRest⟩ := List.pairwise_cons.mp h
    by_cases hx : p x = true
    · rw [List.takeWhile_cons_of_pos hx, List.filter_cons_of_pos hx, ih hRest]
    · have hNone : rest.filter p = [] :=
        List.filter_eq_nil_iff.mpr fun y hMem hy => hx (hFirst y hMem hy)
      rw [List.takeWhile_cons_of_neg hx, List.filter_cons_of_neg hx, hNone]

/-- The window of a time keeps what is recent enough, wherever it stands. -/
theorem retained_time (hOrder : Descending history) :
    retained (.time length) now history =
      history.filter fun x => since x.instant now ≤ length := by
  refine takeWhile_eq_filter (hOrder.imp fun {x y} hLater hIn => decide_eq_true ?_)
  exact (Nat.sub_le_sub_left hLater now).trans (of_decide_eq_true hIn)

/-! ## Letting values go -/

theorem kept_turned (r : Reservoir) : r.turned.kept = r.kept := by
  unfold turned
  split
  · next hNone =>
    rw [List.isEmpty_iff] at hNone
    simp only [kept, hNone, List.reverse_nil, List.append_nil, List.reverse_reverse,
      List.nil_append]
  · rfl

theorem turned_window (r : Reservoir) : r.turned.window = r.window := by
  unfold turned
  split <;> rfl

theorem turned_size (r : Reservoir) : r.turned.size = r.size := by
  unfold turned
  split <;> rfl

/-- After the older part is filled up, the earliest value stands in front of it. -/
theorem head?_turned (r : Reservoir) : r.turned.older.head? = r.kept.getLast? := by
  rw [← kept_turned]
  unfold turned
  split
  · simp only [kept, List.nil_append, List.reverse_reverse, List.head?_reverse]
  · next hSome =>
    rw [List.isEmpty_iff] at hSome
    obtain ⟨first, rest, hOlder⟩ := List.exists_cons_of_ne_nil hSome
    simp only [kept, hOlder, List.reverse_cons, List.head?_cons, ← List.append_assoc,
      List.getLast?_concat]

theorem kept_dropEarliest (r : Reservoir) : r.dropEarliest.kept = r.kept.dropLast := by
  show r.turned.newer ++ r.turned.older.tail.reverse = _
  have hKept := kept_turned r
  rcases hOlder : r.turned.older with _ | ⟨first, rest⟩
  · -- then there is no value at all
    have hNone : r.kept = [] := by
      rw [← List.getLast?_eq_none_iff, ← head?_turned, hOlder]
      rfl
    rw [kept, hOlder, hNone] at hKept
    rw [hNone]
    exact hKept
  · rw [← hKept, kept, hOlder, List.reverse_cons, ← List.append_assoc, List.dropLast_concat]
    rfl

theorem dropEarliest_window (r : Reservoir) : r.dropEarliest.window = r.window := turned_window r

theorem dropEarliest_size (r : Reservoir) : r.dropEarliest.size = r.size - 1 :=
  congrArg (· - 1) (turned_size r)

theorem isOverfull_turned_iff (hKept : r.kept = init ++ [e]) :
    r.turned.isOverfull now = true ↔ Outgrown now r.size e r.window := by
  unfold isOverfull Outgrown
  rw [turned_window, turned_size, head?_turned, hKept, List.getLast?_concat]
  cases r.window with
  | values size => exact decide_eq_true_iff
  | time length => exact decide_eq_true_iff

theorem trimmed_window (fuel : Nat) (r : Reservoir) : (trimmed now fuel r).window = r.window := by
  induction fuel generalizing r with
  | zero => rfl
  | succ fuel ih =>
    rw [trimmed]
    split
    · rw [ih, dropEarliest_window, turned_window]
    · exact turned_window r

/-- A reservoir knows how many values it holds. -/
def Counted (r : Reservoir) : Prop := r.size = r.kept.length

theorem Counted.turned (h : r.Counted) : r.turned.Counted := by
  unfold Counted
  rw [turned_size, kept_turned]
  exact h

theorem Counted.dropEarliest (h : r.Counted) : r.dropEarliest.Counted := by
  unfold Counted
  rw [dropEarliest_size, kept_dropEarliest, List.length_dropLast, h]

theorem Counted.trimmed (h : r.Counted) (fuel : Nat) : (trimmed now fuel r).Counted := by
  induction fuel generalizing r with
  | zero => exact h
  | succ fuel ih =>
    rw [Reservoir.trimmed]
    split
    · exact ih h.turned.dropEarliest
    · exact h.turned

/-- What is left of a reservoir is what its window keeps. -/
theorem kept_trimmed (fuel : Nat) (hCounted : r.Counted) (hFuel : r.size ≤ fuel)
    (hOrder : Descending r.kept) :
    (trimmed now fuel r).kept = retained r.window now r.kept := by
  induction fuel generalizing r with
  | zero =>
    have hNone : r.kept = [] := List.length_eq_zero_iff.mp (hCounted ▸ Nat.le_zero.mp hFuel)
    rw [trimmed, hNone, retained_nil]
  | succ fuel ih =>
    have hDropped : r.turned.dropEarliest.kept = r.kept.dropLast := by
      rw [kept_dropEarliest, kept_turned]
    have hRest : Descending r.turned.dropEarliest.kept := by
      rw [hDropped]
      exact hOrder.sublist (List.dropLast_sublist r.kept)
    have hLeft := ih hCounted.turned.dropEarliest (by rw [dropEarliest_size, turned_size]; omega)
      hRest
    rw [hDropped, dropEarliest_window, turned_window] at hLeft
    rw [trimmed]
    obtain hNone | ⟨init, e, hKept⟩ := List.eq_nil_or_concat r.kept
    · rw [hNone] at hLeft ⊢
      rw [retained_nil]
      split
      · exact hLeft.trans (retained_nil r.window now)
      · exact (kept_turned r).trans hNone
    · rw [List.concat_eq_append] at hKept
      have hSize : r.size = init.length + 1 := by rw [hCounted, hKept, List.length_append]; rfl
      have hOver_iff : r.turned.isOverfull now = true ↔ _ := isOverfull_turned_iff hKept
      rw [hSize] at hOver_iff
      split
      · next hOver =>
        rw [hLeft, hKept, List.dropLast_concat, retained_concat (hOver_iff.mp hOver)]
      · next hFull =>
        rw [kept_turned, hKept, retained_eq_self (hKept ▸ hOrder) (mt hOver_iff.mpr hFull)]

/-- After a snapshot a reservoir holds what its window keeps at that instant. -/
theorem kept_look (hCounted : r.Counted) (hOrder : Descending r.kept) :
    (r.look now).1.kept = retained r.window now r.kept :=
  kept_trimmed r.size hCounted (Nat.le_refl _) hOrder

/-- The reservoir with one more value, from which nothing has left. -/
def pushed (r : Reservoir) (x : Recorded) : Reservoir :=
  { r with newer := x :: r.newer, size := r.size + 1 }

theorem kept_pushed (r : Reservoir) (x : Recorded) : (r.pushed x).kept = x :: r.kept := rfl

theorem Counted.pushed (h : r.Counted) (x : Recorded) : (r.pushed x).Counted :=
  congrArg (· + 1) h

/-- To record a value lets the same values go as a snapshot right after it. -/
theorem record_eq (r : Reservoir) (now : Instant) (value : Int64) :
    r.record now value = ((r.pushed ⟨now, value⟩).look now).1 := rfl

/-! ## Histories -/

/-- At an instant a reservoir holds what a window keeps of a history. The latest value stands first,
and none is from later. -/
structure Holds (r : Reservoir) (window : Window) (now : Instant) (history : List Recorded) :
    Prop where
  window_eq : r.window = window
  counted : r.Counted
  kept_eq : r.kept = retained window now history
  descending : Descending history
  past : ∀ x ∈ history, x.instant ≤ now

theorem holds_empty (window : Window) (now : Instant) : Holds (.empty window) window now [] where
  window_eq := rfl
  counted := rfl
  kept_eq := (retained_nil window now).symm
  descending := List.Pairwise.nil
  past := fun _ hMem => absurd hMem List.not_mem_nil

theorem Holds.kept_descending (h : Holds r window now history) : Descending r.kept := by
  rw [h.kept_eq]
  exact h.descending.sublist retained_sublist

/-- A value is recorded. -/
theorem Holds.record (h : Holds r window earlier history) (hLater : earlier ≤ now)
    (value : Int64) : Holds (r.record now value) window now (⟨now, value⟩ :: history) := by
  have hPast : ∀ x ∈ history, x.instant ≤ now := fun x hMem => (h.past x hMem).trans hLater
  have hKept : (r.pushed ⟨now, value⟩).kept = ⟨now, value⟩ :: retained window earlier history := by
    rw [kept_pushed, h.kept_eq]
  have hOrder : Descending (r.pushed ⟨now, value⟩).kept := by
    rw [hKept]
    exact List.pairwise_cons.mpr ⟨fun x hMem => hPast x (retained_sublist.subset hMem),
      h.kept_eq ▸ h.kept_descending⟩
  have hWindow : (r.pushed ⟨now, value⟩).window = window := h.window_eq
  rw [record_eq]
  refine ⟨(trimmed_window _ _).trans hWindow, (h.counted.pushed _).trimmed _, ?_,
    List.pairwise_cons.mpr ⟨hPast, h.descending⟩, ?_⟩
  · rw [kept_look (h.counted.pushed _) hOrder, hWindow, hKept, retained_cons_retained hLater]
  · intro x hMem
    obtain rfl | hMem := List.mem_cons.mp hMem
    · exact Nat.le_refl now
    · exact hPast x hMem

/-- A snapshot is taken. -/
theorem Holds.look (h : Holds r window earlier history) (hLater : earlier ≤ now) :
    Holds (r.look now).1 window now history where
  window_eq := (trimmed_window _ _).trans h.window_eq
  counted := h.counted.trimmed _
  kept_eq := by
    rw [kept_look h.counted h.kept_descending, h.window_eq, h.kept_eq, retained_retained hLater]
  descending := h.descending
  past := fun x hMem => (h.past x hMem).trans hLater

/-- A snapshot shows what the window keeps of the history. -/
theorem Holds.shown (h : Holds r window earlier history) (hLater : earlier ≤ now) :
    (r.look now).2 = .ofList ((retained window now history).map Recorded.value) := by
  rw [← (h.look hLater).kept_eq]
  rfl

/-- What the window keeps of what a reservoir holds is what it keeps of the history, whether the
other values have left or not. -/
theorem Holds.snapshot_eq (h : Holds r window earlier history) (hLater : earlier ≤ now) :
    r.snapshot now = (r.look now).2 := by
  rw [h.shown hLater, snapshot, h.window_eq, h.kept_eq, retained_retained hLater]

end Reservoir

/-! ## Histograms -/

namespace Histogram

open Reservoir

/-- What one may do with a histogram. -/
inductive Use where
  | update (value : Int64)
  | look

/-- The histogram after a use. -/
def use (h : Histogram) (now : Instant) : Use → Histogram
  | .update value => h.update now value
  | .look => (h.look now).1

/-- The histogram after some uses. -/
def used (h : Histogram) (uses : List (Instant × Use)) : Histogram :=
  uses.foldl (fun h step => h.use step.1 step.2) h

/-- The values that some uses record, with their instants. -/
def recorded : List (Instant × Use) → List Recorded
  | [] => []
  | (now, .update value) :: rest => ⟨now, value⟩ :: recorded rest
  | (_, .look) :: rest => recorded rest

/-- The values that some uses record, those of exactly so long before an instant included. -/
def recordedWithin (length : Duration) (now : Instant) (uses : List (Instant × Use)) :
    List Int64 :=
  ((recorded uses).filter fun x => since x.instant now ≤ length).map Recorded.value

variable {h : Histogram} {window : Window} {earlier now : Instant} {history : List Recorded}
  {uses : List (Instant × Use)}

/-- Any uses at instants that do not go back keep a reservoir to its window. -/
theorem holds_used (hHolds : Holds h.reservoir window earlier history)
    (hOrder : (earlier :: (uses.map Prod.fst ++ [now])).Pairwise (· ≤ ·)) :
    ∃ latest, latest ≤ now ∧
      Holds (h.used uses).reservoir window latest ((recorded uses).reverse ++ history) := by
  -- by induction on the uses, from any histogram with any history
  induction uses generalizing h earlier history with
  | nil => exact ⟨earlier, List.rel_of_pairwise_cons hOrder (List.mem_singleton_self now), hHolds⟩
  | cons step rest ih =>
    obtain ⟨at_, u⟩ := step
    obtain ⟨hFirst, hRest⟩ := List.pairwise_cons.mp hOrder
    have hLater : earlier ≤ at_ := hFirst at_ (List.mem_cons_self ..)
    cases u with
    | update value =>
      rw [recorded, List.reverse_cons, List.append_assoc]
      exact ih (hHolds.record hLater value) hRest
    | look => exact ih (hHolds.look hLater) hRest

/-- A new histogram that is used holds what its window keeps of all that was recorded. -/
theorem holds_new (window : Window)
    (hOrder : (uses.map Prod.fst ++ [now]).Pairwise (· ≤ ·)) :
    ∃ latest, latest ≤ now ∧
      Holds ((new window).used uses).reservoir window latest (recorded uses).reverse := by
  have hFrom : ((0 : Instant) :: (uses.map Prod.fst ++ [now])).Pairwise (· ≤ ·) :=
    List.pairwise_cons.mpr ⟨fun _ _ => Nat.zero_le _, hOrder⟩
  obtain ⟨latest, hLatest, hHolds⟩ := holds_used (h := new window) (holds_empty window 0) hFrom
  rw [List.append_nil] at hHolds
  exact ⟨latest, hLatest, hHolds⟩

/-- A snapshot after any uses shows what the window keeps of all that was recorded. -/
theorem look_used (window : Window) (hOrder : (uses.map Prod.fst ++ [now]).Pairwise (· ≤ ·)) :
    (((new window).used uses).look now).2 =
      .ofList ((retained window now (recorded uses).reverse).map Recorded.value) := by
  obtain ⟨latest, hLatest, hHolds⟩ := holds_new window hOrder
  exact hHolds.shown hLatest

/-- It makes no difference to a snapshot whether values leave the reservoir for it. -/
theorem snapshot_used (window : Window)
    (hOrder : (uses.map Prod.fst ++ [now]).Pairwise (· ≤ ·)) :
    ((new window).used uses).snapshot now = (((new window).used uses).look now).2 := by
  obtain ⟨latest, hLatest, hHolds⟩ := holds_new window hOrder
  exact hHolds.snapshot_eq hLatest

/-- All values ever recorded are counted, in 64 bits. -/
theorem count_used (uses : List (Instant × Use)) (h : Histogram) :
    (h.used uses).count = h.count + UInt64.ofNat (recorded uses).length := by
  induction uses generalizing h with
  | nil => exact (UInt64.add_zero _).symm
  | cons step rest ih =>
    obtain ⟨now, u⟩ := step
    show ((h.use now u).used rest).count = _
    rw [ih]
    cases u with
    | update value =>
      rw [recorded, List.length_cons, Nat.add_comm, UInt64.ofNat_add, ← UInt64.add_assoc]
      rfl
    | look => rfl

/-- The values that a time's window keeps are those recorded within that time. -/
theorem retained_recorded (length : Duration)
    (hOrder : (uses.map Prod.fst ++ [now]).Pairwise (· ≤ ·)) :
    ((retained (.time length) now (recorded uses).reverse).map Recorded.value).Perm
      (recordedWithin length now uses) := by
  obtain ⟨latest, -, hHolds⟩ := holds_new (.time length) hOrder
  rw [retained_time hHolds.descending, List.filter_reverse, List.map_reverse]
  exact List.reverse_perm _

/-- After any uses at instants that do not go back, the snapshot of a time's window shows exactly
the values that were recorded within that time, those of exactly its length ago included, each as
often as it was recorded, in ascending order. Whoever recorded the same values within that time sees
the same, whatever else was recorded before and whenever snapshots were taken. The count is that of
all values ever recorded, in 64 bits. -/
theorem time_window_exact (length : Duration) (uses : List (Instant × Use)) (now : Instant)
    (hOrder : (uses.map Prod.fst ++ [now]).Pairwise (· ≤ ·)) :
    (((new (.time length)).used uses).look now).2.values.Perm (recordedWithin length now uses) ∧
    (((new (.time length)).used uses).look now).2.values.Pairwise (· ≤ ·) ∧
    ((new (.time length)).used uses).snapshot now =
      (((new (.time length)).used uses).look now).2 ∧
    (∀ others : List (Instant × Use), (others.map Prod.fst ++ [now]).Pairwise (· ≤ ·) →
      (recordedWithin length now others).Perm (recordedWithin length now uses) →
      (((new (.time length)).used others).look now).2 =
        (((new (.time length)).used uses).look now).2) ∧
    ((new (.time length)).used uses).count = UInt64.ofNat (recorded uses).length := by
  have hWithin := retained_recorded length hOrder
  refine ⟨?_, (((new (.time length)).used uses).look now).2.ascending,
    snapshot_used _ hOrder, ?_, ?_⟩
  · rw [look_used _ hOrder]
    exact (Snapshot.perm_ofList _).trans hWithin
  · intro others hOthers hSame
    rw [look_used _ hOthers, look_used _ hOrder]
    exact Snapshot.ofList_eq_of_perm
      ((retained_recorded length hOthers).trans (hSame.trans hWithin.symm))
  · rw [count_used]
    exact UInt64.zero_add _

/-- Two values at one instant are shown to the last nanosecond of their time, and no longer; a
snapshot in between makes no difference. -/
theorem time_window_to_its_boundary :
    [10, 10, 15, 30, 31].Pairwise (fun earlier later : Instant => earlier ≤ later) ∧
    (((new (.time 20)).used [(10, .update 1), (10, .update 7), (15, .look)]).look 30).2.values.Perm
      [1, 7] ∧
    (((new (.time 20)).used [(10, .update 1), (10, .update 7), (15, .look), (30, .update 2)]).look
      31).2.values.Perm [2] ∧
    (((new (.time 20)).used [(10, .update 1), (10, .update 7), (30, .update 2)]).look 31).2 =
      (((new (.time 20)).used [(10, .update 1), (10, .update 7), (15, .look), (30, .update 2)]).look
        31).2 ∧
    ((new (.time 20)).used
      [(10, .update 1), (10, .update 7), (15, .look), (30, .update 2)]).count = 3 := by
  have hEarlier := time_window_exact 20 [(10, .update 1), (10, .update 7), (15, .look)] 30
    (by decide)
  have hLater := time_window_exact 20
    [(10, .update 1), (10, .update 7), (15, .look), (30, .update 2)] 31 (by decide)
  exact ⟨by decide, hEarlier.1, hLater.1,
    hLater.2.2.2.1 [(10, .update 1), (10, .update 7), (30, .update 2)] (by decide)
      (List.Perm.refl _), hLater.2.2.2.2⟩

end Histogram

end Metering
