import Mathlib.Algebra.Ring.Int.Defs
import Mathlib.Data.List.Forall2
import Mathlib.Data.List.Nodup
import Metering.Fanout.Probe
import Metering.Registry.Recording

/-!
# Metering — how far a fan-out gets

What is told to a metric with counted ancestors reaches one after another, up to the first that
breaks off. What was told before is not taken back, and those that come later hear of nothing.

* `Mutation.Means` — what members hear of a mutation, and `means_iff` — they hear just that;
* `Told` — some members were told, one after another, each once;
* `told_fanOut` — every fan-out tells the members up to the first that breaks off;
* `Bench.reached` — the probes that an update reaches: those in front of the first broken one;
* `Bench.tell_eq` — all that an update does to probes;
* `Bench.after` — the probes after some mutations, with `Bench.book_after` and
  `Bench.getElem?_counts_after`;
* `Registry.told_update` — an update of a handle tells all its metrics;
* `fan_out_run` — the main result.
-/

namespace Metering

variable {σ ι : Type} {change : σ → ι → Option σ}

/-! ## What members hear -/

/-- What members hear of a mutation: a count, event or time of one's own as it is, one up or down
as an increase or decrease by one, one event as so many, and scoped timing as the time that has
passed between the start and the stop. -/
inductive Mutation.Means : Mutation → Update → Prop where
  | told (u : Update) : Means (.told u) u
  | up : Means .up (.add 1)
  | down : Means .down (.subtract 1)
  | event : Means .event (.mark 1)
  | timed (start stop : Instant) : Means (.timed ⟨start⟩ stop) (.duration (stop - start))

theorem Mutation.means_update (m : Mutation) : m.Means m.update := by
  cases m with
  | told u => exact .told u
  | up => exact .up
  | down => exact .down
  | event => exact .event
  | timed w stop => exact .timed w.start stop

theorem Mutation.means_iff {m : Mutation} {u : Update} : m.Means u ↔ m.update = u :=
  ⟨fun h => by cases h <;> rfl, fun h => h ▸ m.means_update⟩

/-- Mutations in turn mean the updates that they come to in turn. -/
theorem Mutation.forall₂_means_iff {ms : List Mutation} {us : List Update} :
    List.Forall₂ Means ms us ↔ ms.map update = us := by
  have hMeans : Means = fun m u => m.update = u :=
    funext fun m => funext fun u => propext means_iff
  rw [hMeans, ← List.forall₂_map_left_iff (R := Eq), List.forall₂_eq_eq_eq]

/-- Only a subtraction moves the count of a probe down. -/
theorem Update.direction_eq (u : Update) :
    (∃ n, u = .subtract n) ∧ u.direction = -1 ∨ (∀ n, u ≠ .subtract n) ∧ u.direction = 1 := by
  cases u with
  | subtract n => exact .inl ⟨⟨n, rfl⟩, rfl⟩
  | add n | mark n | value n | duration n => exact .inr ⟨by simp, rfl⟩

/-! ## Any members -/

/-- Some members were told, one after another, each once. -/
inductive Told (change : σ → ι → Option σ) : σ → List ι → σ → Prop where
  | none (s : σ) : Told change s [] s
  | next {s now after : σ} {i : ι} {rest : List ι} (hFirst : change s i = some now)
      (hRest : Told change now rest after) : Told change s (i :: rest) after

/-- Members are told up to the first that breaks off. If there is one, the fan-out breaks off with
it, and leaves behind what those in front of it have made of the state. -/
theorem told_fanOut (change : σ → ι → Option σ) (s : σ) (members : List ι) :
    ∃ reached left, members = reached ++ left ∧
      Told change s reached (fanOut change s members).1 ∧
      ((fanOut change s members).2 = true → left = []) ∧
      ((fanOut change s members).2 = false →
        ∃ broken later, left = broken :: later ∧
          change (fanOut change s members).1 broken = none) := by
  induction members generalizing s with
  | nil =>
    refine ⟨[], [], rfl, .none s, fun _ => rfl, fun hBroken => ?_⟩
    cases hBroken
  | cons i rest ih =>
    rw [fanOut]
    cases hFirst : change s i with
    | none =>
      refine ⟨[], i :: rest, rfl, .none s, fun hWhole => ?_, fun _ => ⟨i, rest, rfl, hFirst⟩⟩
      cases hWhole
    | some now =>
      obtain ⟨reached, left, hAll, hTold, hEnds, hBreaks⟩ := ih now
      exact ⟨i :: reached, left, by rw [hAll, List.cons_append], .next hFirst hTold, hEnds,
        hBreaks⟩

/-! ## Probes -/

namespace Bench

variable {b : Bench} {u : Update} {i : Nat}

@[simp] theorem length_new (size : Nat) (broken : List Nat) :
    (new size broken).counts.length = size := List.length_replicate

/-- The probes that an update reaches: those in front of the first broken one. -/
def reached (b : Bench) : List Nat := (List.range b.counts.length).takeWhile (· ∉ b.broken)

/-- The probes after an update has reached some of them. -/
def toldTo (b : Bench) (u : Update) (is : List Nat) : Bench :=
  { b with
    counts := is.foldl (fun counts i => counts.modify i (· + u.direction)) b.counts
    book := b.book ++ is.map fun i => (i, u) }

/-- Probes are told up to the first broken one, by induction on the probes. -/
theorem fanOut_tellOne (u : Update) (b : Bench) (is : List Nat) :
    fanOut (tellOne u) b is =
      (b.toldTo u (is.takeWhile (· ∉ b.broken)), decide (∀ i ∈ is, i ∉ b.broken)) := by
  induction is generalizing b with
  | nil => simp [fanOut, toldTo]
  | cons i rest ih =>
    rw [fanOut, tellOne]
    by_cases hBroken : i ∈ b.broken
    · simp [hBroken, toldTo]
    · rw [if_neg hBroken]
      dsimp only
      rw [ih]
      simp [hBroken, toldTo]

/-- All that an update does to probes. -/
theorem tell_eq (b : Bench) (u : Update) :
    b.tell u = (b.toldTo u b.reached, decide (∀ i < b.counts.length, i ∉ b.broken)) := by
  rw [tell, fanOut_tellOne, reached]
  simp only [List.mem_range]

/-! ### What an update leaves alone -/

theorem length_toldTo (b : Bench) (u : Update) (is : List Nat) :
    (b.toldTo u is).counts.length = b.counts.length :=
  List.foldlRecOn is _ (motive := fun counts : List Int => counts.length = b.counts.length)
    rfl fun counts hLength i _ => by rw [List.length_modify, hLength]

@[simp] theorem length_tell (b : Bench) (u : Update) :
    (b.tell u).1.counts.length = b.counts.length := by
  rw [tell_eq, length_toldTo]

@[simp] theorem broken_tell (b : Bench) (u : Update) : (b.tell u).1.broken = b.broken := by
  rw [tell_eq, toldTo]

/-- Updates reach the same probes, however many went before. -/
@[simp] theorem reached_tell (b : Bench) (u : Update) : (b.tell u).1.reached = b.reached := by
  rw [reached, broken_tell, length_tell, reached]

/-! ### Which probes are reached -/

theorem nodup_reached (b : Bench) : b.reached.Nodup :=
  List.nodup_range.sublist (List.takeWhile_sublist _)

/-- The probes reached are those with no broken one up to and including them. -/
theorem mem_reached_iff :
    i ∈ b.reached ↔ i < b.counts.length ∧ ∀ j ≤ i, j ∉ b.broken := by
  -- those reached are the first few, as many as there are in front of the first broken one
  rw [reached, List.takeWhile_eq_take_findIdx_not, List.take_range, List.mem_range, Nat.lt_min,
    List.lt_findIdx_iff]
  simp only [List.length_range, List.getElem_range, decide_not, Bool.not_not,
    decide_eq_false_iff_not, exists_prop]
  tauto

/-! ### What mutations leave behind -/

/-- The probes after some mutations, whatever became of each. -/
def after (b : Bench) (ms : List Mutation) : Bench := ms.foldl (fun b m => (b.carryOut m).1) b

theorem after_cons (b : Bench) (m : Mutation) (ms : List Mutation) :
    b.after (m :: ms) = (b.tell m.update).1.after ms := rfl

theorem broken_after (b : Bench) (ms : List Mutation) : (b.after ms).broken = b.broken := by
  induction ms generalizing b with
  | nil => rfl
  | cons m rest ih => rw [after_cons, ih, broken_tell]

theorem length_after (b : Bench) (ms : List Mutation) :
    (b.after ms).counts.length = b.counts.length := by
  induction ms generalizing b with
  | nil => rfl
  | cons m rest ih => rw [after_cons, ih, length_tell]

/-- The book holds the mutations in turn, each as told to the probes reached in turn. -/
theorem book_after (b : Bench) (ms : List Mutation) :
    (b.after ms).book = b.book ++ ms.flatMap fun m => b.reached.map fun i => (i, m.update) := by
  induction ms generalizing b with
  | nil => simp [after]
  | cons m rest ih =>
    rw [after_cons, ih, reached_tell, tell_eq, toldTo]
    simp

/-- One after another, distinct probes count each once. -/
theorem getElem?_counts_toldTo (b : Bench) (u : Update) {is : List Nat} (hNodup : is.Nodup)
    (i : Nat) :
    (b.toldTo u is).counts[i]? =
      b.counts[i]?.map fun c => if i ∈ is then c + u.direction else c := by
  induction is generalizing b with
  | nil => simp [toldTo]
  | cons j rest ih =>
    -- the probe that is told first is not told again with the others
    obtain ⟨hFirst, hRest⟩ := List.nodup_cons.mp hNodup
    have hSame : (b.toldTo u (j :: rest)).counts =
        ({ b with counts := b.counts.modify j (· + u.direction) }.toldTo u rest).counts := rfl
    rw [hSame, ih _ hRest, List.getElem?_modify]
    by_cases h : j = i
    · subst h
      simp [hFirst, Function.comp_def]
    · simp [h, Ne.symm h]

/-- Every probe reached has counted all mutations, each once, and no other probe has counted. -/
theorem getElem?_counts_after (b : Bench) (ms : List Mutation) (i : Nat) :
    (b.after ms).counts[i]? = b.counts[i]?.map fun c =>
      if i ∈ b.reached then c + (ms.map fun m => m.update.direction).sum else c := by
  induction ms generalizing b with
  | nil => simp [after]
  | cons m rest ih =>
    rw [after_cons, ih, reached_tell, tell_eq,
      getElem?_counts_toldTo _ _ (nodup_reached _), Option.map_map]
    by_cases hReached : i ∈ b.reached <;> simp [hReached, Int.add_assoc, Function.comp_def]

end Bench

/-! ## The metrics of a registry -/

namespace Registry

/-- No metric of a registry breaks off, so that all of a handle are told. -/
theorem told_update (r : Registry) (now : Instant) (h : Handle) (u : Update) :
    Told (fun r id => some (r.record now u id)) r h.targets (r.update now h u) := by
  obtain ⟨reached, left, hAll, hTold, hEnds, -⟩ :=
    told_fanOut (fun r id => some (record now u r id)) r h.targets
  have hNone : left = [] := hEnds (by rw [fanOut_map_some])
  rw [hAll, hNone, List.append_nil]
  exact hTold

/-- A handle is read at its first metric. -/
theorem reading_of_first (r : Registry) (now : Instant) (h : Handle) :
    r.reading now h = r.reading now { h with targets := h.targets.take 1 } := by
  have hSame : r.statId? h = r.statId? { h with targets := h.targets.take 1 } := by
    rw [statId?, statId?, List.head?_take, if_neg Nat.one_ne_zero]
  rw [reading, reading, hSame]

end Registry

/-- Every fan-out tells its members one after another, each once, up to the first that breaks off,
and breaks off with it. The metrics of a registry never do: each hears what the mutation means, and
their handles are read at the first metric. Among probes the broken ones break off: each of some
mutations, in any number and of any sort, reaches those in front of the first broken one as what it
means, and is counted by these alone; the mutation comes to its end just if no probe is broken; and
what is read is what the first probe holds. -/
theorem fan_out_run :
    (∀ (σ ι : Type) (change : σ → ι → Option σ) (s : σ) (members : List ι),
      ∃ reached left, members = reached ++ left ∧
        Told change s reached (fanOut change s members).1 ∧
        ((fanOut change s members).2 = true → left = []) ∧
        ((fanOut change s members).2 = false →
          ∃ broken later, left = broken :: later ∧
            change (fanOut change s members).1 broken = none)) ∧
    (∀ (r : Registry) (now : Instant) (h : Handle) (m : Mutation),
      (∃ u, m.Means u ∧
        Told (fun r id => some (r.record now u id)) r h.targets (r.update now h m.update)) ∧
      r.reading now h = r.reading now { h with targets := h.targets.take 1 }) ∧
    ∀ (size : Nat) (broken : List Nat) (ms : List Mutation),
      let b := (Bench.new size broken).after ms
      let reached := (List.range size).takeWhile (· ∉ broken)
      (∀ i, i ∈ reached ↔ i < size ∧ ∀ j ≤ i, j ∉ broken) ∧
      (∃ us, List.Forall₂ Mutation.Means ms us ∧
        b.book = (us.flatMap fun u => reached.map fun i => (i, u)) ∧
        (∀ u ∈ us, (∃ n, u = .subtract n) ∧ u.direction = -1 ∨
          (∀ n, u ≠ .subtract n) ∧ u.direction = 1) ∧
        ∀ i < size, b.counts[i]? =
          some (if i ∈ reached then (us.map Update.direction).sum else 0)) ∧
      (∀ m, (b.carryOut m).2 = true ↔ ∀ i < size, i ∉ broken) ∧
      ∀ first, b.counts[0]? = some first →
        b.count = first ∧ (∀ minutes, b.rate minutes = first * 100 + minutes * 10) ∧
        b.kept = Snapshot.ofList [Int64.ofInt first, 0] := by
  refine ⟨fun σ ι => told_fanOut,
    fun r now h m => ⟨⟨_, m.means_update, r.told_update now h m.update⟩, r.reading_of_first now h⟩,
    fun size broken ms => ?_⟩
  have hReached : (Bench.new size broken).reached = (List.range size).takeWhile (· ∉ broken) := by
    rw [Bench.reached, Bench.length_new, Bench.new]
  refine ⟨fun i => ?_, ⟨ms.map Mutation.update, ?_, ?_, fun u _ => u.direction_eq, fun i hIn => ?_⟩,
    fun m => ?_, fun first hFirst => ?_⟩
  · rw [← hReached, Bench.mem_reached_iff, Bench.length_new, Bench.new]
  · exact Mutation.forall₂_means_iff.mpr rfl
  · rw [Bench.book_after, hReached, Bench.new, List.nil_append, List.flatMap_map]
  · rw [Bench.getElem?_counts_after, hReached, Bench.new, List.getElem?_replicate, if_pos hIn,
      Option.map_some, Int.zero_add, List.map_map]
    rfl
  · rw [Bench.carryOut, Bench.tell_eq, decide_eq_true_iff, Bench.length_after, Bench.broken_after,
      Bench.length_new, Bench.new]
  · have hCount : ((Bench.new size broken).after ms).count = first := by
      rw [Bench.count, List.headD_eq_head?_getD, List.head?_eq_getElem?, hFirst]
      rfl
    exact ⟨hCount, fun minutes => by rw [Bench.rate, hCount], by rw [Bench.kept, hCount]⟩

/-- Of four probes the third is broken: each mutation reaches the first two, and the last hears of
nothing. -/
theorem fan_out_run_past_two :
    let b := (Bench.new 4 [2]).after [.up, .down, .event, .timed ⟨30⟩ 72, .told (.add 7)]
    b.book = [(0, .add 1), (1, .add 1), (0, .subtract 1), (1, .subtract 1), (0, .mark 1),
      (1, .mark 1), (0, .duration 42), (1, .duration 42), (0, .add 7), (1, .add 7)] ∧
    b.counts[1]? = some 3 ∧ b.counts[3]? = some 0 ∧ (b.carryOut .down).2 ≠ true ∧ b.count = 3 := by
  intro b
  obtain ⟨-, -, hProbes⟩ := fan_out_run
  obtain ⟨-, ⟨us, hMeans, hBook, -, hCounts⟩, hEnds, hFirst⟩ :=
    hProbes 4 [2] [.up, .down, .event, .timed ⟨30⟩ 72, .told (.add 7)]
  have hHeard : [.add 1, .subtract 1, .mark 1, .duration 42, .add 7] = us :=
    Mutation.forall₂_means_iff.mp hMeans
  subst hHeard
  refine ⟨hBook, hCounts 1 (by decide), hCounts 3 (by decide), fun hWhole => ?_,
    (hFirst 3 (hCounts 0 (by decide))).1⟩
  exact (hEnds .down).mp hWhole 2 (by decide) (by decide)

end Metering
