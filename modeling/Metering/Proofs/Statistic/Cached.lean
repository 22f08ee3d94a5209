import Mathlib.Data.List.Chain
import Mathlib.Data.List.Induction
import Metering.Proofs.Statistic.Sources

/-!
# Metering — what a cached gauge promises

A cached gauge asks its supplier only if it has no answer that serves still. The supplier may answer
differently each time, take its time, or break off; what a read does is nevertheless settled by the
reads before it: the gauge goes by the last answer that was given, counted from the instant when the
supplier had given it, and a question that came to nothing leaves no trace.

* `Visit` — a read with what came of it;
* `Course` — a gauge with the reads so far, and `Course.read`, one read more;
* `Due` — whether the supplier has to be asked, said of the reads so far alone;
* `Course.read_cases` — all that a read can do;
* `Remembers` — the invariant of a gauge: its last answer is that of the reads so far;
* `contract_run` — what a read does after any reads (`Contract`);
* `Statistics.read_cachedGauge` — a cached gauge among other statistics is read in this way.
-/

namespace Metering

namespace CachedGauge

/-! ## Reads and answers -/

/-- A read of a gauge, with what came of it. The supplier was asked when the read began, and had
answered or broken off when it was over; if it was not asked, the read was over at once. -/
structure Visit where
  now : Instant
  finished : Instant
  asked : Bool
  shown : Option Float
  forwards : now ≤ finished

/-- What the supplier answered, and when it had: nothing if it was not asked, or broke off. -/
def Visit.answer? (v : Visit) : Option (Float × Instant) :=
  if v.asked then v.shown.map fun value => (value, v.finished) else none

/-- The last answer that was given in some reads. -/
def lastAnswer? (visits : List Visit) : Option (Float × Instant) :=
  (visits.filterMap Visit.answer?).getLast?

/-- How often the supplier was asked in some reads. -/
def timesAsked (visits : List Visit) : Nat := visits.countP Visit.asked

/-- After some reads the supplier has to be asked: no answer was given yet, or the last one was given
at least a time-out ago. -/
def Due (timeout : Duration) (visits : List Visit) (now : Instant) : Prop :=
  ∀ value taken, lastAnswer? visits = some (value, taken) → timeout ≤ since taken now

/-- One read comes after another. -/
def After (u v : Visit) : Prop := u.finished ≤ v.now

instance (u v : Visit) : Decidable (After u v) := Nat.decLe _ _

instance : Trans After After After :=
  ⟨fun {_ v _} hFirst hSecond => hFirst.trans (v.forwards.trans hSecond)⟩

/-- A gauge with the reads so far, in their order. -/
structure Course where
  gauge : CachedGauge
  visits : List Visit

variable (supplier : Supplier) (took : Nat → Duration)

namespace Course

/-- What a read comes to. The supplier is asked the next question, if any, and takes its time. -/
def next (c : Course) (now : Instant) : Visit :=
  let k := timesAsked c.visits
  let (_, shown, asked) := c.gauge.read now (now + took k) (supplier.answer k)
  { now, shown, asked
    finished := if asked then now + took k else now
    forwards := by
      split
      · exact Nat.le_add_right ..
      · exact Nat.le_refl now }

/-- The gauge after one read more. -/
def read (c : Course) (now : Instant) : Course where
  gauge :=
    let k := timesAsked c.visits
    (c.gauge.read now (now + took k) (supplier.answer k)).1
  visits := c.visits ++ [c.next supplier took now]

/-- A new gauge after reads at some instants. -/
def run (timeout : Duration) (instants : List Instant) : Course :=
  instants.foldl (read supplier took) ⟨new timeout, []⟩

end Course

variable {supplier : Supplier} {took : Nat → Duration} {timeout : Duration} {c : Course}
  {now : Instant} {visits : List Visit} {u v : Visit}

theorem lastAnswer?_concat (visits : List Visit) (v : Visit) :
    lastAnswer? (visits ++ [v]) = v.answer?.or (lastAnswer? visits) := by
  unfold lastAnswer?
  rw [List.filterMap_append, List.getLast?_append]
  cases h : v.answer? with
  | none => rw [List.filterMap_cons_none h]; rfl
  | some answer => rw [List.filterMap_cons_some h]; rfl

theorem Visit.answer?_eq_some {value : Float} (hAsked : v.asked = true)
    (hShown : v.shown = some value) : v.answer? = some (value, v.finished) := by
  rw [answer?, if_pos hAsked, hShown, Option.map_some]

theorem Visit.answer?_eq_none (h : v.asked = true → v.shown = none) : v.answer? = none := by
  unfold answer?
  split
  · next hAsked => rw [h hAsked, Option.map_none]
  · rfl

/-! ## One read -/

/-- A gauge remembers the last answer that was given in the reads so far. -/
structure Remembers (c : Course) (timeout : Duration) : Prop where
  timeout_eq : c.gauge.timeout = timeout
  cache_eq : c.gauge.cache = lastAnswer? c.visits

theorem remembers_new (timeout : Duration) : Remembers ⟨new timeout, []⟩ timeout where
  timeout_eq := rfl
  cache_eq := rfl

/-- The last answer serves, or the supplier has to be asked. -/
theorem Remembers.fresh?_cases (h : Remembers c timeout) (now : Instant) :
    (∃ value taken, lastAnswer? c.visits = some (value, taken) ∧ since taken now < timeout ∧
      c.gauge.fresh? now = some value) ∨
    (Due timeout c.visits now ∧ c.gauge.fresh? now = none) := by
  unfold Due
  rw [fresh?, h.cache_eq, h.timeout_eq]
  rcases lastAnswer? c.visits with _ | ⟨value, taken⟩
  · refine .inr ⟨fun value taken hNone => ?_, rfl⟩
    cases hNone
  · by_cases hServes : since taken now < timeout
    · exact .inl ⟨value, taken, rfl, hServes, if_pos hServes⟩
    · refine .inr ⟨fun _ _ hLast => ?_, if_neg hServes⟩
      cases hLast
      exact Nat.le_of_not_lt hServes

/-- All that a read can do: to show the last answer, to show a new one and keep it, or to break off
and leave the gauge as it was. -/
theorem Course.read_cases (supplier : Supplier) (took : Nat → Duration) (h : Remembers c timeout)
    (now : Instant) :
    (∃ value taken, lastAnswer? c.visits = some (value, taken) ∧ since taken now < timeout ∧
      c.next supplier took now = ⟨now, now, false, some value, Nat.le_refl now⟩ ∧
      (c.read supplier took now).gauge = c.gauge) ∨
    (Due timeout c.visits now ∧ ∃ value, supplier.answer (timesAsked c.visits) = some value ∧
      c.next supplier took now =
        ⟨now, now + took (timesAsked c.visits), true, some value, Nat.le_add_right ..⟩ ∧
      (c.read supplier took now).gauge =
        c.gauge.refreshed (now + took (timesAsked c.visits)) value) ∨
    (Due timeout c.visits now ∧ supplier.answer (timesAsked c.visits) = none ∧
      c.next supplier took now =
        ⟨now, now + took (timesAsked c.visits), true, none, Nat.le_add_right ..⟩ ∧
      (c.read supplier took now).gauge = c.gauge) := by
  obtain ⟨value, taken, hLast, hServes, hFresh⟩ | ⟨hDue, hFresh⟩ := h.fresh?_cases now
  · refine .inl ⟨value, taken, hLast, hServes, ?_⟩
    simp [Course.next, Course.read, CachedGauge.read, hFresh]
  · right
    cases hAnswer : supplier.answer (timesAsked c.visits) with
    | some value =>
      refine .inl ⟨hDue, value, rfl, ?_⟩
      simp [Course.next, Course.read, CachedGauge.read, hFresh, hAnswer]
    | none =>
      refine .inr ⟨hDue, rfl, ?_⟩
      simp [Course.next, Course.read, CachedGauge.read, hFresh, hAnswer]

/-- A read keeps to the last answer. -/
theorem Remembers.read (h : Remembers c timeout) (now : Instant) :
    Remembers (c.read supplier took now) timeout := by
  have hVisits : lastAnswer? (c.read supplier took now).visits =
      (c.next supplier took now).answer?.or (lastAnswer? c.visits) := lastAnswer?_concat _ _
  obtain ⟨value, taken, -, -, hNext, hGauge⟩ | ⟨-, value, -, hNext, hGauge⟩ |
    ⟨-, -, hNext, hGauge⟩ := c.read_cases supplier took h now
  · rw [hNext] at hVisits
    exact ⟨hGauge ▸ h.timeout_eq, by rw [hGauge, hVisits, h.cache_eq]; rfl⟩
  · rw [hNext] at hVisits
    exact ⟨hGauge ▸ h.timeout_eq, by rw [hGauge, hVisits]; rfl⟩
  · rw [hNext] at hVisits
    exact ⟨hGauge ▸ h.timeout_eq, by rw [hGauge, hVisits, h.cache_eq]; rfl⟩

theorem Course.run_concat (supplier : Supplier) (took : Nat → Duration) (timeout : Duration)
    (instants : List Instant) (now : Instant) :
    run supplier took timeout (instants ++ [now]) =
      (run supplier took timeout instants).read supplier took now :=
  List.foldl_append ..

theorem remembers_run (supplier : Supplier) (took : Nat → Duration) (timeout : Duration)
    (instants : List Instant) : Remembers (Course.run supplier took timeout instants) timeout := by
  induction instants using List.reverseRec with
  | nil => exact remembers_new timeout
  | append_singleton instants now ih =>
    rw [Course.run_concat]
    exact ih.read now

/-- Whether the supplier is asked is settled by the reads so far. -/
theorem Remembers.asked_iff (h : Remembers c timeout) (now : Instant) :
    (c.next supplier took now).asked = true ↔ Due timeout c.visits now := by
  obtain ⟨value, taken, hLast, hServes, hNext, -⟩ | ⟨hDue, value, -, hNext, -⟩ |
    ⟨hDue, -, hNext, -⟩ := c.read_cases supplier took h now
  · rw [hNext]
    refine ⟨nofun, fun hDue => ?_⟩
    exact absurd (hDue value taken hLast) (Nat.not_le_of_lt hServes)
  · rw [hNext]
    exact iff_of_true rfl hDue
  · rw [hNext]
    exact iff_of_true rfl hDue

/-- If the supplier is asked, it is asked the next question, and what it answers is shown. -/
theorem Remembers.answered (h : Remembers c timeout)
    (hAsked : (c.next supplier took now).asked = true) :
    (c.next supplier took now).shown = supplier.answer (timesAsked c.visits) ∧
      (c.next supplier took now).finished = now + took (timesAsked c.visits) := by
  obtain ⟨value, taken, -, -, hNext, -⟩ | ⟨-, value, hAnswer, hNext, -⟩ |
    ⟨-, hAnswer, hNext, -⟩ := c.read_cases supplier took h now
  · rw [hNext] at hAsked
    cases hAsked
  · rw [hNext, hAnswer]
    exact ⟨rfl, rfl⟩
  · rw [hNext, hAnswer]
    exact ⟨rfl, rfl⟩

/-- If it is not asked, the last answer is shown. -/
theorem Remembers.served (h : Remembers c timeout)
    (hNot : (c.next supplier took now).asked = false) :
    ∃ value taken, lastAnswer? c.visits = some (value, taken) ∧
      (c.next supplier took now).shown = some value := by
  obtain ⟨value, taken, hLast, -, hNext, -⟩ | ⟨-, value, -, hNext, -⟩ | ⟨-, -, hNext, -⟩ :=
    c.read_cases supplier took h now
  · exact ⟨value, taken, hLast, congrArg Visit.shown hNext⟩
  · rw [hNext] at hNot
    cases hNot
  · rw [hNext] at hNot
    cases hNot

/-! ## Reads in turn -/

theorem Due.later {later : Instant} (h : Due timeout visits now) (hLater : now ≤ later) :
    Due timeout visits later :=
  fun value taken hLast => (h value taken hLast).trans (Nat.sub_le_sub_right hLater taken)

theorem Visit.snd_answer? {answer : Float × Instant} (h : v.answer? = some answer) :
    answer.2 = v.finished := by
  unfold Visit.answer? at h
  split at h
  · obtain ⟨value, -, rfl⟩ := Option.map_eq_some_iff.mp h
    rfl
  · cases h

theorem exists_of_lastAnswer? {answer : Float × Instant} (h : lastAnswer? visits = some answer) :
    ∃ u ∈ visits, u.answer? = some answer :=
  List.mem_filterMap.mp (List.mem_of_getLast? h)

/-- Of reads in turn none got its answer after the last one. -/
theorem finished_le_lastAnswer? (hOrder : visits.Pairwise After) (hMem : u ∈ visits)
    (hAnswer : u.answer?.isSome = true) :
    ∃ value taken, lastAnswer? visits = some (value, taken) ∧ u.finished ≤ taken := by
  -- by induction on the reads from the last one on: if it gave no answer, it does not count
  induction visits using List.reverseRec with
  | nil => cases hMem
  | append_singleton visits v ih =>
    obtain ⟨hBefore, -, hAfter⟩ := List.pairwise_append.mp hOrder
    rw [lastAnswer?_concat]
    rcases hLast : v.answer? with _ | ⟨value, taken⟩
    · obtain hMem | hSelf := List.mem_append.mp hMem
      · exact ih hBefore hMem
      · rw [List.mem_singleton.mp hSelf, hLast] at hAnswer
        cases hAnswer
    · refine ⟨value, taken, rfl, ?_⟩
      obtain rfl : taken = v.finished := Visit.snd_answer? hLast
      obtain hMem | hSelf := List.mem_append.mp hMem
      · exact (hAfter u hMem v (List.mem_singleton_self v)).trans v.forwards
      · rw [List.mem_singleton.mp hSelf]

/-- A question comes a time-out at least after every answer before it. -/
def Spaced (timeout : Duration) (u v : Visit) : Prop :=
  u.answer?.isSome = true → v.asked = true → u.finished + timeout ≤ v.now

theorem Remembers.spaced (h : Remembers c timeout)
    (hOrder : (c.read supplier took now).visits.Pairwise After) (hMem : u ∈ c.visits) :
    Spaced timeout u (c.next supplier took now) := by
  intro hAnswer hAsked
  obtain ⟨hBefore, -, hAfter⟩ := List.pairwise_append.mp hOrder
  have hNow : u.finished ≤ now := hAfter u hMem _ (List.mem_singleton_self _)
  obtain ⟨value, taken, hLast, hFinished⟩ := finished_le_lastAnswer? hBefore hMem hAnswer
  have hElapsed : timeout ≤ now - taken := (h.asked_iff now).mp hAsked value taken hLast
  show u.finished + timeout ≤ now
  unfold Instant Duration at *
  omega

theorem spaced_run (instants : List Instant)
    (hOrder : (Course.run supplier took timeout instants).visits.Pairwise After) :
    (Course.run supplier took timeout instants).visits.Pairwise (Spaced timeout) := by
  induction instants using List.reverseRec with
  | nil => exact List.Pairwise.nil
  | append_singleton instants now ih =>
    rw [Course.run_concat] at hOrder ⊢
    -- only the question of the read added last is new
    have hBefore := (List.pairwise_append.mp hOrder).1
    refine List.pairwise_append.mpr ⟨ih hBefore, List.pairwise_singleton _ _, fun u hu v hv => ?_⟩
    rw [List.mem_singleton.mp hv]
    exact (remembers_run supplier took timeout instants).spaced hOrder hu

/-- A value is shown less than a time-out after it was given. -/
theorem Remembers.recent (h : Remembers c timeout)
    (hOrder : (c.read supplier took now).visits.Pairwise After) (hPositive : 0 < timeout)
    {value : Float} (hShown : (c.next supplier took now).shown = some value) :
    ∃ u ∈ (c.read supplier took now).visits, u.answer? = some (value, u.finished) ∧
      u.finished ≤ (c.next supplier took now).finished ∧
      since u.finished (c.next supplier took now).finished < timeout := by
  obtain ⟨last, taken, hLast, hServes, hNext, -⟩ | ⟨-, last, -, hNext, -⟩ | ⟨-, -, hNext, -⟩ :=
    c.read_cases supplier took h now
  · obtain ⟨u, hMem, hAnswer⟩ := exists_of_lastAnswer? hLast
    obtain rfl : taken = u.finished := Visit.snd_answer? hAnswer
    obtain rfl : last = value := by
      rw [hNext] at hShown
      exact Option.some.inj hShown
    refine ⟨u, List.mem_append_left _ hMem, hAnswer, ?_, ?_⟩
    · exact ((List.pairwise_append.mp hOrder).2.2 u hMem _ (List.mem_singleton_self _)).trans
        (c.next supplier took now).forwards
    · rw [hNext]
      exact hServes
  · have hAsked : (c.next supplier took now).asked = true := by rw [hNext]
    refine ⟨c.next supplier took now, List.mem_append_right _ (List.mem_singleton_self _),
      Visit.answer?_eq_some hAsked hShown, Nat.le_refl _, ?_⟩
    rw [since, Nat.sub_self]
    exact hPositive
  · rw [hNext] at hShown
    cases hShown

/-- A question that comes to nothing leaves the gauge as it was, and is put again at the next read. -/
theorem Remembers.asked_again (h : Remembers c timeout)
    (hAsked : (c.next supplier took now).asked = true)
    (hNothing : (c.next supplier took now).shown = none) :
    (c.read supplier took now).gauge = c.gauge ∧
      ∀ later, (c.next supplier took now).finished ≤ later →
        ((c.read supplier took now).next supplier took later).asked = true := by
  have hDue : Due timeout c.visits now := (h.asked_iff now).mp hAsked
  have hLast : lastAnswer? (c.read supplier took now).visits = lastAnswer? c.visits := by
    have hNone : (c.next supplier took now).answer? = none := Visit.answer?_eq_none fun _ => hNothing
    exact (lastAnswer?_concat _ _).trans (by rw [hNone, Option.none_or])
  obtain ⟨value, taken, -, -, hNext, -⟩ | ⟨-, value, -, hNext, -⟩ | ⟨-, -, -, hGauge⟩ :=
    c.read_cases supplier took h now
  · rw [hNext] at hNothing
    cases hNothing
  · rw [hNext] at hNothing
    cases hNothing
  · refine ⟨hGauge, fun later hLater => (h.read now).asked_iff later |>.mpr ?_⟩
    intro value taken hSome
    rw [hLast] at hSome
    exact hDue.later ((c.next supplier took now).forwards.trans hLater) value taken hSome

/-! ## All reads -/

/-- What a read does after some others. -/
structure Contract (supplier : Supplier) (took : Nat → Duration) (timeout : Duration) (c : Course)
    (now : Instant) : Prop where
  /-- The supplier is asked if and only if no answer was given yet, or the last one was given at
  least a time-out ago. -/
  asked_iff : (c.next supplier took now).asked = true ↔ Due timeout c.visits now
  /-- It is asked one question, the next one, and what it answers is shown. -/
  answered : (c.next supplier took now).asked = true →
    (c.next supplier took now).shown = supplier.answer (timesAsked c.visits) ∧
    (c.next supplier took now).finished = now + took (timesAsked c.visits)
  /-- Otherwise the last answer is shown. -/
  served : (c.next supplier took now).asked = false →
    ∃ value taken, lastAnswer? c.visits = some (value, taken) ∧
      (c.next supplier took now).shown = some value
  /-- From an answer to any later question at least a time-out passes. -/
  spaced : (c.read supplier took now).visits.Pairwise (Spaced timeout)
  /-- No value is shown that was given a time-out ago or more. -/
  recent : 0 < timeout → ∀ value, (c.next supplier took now).shown = some value →
    ∃ u ∈ (c.read supplier took now).visits, u.answer? = some (value, u.finished) ∧
      u.finished ≤ (c.next supplier took now).finished ∧
      since u.finished (c.next supplier took now).finished < timeout
  /-- If the supplier breaks off, the gauge is as it was, and the next read asks again. -/
  asked_again : (c.next supplier took now).asked = true →
    (c.next supplier took now).shown = none →
    (c.read supplier took now).gauge = c.gauge ∧
      ∀ later, (c.next supplier took now).finished ≤ later →
        ((c.read supplier took now).next supplier took later).asked = true

/-- Whatever the supplier answers, however long it takes and whenever it breaks off, a read of a
cached gauge keeps to its contract after any reads, if each of them begins when the one before is
over. -/
theorem contract_run (supplier : Supplier) (took : Nat → Duration) (timeout : Duration)
    (instants : List Instant) (now : Instant)
    (hOrder : (Course.run supplier took timeout (instants ++ [now])).visits.IsChain After) :
    Contract supplier took timeout (Course.run supplier took timeout instants) now := by
  have h := remembers_run supplier took timeout instants
  have hTurns := List.isChain_iff_pairwise.mp hOrder
  have hSpaced := spaced_run _ hTurns
  rw [Course.run_concat] at hTurns hSpaced
  exact ⟨h.asked_iff now, h.answered, h.served, hSpaced, fun hPositive _ => h.recent hTurns hPositive,
    h.asked_again⟩

/-- A supplier that takes three nanoseconds is asked for the second time ten nanoseconds after its
first answer, not before; it breaks off, and is asked once more when the next read comes. -/
theorem contract_run_broken_off :
    (Course.run (.ofList [some 1, none, some 2]) (fun _ => 3) 10 ([0, 5, 12] ++ [13])).visits.IsChain
      After ∧
    ((Course.run (.ofList [some 1, none, some 2]) (fun _ => 3) 10 [0, 5, 12]).next
      (.ofList [some 1, none, some 2]) (fun _ => 3) 13).asked = true ∧
    (((Course.run (.ofList [some 1, none, some 2]) (fun _ => 3) 10 [0, 5, 12]).read
      (.ofList [some 1, none, some 2]) (fun _ => 3) 13).next
      (.ofList [some 1, none, some 2]) (fun _ => 3) 16).asked = true := by
  have hOrder : (Course.run (.ofList [some 1, none, some 2]) (fun _ => 3) 10
      ([0, 5, 12] ++ [13])).visits.IsChain After := by decide
  have h := contract_run _ _ _ _ _ hOrder
  exact ⟨hOrder, by decide, (h.asked_again (by decide) (by rfl)).2 16 (by decide)⟩

end CachedGauge

/-! ## A cached gauge among other statistics -/

/-- A cached gauge in the table is read as it is on its own, by a supplier that takes no time, and its
source counts the questions. -/
theorem Statistics.read_cachedGauge {s : Statistics} {id : StatId} {g : CachedGauge}
    {supplier : Supplier} {source : Nat} (hAt : s.get? id = some (.cachedGauge g supplier source))
    (hSource : source < s.asked.length) (now : Instant) :
    let result := g.read now now (supplier.answer (s.timesAsked source))
    (s.read now id).2 = result.2.1.map .gauge ∧
      (s.read now id).1.get? id = some (.cachedGauge result.1 supplier source) ∧
      (s.read now id).1.timesAsked source =
        if result.2.2 then s.timesAsked source + 1 else s.timesAsked source := by
  have hSet : ∀ g' : CachedGauge,
      (s.set id (.cachedGauge g' supplier source)).get? id =
        some (.cachedGauge g' supplier source) := by
    intro g'
    rw [get?_set, if_pos rfl, hAt, Option.map_some]
  have hAsk : (s.ask supplier source).1.timesAsked source = s.timesAsked source + 1 := by
    simp only [ask, timesAsked, List.getD_eq_getElem?_getD, List.getElem?_set_self hSource,
      Option.getD_some]
  cases hFresh : g.fresh? now with
  | some value =>
    have hRead : s.read now id = (s, some (.gauge value)) := by simp only [read, hAt, hFresh]
    simp only [hRead, CachedGauge.read, hFresh]
    exact ⟨rfl, hAt, rfl⟩
  | none =>
    cases hAnswer : supplier.answer (s.timesAsked source) with
    | some value =>
      simp only [read, hAt, CachedGauge.read, hFresh, ask, hAnswer]
      exact ⟨rfl, hSet _, hAsk⟩
    | none =>
      simp only [read, hAt, CachedGauge.read, hFresh, ask, hAnswer]
      exact ⟨rfl, hAt, hAsk⟩

end Metering
