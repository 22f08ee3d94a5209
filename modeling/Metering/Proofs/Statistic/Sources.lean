import Mathlib.Data.List.Forall2
import Metering.Proofs.Statistic.Tally

/-!
# Metering — who is asked for the values of gauges

To read a gauge is to ask its source, and how often a source was asked decides what it answers. As
no two gauges share a source, the order in which statistics are read makes no difference to what
they show.

* `Statistic.source?`, `Statistics.sourceAt?` — the source that a statistic asks;
* `Sourced` — the sources are there, and no two statistics share one;
* `Sourced.add`, `Sourced.read` — what keeps it so;
* `Sourced.read_read` — a reading of one statistic does not show in a reading of another;
* `Sourced.readAll_cases` — statistics that are read one after the other show what each of them
  shows when it is read at once.
-/

namespace Metering

/-- The source that a statistic asks for its value. Only gauges have one. -/
def Statistic.source? : Statistic → Option Nat
  | gauge _ source | cachedGauge _ _ source => some source
  | _ => none

theorem Statistic.source?_updated (s : Statistic) (now : Instant) (u : Update) :
    (s.updated now u).source? = s.source? := by
  cases s <;> cases u <;> rfl

namespace Statistics

variable {s : Statistics} {id other : StatId} {now : Instant}

/-- The source of the statistic at a place. -/
def sourceAt? (s : Statistics) (id : StatId) : Option Nat := (s.get? id).bind Statistic.source?

theorem sourceAt?_of_some {stat : Statistic} (h : s.get? id = some stat) :
    s.sourceAt? id = stat.source? := by
  rw [sourceAt?, h, Option.bind_some]

theorem sourceAt?_add (s : Statistics) (stat : Statistic) (id : StatId) :
    (s.add stat).1.sourceAt? id =
      if id = s.table.length then stat.source? else s.sourceAt? id := by
  split
  · next hSelf =>
    rw [hSelf]
    exact sourceAt?_of_some (get?_add_self s stat)
  · next hOther => rw [sourceAt?, get?_add_of_ne s stat hOther, sourceAt?]

/-- A statistic that gives way to one of the same source leaves all sources as they were. -/
theorem sourceAt?_set {old new : Statistic} (hOld : s.get? id = some old)
    (h : new.source? = old.source?) (other : StatId) :
    (s.set id new).sourceAt? other = s.sourceAt? other := by
  rw [sourceAt?, get?_set]
  split
  · next hSelf => rw [hOld, hSelf, Option.map_some, Option.bind_some, h, sourceAt?_of_some hOld]
  · rfl

/-! ## The invariant -/

/-- Every source that a statistic asks is there, and no two statistics ask the same one. -/
structure Sourced (s : Statistics) : Prop where
  known : ∀ {id n}, s.sourceAt? id = some n → n < s.asked.length
  apart : ∀ {id other n}, s.sourceAt? id = some n → s.sourceAt? other = some n → id = other

theorem sourced_empty : Sourced empty where
  known h := by cases h
  apart h := by cases h

theorem Sourced.of_eq {s' : Statistics} (h : Sourced s)
    (hSource : ∀ id, s'.sourceAt? id = s.sourceAt? id)
    (hAsked : s.asked.length ≤ s'.asked.length) : Sourced s' where
  known := by
    intro id n hn
    rw [hSource] at hn
    exact Nat.lt_of_lt_of_le (h.known hn) hAsked
  apart := by
    intro id other n hn hn'
    rw [hSource] at hn hn'
    exact h.apart hn hn'

/-- A statistic may come if its source is there and has no statistic yet. -/
theorem Sourced.add {stat : Statistic} (h : Sourced s)
    (hSource : ∀ n, stat.source? = some n → n < s.asked.length ∧ ∀ id, s.sourceAt? id ≠ some n) :
    Sourced (s.add stat).1 where
  known := by
    intro id n hn
    rw [sourceAt?_add] at hn
    split at hn
    · exact (hSource n hn).1
    · exact h.known hn
  apart := by
    intro id other n hn hn'
    rw [sourceAt?_add] at hn hn'
    split at hn
    · next hSelf =>
      split at hn'
      · next hSelf' => rw [hSelf, hSelf']
      · exact absurd hn' ((hSource n hn).2 other)
    · split at hn'
      · exact absurd hn ((hSource n hn').2 id)
      · exact h.apart hn hn'

/-- A source that was just handed in has no statistic yet. -/
theorem Sourced.addSource (h : Sourced s) :
    Sourced s.addSource.1 ∧ s.addSource.2 < s.addSource.1.asked.length ∧
      ∀ id, s.addSource.1.sourceAt? id ≠ some s.addSource.2 := by
  have hLength : s.addSource.1.asked.length = s.asked.length + 1 := by
    show (s.asked ++ [0]).length = _
    rw [List.length_append, List.length_singleton]
  have hSame : ∀ id, s.addSource.1.sourceAt? id = s.sourceAt? id := fun _ => rfl
  refine ⟨h.of_eq hSame (by omega), ?_, ?_⟩
  · show s.asked.length < _
    omega
  · intro id hn
    rw [hSame] at hn
    exact absurd (h.known hn) (Nat.lt_irrefl _)

/-! ## What reading leaves alone -/

theorem length_asked_ask (s : Statistics) (supplier : Supplier) (source : Nat) :
    (s.ask supplier source).1.asked.length = s.asked.length := by
  show (s.asked.set source _).length = _
  rw [List.length_set]

theorem timesAsked_ask_of_ne {source n : Nat} (h : n ≠ source) (s : Statistics)
    (supplier : Supplier) : (s.ask supplier source).1.timesAsked n = s.timesAsked n := by
  show (s.asked.set source _).getD n 0 = s.asked.getD n 0
  rw [List.getD_eq_getElem?_getD, List.getD_eq_getElem?_getD, List.getElem?_set_ne (Ne.symm h)]

/-- What a reading does to the table and to the questions: the statistic that is read may give way to
one of the same source, and no other source is asked. -/
theorem read_spec (s : Statistics) (now : Instant) (id : StatId) :
    (∀ other, other ≠ id → (s.read now id).1.get? other = s.get? other) ∧
    (∀ other, (s.read now id).1.sourceAt? other = s.sourceAt? other) ∧
    (s.read now id).1.asked.length = s.asked.length ∧
    ∀ n, s.sourceAt? id ≠ some n → (s.read now id).1.timesAsked n = s.timesAsked n := by
  have hKept : ∀ new old : Statistic, s.get? id = some old → new.source? = old.source? →
      (∀ other, other ≠ id → (s.set id new).get? other = s.get? other) ∧
      (∀ other, (s.set id new).sourceAt? other = s.sourceAt? other) ∧
      (s.set id new).asked.length = s.asked.length ∧
      ∀ n, s.sourceAt? id ≠ some n → (s.set id new).timesAsked n = s.timesAsked n := by
    intro new old hAt hSource
    refine ⟨fun other hOther => ?_, sourceAt?_set hAt hSource, rfl, fun n _ => rfl⟩
    rw [get?_set, if_neg hOther]
  have hAsked : ∀ (supplier : Supplier) (source : Nat), s.sourceAt? id = some source →
      ∀ n, s.sourceAt? id ≠ some n →
        (s.ask supplier source).1.timesAsked n = s.timesAsked n := by
    intro supplier source hSource n hn
    refine timesAsked_ask_of_ne (fun hSame => hn ?_) s supplier
    rw [hSource, hSame]
  rw [read]
  split
  · exact ⟨fun _ _ => rfl, fun _ => rfl, rfl, fun _ _ => rfl⟩
  · exact ⟨fun _ _ => rfl, fun _ => rfl, rfl, fun _ _ => rfl⟩
  · next m hAt => exact hKept _ _ hAt rfl
  · exact ⟨fun _ _ => rfl, fun _ => rfl, rfl, fun _ _ => rfl⟩
  · next t hAt => exact hKept _ _ hAt rfl
  · next supplier source hAt =>
    refine ⟨fun _ _ => rfl, fun _ => rfl, length_asked_ask s supplier source, ?_⟩
    exact hAsked supplier source (sourceAt?_of_some hAt)
  · next g supplier source hAt =>
    split
    · exact ⟨fun _ _ => rfl, fun _ => rfl, rfl, fun _ _ => rfl⟩
    · have hCount := hAsked supplier source (sourceAt?_of_some hAt)
      simp only
      split
      · next value _ =>
        -- asking leaves the table alone, so the gauge is still where it was
        obtain ⟨hGet, hSource, -, -⟩ :=
          hKept (.cachedGauge (g.refreshed now value) supplier source) _ hAt rfl
        exact ⟨hGet, hSource, length_asked_ask s supplier source, hCount⟩
      · exact ⟨fun _ _ => rfl, fun _ => rfl, length_asked_ask s supplier source, hCount⟩

theorem Sourced.read (h : Sourced s) (now : Instant) (id : StatId) :
    Sourced (s.read now id).1 := by
  obtain ⟨-, hSource, hLength, -⟩ := read_spec s now id
  exact h.of_eq hSource (Nat.le_of_eq hLength.symm)

theorem Sourced.readAll (entries : List (String × StatId)) (h : Sourced s) (now : Instant) :
    Sourced (s.readAll now entries).1 := by
  induction entries generalizing s with
  | nil => exact h
  | cons e rest ih =>
    have hFirst := h.read now e.2
    rw [Statistics.readAll]
    split
    · next hNone =>
      rw [hNone] at hFirst
      exact hFirst
    · next hSome =>
      rw [hSome] at hFirst
      exact ih hFirst

/-! ## What is shown -/

/-- What a statistic shows depends on itself and on how often its source was asked. -/
theorem read_congr {s' : Statistics} (hAt : s'.get? id = s.get? id)
    (hAsked : ∀ n, s.sourceAt? id = some n → s'.timesAsked n = s.timesAsked n) :
    (s'.read now id).2 = (s.read now id).2 := by
  cases hStat : s.get? id with
  | none =>
    rw [hStat] at hAt
    simp only [Statistics.read, hAt, hStat]
  | some stat =>
    rw [hStat] at hAt
    rw [sourceAt?_of_some hStat] at hAsked
    cases stat with
    | counter | meter | histogram | timer => simp only [Statistics.read, hAt, hStat]
    | gauge supplier source =>
      have hSame := hAsked source rfl
      simp only [Statistics.read, hAt, hStat, ask, hSame]
    | cachedGauge g supplier source =>
      have hSame := hAsked source rfl
      simp only [Statistics.read, hAt, hStat, ask, hSame]
      cases g.fresh? now with
      | some value => rfl
      | none => cases supplier.answer (s.timesAsked source) <;> rfl

/-- A reading of one statistic does not show in a reading of another one. -/
theorem Sourced.read_read (h : Sourced s) (hOther : other ≠ id) (now : Instant) :
    ((s.read now id).1.read now other).2 = (s.read now other).2 := by
  obtain ⟨hGet, -, -, hAsked⟩ := read_spec s now id
  refine read_congr (hGet other hOther) fun n hn => hAsked n fun hSame => ?_
  exact hOther (h.apart hn hSame)

/-- Statistics that are read one after the other show what each of them shows when it is read at
once. There is nothing to be had if one of them shows nothing. -/
theorem Sourced.readAll_cases {entries : List (String × StatId)}
    (hApart : (entries.map Prod.snd).Nodup) (h : Sourced s) (now : Instant) :
    (∃ samples, (s.readAll now entries).2 = some samples ∧
      List.Forall₂ (fun (e : String × StatId) (sample : Sample) =>
        sample.name = e.1 ∧ (s.read now e.2).2 = some sample.reading) entries samples) ∨
    ((s.readAll now entries).2 = none ∧ ∃ e ∈ entries, (s.read now e.2).2 = none) := by
  -- by induction on the statistics, of which the rest is read after the first
  induction entries generalizing s with
  | nil => exact .inl ⟨[], rfl, .nil⟩
  | cons e rest ih =>
    rw [List.map_cons, List.nodup_cons] at hApart
    have hSame : ∀ d ∈ rest, ((s.read now e.2).1.read now d.2).2 = (s.read now d.2).2 := by
      intro d hd
      refine h.read_read (fun hPlace => ?_) now
      exact hApart.1 (hPlace ▸ List.mem_map_of_mem hd)
    have hRest := ih hApart.2 (h.read now e.2)
    rw [Statistics.readAll]
    cases hRead : s.read now e.2 with
    | mk s' shown =>
      have hShown : (s.read now e.2).2 = shown := by rw [hRead]
      rw [hRead] at hRest hSame
      cases shown with
      | none => exact .inr ⟨rfl, e, List.mem_cons_self, hShown⟩
      | some reading =>
        rcases hRest with ⟨samples, hSamples, hAll⟩ | ⟨hNone, d, hd, hSilent⟩
        · refine .inl ⟨⟨e.1, reading⟩ :: samples, ?_, .cons ⟨rfl, hShown⟩ ?_⟩
          · show (s'.readAll now rest).2.map _ = _
            rw [hSamples, Option.map_some]
          · refine List.forall₂_iff_zip.mpr ⟨hAll.length_eq, fun {d sample} hPair => ?_⟩
            obtain ⟨hName, hReading⟩ := List.forall₂_zip hAll hPair
            rw [hSame d (List.of_mem_zip hPair).1] at hReading
            exact ⟨hName, hReading⟩
        · refine .inr ⟨?_, d, List.mem_cons_of_mem _ hd, ?_⟩
          · show (s'.readAll now rest).2.map _ = _
            rw [hNone, Option.map_none]
          · rw [hSame d hd] at hSilent
            exact hSilent

end Statistics

end Metering
