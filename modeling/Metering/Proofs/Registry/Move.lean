import Mathlib.Logic.Relation
import Metering.Proofs.Name.Expansion
import Metering.Proofs.Registry.Change

/-!
# Metering — every operation is a sequence of elementary changes

What one may ask of a registry is taken apart into elementary changes here, once for all
invariants: whatever each `Move` keeps, every operation keeps, whether it succeeds, is refused,
breaks off or changes nothing.

* `IntactIn` — a group whose members are the expansion of its name and whose targets serve them;
* `Move` — the elementary changes with what is known when they happen;
* `obtain_cases`, `obtainAll_serves` — what the making of one metric and of several comes to;
* `metric_moves`, `remove_moves`, … — the operations as sequences of moves.
-/

namespace Metering

/-- A group stands for the expansion of its name, and an instrument of its kind is registered
under each name of the expansion: the one that the group updates in its place. -/
structure Group.IntactIn (g : Group) (r : Registry) (name : String) : Prop where
  marked : Name.isMarked name = true
  expanded : Name.hierarchy name = .ok g.members
  served : List.Forall₂ (r.Serves g.measure.kind) g.members g.targets

/-- The members of a group are what its name stands for. -/
theorem Group.IntactIn.standsFor_eq {g : Group} {r : Registry} {key : String}
    (h : g.IntactIn r key) : Name.standsFor key = g.members :=
  Name.standsFor_of_marked h.expanded h.marked

namespace Registry

/-- All groups are intact. -/
def Grouped (r : Registry) : Prop :=
  ∀ ⦃name g⦄, r.groups.get? name = some g → g.IntactIn r name

/-! ## Elementary changes -/

/-- An elementary change of a registry. -/
inductive Move (r : Registry) : Registry → Prop where
  | told (n : Notice) : Move r (r.tell n)
  | made (name : String) (level : Level) (initial : Statistic)
      (hPlain : Name.isMarked name = false) (hFree : r.records.get? name = none)
      (hBlank : initial.count = 0) : Move r (r.make name level initial).1
  | grouped (name : String) (g : Group) (hIntact : g.IntactIn r name) :
      Move r { r with groups := r.groups.insert name g }
  | ungrouped (name : String) : Move r { r with groups := r.groups.erase name }
  | removed (name : String) : Move r (r.without name)
  | configured (on : Bool) (levels : LevelMap) (trail : List Notice) :
      Move r ({ r with enabled := on, levels := levels, trail := trail } : Registry).refreshed
  | read (statistics : Statistics)
      (hTally : ∀ id, statistics.tally? id = r.statistics.tally? id) :
      Move r { r with statistics := statistics }

/-- A sequence of elementary changes. -/
abbrev Moves : Registry → Registry → Prop := Relation.ReflTransGen Move

/-- What every move keeps, a sequence of moves keeps. -/
theorem Moves.keep {P : Registry → Prop} (hMove : ∀ {r r'}, Move r r' → P r → P r')
    {r r' : Registry} (h : Moves r r') (hP : P r) : P r' := by
  induction h with
  | refl => exact hP
  | tail _ hLast ih => exact hMove hLast ih

variable {r : Registry} {name : String} {level : Level} {kind : Kind} {id : InstrumentId}
  {measure : Measure} {now : Instant}

/-! ## Making metrics -/

/-- A metric that is to be made has the kind that is asked for and has counted nothing. -/
theorem blank_spec {initial : Statistic} (h : r.blank now measure = some initial) :
    initial.kind = measure.kind ∧ initial.count = 0 := by
  cases measure with
  | counter | meter =>
    rw [← Option.some.inj h]
    exact ⟨rfl, rfl⟩
  | histogram | timer =>
    rw [blank] at h
    split at h
    · rw [← Option.some.inj h]
      exact ⟨rfl, rfl⟩
    · cases h

/-- Whoever asks for a metric is refused, gets the one that is registered, or a new one. -/
theorem obtain_cases (r : Registry) (name : String) (kind : Kind) (level : Level)
    (initial : Option Statistic) :
    (∃ failure, r.obtain name kind level initial = (r, .error failure)) ∨
    (∃ id i, r.obtain name kind level initial = (r, .ok id) ∧ Name.isMarked name = false ∧
      r.records.get? name = some id ∧ r.instrument? id = some i ∧ i.kind = kind ∧
      i.level = level) ∨
    (∃ s, r.obtain name kind level initial =
        ((r.make name level s).1, .ok r.instruments.length) ∧ Name.isMarked name = false ∧
      r.records.get? name = none ∧ initial = some s) := by
  unfold obtain
  split
  · exact .inl ⟨_, rfl⟩
  · next hPlain =>
    have hPlain : Name.isMarked name = false := Bool.eq_false_iff.mpr hPlain
    split
    · next id hRecord =>
      cases hAt : r.instrument? id with
      | none => exact .inl ⟨_, rfl⟩
      | some i =>
        simp only [Option.elim_some, agree]
        split
        · next hAgree =>
          split at hAgree
          · cases hAgree
          · next hKind =>
            split at hAgree
            · cases hAgree
            · next hLevel =>
              exact .inr (.inl ⟨id, i, rfl, hPlain, hRecord, hAt, not_not.mp hKind,
                not_not.mp hLevel⟩)
        · exact .inl ⟨_, rfl⟩
    · next hFree =>
      cases hInitial : initial with
      | none => exact .inl ⟨_, rfl⟩
      | some s => exact .inr (.inr ⟨s, rfl, hPlain, hFree, rfl⟩)

theorem obtain_moves {initial : Option Statistic}
    (hBlank : ∀ s, initial = some s → s.count = 0) :
    Moves r (r.obtain name kind level initial).1 := by
  rcases obtain_cases r name kind level initial with
    ⟨failure, h⟩ | ⟨id, i, h, -⟩ | ⟨s, h, hPlain, hFree, hInitial⟩
  · rw [h]
  · rw [h]
  · rw [h]
    exact .single (.made name level s hPlain hFree (hBlank s hInitial))

/-- A metric that was got has the kind that was asked for and is registered under its name. -/
theorem obtain_serves {initial : Option Statistic} {r' : Registry}
    (hKind : ∀ s, initial = some s → s.kind = kind)
    (h : r.obtain name kind level initial = (r', .ok id)) :
    Name.isMarked name = false ∧ r'.Serves kind name id := by
  rcases obtain_cases r name kind level initial with
    ⟨failure, hRefused⟩ | ⟨found, i, hFound, hPlain, hRecord, hAt, hIs, -⟩ |
    ⟨s, hMade, hPlain, hFree, hInitial⟩
  · rw [hRefused] at h
    cases h
  · rw [hFound] at h
    cases h
    exact ⟨hPlain, hRecord, i, hAt, hIs⟩
  · rw [hMade] at h
    cases h
    refine ⟨hPlain, ?_⟩
    rw [← hKind s hInitial]
    exact serves_make_self

/-- Whoever serves under a name goes on to do so when others are asked for. -/
theorem Serves.obtain (h : r.Serves kind name id) (other : String) (wanted : Kind)
    (level : Level) (initial : Option Statistic) :
    (r.obtain other wanted level initial).1.Serves kind name id := by
  rcases obtain_cases r other wanted level initial with
    ⟨failure, hRefused⟩ | ⟨found, i, hFound, -⟩ | ⟨s, hMade, -, hFree, -⟩
  · rw [hRefused]
    exact h
  · rw [hFound]
    exact h
  · rw [hMade]
    exact h.make hFree

/-- What the making of one metric keeps, the making of several keeps, as far as it gets. -/
theorem obtainAll_keeps {P : Registry → Prop}
    (hObtain : ∀ {r} name level, P r →
      P (r.obtain name measure.kind level (r.blank now measure)).1)
    (requests : List (String × Level)) (h : P r) : P (r.obtainAll now measure requests).1 := by
  induction requests generalizing r with
  | nil => exact h
  | cons request rest ih =>
    obtain ⟨name, level⟩ := request
    have hFirst := hObtain name level h
    rw [obtainAll]
    split
    · next r₁ failure h₁ => rw [h₁] at hFirst; exact hFirst
    · next r₁ id h₁ =>
      rw [h₁] at hFirst
      have hRest := ih hFirst
      split
      · next r₂ failure h₂ => rw [h₂] at hRest; exact hRest
      · next r₂ ids h₂ => rw [h₂] at hRest; exact hRest

theorem obtainAll_moves (now : Instant) (measure : Measure) (requests : List (String × Level))
    (r : Registry) : Moves r (r.obtainAll now measure requests).1 :=
  obtainAll_keeps (P := Moves r)
    (fun _ _ h => h.trans (obtain_moves fun _ hs => (blank_spec hs).2)) requests .refl

theorem Serves.obtainAll (now : Instant) (measure : Measure) (requests : List (String × Level))
    (h : r.Serves kind name id) :
    (r.obtainAll now measure requests).1.Serves kind name id :=
  obtainAll_keeps (P := fun r => r.Serves kind name id)
    (fun other level h => h.obtain other measure.kind level _) requests h

/-- Metrics that were got together are registered under their names, one for one. -/
theorem obtainAll_serves {requests : List (String × Level)} {r' : Registry}
    {ids : List InstrumentId} (h : r.obtainAll now measure requests = (r', .ok ids)) :
    List.Forall₂ (r'.Serves measure.kind) (requests.map Prod.fst) ids := by
  -- by induction on what is asked for; what was got first is still there when the rest is got
  induction requests generalizing r r' ids with
  | nil =>
    cases h
    exact .nil
  | cons request rest ih =>
    rw [obtainAll] at h
    split at h
    · cases h
    · next r₁ id h₁ =>
      split at h
      · cases h
      · next r₂ more h₂ =>
        cases h
        have hFirst : r₁.Serves measure.kind request.1 id :=
          (obtain_serves (fun s hs => (blank_spec hs).1) h₁).2
        have hStill := hFirst.obtainAll now measure rest
        rw [h₂] at hStill
        exact .cons hStill (ih h₂)

/-- Whoever asks for a group is refused, gets the one that is there, or a new one whose members
were got before it was entered. -/
theorem group_cases (r : Registry) (now : Instant) (measure : Measure) (name : String)
    (levels : List Level) :
    (∃ r' failure, r.group now measure name levels = (r', .error failure) ∧ Moves r r') ∨
    (∃ g, r.group now measure name levels = (r, .ok ⟨measure.kind, g.targets⟩) ∧
      r.groups.get? name = some g ∧ g.measure = measure) ∨
    (∃ r' members targets, r.group now measure name levels =
        (({ r' with groups := r'.groups.insert name ⟨measure, members, targets⟩ } : Registry).tell
          (.grouped measure.kind name members), .ok ⟨measure.kind, targets⟩) ∧
      Moves r r' ∧ Name.hierarchy name = .ok members ∧ members.length = levels.length ∧
      List.Forall₂ (r'.Serves measure.kind) members targets) := by
  rw [group]
  split
  · exact .inl ⟨_, _, rfl, .refl⟩
  · next members hMembers =>
    split
    · exact .inl ⟨_, _, rfl, .refl⟩
    · next hLength =>
      split
      · next g hGroup =>
        split
        · next hMeasure => exact .inr (.inl ⟨g, rfl, hGroup, hMeasure⟩)
        · exact .inl ⟨_, _, rfl, .refl⟩
      · have hMoves := obtainAll_moves now measure (members.zip levels) r
        split
        · next r' failure h =>
          rw [h] at hMoves
          exact .inl ⟨_, _, rfl, hMoves⟩
        · next r' targets h =>
          rw [h] at hMoves
          have hServes := obtainAll_serves h
          rw [List.map_fst_zip (Nat.le_of_eq (not_not.mp hLength))] at hServes
          exact .inr (.inr ⟨r', members, targets, rfl, hMoves, hMembers, not_not.mp hLength,
            hServes⟩)

/-- A group that is asked for with levels for ancestors has a marked name. -/
theorem group_moves {levels : List Level} (hLevels : 1 < levels.length) :
    Moves r (r.group now measure name levels).1 := by
  rcases group_cases r now measure name levels with
    ⟨r', failure, h, hMoves⟩ | ⟨g, h, -⟩ |
    ⟨r', members, targets, h, hMoves, hMembers, hLength, hServes⟩
  · rw [h]
    exact hMoves
  · rw [h]
  · rw [h]
    have hIntact : Group.IntactIn ⟨measure, members, targets⟩ r' name :=
      ⟨Name.isMarked_of_hierarchy hMembers (hLength ▸ hLevels), hMembers, hServes⟩
    exact (hMoves.tail (.grouped name _ hIntact)).tail (.told _)

theorem single_fst (kind : Kind) (outcome : Registry × Except Failure InstrumentId) :
    (single kind outcome).1 = outcome.1 := by
  obtain ⟨r, result⟩ := outcome
  cases result <;> rfl

/-- What the making of one metric and the entry of a group keep, a request for a metric keeps,
however it ends. -/
theorem metric_keeps {P : Registry → Prop}
    (hObtain : ∀ {r} name level, P r →
      P (r.obtain name measure.kind level (r.blank now measure)).1)
    (hEnter : ∀ {r} groups n, P r → P (({ r with groups := groups } : Registry).tell n))
    (name : String) (level : Level) (ancestors : List Level) (h : P r) :
    P (r.metric now measure name level ancestors).1 := by
  rw [metric]
  split
  · rw [single_fst]
    exact hObtain name level h
  · rw [group]
    split
    · exact h
    · next members _ =>
      split
      · exact h
      · split
        · split <;> exact h
        · have hAll := obtainAll_keeps hObtain (members.zip (level :: ancestors)) h
          split
          · next r' failure hRefused =>
            rw [hRefused] at hAll
            exact hAll
          · next r' targets hMade =>
            rw [hMade] at hAll
            exact hEnter _ _ hAll

theorem metric_moves (r : Registry) (now : Instant) (measure : Measure) (name : String)
    (level : Level) (ancestors : List Level) :
    Moves r (r.metric now measure name level ancestors).1 := by
  rw [metric]
  split
  · rw [single_fst]
    exact obtain_moves fun s hs => (blank_spec hs).2
  · next hAncestors =>
    refine group_moves ?_
    rw [List.isEmpty_iff] at hAncestors
    rw [List.length_cons]
    exact Nat.succ_lt_succ (List.length_pos_iff.mpr hAncestors)

theorem gauge_moves (r : Registry) (name : String) (level : Level) (supplier : Supplier)
    (source : Nat) : Moves r (r.gauge name level supplier source).1 := by
  rw [gauge, single_fst]
  refine obtain_moves fun s hs => ?_
  rw [← Option.some.inj hs]
  rfl

theorem cachedGauge_moves (r : Registry) (name : String) (level : Level) (timeout : Duration)
    (supplier : Supplier) (source : Nat) :
    Moves r (r.cachedGauge name level timeout supplier source).1 := by
  rw [cachedGauge, single_fst]
  refine obtain_moves fun s hs => ?_
  rw [← Option.some.inj hs]
  rfl

/-! ## Removing metrics -/

theorem removeMetric_moves (r : Registry) (name : String) : Moves r (r.removeMetric name).1 := by
  rw [removeMetric_eq]
  split
  · exact .single (.removed name)
  · exact .refl

theorem removeAll_moves (names : List String) (r : Registry) : Moves r (r.removeAll names).1 := by
  induction names generalizing r with
  | nil => exact .refl
  | cons name rest ih => exact (removeMetric_moves r name).trans (ih _)

theorem remove_moves (r : Registry) (name : String) : Moves r (r.remove name).1 := by
  rw [remove]
  split
  · split
    · exact .refl
    · next members _ =>
      have hMoves := (Relation.ReflTransGen.single (.ungrouped name)).trans
        (removeAll_moves members { r with groups := r.groups.erase name })
      simp only
      split
      · exact hMoves.tail (.told _)
      · exact hMoves
  · exact removeMetric_moves r name

/-! ## Configuring what counts -/

theorem setEnabled_moves (r : Registry) (on : Bool) : Moves r (r.setEnabled on).1 := by
  rw [setEnabled]
  split
  · exact .refl
  · exact .single (.configured on r.levels (r.trail ++ [.switched on]))

theorem setRoot_moves (r : Registry) (level : Level) : Moves r (r.setRoot level).1 := by
  simp only [setRoot]
  split
  · exact .refl
  · exact .single (.configured r.enabled (r.levels.setRoot level)
      (r.trail ++ [.rootChanged r.levels.root level]))

theorem setLevel_moves (r : Registry) (name : String) (level : Level) :
    Moves r (r.setLevel name level).1 := by
  simp only [setLevel]
  split
  · split
    · exact .refl
    · exact .single (.configured r.enabled (r.levels.set name level)
        (r.trail ++ [.levelChanged name (r.levels.level? name) level]))
  · exact .refl

/-! ## Reading -/

theorem addSource_moves (r : Registry) : Moves r r.addSource.1 :=
  .single (.read r.statistics.addSource.1 fun _ => rfl)

theorem reading_moves (r : Registry) (now : Instant) (h : Handle) :
    Moves r (r.reading now h).1 := by
  rw [reading]
  split
  · next id _ =>
    exact .single (.read (r.statistics.read now id).1 (Statistics.tally?_read _ now id))
  · exact .refl

theorem samples_moves (r : Registry) (now : Instant) (accepts : String → Bool) :
    Moves r (r.samples now accepts).1 :=
  .single (.read (r.statistics.readAll now (r.store.passing accepts)).1
    (Statistics.tally?_readAll _ now _))

end Registry

end Metering
