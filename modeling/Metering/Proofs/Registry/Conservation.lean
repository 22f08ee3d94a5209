import Metering.Proofs.Registry.Usage

/-!
# Metering — no update is lost or counted twice

An update may reach an instrument through its own handle or through that of any group it belongs
to; the groups may overlap, and the instrument may be switched off and on, removed, and replaced
under its name while its handles are still in use. Whatever happens, its count is the total of
what it was told while it counted.

* `Usage.credit`, `Usage.credits` — what a request and a run add to the total of an instrument;
* `Tallied` — the counts of all instruments are their totals in 64 bits;
* `Tallied.move`, `Tallied.update`, `Tallied.perform` — every request moves the counts by what it
  adds to the totals;
* `counts_conserved_run` — so the counts after a run are the totals over the run.
-/

namespace Metering

/-! ## Totals -/

/-- Whether the instrument at a place counts. -/
def Registry.isOn (r : Registry) (id : InstrumentId) : Bool :=
  (r.instrument? id).any Instrument.enabled

/-- What a request adds to the total of an instrument: the amount of an update, if the instrument
counts and is one of those behind the name of the handle that the update is told to. -/
def Usage.credit (u : Usage) (id : InstrumentId) : Request → Int
  | .tell place up =>
    match u.taker? place up with
    | some held => if id ∈ held.members ∧ u.registry.isOn id = true then up.amount else 0
    | none => 0
  | _ => 0

/-- What a run adds to the total of an instrument. -/
def Usage.credits (u : Usage) (id : InstrumentId) : List (Instant × Request) → Int
  | [] => 0
  | (now, q) :: rest => u.credit id q + (u.perform now q).credits id rest

namespace Registry

variable {r r' : Registry} {ledger : InstrumentId → Int}

/-- The count of every instrument is its total in 64 bits; instruments that are still to be made
have none. -/
structure Tallied (r : Registry) (ledger : InstrumentId → Int) : Prop where
  told : ∀ {id i}, r.instrument? id = some i →
    r.statistics.tally? i.statistic = some (i.kind, i.kind.wrapped (ledger id))
  untold : ∀ {id}, r.instrument? id = none → ledger id = 0

theorem tallied_new (levels : LevelMap) (window : Window) (on : Bool) :
    Tallied (new levels window on) fun _ => 0 where
  told h := by cases h
  untold _ := rfl

/-! ## Requests that tell nothing -/

/-- A new instrument has counted nothing, and its total is still nothing. -/
theorem Tallied.make {initial : Statistic} (h : Tallied r ledger) (hBlank : initial.count = 0)
    (name : String) (level : Level) : Tallied (r.make name level initial).1 ledger where
  told := by
    intro id i hAt
    rw [statistics_make]
    rcases instrument?_make_cases hAt with hOld | ⟨rfl, rfl⟩
    · exact Statistics.tally?_add_of_some (h.told hOld) initial
    · have hNone : r.instrument? r.instruments.length = none :=
        List.getElem?_eq_none (Nat.le_refl _)
      show (r.statistics.add initial).1.tally? r.statistics.table.length =
        some (initial.kind, initial.kind.wrapped (ledger r.instruments.length))
      rw [Statistics.tally?_add_self, h.untold hNone, Kind.wrapped_zero, Statistic.tally, hBlank]
  untold := by
    intro id hNone
    rw [instrument?_make] at hNone
    split at hNone
    · cases hNone
    · exact h.untold hNone

theorem Tallied.refreshed (h : Tallied r ledger) : Tallied r.refreshed ledger where
  told := by
    intro id i hAt
    obtain ⟨was, hWas⟩ := instrument?_of_refreshed hAt
    have hTold := h.told hWas
    rw [refreshed_eq]
    exact hTold
  untold := by
    intro id hNone
    obtain ⟨on, hOn⟩ := instrument?_refreshed r id
    rw [hOn, Option.map_eq_none_iff] at hNone
    exact h.untold hNone

theorem Tallied.move (hMove : Move r r') (h : Tallied r ledger) : Tallied r' ledger := by
  cases hMove with
  | made name level initial _ _ hBlank => exact h.make hBlank name level
  | configured on levels trail =>
    have hConfigured : Tallied { r with enabled := on, levels := levels, trail := trail } ledger :=
      ⟨h.told, h.untold⟩
    exact hConfigured.refreshed
  | read statistics hTally => exact ⟨fun hAt => (hTally _).trans (h.told hAt), h.untold⟩
  | told | grouped | ungrouped | removed => exact ⟨h.told, h.untold⟩

theorem Tallied.moves (hMoves : Moves r r') (h : Tallied r ledger) : Tallied r' ledger :=
  hMoves.keep (P := fun r => r.Tallied ledger) Tallied.move h

/-! ## Updates -/

theorem isOn_of_some {id : InstrumentId} {i : Instrument} (hAt : r.instrument? id = some i) :
    r.isOn id = i.enabled := by
  rw [isOn, hAt, Option.any_some]

/-- An update moves the counts of the instruments of a handle that count by its amount, provided
that each is named once by the handle and is of the kind that the update is for. -/
theorem Tallied.update {handle : Handle} {up : Update} (hSound : Sound r) (h : Tallied r ledger)
    (hApart : handle.targets.Nodup)
    (hKinds : ∀ id ∈ handle.targets, ∀ i, r.instrument? id = some i → up.measure.kind = i.kind)
    (now : Instant) :
    Tallied (r.update now handle up) fun id =>
      ledger id + if id ∈ handle.targets ∧ r.isOn id = true then up.amount else 0 where
  told := by
    intro id i hAt
    rw [update_eq] at hAt
    have hWas : r.instrument? id = some i := hAt
    rw [tally?_update hApart hSound hWas, isOn_of_some hWas, h.told hWas]
    split
    · next hReached =>
      have hKind := hKinds id hReached.1 i hWas
      rw [Option.map_some, Update.moved, if_pos hKind, Kind.wrapped_wrapped_add]
    · rw [Int.add_zero]
  untold := by
    intro id hNone
    rw [update_eq] at hNone
    have hWas : r.instrument? id = none := hNone
    have hOff : r.isOn id = false := by rw [isOn, hWas, Option.any_none]
    rw [h.untold hWas, hOff]
    simp

/-- What one reads is the count of a tally. -/
theorem Tallied.count_eq (h : Tallied r ledger) {id : InstrumentId} {i : Instrument}
    (hAt : r.instrument? id = some i) :
    (r.statistics.get? i.statistic).map Statistic.count = some (i.kind.wrapped (ledger id)) := by
  obtain ⟨s, hStat, hTally⟩ := Option.map_eq_some_iff.mp (h.told hAt)
  rw [hStat, Option.map_some]
  exact congrArg some (Prod.mk.inj hTally).2

end Registry

/-! ## Runs -/

namespace Usage

variable {u : Usage} {ledger : InstrumentId → Int}

/-- Every request moves the counts of all instruments by what it adds to their totals. -/
theorem tallied_perform (hValid : Valid u) (h : u.registry.Tallied ledger) (now : Instant)
    (q : Request) :
    (u.perform now q).registry.Tallied fun id => ledger id + u.credit id q := by
  by_cases hTell : ∃ place up, q = .tell place up
  · obtain ⟨place, up, rfl⟩ := hTell
    cases hTaker : u.taker? place up with
    | none =>
      rw [perform_tell_none hTaker]
      simp only [credit, hTaker, Int.add_zero]
      exact h
    | some held =>
      obtain ⟨hMem, hKind⟩ := taker?_eq_some hTaker
      have hReaches : held.Reaches u.registry := hValid.held held hMem
      have hApart : held.handle.targets.Nodup := by
        rw [hReaches.targets]
        exact hReaches.apart
      have hKinds : ∀ id ∈ held.handle.targets, ∀ i, u.registry.instrument? id = some i →
          up.measure.kind = i.kind := by
        intro id hTarget i hAt
        rw [hReaches.targets] at hTarget
        exact hReaches.kind_of_mem hKind hTarget hAt
      have hTold := h.update hValid.sound hApart hKinds now
      rw [perform_tell_some hTaker]
      simp only [credit, hTaker, ← hReaches.targets]
      exact hTold
  · -- nothing is told, so there is nothing to add
    have hNot : ∀ place up, q ≠ .tell place up := fun place up hEq => hTell ⟨place, up, hEq⟩
    have hNothing : ∀ id, u.credit id q = 0 := by
      intro id
      cases q with
      | tell place up => exact absurd rfl (hNot place up)
      | _ => rfl
    simp only [hNothing, Int.add_zero]
    exact h.moves (moves_perform u now hNot)

/-- Every run moves the counts of all instruments by what it adds to their totals. -/
theorem tallied_run (hValid : Valid u) (h : u.registry.Tallied ledger)
    (steps : List (Instant × Request)) :
    (u.run steps).registry.Tallied fun id => ledger id + u.credits id steps := by
  -- by induction on the requests, with any totals to begin with
  induction steps generalizing u ledger with
  | nil =>
    simp only [credits, Int.add_zero]
    exact h
  | cons step rest ih =>
    obtain ⟨now, q⟩ := step
    have hRest := ih (hValid.perform now q) (tallied_perform hValid h now q)
    simp only [credits, ← Int.add_assoc]
    exact hRest

/-- After every run the count of each instrument that was ever made is the total of what it was
told while it counted, in 64 bits: the amounts of all updates to its own handle and to those of
the groups it belongs to, each once. A handle reaches the instruments behind its name in the
order of the names, none twice, and reads the first of them alone. -/
theorem counts_conserved_run (levels : LevelMap) (window : Window) (on : Bool)
    (steps : List (Instant × Request)) :
    let u := (start levels window on).run steps
    let total := fun id => (start levels window on).credits id steps
    -- the counts of all instruments
    (∀ id i, u.registry.instrument? id = some i →
      (u.registry.statistics.get? i.statistic).map Statistic.count =
        some (i.kind.wrapped (total id))) ∧
    -- what a handle reaches
    (∀ held ∈ u.holdings, held.handle.targets = held.members ∧ held.members.Nodup ∧
      List.Forall₂ (u.registry.IsFor held.handle.kind) (Name.standsFor held.name)
        held.members) ∧
    -- what a handle reads
    ∀ held ∈ u.holdings, ∃ primary i,
      held.members.head? = some primary ∧ u.registry.instrument? primary = some i ∧
      (Name.standsFor held.name).head? = some i.name ∧
      u.registry.statId? held.handle = some i.statistic ∧
      (u.registry.statistic? held.handle).map Statistic.count =
        some (i.kind.wrapped (total primary)) := by
  intro u total
  have hValid : Valid u := valid_run levels window on steps
  have hTallied : u.registry.Tallied total := by
    have hRun := tallied_run (valid_start levels window on)
      (Registry.tallied_new levels window on) steps
    simp only [Int.zero_add] at hRun
    exact hRun
  have hCount : ∀ id i, u.registry.instrument? id = some i →
      (u.registry.statistics.get? i.statistic).map Statistic.count =
        some (i.kind.wrapped (total id)) := fun id i hAt => hTallied.count_eq hAt
  refine ⟨hCount, ?_, ?_⟩
  · intro held hMem
    have hReaches := hValid.held held hMem
    exact ⟨hReaches.targets, hReaches.apart, hReaches.named⟩
  · intro held hMem
    obtain ⟨primary, i, hHead, hAt, hName, hPlace⟩ := (hValid.held held hMem).primary
    refine ⟨primary, i, hHead, hAt, hName, hPlace, ?_⟩
    rw [Registry.statistic?, hPlace, Option.bind_some]
    exact hCount primary i hAt

/-- What is told to either of two groups counts for the ancestor they share, as long as anything
counts. -/
example :
    (start default (.values 8) true).credits 1
      [(1, .metric .counter "a[+].b.calls" .info [.info]),
       (2, .metric .counter "a[+].c.calls" .info [.info]),
       (3, .tell 0 (.add 5)), (4, .tell 1 (.subtract 7)),
       (5, .setEnabled false), (6, .tell 0 (.add 100))] = -2 := by
  decide +kernel

end Usage

end Metering
