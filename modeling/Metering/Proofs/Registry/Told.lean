import Metering.Proofs.Registry.Coherence
import Metering.Proofs.Registry.Switch

/-!
# Metering — what there is to tell

The changes that a registry tells of can be read off what is configured before and afterwards,
without a look at what was asked for: the switch, the root level and the level of each name are
compared, and whatever differs is told.

* `told` — the changes from one configuration to another;
* `told_setEnabled`, `told_setRoot`, `told_setLevel` — the three operations tell this, and
  `told_of_same` — the others would have nothing to tell;
* `KeepsLevels` — no operation takes the level of a name away again;
* `Linked` — values that follow on one another, each from the one before;
* `linked_switch`, `linked_root`, `linked_level` — the changes that are told follow on one another.
-/

namespace Metering

/-! ## Values that follow on one another -/

/-- Pairs of values that lead from one value to another: each starts where the one before ended,
and ends elsewhere. -/
inductive Linked {α : Type} : α → List (α × α) → α → Prop where
  | none (value : α) : Linked value [] value
  | next {old new last : α} {rest : List (α × α)} (hMoved : new ≠ old)
      (hRest : Linked new rest last) : Linked old ((old, new) :: rest) last

theorem Linked.append {α : Type} {first middle last : α} {before after : List (α × α)}
    (hBefore : Linked first before middle) (hAfter : Linked middle after last) :
    Linked first (before ++ after) last := by
  induction hBefore with
  | none value => exact hAfter
  | next hMoved _ ih => exact .next hMoved (ih hAfter)

theorem Linked.one {α : Type} {first last : α} (hMoved : last ≠ first) :
    Linked first [(first, last)] last := .next hMoved (.none last)

/-! ## Values in a change -/

/-- Where the switch was and where it is, if a change tells of it. -/
def Change.switched? : Change → Option (Bool × Bool)
  | .switch on => some (!on, on)
  | _ => none

/-- The root level before and afterwards, if a change tells of it. -/
def Change.root? : Change → Option (Level × Level)
  | .root old new => some (old, new)
  | _ => none

/-- The level of a name before and afterwards, if a change tells of it. -/
def Change.level? (name : String) : Change → Option (Option Level × Option Level)
  | .metric other old new => if other = name then some (old, some new) else none
  | _ => none

namespace Registry

variable {r r' : Registry} {name : String} {level : Level}

/-! ## Comparing configurations -/

/-- The change of the switch, if it has changed. -/
def toldSwitch (r r' : Registry) : List Change :=
  if r'.enabled = r.enabled then [] else [.switch r'.enabled]

/-- The change of the root level, if it has changed. -/
def toldRoot (r r' : Registry) : List Change :=
  if r'.levels.root = r.levels.root then [] else [.root r.levels.root r'.levels.root]

/-- The change of the level of one name, if it has changed. -/
def toldLevel (r : Registry) (configured : String × Level) : Option Change :=
  let old := r.levels.level? configured.1
  if old = some configured.2 then none else some (.metric configured.1 old configured.2)

/-- The changes from one configuration to another. A configured level may be replaced, but there is
always one from then on, so it is enough to go through the levels that are configured now. -/
def told (r r' : Registry) : List Change :=
  toldSwitch r r' ++ toldRoot r r' ++ r'.levels.named.toList.filterMap r.toldLevel

theorem told_congr {now : Registry} (h : r'.configuration = now.configuration) :
    told r r' = told r now := by
  obtain ⟨hEnabled, hLevels⟩ := Prod.mk.inj h
  rw [told, told, toldSwitch, toldRoot, hEnabled, hLevels]
  rfl

theorem toldLevel_of_configured {configured : String × Level}
    (h : r.levels.level? configured.1 = some configured.2) : r.toldLevel configured = none :=
  if_pos h

/-- Where the levels of names are the same there is nothing to tell of them. -/
theorem toldLevels_same (r : Registry) : r.levels.named.toList.filterMap r.toldLevel = [] := by
  rw [List.filterMap_eq_nil_iff]
  intro configured hMem
  exact toldLevel_of_configured (NameMap.get?_eq_some_iff.mpr hMem)

theorem told_of_same (h : r'.configuration = r.configuration) : told r r' = [] := by
  rw [told_congr h, told, toldSwitch, toldRoot, if_pos rfl, if_pos rfl, toldLevels_same]
  rfl

/-! ## The operations that configure -/

theorem configuration_refreshed (r : Registry) : r.refreshed.configuration = r.configuration := by
  rw [refreshed_eq]
  rfl

theorem told_setEnabled (r : Registry) (on : Bool) :
    told r (r.setEnabled on).1 = (r.setEnabled on).2.toList := by
  rw [setEnabled]
  split
  · exact told_of_same rfl
  · next hOther =>
    rw [told_congr (configuration_refreshed _), told]
    -- only the switch differs
    have hSwitch : toldSwitch r { r with enabled := on } = [.switch on] := if_neg (Ne.symm hOther)
    have hRoot : toldRoot r { r with enabled := on } = [] := if_pos rfl
    have hLevels := toldLevels_same r
    show toldSwitch r { r with enabled := on } ++ toldRoot r { r with enabled := on } ++
      r.levels.named.toList.filterMap r.toldLevel = _
    rw [hSwitch, hRoot, hLevels]
    rfl

theorem told_setRoot (r : Registry) (level : Level) :
    told r (r.setRoot level).1 = (r.setRoot level).2.toList := by
  simp only [setRoot]
  split
  · exact told_of_same rfl
  · next hOther =>
    rw [told_congr (configuration_refreshed _), told]
    -- only the root level differs
    have hSwitch : toldSwitch r { r with levels := r.levels.setRoot level } = [] := if_pos rfl
    have hRoot : toldRoot r { r with levels := r.levels.setRoot level } =
        [.root r.levels.root level] := if_neg (Ne.symm hOther)
    have hLevels := toldLevels_same r
    show toldSwitch r { r with levels := r.levels.setRoot level } ++
      toldRoot r { r with levels := r.levels.setRoot level } ++
      r.levels.named.toList.filterMap r.toldLevel = _
    rw [hSwitch, hRoot, hLevels]
    rfl

/-- What a level that is configured anew differs in is itself. -/
theorem toldLevels_set (r : Registry) (name : String) (level : Level) :
    (r.levels.set name level).named.toList.filterMap r.toldLevel =
      (r.toldLevel (name, level)).toList := by
  rw [NameMap.filterMap_toList_of_name name]
  · show (((r.levels.named.insert name level).get? name).bind _).toList = _
    rw [NameMap.get?_insert_self]
    rfl
  · rintro ⟨other, configured⟩ hMem hNe
    refine toldLevel_of_configured ?_
    show r.levels.named.get? other = some configured
    rw [← NameMap.get?_insert_of_ne r.levels.named hNe level]
    exact NameMap.get?_eq_some_iff.mpr hMem

theorem told_setLevel {change : Option Change} (h : r.setLevel name level = (r', .ok change)) :
    told r r' = change.toList := by
  simp only [setLevel] at h
  split at h
  · split at h
    · cases h
      exact told_of_same rfl
    · next hOther =>
      cases h
      rw [told_congr (configuration_refreshed _), told]
      have hSwitch : toldSwitch r { r with levels := r.levels.set name level } = [] := if_pos rfl
      have hRoot : toldRoot r { r with levels := r.levels.set name level } = [] := if_pos rfl
      have hLevels := toldLevels_set r name level
      have hLevel : r.toldLevel (name, level) =
          some (.metric name (r.levels.level? name) level) := if_neg hOther
      show toldSwitch r { r with levels := r.levels.set name level } ++
        toldRoot r { r with levels := r.levels.set name level } ++
        (r.levels.set name level).named.toList.filterMap r.toldLevel = _
      rw [hSwitch, hRoot, hLevels, hLevel]
      rfl
  · cases h

/-- To configure the level of a metric that is not registered is refused and changes nothing. -/
theorem setLevel_cases (r : Registry) (name : String) (level : Level) :
    (r.has name = false ∧ r.setLevel name level = (r, .error (.notFound name))) ∨
    (r.has name = true ∧ ∃ r' change, r.setLevel name level = (r', .ok change)) := by
  simp only [setLevel]
  split
  · next hRegistered =>
    refine .inr ⟨hRegistered, ?_⟩
    split
    · exact ⟨_, _, rfl⟩
    · exact ⟨_, _, rfl⟩
  · next hMissing => exact .inl ⟨Bool.eq_false_iff.mpr hMissing, rfl⟩

/-! ## Levels stay configured -/

/-- Every name that has had a level of its own still has one. -/
def KeepsLevels (r r' : Registry) : Prop :=
  ∀ name, r'.levels.level? name = none → r.levels.level? name = none

theorem keepsLevels_of_same (h : r'.configuration = r.configuration) : KeepsLevels r r' := by
  intro _ hNone
  obtain ⟨-, hLevels⟩ := Prod.mk.inj h
  exact hLevels ▸ hNone

theorem levels_setEnabled (r : Registry) (on : Bool) : (r.setEnabled on).1.levels = r.levels := by
  rw [setEnabled]
  split
  · rfl
  · exact congrArg Prod.snd (configuration_refreshed _)

theorem keepsLevels_setEnabled (r : Registry) (on : Bool) : KeepsLevels r (r.setEnabled on).1 :=
  fun _ hNone => levels_setEnabled r on ▸ hNone

theorem keepsLevels_setRoot (r : Registry) (level : Level) : KeepsLevels r (r.setRoot level).1 := by
  intro name hNone
  simp only [setRoot] at hNone
  split at hNone
  · exact hNone
  · rw [refreshed_eq] at hNone
    exact hNone

theorem keepsLevels_setLevel (r : Registry) (name : String) (level : Level) :
    KeepsLevels r (r.setLevel name level).1 := by
  intro other hNone
  simp only [setLevel] at hNone
  split at hNone
  · split at hNone
    · exact hNone
    · have hSet : ((r.levels.set name level).named).get? other = none := by
        rw [refreshed_eq] at hNone
        exact hNone
      rw [LevelMap.set, NameMap.get?_insert] at hSet
      split at hSet
      · cases hSet
      · exact hSet
  · exact hNone

/-! ## What is told follows on what was told before -/

/-- What is told of the levels of names is told of nothing else. -/
theorem toldLevel_eq_some {configured : String × Level} {change : Change}
    (h : r.toldLevel configured = some change) :
    change = .metric configured.1 (r.levels.level? configured.1) configured.2 := by
  simp only [toldLevel] at h
  split at h
  · cases h
  · exact (Option.some.inj h).symm

theorem filterMap_toldLevels {α : Type} {view : Change → Option α}
    (hView : ∀ name old new, view (.metric name old new) = none) (configured : LevelMap) :
    (configured.named.toList.filterMap r.toldLevel).filterMap view = [] := by
  rw [List.filterMap_eq_nil_iff]
  intro change hMem
  obtain ⟨entry, -, hTold⟩ := List.mem_filterMap.mp hMem
  rw [toldLevel_eq_some hTold, hView]

theorem linked_switch (r r' : Registry) :
    Linked r.enabled ((told r r').filterMap Change.switched?) r'.enabled := by
  rw [told, List.filterMap_append, filterMap_toldLevels (fun _ _ _ => rfl), List.append_nil]
  have hRoot : (toldRoot r r').filterMap Change.switched? = [] := by
    rw [toldRoot]
    split <;> rfl
  rw [List.filterMap_append, hRoot, List.append_nil, toldSwitch]
  split
  · next hSame => exact hSame ▸ .none r'.enabled
  · next hOther =>
    have hWas : r.enabled = !r'.enabled := (Bool.not_eq.mpr hOther).symm
    rw [hWas]
    exact .one (by simp)

theorem linked_root (r r' : Registry) :
    Linked r.levels.root ((told r r').filterMap Change.root?) r'.levels.root := by
  rw [told, List.filterMap_append, filterMap_toldLevels (fun _ _ _ => rfl), List.append_nil]
  have hSwitch : (toldSwitch r r').filterMap Change.root? = [] := by
    rw [toldSwitch]
    split <;> rfl
  rw [List.filterMap_append, hSwitch, List.nil_append, toldRoot]
  split
  · next hSame => exact hSame ▸ .none r'.levels.root
  · next hOther => exact .one hOther

/-- The level of a name follows on the one before, if no level gets lost. -/
theorem linked_level (hKept : KeepsLevels r r') (name : String) :
    Linked (r.levels.level? name) ((told r r').filterMap (Change.level? name))
      (r'.levels.level? name) := by
  have hOthers : (toldSwitch r r' ++ toldRoot r r').filterMap (Change.level? name) = [] := by
    rw [List.filterMap_append, toldSwitch, toldRoot]
    split <;> split <;> rfl
  rw [told, List.filterMap_append, hOthers, List.nil_append, List.filterMap_filterMap,
    NameMap.filterMap_toList_of_name name]
  · show Linked _ (((r'.levels.level? name).bind _).toList) _
    cases hNow : r'.levels.level? name with
    | none =>
      rw [hKept name hNow]
      exact .none _
    | some level =>
      simp only [Option.bind_some, toldLevel]
      split
      · next hSame =>
        rw [hSame]
        exact .none _
      · next hOther =>
        rw [Option.bind_some, Change.level?, if_pos rfl]
        exact .one (Ne.symm hOther)
  · rintro ⟨other, level⟩ - hNe
    cases hTold : r.toldLevel (other, level) with
    | none => rfl
    | some change =>
      rw [toldLevel_eq_some hTold]
      exact if_neg hNe

end Registry

end Metering
