import Metering.LevelMap
import Metering.Proofs.NameMap
import Metering.Proofs.Name.Lineage

/-!
# Metering — which level applies to a name

The level that applies to a name is found by going up from it until a name is met that has a level
of its own. Without a look at the way, it is the level of the longest of the configured names that
cover the name, or the root level if none does. Names that share only letters with the name, names
beside it and names below it have no part in this, so a level that is configured reaches just the
names below that have no nearer one.

* `Resolves` — the way up, step by step; `resolves_iff`: it ends, with `effective`;
* `Closest`, `Applies` — the longest of the configured names that cover a name, and its level;
* `applies_iff` — this level, and no other, is `effective`;
* `effective_congr` — a level depends on nothing but the configured names that cover the name;
* `Inherits` — a name has no nearer level than that of a name above it;
* `effective_set_of_inherits`, `effective_setRoot_of_leftToRoot` — the names that a level reaches
  which is configured anew, and `effective_set_of_not_inherits`, … — that no others are reached;
* `closest_level_applies` — all this of every map and every name.
-/

namespace Metering

open Name

/-- A level that lets a metric through lets it through when it is raised. -/
theorem Level.admits_mono {low high metric : Level} (h : low ≤ high)
    (hAdmits : low.admits metric = true) : high.admits metric = true := by
  obtain ⟨hOff, hMetric⟩ := admits_iff.mp hAdmits
  exact admits_iff.mpr ⟨Nat.lt_of_lt_of_le hOff h, Nat.le_trans hMetric h⟩

namespace LevelMap

variable {m : LevelMap} {name upper lower key : String} {level : Level}

/-! ## The way up -/

/-- The level that one finds by going up from a name: its own level if it has one, else what one
finds from the name directly above, and the root level where the way ends. -/
inductive Resolves (m : LevelMap) : String → Level → Prop where
  | found {name : String} {level : Level} (hOwn : m.level? name = some level) :
      Resolves m name level
  | above {name upper : String} {level : Level} (hNone : m.level? name = none)
      (hUp : parent? name = some upper) (hUpper : Resolves m upper level) : Resolves m name level
  | root {name : String} (hNone : m.level? name = none) (hTop : parent? name = none) :
      Resolves m name m.root

/-- One step of the way up. -/
theorem effective_eq (m : LevelMap) (name : String) :
    m.effective name = (m.level? name).getD ((parent? name).elim m.root m.effective) := by
  rw [effective, lineage_eq, List.findSome?_cons]
  cases m.level? name with
  | some level => rfl
  | none => cases parent? name <;> rfl

/-- From every name the way up ends, with the level that applies to it. -/
theorem resolves_effective (m : LevelMap) (name : String) : m.Resolves name (m.effective name) := by
  induction name using up_induction with
  | step name ih =>
    rw [effective_eq]
    cases hOwn : m.level? name with
    | some level => exact .found hOwn
    | none =>
      cases hUp : parent? name with
      | none => exact .root hOwn hUp
      | some upper => exact .above hOwn hUp (ih upper hUp)

theorem resolves_iff : m.Resolves name level ↔ level = m.effective name := by
  constructor
  · intro h
    induction h with
    | found hOwn => rw [effective_eq, hOwn, Option.getD_some]
    | above hNone hUp _ ih => rw [effective_eq, hNone, hUp, ih]; rfl
    | root hNone hTop => rw [effective_eq, hNone, hTop]; rfl
  · rintro rfl
    exact resolves_effective m name

/-! ## The longest configured name -/

/-- A name has a level of its own and covers another one, and no name that does so is longer. -/
structure Closest (m : LevelMap) (name key : String) (level : Level) : Prop where
  covers : Covers key name
  configured : m.level? key = some level
  longest : ∀ other, Covers other name → (m.level? other).isSome = true →
    other.length ≤ key.length

/-- No configured name covers the name. -/
def LeftToRoot (m : LevelMap) (name : String) : Prop :=
  ∀ key, Covers key name → m.level? key = none

/-- The level of the longest configured name that covers a name, or the root level if there is
none. -/
def Applies (m : LevelMap) (name : String) (level : Level) : Prop :=
  (∃ key, m.Closest name key level) ∨ (m.LeftToRoot name ∧ level = m.root)

/-- Names without a level of their own do not count. -/
theorem Closest.of_parent? (hNone : m.level? name = none) (hUp : parent? name = some upper)
    (h : m.Closest upper key level) : m.Closest name key level where
  covers := h.covers.trans (covers_of_parent? hUp)
  configured := h.configured
  longest := by
    intro other hOther hConfigured
    rcases (covers_iff_of_parent? hUp).mp hOther with rfl | hUpper
    · rw [hNone] at hConfigured
      cases hConfigured
    · exact h.longest other hUpper hConfigured

theorem LeftToRoot.of_parent? (hNone : m.level? name = none) (hUp : parent? name = some upper)
    (h : m.LeftToRoot upper) : m.LeftToRoot name := by
  intro key hKey
  rcases (covers_iff_of_parent? hUp).mp hKey with rfl | hUpper
  · exact hNone
  · exact h key hUpper

theorem applies_effective (m : LevelMap) (name : String) : m.Applies name (m.effective name) := by
  induction name using up_induction with
  | step name ih =>
    rw [effective_eq]
    cases hOwn : m.level? name with
    | some level =>
      exact .inl ⟨name, .refl name, hOwn, fun other hOther _ => hOther.length_le⟩
    | none =>
      cases hUp : parent? name with
      | none =>
        refine .inr ⟨fun key hKey => ?_, rfl⟩
        rw [(covers_iff_of_top hUp).mp hKey]
        exact hOwn
      | some upper =>
        rcases ih upper hUp with ⟨key, hClosest⟩ | ⟨hLeft, hRoot⟩
        · exact .inl ⟨key, hClosest.of_parent? hOwn hUp⟩
        · exact .inr ⟨hLeft.of_parent? hOwn hUp, hRoot⟩

/-- There is at most one longest configured name: one of two that cover a name covers the other. -/
theorem Closest.level_unique {other : String} {level' : Level} (h : m.Closest name key level)
    (h' : m.Closest name other level') : level = level' := by
  have hKey : key.length ≤ other.length := h'.longest key h.covers (by rw [h.configured]; rfl)
  have hOther : other.length ≤ key.length := h.longest other h'.covers (by rw [h'.configured]; rfl)
  have hSame : key = other := by
    rcases h.covers.total h'.covers with hCovers | hCovers
    · exact hCovers.eq_of_length_le hOther
    · exact (hCovers.eq_of_length_le hKey).symm
  have hConfigured := h.configured
  rw [hSame, h'.configured] at hConfigured
  exact (Option.some.inj hConfigured).symm

theorem Applies.unique {level' : Level} (h : m.Applies name level) (h' : m.Applies name level') :
    level = level' := by
  rcases h with ⟨key, hClosest⟩ | ⟨hLeft, rfl⟩
  · rcases h' with ⟨other, hClosest'⟩ | ⟨hLeft', -⟩
    · exact hClosest.level_unique hClosest'
    · have hNone := hLeft' key hClosest.covers
      rw [hClosest.configured] at hNone
      cases hNone
  · rcases h' with ⟨other, hClosest'⟩ | ⟨-, rfl⟩
    · have hNone := hLeft other hClosest'.covers
      rw [hClosest'.configured] at hNone
      cases hNone
    · rfl

theorem applies_iff : m.Applies name level ↔ level = m.effective name := by
  constructor
  · exact fun h => h.unique (applies_effective m name)
  · rintro rfl
    exact applies_effective m name

/-! ## What matters for a name -/

/-- Two names, in maps with the same root level, have the same level if the same configured names
cover them. -/
theorem effective_congr {m' : LevelMap} (hRoot : m'.root = m.root)
    (h : ∀ key level, (Covers key lower ∧ m'.level? key = some level) ↔
      (Covers key name ∧ m.level? key = some level)) : m'.effective lower = m.effective name := by
  refine (applies_iff.mp ?_).symm
  rcases applies_effective m name with ⟨key, hClosest⟩ | ⟨hLeft, hEffective⟩
  · obtain ⟨hCovers, hConfigured⟩ := (h key _).mpr ⟨hClosest.covers, hClosest.configured⟩
    refine .inl ⟨key, hCovers, hConfigured, fun other hOther hSome => ?_⟩
    obtain ⟨own, hOwn⟩ := Option.isSome_iff_exists.mp hSome
    obtain ⟨hOther', hOwn'⟩ := (h other own).mp ⟨hOther, hOwn⟩
    exact hClosest.longest other hOther' (by rw [hOwn']; rfl)
  · refine .inr ⟨fun key hKey => ?_, hEffective.trans hRoot.symm⟩
    rw [Option.eq_none_iff_forall_ne_some]
    intro own hOwn
    obtain ⟨hKey', hOwn'⟩ := (h key own).mp ⟨hKey, hOwn⟩
    rw [hLeft key hKey'] at hOwn'
    cases hOwn'

theorem effective_of_level? (h : m.level? name = some level) : m.effective name = level := by
  rw [effective_eq, h, Option.getD_some]

theorem effective_of_leftToRoot (h : m.LeftToRoot name) : m.effective name = m.root :=
  (applies_iff.mp (.inr ⟨h, rfl⟩)).symm

/-! ## Changing a level -/

/-- An upper name covers a lower one, and no other name that it covers and that covers the lower
one has a level of its own. -/
def Inherits (m : LevelMap) (upper lower : String) : Prop :=
  Covers upper lower ∧
    ∀ key, key ≠ upper → Covers upper key → Covers key lower → m.level? key = none

theorem level?_set_self (m : LevelMap) (name : String) (level : Level) :
    (m.set name level).level? name = some level := NameMap.get?_insert_self m.named name level

theorem level?_set_of_ne (m : LevelMap) (h : key ≠ name) (level : Level) :
    (m.set name level).level? key = m.level? key := NameMap.get?_insert_of_ne m.named h level

/-- A name without a nearer level has the level that applies to the name above. -/
theorem Inherits.effective_eq (h : m.Inherits upper lower) :
    m.effective lower = m.effective upper := by
  refine effective_congr rfl fun key own => ⟨fun ⟨hKey, hOwn⟩ => ?_, fun ⟨hKey, hOwn⟩ => ?_⟩
  · refine ⟨?_, hOwn⟩
    rcases hKey.total h.1 with hCovers | hCovers
    · exact hCovers
    · -- a configured name between the two could only be the upper one
      by_cases hSame : key = upper
      · exact hSame ▸ .refl key
      · rw [h.2 key hSame hCovers hKey] at hOwn
        cases hOwn
  · exact ⟨hKey.trans h.1, hOwn⟩

theorem Inherits.set (h : m.Inherits upper lower) (level : Level) :
    (m.set upper level).Inherits upper lower :=
  ⟨h.1, fun key hOther hUpper hLower => by
    rw [level?_set_of_ne m hOther]
    exact h.2 key hOther hUpper hLower⟩

/-- A level that is configured anew does not reach a name that has a nearer one, or that is not
covered at all. -/
theorem effective_set_of_not_inherits (h : ¬ m.Inherits upper lower) (level : Level) :
    (m.set upper level).effective lower = m.effective lower := by
  by_cases hCovers : Covers upper lower
  · obtain ⟨key, hOther, hUpper, hLower, own, hOwn⟩ : ∃ key, key ≠ upper ∧ Covers upper key ∧
        Covers key lower ∧ ∃ own, m.level? key = some own := by
      by_contra hNone
      refine h ⟨hCovers, fun key hOther hUpper hLower => ?_⟩
      rw [Option.eq_none_iff_forall_ne_some]
      exact fun own hOwn => hNone ⟨key, hOther, hUpper, hLower, own, hOwn⟩
    refine (applies_iff.mp (.inl ?_)).symm
    rcases applies_effective m lower with ⟨closest, hClosest⟩ | ⟨hLeft, -⟩
    · -- the closest name of the old map is longer than the one that is set, so it stays closest
      have hNearer : key.length ≤ closest.length :=
        hClosest.longest key hLower (by rw [hOwn]; rfl)
      have hLonger : upper.length < key.length :=
        Nat.lt_of_not_le fun hLe => hOther (hUpper.eq_of_length_le hLe).symm
      have hNe : closest ≠ upper := by
        rintro rfl
        omega
      refine ⟨closest, hClosest.covers, ?_, fun other hAbove hSome => ?_⟩
      · rw [level?_set_of_ne m hNe, hClosest.configured]
      · by_cases hSame : other = upper
        · rw [hSame]
          omega
        · rw [level?_set_of_ne m hSame] at hSome
          exact hClosest.longest other hAbove hSome
    · rw [hLeft key hLower] at hOwn
      cases hOwn
  · refine effective_congr rfl fun key own => and_congr_right fun hKey => ?_
    rw [level?_set_of_ne m]
    rintro rfl
    exact hCovers hKey

/-- A level that is configured for a name is that of the names below it without a nearer one. -/
theorem effective_set_of_inherits (h : m.Inherits upper lower) (level : Level) :
    (m.set upper level).effective lower = level := by
  rw [(h.set level).effective_eq, effective_of_level? (level?_set_self m upper level)]

/-- Another root level reaches the names that no configured name covers. -/
theorem effective_setRoot_of_leftToRoot (h : m.LeftToRoot name) (level : Level) :
    (m.setRoot level).effective name = level :=
  effective_of_leftToRoot (m := m.setRoot level) h

theorem effective_setRoot_of_not_leftToRoot (h : ¬ m.LeftToRoot name) (level : Level) :
    (m.setRoot level).effective name = m.effective name := by
  rcases applies_effective m name with ⟨key, hClosest⟩ | ⟨hLeft, -⟩
  · have hClosest' : (m.setRoot level).Closest name key (m.effective name) :=
      ⟨hClosest.covers, hClosest.configured, hClosest.longest⟩
    exact (applies_iff.mp (.inl ⟨key, hClosest'⟩)).symm
  · exact absurd hLeft h

/-! ## All names -/

/-- For every map of levels and every name: going up from the name ends, with the level that is
said to apply and with no other; this level, and no other, is that of the longest configured name
that is the name or that the name goes on behind with a dot, or the root level if there is none;
and it stays the same whatever else is configured for other names than those. -/
theorem closest_level_applies (m : LevelMap) (name : String) :
    (∀ level, m.Resolves name level ↔ level = m.effective name) ∧
    (∀ level, m.Applies name level ↔ level = m.effective name) ∧
    ∀ m' : LevelMap, m'.root = m.root → (∀ key, Covers key name → m'.level? key = m.level? key) →
      m'.effective name = m.effective name := by
  refine ⟨fun level => resolves_iff, fun level => applies_iff, fun m' hRoot hSame => ?_⟩
  refine effective_congr hRoot fun key own => and_congr_right fun hKey => ?_
  rw [hSame key hKey]

/-- The nearer of two names above decides, and neither a name below nor a name beside, with the
same letters or not, takes part. -/
theorem closest_level_applies_beside :
    let m := ((ofRoot .info).set "a" .trace).set "a.b" .off
    let m' := ((m.set "a.b.c.d" .all).set "a.b.cx" .debug).set "a.x" .debug
    m.Resolves "a.b.c" .off ∧ m.Applies "a.b.c" .off ∧ m'.effective "a.b.c" = .off := by
  intro m m'
  obtain ⟨hResolves, hApplies, hOthers⟩ := closest_level_applies m "a.b.c"
  refine ⟨(hResolves .off).mpr rfl, (hApplies .off).mpr rfl, hOthers m' rfl fun key hKey => ?_⟩
  have hLineage : key ∈ ["a.b.c", "a.b", "a"] := mem_lineage_iff.mpr hKey
  simp only [List.mem_cons, List.not_mem_nil, or_false] at hLineage
  rcases hLineage with rfl | rfl | rfl <;> rfl

end LevelMap

end Metering
