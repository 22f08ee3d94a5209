import Metering.Proofs.Text.Blank
import Metering.Settings.Text

/-!
# Metering — what the environment overrides

Two switches of the environment may take the place of two settings. They are read one after the
other, and the first that cannot be read ends the process; what was set before it stays set. So
settings are overridden completely if both switches can be read, and not at all if the first cannot;
but an unreadable second switch leaves the settings with the first override made.

* `Override.key`, `Override.word` — where an override comes from, and how it is written;
* `AsksFor`, `Readable` — what the environment asks for, and whether a switch can be read;
* `Overridden` — settings after all overrides that the environment asks for;
* `reading_override` — how reading the switches may end;
* `overrides_in_turn` — when settings are overridden, and what an unreadable switch leaves.
-/

namespace Metering.Settings

open Text

/-! ## What the environment asks for -/

/-- The switch that an override comes from. -/
def Override.key : Override → String
  | enabled _ => enabledKey
  | rootLevel _ => rootLevelKey

/-- The word that an override is written as. -/
def Override.word : Override → String
  | enabled on => if on then "true" else "false"
  | rootLevel level => level.label

/-- The environment asks for an override: its switch is set to a text that says its word. -/
def AsksFor (environment : String → Option String) (o : Override) : Prop :=
  ∃ value, environment o.key = some value ∧ Says value.toList o.word.toList

/-- A switch of the environment can be read: it is not set, or it asks for an override. -/
def Readable (environment : String → Option String) (key : String) : Prop :=
  ∀ value, environment key = some value →
    ∃ o : Override, o.key = key ∧ Says value.toList o.word.toList

variable {s s' : Settings} {environment : String → Option String} {value : String} {on : Bool}
  {level : Level}

theorem keys_ne : enabledKey ≠ rootLevelKey := by decide

theorem solid_word (o : Override) : ∀ c ∈ o.word.toList, isBlank c = false := by
  cases o with
  | enabled on => cases on <;> exact Text.solid_of_all rfl
  | rootLevel level => exact level.solid_label

theorem Override.eq_enabled {o : Override} (h : o.key = enabledKey) : ∃ on, o = .enabled on := by
  cases o with
  | enabled on => exact ⟨on, rfl⟩
  | rootLevel level => exact absurd h.symm keys_ne

theorem Override.eq_rootLevel {o : Override} (h : o.key = rootLevelKey) :
    ∃ level, o = .rootLevel level := by
  cases o with
  | enabled on => exact absurd h keys_ne
  | rootLevel level => exact ⟨level, rfl⟩

/-! ## Reading one switch -/

/-- A text says `true` or `false`, or it is refused. -/
theorem readSwitch_cases (value : String) :
    (∃ on, Says value.toList (Override.enabled on).word.toList ∧ readSwitch value = .ok on) ∨
    ((∀ on, ¬ Says value.toList (Override.enabled on).word.toList) ∧
      readSwitch value = .error (.invalidArgument (.switchValue value))) := by
  have hSays (on : Bool) : Says value.toList (Override.enabled on).word.toList ↔ _ :=
    says_iff (solid_word (.enabled on))
  simp only [readSwitch]
  split
  · next hTrue => exact .inl ⟨true, (hSays true).mpr hTrue, rfl⟩
  · next hNotTrue =>
    split
    · next hFalse => exact .inl ⟨false, (hSays false).mpr hFalse, rfl⟩
    · next hNotFalse =>
      refine .inr ⟨fun on hOn => ?_, rfl⟩
      cases on with
      | true => exact hNotTrue ((hSays true).mp hOn)
      | false => exact hNotFalse ((hSays false).mp hOn)

/-- A text says the word of a level, or it is refused. -/
theorem readLevel_cases (value : String) :
    (∃ level, Says value.toList (Override.rootLevel level).word.toList ∧
      Level.read value = .ok level) ∨
    ((∀ level, ¬ Says value.toList (Override.rootLevel level).word.toList) ∧
      Level.read value = .error (.invalidArgument (.unknownLevel value))) := by
  rw [Level.read]
  split
  · next level hLevel => exact .inl ⟨level, Level.ofText?_eq_some_iff.mp hLevel, rfl⟩
  · next hNone =>
    refine .inr ⟨fun level hSays => ?_, rfl⟩
    rw [Level.ofText?_eq_some_iff.mpr hSays] at hNone
    cases hNone

theorem readable_of_none {key : String} (h : environment key = none) :
    Readable environment key := by
  intro value hValue
  rw [h] at hValue
  cases hValue

theorem AsksFor.readable {o : Override} (h : AsksFor environment o) :
    Readable environment o.key := by
  obtain ⟨value, hValue, hSays⟩ := h
  intro other hOther
  rw [hValue] at hOther
  cases hOther
  exact ⟨o, rfl, hSays⟩

/-- The environment asks for one position of the metrics at most. -/
theorem AsksFor.enabled_unique {on' : Bool} (h : AsksFor environment (.enabled on))
    (h' : AsksFor environment (.enabled on')) : on = on' := by
  obtain ⟨value, hValue, hSays⟩ := h
  obtain ⟨other, hOther, hSays'⟩ := h'
  cases hValue.symm.trans hOther
  have hSame := hSays.lowered_eq hSays' (solid_word (.enabled on)) (solid_word (.enabled on'))
  revert hSame
  cases on <;> cases on' <;> decide

/-- The environment asks for one root level at most. -/
theorem AsksFor.rootLevel_unique {level' : Level} (h : AsksFor environment (.rootLevel level))
    (h' : AsksFor environment (.rootLevel level')) : level = level' := by
  obtain ⟨value, hValue, hSays⟩ := h
  obtain ⟨other, hOther, hSays'⟩ := h'
  cases hValue.symm.trans hOther
  exact Level.eq_of_label (hSays.lowered_eq hSays' level.solid_label level'.solid_label)

/-! ## Reading both switches -/

/-- The overrides of the first switch: none if it is not set, or the one that it asks for. -/
inductive First (environment : String → Option String) : List Override → Prop where
  | unset (h : environment enabledKey = none) : First environment []
  | asked {on : Bool} (h : AsksFor environment (.enabled on)) : First environment [.enabled on]

/-- How reading the switches may end: the first one cannot be read, or the second one cannot, or the
second one is not set or asks for a level. -/
inductive Reading (environment : String → Option String) (s : Settings) :
    Settings × List Override × Option Fault → Prop where
  | first {value : String} (hValue : environment enabledKey = some value)
      (hUnreadable : ¬ Readable environment enabledKey) :
      Reading environment s (s, [], some (.invalidArgument (.switchValue value)))
  | second {done : List Override} {value : String} (hDone : First environment done)
      (hValue : environment rootLevelKey = some value)
      (hUnreadable : ¬ Readable environment rootLevelKey) :
      Reading environment s
        (done.foldl apply s, done, some (.invalidArgument (.unknownLevel value)))
  | unset {done : List Override} (hDone : First environment done)
      (hUnset : environment rootLevelKey = none) :
      Reading environment s (done.foldl apply s, done, none)
  | asked {done : List Override} {level : Level} (hDone : First environment done)
      (hAsks : AsksFor environment (.rootLevel level)) :
      Reading environment s
        ((done.foldl apply s).apply (.rootLevel level), done ++ [.rootLevel level], none)

/-- The second switch is read when the first one has been. -/
theorem reading_second {done : List Override} (hDone : First environment done) :
    Reading environment s (match environment rootLevelKey with
      | none => (done.foldl apply s, done, none)
      | some value => match Level.read value with
        | .ok level =>
          ((done.foldl apply s).apply (.rootLevel level), done ++ [.rootLevel level], none)
        | .error fault => (done.foldl apply s, done, some fault)) := by
  cases hRoot : environment rootLevelKey with
  | none => exact .unset hDone hRoot
  | some value =>
    rcases readLevel_cases value with ⟨level, hSays, hRead⟩ | ⟨hNone, hRead⟩
    · simp only [hRead]
      exact .asked hDone ⟨value, hRoot, hSays⟩
    · simp only [hRead]
      refine .second hDone hRoot fun hReadable => ?_
      obtain ⟨o, hKey, hSays⟩ := hReadable value hRoot
      obtain ⟨level, rfl⟩ := Override.eq_rootLevel hKey
      exact hNone level hSays

theorem reading_override (s : Settings) (environment : String → Option String) :
    Reading environment s (s.override environment) := by
  cases hEnabled : environment enabledKey with
  | none =>
    simp only [override, hEnabled]
    exact reading_second (.unset hEnabled)
  | some value =>
    rcases readSwitch_cases value with ⟨on, hSays, hRead⟩ | ⟨hNone, hRead⟩
    · simp only [override, hEnabled, hRead]
      exact reading_second (.asked ⟨value, hEnabled, hSays⟩)
    · simp only [override, hEnabled, hRead]
      refine .first hEnabled fun hReadable => ?_
      obtain ⟨o, hKey, hSays⟩ := hReadable value hEnabled
      obtain ⟨on, rfl⟩ := Override.eq_enabled hKey
      exact hNone on hSays

/-! ## The settings afterwards -/

/-- Settings after all overrides that the environment asks for: what a switch asks for is set, what
belongs to a switch that is not set is kept, and so is everything else. -/
structure Overridden (environment : String → Option String) (s s' : Settings) : Prop where
  enabled : ∀ on, AsksFor environment (.enabled on) → s'.enabled = on
  rootLevel : ∀ level, AsksFor environment (.rootLevel level) → s'.levels.root = level
  enabled_kept : environment enabledKey = none → s'.enabled = s.enabled
  rootLevel_kept : environment rootLevelKey = none → s'.levels.root = s.levels.root
  rest : s' = { s with enabled := s'.enabled, levels := s.levels.setRoot s'.levels.root }

theorem not_asksFor {o : Override} (h : environment o.key = none) : ¬ AsksFor environment o := by
  rintro ⟨value, hValue, -⟩
  cases h.symm.trans hValue

namespace First

variable {done : List Override}

theorem readable (h : First environment done) : Readable environment enabledKey := by
  cases h with
  | unset hUnset => exact readable_of_none hUnset
  | asked hAsks => exact hAsks.readable

/-- Nothing is set unless the first switch asks for it. -/
theorem same (h : First environment done) (s : Settings)
    (hNot : ∀ on, ¬ AsksFor environment (.enabled on)) : done.foldl apply s = s := by
  cases h with
  | unset => rfl
  | asked hAsks => exact absurd hAsks (hNot _)

theorem set (h : First environment done) (s : Settings)
    (hAsks : AsksFor environment (.enabled on)) :
    done.foldl apply s = { s with enabled := on } := by
  cases h with
  | unset hUnset => exact absurd hAsks (not_asksFor hUnset)
  | asked hAsked =>
    cases hAsked.enabled_unique hAsks
    rfl

/-- If the second switch is not set, the first one makes all overrides that there are. -/
theorem overridden (h : First environment done) (s : Settings)
    (hUnset : environment rootLevelKey = none) :
    Overridden environment s (done.foldl apply s) where
  enabled on hAsks := by rw [h.set s hAsks]
  rootLevel level hAsks := absurd hAsks (not_asksFor hUnset)
  enabled_kept hNone := by rw [h.same s fun _ => not_asksFor hNone]
  rootLevel_kept _ := by cases h <;> rfl
  rest := by cases h <;> rfl

/-- If the second switch asks for a level, this is set as well. -/
theorem overridden_apply (h : First environment done) (s : Settings)
    (hAsks : AsksFor environment (.rootLevel level)) :
    Overridden environment s ((done.foldl apply s).apply (.rootLevel level)) where
  enabled on hEnabled := by rw [h.set s hEnabled]; rfl
  rootLevel other hOther := hAsks.rootLevel_unique hOther
  enabled_kept hNone := by rw [h.same s fun _ => not_asksFor hNone]; rfl
  rootLevel_kept hNone := absurd hAsks (not_asksFor hNone)
  rest := by cases h <;> rfl

end First

/-- In every environment settings are overridden if and only if each switch that is set says one of
its words, between blanks and in letters of either case. Then they have what the switches ask for,
and all else is kept. Otherwise the first text that says none of its words is refused, and all is
kept but what the first switch asks for, which is set if it can be read. -/
theorem overrides_in_turn (s : Settings) (environment : String → Option String) :
    let outcome := s.override environment
    (outcome.2.2 = none ↔ Readable environment enabledKey ∧ Readable environment rootLevelKey) ∧
    (outcome.2.2 = none → Overridden environment s outcome.1) ∧
    ∀ fault, outcome.2.2 = some fault →
      ((∃ value, environment enabledKey = some value ∧ ¬ Readable environment enabledKey ∧
          fault = .invalidArgument (.switchValue value)) ∨
        ∃ value, Readable environment enabledKey ∧ environment rootLevelKey = some value ∧
          ¬ Readable environment rootLevelKey ∧ fault = .invalidArgument (.unknownLevel value)) ∧
      ((∀ on, ¬ AsksFor environment (.enabled on)) → outcome.1 = s) ∧
      ∀ on, AsksFor environment (.enabled on) → outcome.1 = { s with enabled := on } := by
  have hReading := reading_override s environment
  generalize s.override environment = outcome at hReading ⊢
  dsimp only
  cases hReading with
  | first hValue hUnreadable =>
    refine ⟨⟨nofun, fun h => absurd h.1 hUnreadable⟩, nofun, fun fault hFault => ?_⟩
    cases hFault
    refine ⟨.inl ⟨_, hValue, hUnreadable, rfl⟩, fun _ => rfl, fun on hAsks => ?_⟩
    exact absurd hAsks.readable hUnreadable
  | second hDone hValue hUnreadable =>
    refine ⟨⟨nofun, fun h => absurd h.2 hUnreadable⟩, nofun, fun fault hFault => ?_⟩
    cases hFault
    exact ⟨.inr ⟨_, hDone.readable, hValue, hUnreadable, rfl⟩, hDone.same s,
      fun _ => hDone.set s⟩
  | unset hDone hUnset =>
    exact ⟨⟨fun _ => ⟨hDone.readable, readable_of_none hUnset⟩, fun _ => rfl⟩,
      fun _ => hDone.overridden s hUnset, nofun⟩
  | asked hDone hAsks =>
    exact ⟨⟨fun _ => ⟨hDone.readable, hAsks.readable⟩, fun _ => rfl⟩,
      fun _ => hDone.overridden_apply s hAsks, nofun⟩

/-- The metrics are switched off by a text between wide blanks, and the root level is refused: the
settings have the first override and nothing of the second. -/
theorem overrides_in_turn_refused :
    let environment (key : String) : Option String :=
      if key = enabledKey then some "\u2003False\n"
      else if key = rootLevelKey then some "loud"
      else none
    (Settings.usual.override environment).1 = { Settings.usual with enabled := false } ∧
      ¬ Readable environment rootLevelKey := by
  intro environment
  have hAsks : AsksFor environment (.enabled false) :=
    ⟨"\u2003False\n", rfl, (says_iff (solid_word (.enabled false))).mpr (by decide)⟩
  have hRefused : (Settings.usual.override environment).2.2 =
      some (.invalidArgument (.unknownLevel "loud")) := by decide +kernel
  obtain ⟨hDone, -, hFault⟩ := overrides_in_turn Settings.usual environment
  obtain ⟨-, -, hSet⟩ := hFault _ hRefused
  refine ⟨hSet false hAsks, fun hReadable => ?_⟩
  rw [hDone.mpr ⟨hAsks.readable, hReadable⟩] at hRefused
  cases hRefused

/-- So a refused text may leave settings that are overridden in part. -/
theorem not_all_or_nothing :
    ¬ ∀ (s : Settings) (environment : String → Option String) (fault : Fault),
      (s.override environment).2.2 = some fault → (s.override environment).1 = s := by
  intro hAll
  let environment (key : String) : Option String :=
    if key = enabledKey then some "false" else some "loud"
  have hRefused : (Settings.usual.override environment).2.2 =
      some (.invalidArgument (.unknownLevel "loud")) := by decide +kernel
  have hOff : (Settings.usual.override environment).1.enabled = false := by decide +kernel
  rw [hAll Settings.usual environment _ hRefused] at hOff
  cases hOff

end Metering.Settings
