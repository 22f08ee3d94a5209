import Metering.Host.Files
import Metering.Proofs.NameMap

/-!
# Metering — what writing into a file changes

Where a path leads is decided by the directories alone. Writing at the end of a file makes no
directory and takes none away, so every path leads where it led before, and what is there is the
same unless it is the file itself.

* `SameDirectories`, `SameDirectories.locate?_eq` — paths lead to the same places as long as the
  directories are the same;
* `locate?_append`, `entry?_append`, `entry?_append_of_ne`, `get?_append` — what is under which
  path after something was written at the end of a file;
* `locate?_concat_eq_some_iff` — where a name in a directory leads;
* `locate?_concat_inj` — different names in a directory lead to different places.
-/

namespace Metering.Files

variable {f g : Files} {path text : String} {rooted : Bool}

/-! ## Directories -/

/-- The same places are directories. -/
def SameDirectories (f g : Files) : Prop :=
  ∀ rooted steps, f.at? rooted steps = some .directory ↔ g.at? rooted steps = some .directory

/-- A step leads on from a directory, up or down. -/
theorem walk_cons_eq_ok_iff {place rest target : List (List Char)} {step : List Char} :
    f.walk rooted place (step :: rest) = .ok target ↔ f.at? rooted place = some .directory ∧
      if step = ['.', '.'] then f.walk rooted place.dropLast rest = .ok target
      else isUsable step = true ∧ f.walk rooted (place ++ [step]) rest = .ok target := by
  rw [walk]
  split
  · next hAt => simp [hAt]
  · next hAt => simp [hAt]
  · next hAt =>
    rw [hAt]
    by_cases hUp : step = ['.', '.']
    · simp [hUp]
    · by_cases hUsable : isUsable step = true <;> simp [hUp, hUsable]

theorem enter_eq_ok_iff {steps place : List (List Char)} :
    f.enter rooted steps = .ok place ↔
      f.walk rooted [] steps = .ok place ∧ f.at? rooted place = some .directory := by
  rw [enter]
  cases f.walk rooted [] steps with
  | error fault => simp [bind, Except.bind]
  | ok target =>
    simp only [bind, Except.bind, Except.ok.injEq]
    -- the place that the walk leads to is the only one there can be
    have hPlace : target = place ∧ f.at? rooted place = some .directory ↔
        target = place ∧ f.at? rooted target = some .directory :=
      and_congr_right fun h => by rw [h]
    rw [hPlace]
    cases f.at? rooted target with
    | none => simp
    | some entry => cases entry <;> simp

/-- Where a path leads, and when it leads anywhere. -/
theorem locate?_eq_some_iff {full : String} :
    f.locate? path = some full ↔ isPath path = true ∧ ∃ place,
      (if (Path.ofString path).closed then f.enter (Path.ofString path).rooted
          (Path.ofString path).steps
        else f.walk (Path.ofString path).rooted [] (Path.ofString path).steps) = .ok place ∧
        fullPath (Path.ofString path).rooted place = full := by
  rw [locate?]
  by_cases hPath : isPath path = true
  · rw [if_pos hPath]
    split
    · next place hGo =>
      rw [hGo]
      refine ⟨fun h => ⟨hPath, place, rfl, Option.some.inj h⟩, ?_⟩
      rintro ⟨-, target, hSame, rfl⟩
      rw [Except.ok.inj hSame]
    · next fault hGo =>
      rw [hGo]
      exact ⟨fun h => (nomatch h), fun ⟨_, _, hSame, _⟩ => (nomatch hSame)⟩
  · rw [if_neg hPath]
    exact ⟨fun h => (nomatch h), fun h => absurd h.1 hPath⟩

namespace SameDirectories

theorem walk_iff (h : SameDirectories f g) {place steps target : List (List Char)} :
    f.walk rooted place steps = .ok target ↔ g.walk rooted place steps = .ok target := by
  induction steps generalizing place with
  | nil => exact Iff.rfl
  | cons step rest ih => rw [walk_cons_eq_ok_iff, walk_cons_eq_ok_iff, h rooted place, ih, ih]

theorem enter_iff (h : SameDirectories f g) {steps target : List (List Char)} :
    f.enter rooted steps = .ok target ↔ g.enter rooted steps = .ok target := by
  rw [enter_eq_ok_iff, enter_eq_ok_iff, h.walk_iff, h rooted target]

/-- A path leads to the same place as long as the directories are the same. -/
theorem locate?_eq (h : SameDirectories f g) (path : String) : f.locate? path = g.locate? path := by
  ext full
  rw [locate?_eq_some_iff, locate?_eq_some_iff]
  split
  · simp only [h.enter_iff]
  · simp only [h.walk_iff]

end SameDirectories

/-! ## Writing at the end of a file -/

/-- A file takes the place of a file, or of nothing. -/
theorem sameDirectories_insert {full : String} (hFile : f.entries.get? full ≠ some .directory)
    (content : Option String) :
    SameDirectories ⟨f.entries.insert full (.file content)⟩ f := by
  intro rooted steps
  rw [at?, at?]
  split
  · exact Iff.rfl
  · -- only the place that is written to can be another one, and neither before nor after is it a
    -- directory
    rw [NameMap.get?_insert]
    split
    · next hSame =>
      rw [hSame]
      exact ⟨fun h => (nomatch h), fun h => absurd h hFile⟩
    · exact Iff.rfl

/-- The place that a path leads to holds what is there, unless it is where all paths start. -/
theorem entry?_of_locate {full : String} (h : f.locate? path = some full) :
    f.entry? path = if full = "" ∨ full = "/" then some .directory else f.entries.get? full := by
  unfold entry?
  rw [h]

/-- What exists is in some place. -/
theorem isSome_locate_of_exists (h : f.exists? path = true) : (f.locate? path).isSome = true := by
  cases hAt : f.locate? path with
  | none =>
    have hNone : f.entry? path = none := by
      unfold entry?
      rw [hAt]
    rw [exists?, hNone] at h
    cases h
  | some full => rfl

theorem write?_eq_some {content : Option String} (h : f.write? path content = some g) :
    ∃ full, f.locate? path = some full ∧ f.entry? path ≠ some .directory ∧
      g = ⟨f.entries.insert full (.file content)⟩ := by
  rw [write?] at h
  split at h
  · cases h
  · next full hAt hDirectory => exact ⟨full, hAt, hDirectory, (Option.some.inj h).symm⟩
  · cases h

/-- What is in a file after a text was written at its end. -/
def appended (entry : Option Entry) (text : String) : Option String :=
  match entry with
  | some (.file content) => content.map (· ++ text)
  | _ => some text

/-- A text at the end of a file, or in a new one, is written into one place. -/
theorem append?_eq_some (h : f.append? path text = some g) :
    ∃ full, f.locate? path = some full ∧ f.entry? path ≠ some .directory ∧
      g = ⟨f.entries.insert full (.file (appended (f.entry? path) text))⟩ := by
  have hWrite : f.write? path (appended (f.entry? path) text) = some g := by
    rw [append?] at h
    split at h
    · next content hEntry =>
      rw [hEntry]
      exact h
    · cases h
    · next hEntry =>
      rw [hEntry]
      exact h
  exact write?_eq_some hWrite

section written

variable (h : f.append? path text = some g)
include h

/-- Paths lead where they led before. -/
theorem locate?_append (other : String) : g.locate? other = f.locate? other := by
  obtain ⟨full, hAt, hEntry, rfl⟩ := append?_eq_some h
  refine SameDirectories.locate?_eq (sameDirectories_insert (fun hDirectory => hEntry ?_) _) other
  rw [entry?_of_locate hAt, hDirectory]
  exact ite_self _

/-- The text is at the end of what the path leads to. -/
theorem entry?_append : g.entry? path = some (.file (appended (f.entry? path) text)) := by
  have hAfter := locate?_append h path
  obtain ⟨full, hAt, hEntry, rfl⟩ := append?_eq_some h
  -- where all paths start there is a directory, and no text can be written into that
  have hInner : ¬ (full = "" ∨ full = "/") := fun hOuter =>
    hEntry (by rw [entry?_of_locate hAt, if_pos hOuter])
  rw [entry?_of_locate (hAfter.trans hAt), if_neg hInner, NameMap.get?_insert_self]

/-- Under the full path that the path leads to there is a file, and under others what was there. -/
theorem get?_append (full : String) : (f.locate? path = some full ∧
      ∃ content, g.entries.get? full = some (.file content)) ∨
    g.entries.get? full = f.entries.get? full := by
  obtain ⟨place, hAt, -, rfl⟩ := append?_eq_some h
  by_cases hSame : full = place
  · rw [hSame]
    exact .inl ⟨hAt, _, NameMap.get?_insert_self ..⟩
  · exact .inr (NameMap.get?_insert_of_ne _ hSame _)

/-- What other paths lead to is the same. -/
theorem entry?_append_of_ne {other : String} (hOther : f.locate? other ≠ f.locate? path) :
    g.entry? other = f.entry? other := by
  have hAfter := locate?_append h other
  obtain ⟨full, hAt, -, hWritten⟩ := append?_eq_some h
  cases hPlace : f.locate? other with
  | none =>
    rw [hPlace] at hAfter
    unfold entry?
    rw [hAfter, hPlace]
  | some place =>
    have hApart : place ≠ full := by
      rintro rfl
      exact hOther (hPlace.trans hAt.symm)
    rw [entry?_of_locate hPlace, entry?_of_locate (hAfter.trans hPlace), hWritten,
      NameMap.get?_insert_of_ne _ hApart]

end written

/-! ## Names in a directory -/

/-- Steps whose last one is a name lead to that name in the directory that the others lead to. -/
theorem walk_concat_iff {place steps target : List (List Char)} {name : List Char}
    (hName : name ≠ ['.', '.']) : f.walk rooted place (steps ++ [name]) = .ok target ↔
      isUsable name = true ∧ ∃ base, f.walk rooted place steps = .ok base ∧
        f.at? rooted base = some .directory ∧ target = base ++ [name] := by
  induction steps generalizing place with
  | nil =>
    rw [List.nil_append, walk_cons_eq_ok_iff, if_neg hName]
    constructor
    · rintro ⟨hAt, hUsable, hEnd⟩
      exact ⟨hUsable, place, rfl, hAt, (Except.ok.inj hEnd).symm⟩
    · rintro ⟨hUsable, base, hHere, hAt, rfl⟩
      cases hHere
      exact ⟨hAt, hUsable, rfl⟩
  | cons step rest ih =>
    rw [List.cons_append, walk_cons_eq_ok_iff]
    simp only [walk_cons_eq_ok_iff]
    -- the steps before the name may lead up, which only changes the place to go on from
    by_cases hUp : step = ['.', '.']
    · simp only [if_pos hUp, ih]
      grind
    · simp only [if_neg hUp, ih]
      grind

/-- A path whose last step is a name leads to that name, directly in the directory that the steps
before lead to. -/
theorem locate?_concat_eq_some_iff {steps : List (List Char)} {name : List Char} {full : String}
    (hName : name ≠ ['.', '.']) (hPath : Path.ofString path = ⟨rooted, steps ++ [name], false⟩) :
    f.locate? path = some full ↔ isPath path = true ∧ isUsable name = true ∧
      ∃ place, f.enter rooted steps = .ok place ∧ fullPath rooted (place ++ [name]) = full := by
  rw [locate?_eq_some_iff, hPath, if_neg Bool.false_ne_true]
  simp only [walk_concat_iff hName, enter_eq_ok_iff]
  constructor
  · rintro ⟨hLong, target, ⟨hUsable, base, hBase, hAt, rfl⟩, hFull⟩
    exact ⟨hLong, hUsable, base, ⟨hBase, hAt⟩, hFull⟩
  · rintro ⟨hLong, hUsable, base, ⟨hBase, hAt⟩, hFull⟩
    exact ⟨hLong, base ++ [name], ⟨hUsable, base, hBase, hAt, rfl⟩, hFull⟩

theorem fullPath_concat_inj {base : List (List Char)} {a b : List Char}
    (h : fullPath rooted (base ++ [a]) = fullPath rooted (base ++ [b])) : a = b := by
  have hJoined : Text.joined '/' (base ++ [a]) = Text.joined '/' (base ++ [b]) :=
    List.append_cancel_left (String.ofList_inj.mp h)
  by_cases hBase : base = []
  · subst hBase
    exact hJoined
  · rw [Text.joined_concat '/' hBase, Text.joined_concat '/' hBase] at hJoined
    exact (List.cons.inj (List.append_cancel_left hJoined)).2

/-- Two names in one directory that lead to the same place are the same. -/
theorem locate?_concat_inj {other : String} {steps : List (List Char)} {a b : List Char}
    (ha : a ≠ ['.', '.']) (hb : b ≠ ['.', '.'])
    (hPath : Path.ofString path = ⟨rooted, steps ++ [a], false⟩)
    (hOther : Path.ofString other = ⟨rooted, steps ++ [b], false⟩)
    (hSame : f.locate? other = f.locate? path) (hSome : (f.locate? path).isSome = true) :
    a = b := by
  obtain ⟨full, hFull⟩ := Option.isSome_iff_exists.mp hSome
  rw [hFull] at hSame
  obtain ⟨-, -, place, hPlace, hEnd⟩ := (locate?_concat_eq_some_iff ha hPath).mp hFull
  obtain ⟨-, -, place', hPlace', hEnd'⟩ := (locate?_concat_eq_some_iff hb hOther).mp hSame
  -- both names are in the directory that the common steps lead to
  rw [hPlace] at hPlace'
  cases hPlace'
  exact fullPath_concat_inj (hEnd.trans hEnd'.symm)

end Metering.Files
