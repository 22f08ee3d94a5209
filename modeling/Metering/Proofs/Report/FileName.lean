import Mathlib.Data.List.Forall2
import Metering.Proofs.Report.Tables

/-!
# Metering — the files of metrics

A metric may have any name, and the name of its file is made of it character by character. What
could lead out of the directory is lost on the way, so that the file of every metric is directly in
the directory; but so is what tells some metrics apart, and these have one file together.

* `IsPlain`, `fileName_of_plain` — the names that are kept as they are;
* `LiesIn`, `liesIn_childPath` — a path to a name directly in a directory;
* `Confined` and its `append`, `appendRows`, `cycles` — changes of some files in a directory only;
* `files_inside` — where the files of all metrics are, and what cycles of a reporter change;
* `filePath_eq_iff`, `eq_of_filePath` — which metrics have the same file;
* `HoldsTable.appendRows` — the rows of all metrics that have the same file are in one table.
-/

namespace Metering

open Report

/-- A full path is that of a name directly in a directory. -/
def Files.IsIn (files : Files) (directory name full : String) : Prop :=
  ∃ place, files.enter (Files.Path.ofString directory).rooted
      (Files.Path.ofString directory).steps = .ok place ∧
    full = Files.fullPath (Files.Path.ofString directory).rooted (place ++ [name.toList])

namespace Report

variable {files : Files} {directory : String}

/-! ## Names -/

/-- A name has letters, digits, dots, underscores and hyphens only. -/
def IsPlain (name : String) : Prop :=
  ∀ c ∈ name.toList, c.isAlphanum = true ∨ c ∈ ['.', '_', '-']

theorem isFileChar_iff {c : Char} :
    isFileChar c = true ↔ c.isAlphanum = true ∨ c ∈ ['.', '_', '-'] := by
  have hUpper : c.isUpper = decide ('A' ≤ c ∧ c ≤ 'Z') := rfl
  have hLower : c.isLower = ('a' ≤ c && c ≤ 'z') := rfl
  have hDigit : c.isDigit = ('0' ≤ c && c ≤ '9') := rfl
  have hAlphanum : c.isAlphanum = ((c.isUpper || c.isLower) || c.isDigit) := rfl
  rw [isFileChar, hAlphanum, hUpper, hLower, hDigit]
  simp only [Bool.or_eq_true, Bool.and_eq_true, decide_eq_true_eq, beq_iff_eq, List.mem_cons,
    List.not_mem_nil, or_false]
  tauto

/-- The name of every file is plain. -/
theorem isPlain_fileName (metric : String) : IsPlain (fileName metric) :=
  fun _ hMem => isFileChar_iff.mp (isFileChar_of_mem_fileName hMem)

theorem map_fileChar_of_plain {name : String} (h : IsPlain name) :
    name.toList.map fileChar = name.toList := by
  have hKept : ∀ c ∈ name.toList, fileChar c = c := fun c hMem =>
    if_pos (isFileChar_iff.mpr (h c hMem))
  exact (List.map_congr_left hKept).trans (List.map_id _)

/-- A plain name is kept as it is. -/
theorem fileName_of_plain {metric : String} (h : IsPlain metric) :
    fileName metric = metric ++ ".csv" := by
  rw [← String.toList_inj, toList_fileName, map_fileChar_of_plain h, String.toList_append]

/-! ## Places -/

/-- A path is that of a name directly in a directory: it is written as the directory and the name,
has the steps of the directory and the name as one more, and leads to the name in the place that
the directory is in, wherever that is. -/
structure LiesIn (directory name path : String) : Prop where
  written : ∃ slash ∈ ["", "/"], path = directory ++ slash ++ name
  parts : Files.Path.ofString path = ⟨(Files.Path.ofString directory).rooted,
    (Files.Path.ofString directory).steps ++ [name.toList], false⟩
  leads : ∀ (files : Files) (full : String), files.locate? path = some full ↔
    Files.isPath path = true ∧ Files.isUsable name.toList = true ∧ files.IsIn directory name full

theorem liesIn_childPath {name : String} (h : IsChild name) (directory : String) :
    LiesIn directory name (childPath directory name) where
  written := by
    unfold childPath
    split
    · next hNone => exact ⟨"", by simp, by rw [hNone, String.empty_append, String.empty_append]⟩
    · split
      · exact ⟨"", by simp, by rw [String.append_empty]⟩
      · exact ⟨"/", by simp, rfl⟩
  parts := ofString_childPath h directory
  leads := by
    intro files full
    have hNotUp : name.toList ≠ ['.', '.'] := fun hUp => h.2 (by simp [hUp])
    rw [Files.locate?_concat_eq_some_iff hNotUp (ofString_childPath h directory), Files.IsIn]
    simp only [eq_comm]

/-! ## Changes -/

/-- Paths lead where they led before, and what is different is a file of a directory, under one of
some names. -/
structure Confined (directory : String) (names : List String) (f g : Files) : Prop where
  located : ∀ path, g.locate? path = f.locate? path
  inside : ∀ full, (∃ name ∈ names, f.locate? (childPath directory name) = some full ∧
      ∃ content, g.entries.get? full = some (.file content)) ∨
    g.entries.get? full = f.entries.get? full

namespace Confined

variable {f g k : Files} {names more : List String}

theorem refl (f : Files) : Confined directory names f f :=
  ⟨fun _ => rfl, fun _ => .inr rfl⟩

theorem trans (hFirst : Confined directory names f g) (hThen : Confined directory more g k) :
    Confined directory (names ++ more) f k := by
  refine ⟨fun path => (hThen.located path).trans (hFirst.located path), fun full => ?_⟩
  rcases hThen.inside full with ⟨name, hName, hAt, hFile⟩ | hSame
  · rw [hFirst.located] at hAt
    exact .inl ⟨name, List.mem_append_right _ hName, hAt, hFile⟩
  · -- what the second change leaves alone is as the first has left it
    rcases hFirst.inside full with ⟨name, hName, hAt, hFile⟩ | hBefore
    · exact .inl ⟨name, List.mem_append_left _ hName, hAt, by rw [hSame]; exact hFile⟩
    · exact .inr (hSame.trans hBefore)

/-- A row changes the file of its metric. -/
theorem appendRow {h h' : Host} {s : Sample} (hRow : Report.appendRow h directory s = some h') :
    Confined directory [fileName s.name] h.files h'.files := by
  obtain ⟨files, rfl, hFiles⟩ := appendRow_eq_some hRow
  refine ⟨Files.locate?_append hFiles, fun full => ?_⟩
  exact (Files.get?_append hFiles full).imp_left fun hThere =>
    ⟨fileName s.name, List.mem_singleton_self _, hThere⟩

/-- Rows change the files of their metrics, also where not all of them can be written. -/
theorem appendRows (h : Host) (samples : List Sample) :
    Confined directory (samples.map fun s => fileName s.name) h.files
      (Report.appendRows h directory samples).1.files := by
  induction samples generalizing h with
  | nil => exact refl _
  | cons s rest ih =>
    rw [Report.appendRows]
    split
    · next h' hRow => exact (appendRow hRow).trans (ih h')
    · exact refl _

/-- A cycle changes the files of the metrics that it reports. -/
theorem report {p : Polled} (hSink : p.sink = .tables directory) (site : Site) (files : Files) :
    ∃ after outcome, (Reporter.polled p).report (site.withFiles files) =
        (after, .polled p, outcome) ∧
      Confined directory ((p.reported site).map fun s => fileName s.name) files
        after.host.files := by
  obtain ⟨after, outcome, hReport, said, hFiles, -, hWritten, -⟩ := report_tables hSink site files
  have hRows : Confined directory ((p.reported site).map fun s => fileName s.name) said.files
      (Report.appendRows said directory (p.reported site)).1.files := appendRows said _
  rw [hFiles, ← hWritten] at hRows
  exact ⟨after, outcome, hReport, hRows⟩

/-- Cycles of a reporter change the files of the metrics that they report. -/
theorem cycles {p : Polled} (hSink : p.sink = .tables directory) (files : Files)
    (sites : List Site) :
    Confined directory ((sites.flatMap p.reported).map fun s => fileName s.name) files
      (Report.cycles (.polled p) files sites).1 := by
  -- by induction on the cycles; each finds the files as the one before has left them
  induction sites generalizing files with
  | nil => exact refl _
  | cons site rest ih =>
    obtain ⟨after, outcome, hReport, hHere⟩ := report hSink site files
    rw [Report.cycles, hReport, List.flatMap_cons, List.map_append]
    exact hHere.trans (ih after.host.files)

end Confined

/-- The file of a metric is directly in the directory, whatever the directory and the metric are
called: its path goes on from that of the directory by one name, which has letters, digits, dots,
underscores and hyphens only, ends in its own extension and is not one of the names that lead
elsewhere. A name that has only such characters is kept before the extension. After any number of
cycles of a reporter of tables, failed ones too, what is different from before are files, which are
directly in the directory and have the names of metrics that were reported. -/
theorem files_inside (directory : String) :
    (∀ metric : String,
      LiesIn directory (fileName metric) (filePath directory metric) ∧
      IsPlain (fileName metric) ∧ ".csv".toList <:+ (fileName metric).toList ∧
      fileName metric ≠ "." ∧ fileName metric ≠ ".." ∧
      (IsPlain metric → fileName metric = metric ++ ".csv")) ∧
    ∀ (p : Polled) (files : Files) (sites : List Site),
      let reporter : Polled := { p with sink := .tables directory }
      let after := (cycles (.polled reporter) files sites).1
      ∀ full, after.entries.get? full ≠ files.entries.get? full →
        (∃ content, after.entries.get? full = some (.file content)) ∧
          ∃ s ∈ sites.flatMap reporter.reported, files.IsIn directory (fileName s.name) full := by
  refine ⟨fun metric => ?_, fun p files sites => ?_⟩
  · have hChild : IsChild (fileName metric) := isChild_fileName metric
    refine ⟨liesIn_childPath hChild directory, isPlain_fileName metric, ?_, ?_, ?_,
      fileName_of_plain⟩
    · rw [toList_fileName]
      exact List.suffix_append _ _
    · intro hDot
      exact hChild.2 (by simp [hDot])
    · intro hDots
      exact hChild.2 (by simp [hDots])
  · intro reporter after full hChanged
    have hConfined := Confined.cycles (p := reporter) rfl files sites
    rcases hConfined.inside full with ⟨name, hName, hAt, hFile⟩ | hSame
    · obtain ⟨s, hs, rfl⟩ := List.mem_map.mp hName
      exact ⟨hFile, s, hs, (((liesIn_childPath (isChild_fileName s.name) directory).leads
        files full).mp hAt).2.2⟩
    · exact absurd hSame hChanged

/-! ## Shared files -/

/-- Two characters are one in the name of a file if they are the same or both become an
underscore. -/
theorem fileChar_eq_iff {c d : Char} :
    fileChar c = fileChar d ↔ c = d ∨ fileChar c = '_' ∧ fileChar d = '_' := by
  unfold fileChar
  by_cases hc : isFileChar c = true <;> by_cases hd : isFileChar d = true <;>
    simp only [hc, hd, if_true] <;> grind

/-- Metrics have the same file if their names are the same character by character in it. -/
theorem filePath_eq_iff_map {a b : String} : filePath directory a = filePath directory b ↔
    a.toList.map fileChar = b.toList.map fileChar := by
  constructor
  · intro hSame
    have hParts := congrArg (fun path => (Files.Path.ofString path).steps) hSame
    simp only [filePath, ofString_childPath (isChild_fileName _), toList_fileName] at hParts
    -- the steps end in the names of the files, which end in the same extension
    have hNames := (List.cons.inj (List.append_cancel_left hParts)).1
    exact List.append_cancel_right hNames
  · intro hSame
    have hNames : fileName a = fileName b := by
      rw [← String.toList_inj, toList_fileName, toList_fileName, hSame]
    rw [filePath, filePath, hNames]

/-- Two metrics have the same file if and only if their names differ only in characters that both
become an underscore. -/
theorem filePath_eq_iff {a b : String} : filePath directory a = filePath directory b ↔
    List.Forall₂ (fun c d => c = d ∨ fileChar c = '_' ∧ fileChar d = '_') a.toList b.toList := by
  rw [filePath_eq_iff_map, ← List.forall₂_eq_eq_eq, List.forall₂_map_left_iff,
    List.forall₂_map_right_iff]
  simp only [fileChar_eq_iff]

example : filePath "out" "a/b" = filePath "out" "a_b" := by decide

/-- A metric whose name is plain and has no underscores shares its file with no other one. -/
theorem eq_of_filePath {a b : String} (hPlain : IsPlain a) (hNone : '_' ∉ a.toList)
    (hSame : filePath directory a = filePath directory b) : a = b := by
  rw [filePath_eq_iff_map, map_fileChar_of_plain hPlain] at hSame
  have hKept : ∀ d ∈ b.toList, fileChar d = d := by
    intro d hMem
    by_contra hChanged
    -- what is changed becomes an underscore, of which there is none
    have hUnder : fileChar d = '_' := if_neg fun hStays => hChanged (if_pos hStays)
    refine hNone ?_
    rw [hSame, ← hUnder]
    exact List.mem_map_of_mem hMem
  rw [List.map_congr_left hKept, List.map_id'] at hSame
  exact String.toList_inj.mp hSame

/-- After rows were written, the file of a metric has the rows of all metrics that share it, in the
order in which they were written, and the header of the first. -/
theorem HoldsTable.appendRows {h h' : Host} {metric : String} {rows : List (Nat × Reading)}
    {samples : List Sample}
    (hHolds : HoldsTable h.files (filePath directory metric) rows)
    (hRows : Report.appendRows h directory samples = (h', true)) :
    HoldsTable h'.files (filePath directory metric)
      (rows ++ (samples.filter fun s => fileName s.name == fileName metric).map fun s =>
        (h.timestamp, s.reading)) := by
  induction samples generalizing h rows with
  | nil =>
    cases hRows
    rw [List.filter_nil, List.map_nil, List.append_nil]
    exact hHolds
  | cons s rest ih =>
    rw [Report.appendRows] at hRows
    split at hRows
    · next next hRow =>
      obtain ⟨files, rfl, hAfter⟩ := appendRow_eq_some hRow
      by_cases hFile : fileName s.name = fileName metric
      · rw [filePath, hFile, ← filePath] at hAfter
        have hMore := ih (.inr ⟨List.concat_ne_nil _ _, hHolds.entry_append hAfter⟩) hRows
        rw [List.append_assoc] at hMore
        rw [List.filter_cons, if_pos (beq_iff_eq.mpr hFile)]
        exact hMore
      · have hElsewhere : h.files.locate? (filePath directory metric) ≠
            h.files.locate? (filePath directory s.name) := by
          intro hSame
          obtain ⟨full, hFull, -⟩ := Files.append?_eq_some hAfter
          exact hFile (child_eq_of_locate (isChild_fileName s.name) (isChild_fileName metric) hSame
            (by rw [← filePath, hFull]; rfl))
        have hStill : HoldsTable files (filePath directory metric) rows := by
          unfold HoldsTable
          rw [Files.entry?_append_of_ne hAfter hElsewhere]
          exact hHolds
        rw [List.filter_cons, if_neg fun hSame => hFile (beq_iff_eq.mp hSame)]
        exact @ih { h with files := files } rows hStill hRows
    · cases hRows

example :
    let host : Host := ⟨0, ⟨.empty⟩, "", []⟩
    let after := (Report.appendRows host "." [⟨"a/b", .counter 1⟩, ⟨"a_b", .counter 2⟩]).1
    after.files.read? "./a_b.csv" = some "t,count\n0,1\n0,2\n" := by decide

end Report

end Metering
