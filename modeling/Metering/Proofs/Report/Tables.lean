import Metering.Proofs.Files
import Metering.Proofs.Report.Table

/-!
# Metering — the tables that a reporter keeps

A reporter of tables starts on an empty directory and reports again and again, while metrics come
and go. After each cycle the file of a metric is the table of all that was reported of it so far,
and no other file is there.

* `Polled.reported`, `cycles` — what is reported at a site, and cycles one after the other;
* `EmptyDirectory` — a directory in which there is nothing;
* `HoldsTable`, `HoldsTable.entry_append` — a file that is a table, and one more row of it;
* `Kept` — the files hold the tables of what was reported so far, and are otherwise as before;
* `Kept.append`, `Kept.appendRows`, `Kept.cycles` — a row, a cycle and a run keep it so;
* `tables_kept` — the tables after any number of cycles.
-/

namespace Metering

open Report

/-- The site with other files. -/
def Site.withFiles (site : Site) (files : Files) : Site :=
  { site with host := { site.host with files := files } }

namespace Report

/-! ## Cycles -/

/-- What a reporter reports at a site: nothing if a gauge breaks off. -/
def Polled.reported (p : Polled) (site : Site) : List Sample :=
  (site.registry.samples site.now (p.selection.accepts site.registry.counts)).2.getD []

/-- What a reporter reports of one metric in cycles at sites, with the times on the clock. -/
def Polled.readings (p : Polled) (sites : List Site) (name : String) : List (Nat × Reading) :=
  sites.filterMap fun site =>
    ((p.reported site).find? fun s => s.name == name).map fun s => (site.host.timestamp, s.reading)

/-- Cycles of a reporter one after the other, and how they end. Each cycle finds the files as the
one before has left them; all else may have changed. -/
def cycles (r : Reporter) (files : Files) : List Site → Files × List Outcome
  | [] => (files, [])
  | site :: rest =>
    let (after, r, outcome) := r.report (site.withFiles files)
    let (files, outcomes) := cycles r after.host.files rest
    (files, outcome :: outcomes)

/-- A path leads to a directory in which there is nothing. -/
structure EmptyDirectory (files : Files) (directory : String) : Prop where
  there : files.isDirectory directory = true
  empty : ∀ name, IsChild name → files.exists? (childPath directory name) = false

variable {files : Files} {directory : String}

/-! ## Different files -/

/-- Names in a directory that lead to one place are the same. -/
theorem child_eq_of_locate {a b : String} (ha : IsChild a) (hb : IsChild b)
    (hSame : files.locate? (childPath directory b) = files.locate? (childPath directory a))
    (hSome : (files.locate? (childPath directory a)).isSome = true) : a = b := by
  have hName : a.toList = b.toList :=
    Files.locate?_concat_inj (fun hUp => ha.2 (by simp [hUp])) (fun hUp => hb.2 (by simp [hUp]))
      (ofString_childPath ha directory) (ofString_childPath hb directory) hSame hSome
  exact String.toList_inj.mp hName

/-! ## The tables so far -/

/-- The readings of one metric among all that were reported. -/
def rowsOf (rows : List (Nat × Sample)) (name : String) : List (Nat × Reading) :=
  (rows.filter fun row => row.2.name == name).map fun row => (row.1, row.2.reading)

theorem rowsOf_concat_self (rows : List (Nat × Sample)) (time : Nat) (s : Sample) :
    rowsOf (rows ++ [(time, s)]) s.name = rowsOf rows s.name ++ [(time, s.reading)] := by
  rw [rowsOf, List.filter_append, List.map_append, List.filter_cons_of_pos (by simp)]
  rfl

theorem rowsOf_concat_of_ne {rows : List (Nat × Sample)} {time : Nat} {s : Sample} {name : String}
    (h : s.name ≠ name) : rowsOf (rows ++ [(time, s)]) name = rowsOf rows name := by
  have hNone : [(time, s)].filter (fun row => row.2.name == name) = [] := by simp [h]
  rw [rowsOf, rowsOf, List.filter_append, hNone, List.append_nil]

theorem rowsOf_ne_nil {rows : List (Nat × Sample)} {row : Nat × Sample} (h : row ∈ rows) :
    rowsOf rows row.2.name ≠ [] := by
  intro hNil
  have hFilter := List.map_eq_nil_iff.mp hNil
  exact List.filter_eq_nil_iff.mp hFilter row h (beq_self_eq_true _)

/-- What a path leads to is the table of some readings, and nothing as long as there are none. -/
def HoldsTable (files : Files) (path : String) (rows : List (Nat × Reading)) : Prop :=
  (rows = [] ∧ files.entry? path = none) ∨
    (rows ≠ [] ∧ files.entry? path = some (.file (some (tableText rows))))

/-- The next row is put at the end of a table, and a header before the first one. -/
theorem HoldsTable.entry_append {after : Files} {path : String} {rows : List (Nat × Reading)}
    {time : Nat} {r : Reading} (hHolds : HoldsTable files path rows)
    (hAfter : files.append? path
      ((if files.exists? path then "" else headerRow r) ++ dataRow time r) = some after) :
    after.entry? path = some (.file (some (tableText (rows ++ [(time, r)])))) := by
  rw [Files.entry?_append hAfter]
  -- the header is written if and only if this is the first row
  rcases hHolds with ⟨rfl, hAt⟩ | ⟨hRows, hAt⟩
  · have hNew : files.exists? path = false := by
      rw [Files.exists?, hAt]
      rfl
    rw [hNew, hAt, List.nil_append, tableText_singleton]
    rfl
  · have hThere : files.exists? path = true := by
      rw [Files.exists?, hAt]
      rfl
    rw [hThere, hAt, tableText_concat hRows, if_pos rfl, String.empty_append]
    rfl

/-- Files hold the tables of what was reported so far, and are otherwise what they were at first. -/
structure Kept (start : Files) (directory : String) (names : List String)
    (rows : List (Nat × Sample)) (files : Files) : Prop where
  /-- Only these metrics were reported. -/
  named : ∀ row ∈ rows, row.2.name ∈ names
  /-- Paths lead where they led at first. -/
  located : ∀ path, files.locate? path = start.locate? path
  /-- The file of each metric is the table of what was reported of it. -/
  table : ∀ row ∈ rows, files.entry? (filePath directory row.2.name) =
    some (.file (some (tableText (rowsOf rows row.2.name))))
  /-- All other paths lead to what they led to at first. -/
  rest : ∀ path, (∀ row ∈ rows,
      start.locate? path ≠ start.locate? (filePath directory row.2.name)) →
    files.entry? path = start.entry? path

theorem kept_start (start : Files) (directory : String) (names : List String) :
    Kept start directory names [] start :=
  ⟨fun _ h => (nomatch h), fun _ => rfl, fun _ h => (nomatch h), fun _ _ => rfl⟩

section kept

variable {start after : Files} {names : List String} {rows : List (Nat × Sample)} {h : Host}
  {s : Sample}

/-- A row of a metric is put at the end of its table, which is made if it is not there. -/
theorem appendRow_eq_some {h' : Host} (hRow : appendRow h directory s = some h') :
    ∃ files, h' = { h with files := files } ∧
      h.files.append? (filePath directory s.name)
        ((if h.files.exists? (filePath directory s.name) then "" else headerRow s.reading) ++
          dataRow h.timestamp s.reading) = some files := by
  obtain ⟨files, hFiles, rfl⟩ := Option.map_eq_some_iff.mp hRow
  exact ⟨files, rfl, hFiles⟩

variable (hEmpty : EmptyDirectory start directory)
  (hApart : ∀ a ∈ names, ∀ b ∈ names, filePath directory a = filePath directory b → a = b)
include hEmpty hApart

omit hEmpty in
/-- The files of other metrics that were reported are in other places. -/
theorem Kept.locate_ne (hKept : Kept start directory names rows files) (hName : s.name ∈ names)
    (hSome : (files.locate? (filePath directory s.name)).isSome = true) {row : Nat × Sample}
    (hRow : row ∈ rows) (hOther : s.name ≠ row.2.name) :
    files.locate? (filePath directory row.2.name) ≠ files.locate? (filePath directory s.name) :=
  fun hSame =>
    have hFile : fileName s.name = fileName row.2.name :=
      child_eq_of_locate (isChild_fileName s.name) (isChild_fileName row.2.name) hSame hSome
    hOther (hApart s.name hName row.2.name (hKept.named row hRow)
      (congrArg (childPath directory) hFile))

/-- The file of a metric holds the table of what was reported of it so far. -/
theorem Kept.holdsTable (hKept : Kept start directory names rows files) (hName : s.name ∈ names)
    (hSome : (files.locate? (filePath directory s.name)).isSome = true) :
    HoldsTable files (filePath directory s.name) (rowsOf rows s.name) := by
  by_cases hReported : ∃ row ∈ rows, row.2.name = s.name
  · obtain ⟨row, hRow, hSame⟩ := hReported
    rw [← hSame]
    exact .inr ⟨rowsOf_ne_nil hRow, hKept.table row hRow⟩
  · have hOther : ∀ row ∈ rows, row.2.name ≠ s.name := fun row hRow hSame =>
      hReported ⟨row, hRow, hSame⟩
    refine .inl ⟨?_, ?_⟩
    · have hFilter : rows.filter (fun row => row.2.name == s.name) = [] := by
        rw [List.filter_eq_nil_iff]
        intro row hRow hSame
        exact hOther row hRow (beq_iff_eq.mp hSame)
      rw [rowsOf, hFilter, List.map_nil]
    · -- nothing was written there, and at first nothing was there
      have hRest := hKept.rest (filePath directory s.name) fun row hRow => by
        rw [← hKept.located, ← hKept.located]
        exact (hKept.locate_ne hApart hName hSome hRow (hOther row hRow).symm).symm
      have hNothing := hEmpty.empty (fileName s.name) (isChild_fileName s.name)
      rw [hRest]
      exact Option.isNone_iff_eq_none.mp (Option.isSome_eq_false_iff.mp hNothing)

/-- Another row keeps the tables. -/
theorem Kept.append (hKept : Kept start directory names rows files) (hName : s.name ∈ names)
    (time : Nat)
    (hAfter : files.append? (filePath directory s.name)
      ((if files.exists? (filePath directory s.name) then "" else headerRow s.reading) ++
        dataRow time s.reading) = some after) :
    Kept start directory names (rows ++ [(time, s)]) after := by
  obtain ⟨full, hFull, -⟩ := Files.append?_eq_some hAfter
  have hSome : (files.locate? (filePath directory s.name)).isSome = true := by
    rw [hFull]
    rfl
  refine ⟨?_, ?_, ?_, ?_⟩
  · intro row hRow
    rcases List.mem_append.mp hRow with hBefore | hNew
    · exact hKept.named row hBefore
    · rw [List.mem_singleton.mp hNew]
      exact hName
  · intro path
    rw [Files.locate?_append hAfter, hKept.located]
  · intro row hRow
    by_cases hSame : s.name = row.2.name
    · rw [← hSame, rowsOf_concat_self]
      exact (hKept.holdsTable hEmpty hApart hName hSome).entry_append hAfter
    · have hBefore : row ∈ rows := by
        rcases List.mem_append.mp hRow with hBefore | hNew
        · exact hBefore
        · exact absurd (by rw [List.mem_singleton.mp hNew]) hSame
      -- the tables of other metrics are in other places, which the row does not touch
      rw [rowsOf_concat_of_ne hSame, Files.entry?_append_of_ne hAfter
        (hKept.locate_ne hApart hName hSome hBefore hSame)]
      exact hKept.table row hBefore
  · intro path hOther
    have hPlace : files.locate? path ≠ files.locate? (filePath directory s.name) := by
      rw [hKept.located, hKept.located]
      exact hOther (time, s) (List.mem_append_right rows List.mem_cons_self)
    rw [Files.entry?_append_of_ne hAfter hPlace]
    exact hKept.rest path fun row hRow => hOther row (List.mem_append_left _ hRow)

/-- The rows of one cycle keep the tables. -/
theorem Kept.appendRows {samples : List Sample} {h' : Host}
    (hKept : Kept start directory names rows h.files) (hNames : ∀ s ∈ samples, s.name ∈ names)
    (hRows : Report.appendRows h directory samples = (h', true)) :
    Kept start directory names (rows ++ samples.map fun s => (h.timestamp, s)) h'.files := by
  -- by induction on the samples; each row is written on the host that the one before has left
  induction samples generalizing rows h with
  | nil =>
    cases hRows
    rw [List.map_nil, List.append_nil]
    exact hKept
  | cons s rest ih =>
    obtain ⟨hFirst, hRest⟩ := List.forall_mem_cons.mp hNames
    rw [Report.appendRows] at hRows
    split at hRows
    · next between hRow =>
      obtain ⟨files, rfl, hFiles⟩ := appendRow_eq_some hRow
      have hMore := ih (hKept.append hEmpty hApart hFirst h.timestamp hFiles) hRest hRows
      rw [List.append_assoc] at hMore
      exact hMore
    · cases hRows

omit hEmpty hApart in
/-- The sink of tables stays what it is and adds rows, and fails or has added one for each
sample. -/
theorem write_tables (h : Host) (name : String) (samples : List Sample) :
    let written := (Sink.tables directory).write h name samples
    written.1 = (Report.appendRows h directory samples).1 ∧ written.2.1 = .tables directory ∧
      ((∃ fault, written.2.2 = .error fault) ∨ (Report.appendRows h directory samples).2 = true) := by
  rw [Sink.write]
  cases hRows : Report.appendRows h directory samples with
  | mk after whole =>
    cases whole with
    | true => exact ⟨rfl, rfl, .inr rfl⟩
    | false => exact ⟨rfl, rfl, .inl ⟨.io name, rfl⟩⟩

omit hEmpty hApart in
/-- A cycle of a reporter of tables adds rows for what it reports, which is nothing if it breaks
off. If it does not fail, it has added them all. -/
theorem report_tables {p : Polled} (hSink : p.sink = .tables directory) (site : Site)
    (files : Files) :
    ∃ after outcome, (Reporter.polled p).report (site.withFiles files) =
        (after, .polled p, outcome) ∧
      ∃ said : Host, said.files = files ∧ said.timestamp = site.host.timestamp ∧
        after.host.files = (Report.appendRows said directory (p.reported site)).1.files ∧
        ((∃ fault, outcome = .failed fault) ∨
          (Report.appendRows said directory (p.reported site)).2 = true) := by
  cases hSamples : (site.registry.samples site.now
      (p.selection.accepts site.registry.counts)).2 with
  | none =>
    have hNothing : p.reported site = [] := by rw [Polled.reported, hSamples, Option.getD_none]
    obtain ⟨hHost, hEnd⟩ := @Reporter.report_of_none p (site.withFiles files) hSamples
    refine ⟨_, .brokenOff, Prod.ext rfl hEnd, (site.withFiles files).host, rfl, rfl, ?_⟩
    rw [hHost, hNothing]
    exact ⟨rfl, .inr rfl⟩
  | some samples =>
    have hReported : p.reported site = samples := by
      rw [Polled.reported, hSamples, Option.getD_some]
    obtain ⟨hHost, hAfter, hOutcome⟩ :=
      @Reporter.report_of_samples p (site.withFiles files) samples hSamples
    -- what it says before it writes leaves the files and the clock alone
    let said := p.writing (site.withFiles files).host samples.length
    obtain ⟨hWritten, hSink', hEnd⟩ := @write_tables directory said p.name samples
    rw [hSink] at hHost hAfter hOutcome
    rw [hSink', ← hSink] at hAfter
    refine ⟨_, _, Prod.ext rfl (Prod.ext hAfter rfl), said, rfl, rfl, ?_⟩
    rw [hHost, hWritten, hReported]
    refine ⟨rfl, hEnd.imp_left fun hFailed => ?_⟩
    obtain ⟨fault, hFault⟩ := hFailed
    rw [hFault] at hOutcome
    exact ⟨fault, hOutcome⟩

/-- A cycle keeps the tables if it does not fail. -/
theorem Kept.report {p : Polled} (hSink : p.sink = .tables directory)
    (hKept : Kept start directory names rows files) (site : Site)
    (hNames : ∀ s ∈ p.reported site, s.name ∈ names) :
    ∃ after outcome, (Reporter.polled p).report (site.withFiles files) =
        (after, .polled p, outcome) ∧ ((∃ fault, outcome = .failed fault) ∨
      Kept start directory names
        (rows ++ (p.reported site).map fun s => (site.host.timestamp, s)) after.host.files) := by
  obtain ⟨after, outcome, hReport, said, hFiles, hTime, hWritten, hEnd⟩ :=
    report_tables hSink site files
  refine ⟨after, outcome, hReport, ?_⟩
  rcases hEnd with hFailed | hAll
  · exact .inl hFailed
  · have hFrom : Kept start directory names rows said.files := hFiles ▸ hKept
    have hMore := hFrom.appendRows hEmpty hApart hNames (Prod.ext rfl hAll)
    rw [hTime] at hMore
    rw [hWritten]
    exact .inr hMore

/-- What was reported in cycles at sites, with the times on the clock. -/
def reportedRows (p : Polled) (sites : List Site) : List (Nat × Sample) :=
  sites.flatMap fun site => (p.reported site).map fun s => (site.host.timestamp, s)

/-- Cycles keep the tables as long as none of them fails. -/
theorem Kept.cycles {p : Polled} (hSink : p.sink = .tables directory) {sites : List Site}
    (hKept : Kept start directory names rows files)
    (hNames : ∀ s ∈ sites.flatMap p.reported, s.name ∈ names)
    (hWell : ∀ outcome ∈ (Report.cycles (.polled p) files sites).2, ∀ fault,
      outcome ≠ .failed fault) :
    Kept start directory names (rows ++ reportedRows p sites)
      (Report.cycles (.polled p) files sites).1 := by
  -- by induction on the cycles, with the rows so far as what is carried along
  induction sites generalizing rows files with
  | nil =>
    rw [reportedRows, List.flatMap_nil, List.append_nil]
    exact hKept
  | cons site rest ih =>
    rw [List.flatMap_cons, List.forall_mem_append] at hNames
    obtain ⟨hFirst, hRest⟩ := hNames
    obtain ⟨after, outcome, hReport, hEnd⟩ := hKept.report hEmpty hApart hSink site hFirst
    rw [Report.cycles, hReport] at hWell ⊢
    obtain ⟨hHere, hLater⟩ := List.forall_mem_cons.mp hWell
    rcases hEnd with ⟨fault, hFailed⟩ | hKept
    · exact absurd hFailed (hHere fault)
    · have hMore := ih hKept hRest hLater
      rw [List.append_assoc] at hMore
      rw [reportedRows, List.flatMap_cons]
      exact hMore

end kept

/-! ## The tables in the end -/

/-- The samples of statistics have the names under which these were asked for. -/
theorem map_name_readAll {statistics : Statistics} {now : Instant}
    {entries : List (String × StatId)} {samples : List Sample}
    (h : (statistics.readAll now entries).2 = some samples) :
    samples.map Sample.name = entries.map Prod.fst := by
  induction entries generalizing statistics samples with
  | nil =>
    cases h
    rfl
  | cons e rest ih =>
    rw [Statistics.readAll] at h
    split at h
    · cases h
    · next after reading hRead =>
      obtain ⟨more, hMore, rfl⟩ := Option.map_eq_some_iff.mp h
      rw [List.map_cons, List.map_cons, ih hMore]

/-- What is reported at one site is reported under different names. -/
theorem Polled.nodup_reported (p : Polled) (site : Site) :
    ((p.reported site).map Sample.name).Nodup := by
  rw [Polled.reported]
  cases hSamples : (site.registry.samples site.now
      (p.selection.accepts site.registry.counts)).2 with
  | none => exact List.nodup_nil
  | some samples =>
    have hNames := map_name_readAll hSamples
    rw [Option.getD_some, hNames, Store.passing]
    have hAscending : (site.registry.store.toList.filter fun e =>
        p.selection.accepts site.registry.counts e.1).Pairwise fun a b => a.1 < b.1 :=
      site.registry.store.ascending.filter _
    rw [List.nodup_iff_pairwise_ne, List.pairwise_map]
    refine hAscending.imp fun hBefore hSame => ?_
    rw [hSame] at hBefore
    exact String.lt_irrefl _ hBefore

/-- In a list with different names a name stands at most once. -/
theorem filter_name_eq {samples : List Sample} (h : (samples.map Sample.name).Nodup)
    (name : String) : samples.filter (fun s => s.name == name) =
      (samples.find? fun s => s.name == name).toList := by
  induction samples with
  | nil => rfl
  | cons s rest ih =>
    rw [List.map_cons, List.nodup_cons] at h
    by_cases hSame : s.name == name
    · have hRest : rest.filter (fun s => s.name == name) = [] := by
        rw [List.filter_eq_nil_iff]
        intro other hOther hName
        exact h.1 (List.mem_map.mpr ⟨other, hOther,
          (beq_iff_eq.mp hName).trans (beq_iff_eq.mp hSame).symm⟩)
      rw [List.filter_cons, if_pos hSame, hRest, List.find?_cons, hSame]
      rfl
    · rw [List.filter_cons, if_neg hSame, ih h.2, List.find?_cons, Bool.eq_false_iff.mpr hSame]

/-- What is reported in one of the cycles has a row, and each row was reported. -/
theorem mem_reported_iff {p : Polled} {sites : List Site} {s : Sample} :
    s ∈ sites.flatMap p.reported ↔ ∃ time, (time, s) ∈ reportedRows p sites := by
  constructor
  · intro hs
    obtain ⟨site, hSite, hReported⟩ := List.mem_flatMap.mp hs
    exact ⟨site.host.timestamp,
      List.mem_flatMap.mpr ⟨site, hSite, List.mem_map_of_mem hReported⟩⟩
  · rintro ⟨time, hRow⟩
    obtain ⟨site, hSite, hMap⟩ := List.mem_flatMap.mp hRow
    obtain ⟨reported, hReported, hSame⟩ := List.mem_map.mp hMap
    rw [← (Prod.mk.inj hSame).2]
    exact List.mem_flatMap.mpr ⟨site, hSite, hReported⟩

/-- The rows of a metric are what its cycles report, one for each. -/
theorem rowsOf_reportedRows (p : Polled) (sites : List Site) (name : String) :
    rowsOf (reportedRows p sites) name = p.readings sites name := by
  induction sites with
  | nil => rfl
  | cons site rest ih =>
    have hFirst : ((p.reported site).map fun s => (site.host.timestamp, s)).filter
        (fun row => row.2.name == name) =
          ((p.reported site).find? fun s => s.name == name).toList.map fun s =>
            (site.host.timestamp, s) := by
      rw [List.filter_map, ← filter_name_eq (p.nodup_reported site)]
      rfl
    rw [reportedRows, List.flatMap_cons, rowsOf, List.filter_append, List.map_append, hFirst,
      Polled.readings, List.filterMap_cons]
    have hRest : ((reportedRows p rest).filter fun row => row.2.name == name).map
        (fun row => (row.1, row.2.reading)) = p.readings rest name := ih
    rw [reportedRows] at hRest
    rw [hRest]
    cases (p.reported site).find? fun s => s.name == name <;> rfl

/-- After any number of cycles on a directory that was empty, of which none failed, while every
metric kept its kind and no two of those that were reported had the same file: the file of each
metric is a table with a header, followed by one line for each cycle that reported the metric, in
the order of the cycles. A line starts with the time of its cycle and goes on with one figure for
each title, which is the text of what the title names. What was reported has its file in the
directory, and there is nothing else; all other paths lead to what they led to before. -/
theorem tables_kept {p : Polled} (hSink : p.sink = .tables directory)
    (hEmpty : EmptyDirectory files directory) {sites : List Site}
    (hWell : ∀ outcome ∈ (cycles (.polled p) files sites).2, ∀ fault, outcome ≠ .failed fault)
    (hKinds : ∀ s ∈ sites.flatMap p.reported, ∀ t ∈ sites.flatMap p.reported,
      s.name = t.name → s.reading.label = t.reading.label)
    (hApart : ∀ s ∈ sites.flatMap p.reported, ∀ t ∈ sites.flatMap p.reported,
      filePath directory s.name = filePath directory t.name → s.name = t.name) :
    let after := (cycles (.polled p) files sites).1
    (∀ s ∈ sites.flatMap p.reported, ∃ text,
      after.read? (filePath directory s.name) = some text ∧
        IsTable s.reading.titles (p.readings sites s.name) text) ∧
    (∀ name, IsChild name → (after.exists? (childPath directory name) = true ↔
      ∃ s ∈ sites.flatMap p.reported, fileName s.name = name)) ∧
    ∀ path, (∀ s ∈ sites.flatMap p.reported,
        files.locate? path ≠ files.locate? (filePath directory s.name)) →
      after.entry? path = files.entry? path := by
  intro after
  let names := (sites.flatMap p.reported).map Sample.name
  have hDifferent : ∀ a ∈ names, ∀ b ∈ names,
      filePath directory a = filePath directory b → a = b := by
    intro a ha b hb
    obtain ⟨s, hs, rfl⟩ := List.mem_map.mp ha
    obtain ⟨t, ht, rfl⟩ := List.mem_map.mp hb
    exact hApart s hs t ht
  have hKept : Kept files directory names ([] ++ reportedRows p sites) after :=
    (kept_start files directory names).cycles hEmpty hDifferent hSink
      (fun s hs => List.mem_map_of_mem hs) hWell
  rw [List.nil_append] at hKept
  have hTable : ∀ s ∈ sites.flatMap p.reported, after.entry? (filePath directory s.name) =
      some (.file (some (tableText (p.readings sites s.name)))) := by
    intro s hs
    obtain ⟨time, hRow⟩ := mem_reported_iff.mp hs
    rw [← rowsOf_reportedRows]
    exact hKept.table (time, s) hRow
  have hOutside : ∀ path, (∀ s ∈ sites.flatMap p.reported,
      files.locate? path ≠ files.locate? (filePath directory s.name)) →
        after.entry? path = files.entry? path := fun path hOther =>
    hKept.rest path fun row hRow => hOther row.2 (mem_reported_iff.mpr ⟨row.1, hRow⟩)
  refine ⟨fun s hs => ?_, fun name hChild => ⟨fun hThere => ?_, ?_⟩, hOutside⟩
  · refine ⟨tableText (p.readings sites s.name), ?_, isTable_tableText ?_ fun row hRow => ?_⟩
    · rw [Files.read?, hTable s hs]
    · obtain ⟨time, hRow⟩ := mem_reported_iff.mp hs
      rw [← rowsOf_reportedRows]
      exact rowsOf_ne_nil hRow
    · -- rows of one metric are of one kind, which has one list of titles
      rw [← rowsOf_reportedRows] at hRow
      obtain ⟨reported, hFilter, rfl⟩ := List.mem_map.mp hRow
      obtain ⟨hMem, hName⟩ := List.mem_filter.mp hFilter
      exact Reading.titles_eq_of_label (hKinds reported.2
        (mem_reported_iff.mpr ⟨reported.1, hMem⟩) s hs (beq_iff_eq.mp hName))
  · by_contra hNone
    -- a name that is no metric's file is where nothing was written
    have hPlace : (files.locate? (childPath directory name)).isSome = true := by
      rw [← hKept.located]
      exact Files.isSome_locate_of_exists hThere
    have hOther := hOutside (childPath directory name) fun s hs hSame =>
      hNone ⟨s, hs, (child_eq_of_locate hChild (isChild_fileName s.name) hSame.symm hPlace).symm⟩
    have hEmptyThere := hEmpty.empty name hChild
    rw [Files.exists?, ← hOther] at hEmptyThere
    rw [Files.exists?, hEmptyThere] at hThere
    cases hThere
  · rintro ⟨s, hs, rfl⟩
    have hAt := hTable s hs
    rw [filePath] at hAt
    rw [Files.exists?, hAt]
    rfl

/-- Where there are no files, the directory that one is in is empty. -/
theorem emptyDirectory_here : EmptyDirectory ⟨.empty⟩ "." := by
  refine ⟨by decide, fun name hChild => ?_⟩
  rw [← Bool.not_eq_true]
  intro hThere
  obtain ⟨full, hFull⟩ := Option.isSome_iff_exists.mp (Files.isSome_locate_of_exists hThere)
  obtain ⟨-, -, place, hPlace, hTarget⟩ := (Files.locate?_concat_eq_some_iff
    (fun hUp => hChild.2 (by simp [hUp])) (ofString_childPath hChild ".")).mp hFull
  have hHere : place = [] := (Except.ok.inj hPlace).symm
  rw [hHere] at hTarget
  have hName : name = full := by
    rw [← hTarget]
    exact String.ofList_toList.symm
  subst hName
  have hInner : ¬ (name = "" ∨ name = "/") := by
    rintro (rfl | rfl)
    · exact hChild.2 (by decide)
    · exact hChild.1 (by decide)
  rw [Files.exists?, Files.entry?_of_locate hFull, if_neg hInner] at hThere
  cases hThere

/-- One of two counters is reported in both cycles, and the other one in the second. -/
theorem tables_kept_of_counters :
    let first : List (Instant × Request) :=
      [(0, .metric .counter "a" .info []), (1, .tell 0 (.add 7))]
    let second := first ++ [(3, .metric .counter "b" .info []), (3, .tell 0 (.add 2))]
    let site (wall : Int) (steps : List (Instant × Request)) : Site :=
      ⟨⟨wall, ⟨.empty⟩, "", []⟩, 4, Usage.after default (.values 8) true steps, []⟩
    let sites := [site 1000000000 first, site 2500000000 second]
    let p : Polled := ⟨"CSV", 60, ⟨.exact .empty, .exact .empty⟩, .tables ".", true⟩
    let after := (cycles (.polled p) ⟨.empty⟩ sites).1
    (∃ text, after.read? "./a.csv" = some text ∧
      IsTable ["count"] [(1, .counter 7), (2, .counter 9)] text) ∧
    (∃ text, after.read? "./b.csv" = some text ∧ IsTable ["count"] [(2, .counter 0)] text) ∧
    ∀ name, IsChild name →
      (after.exists? (childPath "." name) = true ↔ name ∈ ["a.csv", "b.csv"]) := by
  intro first second site sites p after
  have hReported : sites.flatMap p.reported =
      [⟨"a", .counter 7⟩, ⟨"a", .counter 9⟩, ⟨"b", .counter 0⟩] := rfl
  have hOutcomes : (cycles (.polled p) ⟨.empty⟩ sites).2 = [.done, .done] := by decide
  have hWell : ∀ outcome ∈ (cycles (.polled p) ⟨.empty⟩ sites).2, ∀ fault,
      outcome ≠ .failed fault := by
    rw [hOutcomes]
    simp
  have hCounter : ∀ s ∈ sites.flatMap p.reported, s.reading.label = "counter" := by
    rw [hReported]
    simp [Reading.label]
  have hApart : ∀ s ∈ sites.flatMap p.reported, ∀ t ∈ sites.flatMap p.reported,
      filePath "." s.name = filePath "." t.name → s.name = t.name := by
    rw [hReported]
    decide
  obtain ⟨hTables, hThere, -⟩ := @tables_kept ⟨.empty⟩ "." p rfl emptyDirectory_here sites hWell
    (fun s hs t ht _ => (hCounter s hs).trans (hCounter t ht).symm) hApart
  rw [hReported] at hTables hThere
  refine ⟨hTables ⟨"a", .counter 7⟩ (by simp), hTables ⟨"b", .counter 0⟩ (by simp), ?_⟩
  intro name hChild
  rw [hThere name hChild]
  simp [show fileName "a" = "a.csv" by decide, show fileName "b" = "b.csv" by decide, eq_comm]

end Report

end Metering
