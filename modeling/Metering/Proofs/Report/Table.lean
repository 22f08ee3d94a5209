import Metering.Proofs.Report.Selected
import Metering.Report.Table

/-!
# Metering — what stands in a table

A table is read back by its lines and the commas in them. The line of a reading has a figure under
each title of the first line, and the title says which figure it is.

* `Reading.titles`, `Reading.component?` — the titles of a kind of readings, and what they name;
* `RowOf`, `IsTable` — a line and a text that hold readings;
* `isTable_tableText` — a header and the lines of readings of one kind are a table of these;
* `fileChar`, `toList_fileName` — the name of a file, character by character;
* `ofString_childPath` — a name in a directory is the last step of its path.
-/

namespace Metering

open Report

/-! ## Titles -/

namespace Reading

/-- The value that a gauge shows. -/
def value? : Reading → Option Float
  | gauge value => some value
  | _ => none

/-- The distribution that a reading shows. -/
def spread? : Reading → Option Distribution
  | histogram _ spread | timer _ _ spread => some spread
  | _ => none

/-- The rates that a reading shows. -/
def rates? : Reading → Option Rates
  | meter _ rates | timer _ rates _ => some rates
  | _ => none

/-- The titles of a kind of readings, without that of the time. -/
def titles : Reading → List String
  | counter .. => ["count"]
  | meter .. => ["count", "mean_rate", "m1_rate", "m5_rate", "m15_rate"]
  | histogram .. =>
    ["count", "max", "mean", "min", "stddev", "p50", "p75", "p95", "p98", "p99", "p999"]
  | timer .. =>
    ["count", "max", "mean", "min", "stddev", "p50", "p75", "p95", "p98", "p99", "p999",
      "mean_rate", "m1_rate", "m5_rate", "m15_rate"]
  | gauge .. => ["value"]

/-- The text of what a title names in a reading. -/
def component? (r : Reading) : String → Option String
  | "count" => r.count?.map toString
  | "value" => r.value?.map plainText
  | "min" => r.spread?.map fun d => toString d.min.toInt
  | "max" => r.spread?.map fun d => toString d.max.toInt
  | "mean" => r.spread?.map fun d => plainText d.mean
  | "stddev" => r.spread?.map fun d => plainText d.deviation
  | "p50" => r.spread?.map fun d => plainText d.median
  | "p75" => r.spread?.map fun d => plainText d.p75
  | "p95" => r.spread?.map fun d => plainText d.p95
  | "p98" => r.spread?.map fun d => plainText d.p98
  | "p99" => r.spread?.map fun d => plainText d.p99
  | "p999" => r.spread?.map fun d => plainText d.p999
  | "mean_rate" => r.rates?.map fun rates => plainText rates.mean
  | "m1_rate" => r.rates?.map fun rates => plainText rates.one
  | "m5_rate" => r.rates?.map fun rates => plainText rates.five
  | "m15_rate" => r.rates?.map fun rates => plainText rates.fifteen
  | _ => none

/-- Readings of one kind have the same titles. -/
theorem titles_eq_of_label {r s : Reading} (h : r.label = s.label) : r.titles = s.titles := by
  cases label_eq_iff.mp h <;> rfl

end Reading

namespace Report

/-- The columns have the titles of the reading, and the figures that these name. -/
theorem map_fst_columns (r : Reading) : (columns r).map Prod.fst = r.titles := by
  cases r <;> rfl

theorem map_component_titles (r : Reading) :
    r.titles.map r.component? = ((columns r).map Prod.snd).map some := by
  cases r <;> rfl

/-! ## Cells -/

/-- A text can stand between commas on a line. -/
def IsCell (cs : List Char) : Prop := ',' ∉ cs ∧ '\n' ∉ cs

theorem isCell_of_forall {cs : List Char} (h : ∀ c ∈ cs, c ≠ ',' ∧ c ≠ '\n') : IsCell cs :=
  ⟨fun hMem => (h _ hMem).1 rfl, fun hMem => (h _ hMem).2 rfl⟩

theorem IsCell.append {cs ds : List Char} (hc : IsCell cs) (hd : IsCell ds) : IsCell (cs ++ ds) :=
  ⟨List.not_mem_append hc.1 hd.1, List.not_mem_append hc.2 hd.2⟩

theorem IsCell.sublist {cs ds : List Char} (hd : IsCell ds) (h : cs ⊆ ds) : IsCell cs :=
  ⟨fun hMem => hd.1 (h hMem), fun hMem => hd.2 (h hMem)⟩

theorem isCell_toDigits (n : Nat) : IsCell (Nat.toDigits 10 n) := by
  refine isCell_of_forall fun c hc => ?_
  have hDigit : c.isDigit = true := Nat.isDigit_of_mem_toDigits (by decide) (by decide) hc
  constructor <;> rintro rfl <;> revert hDigit <;> decide

theorem isCell_nat (n : Nat) : IsCell (toString n).toList := by
  rw [Nat.toString_eq_repr, Nat.toList_repr]
  exact isCell_toDigits n

theorem isCell_int (n : Int) : IsCell (toString n).toList := by
  cases n with
  | ofNat n => exact isCell_nat n
  | negSucc n =>
    have hText : (toString (Int.negSucc n)).toList = '-' :: (toString (n + 1)).toList := by
      show ("-" ++ (n + 1).repr).toList = _
      rw [String.toList_append]
      rfl
    have hSign : IsCell ['-'] := ⟨by decide, by decide⟩
    rw [hText]
    exact hSign.append (isCell_nat (n + 1))

theorem isCell_positionalText (f : Decimal.Figure) :
    IsCell (Decimal.positionalText false f) := by
  have hDigits : IsCell (Decimal.digitsOf f.digits) := isCell_toDigits f.digits
  have hZeros (n : Nat) : IsCell (List.replicate n '0') := by
    refine isCell_of_forall fun c hc => ?_
    rw [List.eq_of_mem_replicate hc]
    decide
  have hPoint : IsCell ['.'] := ⟨by decide, by decide⟩
  unfold Decimal.positionalText
  dsimp only
  -- zeros come after the digits, or before them, or the point is among them
  split
  · exact (hDigits.append (hZeros _)).append ⟨by decide, by decide⟩
  · split
    · exact (hDigits.sublist (List.take_subset _ _)).append
        (hPoint.append (hDigits.sublist (List.drop_subset _ _)))
    · have hFront : IsCell ['0', '.'] := ⟨by decide, by decide⟩
      exact (hFront.append (hZeros _)).append hDigits

theorem isCell_plainText (x : Float) : IsCell (plainText x).toList := by
  have hSigned {text : List Char} (hText : IsCell text) (negative : Bool) :
      IsCell (Decimal.signedText negative text).toList := by
    have hSign : IsCell ['-'] := ⟨by decide, by decide⟩
    rw [Decimal.signedText, String.toList_ofList]
    split
    · exact hSign.append hText
    · exact hText
  unfold plainText Decimal.Layout.render
  split
  · exact ⟨by decide, by decide⟩
  · exact hSigned ⟨by decide, by decide⟩ _
  · refine hSigned ?_ _
    split
    · exact isCell_positionalText _
    · exact isCell_positionalText _

instance (cs : List Char) : Decidable (IsCell cs) :=
  inferInstanceAs (Decidable (',' ∉ cs ∧ '\n' ∉ cs))

/-- Every title and every figure can stand between commas. -/
theorem isCell_columns (r : Reading) :
    ∀ field ∈ columns r, IsCell field.1.toList ∧ IsCell field.2.toList := by
  have hTitles : ∀ title ∈ r.titles, IsCell title.toList := by
    cases r <;> rw [Reading.titles] <;> decide
  have hFigures : ∀ field ∈ columns r, IsCell field.2.toList := by
    cases r <;> simp only [columns, rateColumns, spreadColumns, List.cons_append, List.nil_append,
      List.forall_mem_cons, isCell_int, isCell_nat, isCell_plainText, true_and, List.not_mem_nil,
      false_imp_iff, implies_true]
  rw [← map_fst_columns] at hTitles
  exact fun field hField => ⟨hTitles _ (List.mem_map_of_mem hField), hFigures field hField⟩

/-! ## Lines -/

/-- The texts between the commas of a line. -/
def cells (line : List Char) : List String := (Text.pieces ',' line).map String.ofList

/-- A line holds a reading made at a time: after the time comes what each title names. -/
def RowOf (titles : List String) (time : Nat) (r : Reading) (line : List Char) : Prop :=
  ∃ figures, cells line = toString time :: figures ∧ titles.map r.component? = figures.map some

/-- A text holds a header with titles, then a line for each reading and its time, and nothing
else. -/
def IsTable (titles : List String) (rows : List (Nat × Reading)) (text : String) : Prop :=
  ∃ header lines, Text.pieces '\n' text.toList = header :: lines ++ [[]] ∧
    cells header = "t" :: titles ∧
    List.Forall₂ (fun row line => RowOf titles row.1 row.2 line) rows lines

/-- The line of cells is read as these cells. -/
theorem row_line {texts : List String} (hSome : texts ≠ [])
    (hCells : ∀ text ∈ texts, IsCell text.toList) :
    ∃ line, (row texts).toList = line ++ ['\n'] ∧ '\n' ∉ line ∧ cells line = texts := by
  have hMap : texts.map String.toList ≠ [] := fun h => hSome (List.map_eq_nil_iff.mp h)
  have hParts : ∀ p ∈ texts.map String.toList, IsCell p := by
    intro p hp
    obtain ⟨text, hText, rfl⟩ := List.mem_map.mp hp
    exact hCells text hText
  -- the line is the cells with commas between them, and a cell has neither commas nor line ends
  refine ⟨Text.joined ',' (texts.map String.toList), ?_, ?_, ?_⟩
  · rw [row, String.toList_append, String.toList_intercalate]
    exact congrArg (· ++ ['\n']) (Text.intercalate_eq_joined ',' _)
  · intro hMem
    rcases Text.mem_joined hMem with hComma | ⟨p, hp, hEnd⟩
    · exact absurd hComma (by decide)
    · exact (hParts p hp).2 hEnd
  · rw [cells, Text.pieces_joined ',' hMap fun p hp => (hParts p hp).1, List.map_map]
    exact List.map_id'' (fun text => String.ofList_toList) texts

/-- The first line of a table is read as its titles. -/
theorem headerRow_line (r : Reading) :
    ∃ line, (headerRow r).toList = line ++ ['\n'] ∧ '\n' ∉ line ∧ cells line = "t" :: r.titles := by
  rw [headerRow, map_fst_columns]
  refine row_line (List.cons_ne_nil _ _) (List.forall_mem_cons.mpr ⟨by decide, ?_⟩)
  rw [← map_fst_columns]
  intro title hTitle
  obtain ⟨field, hField, rfl⟩ := List.mem_map.mp hTitle
  exact (isCell_columns r field hField).1

/-- The line of a reading holds it. -/
theorem dataRow_line (time : Nat) (r : Reading) :
    ∃ line, (dataRow time r).toList = line ++ ['\n'] ∧ '\n' ∉ line ∧
      RowOf r.titles time r line := by
  have hFigures : ∀ figure ∈ (columns r).map Prod.snd, IsCell figure.toList := by
    intro figure hFigure
    obtain ⟨field, hField, rfl⟩ := List.mem_map.mp hFigure
    exact (isCell_columns r field hField).2
  obtain ⟨line, hText, hEnd, hLine⟩ := row_line (List.cons_ne_nil (toString time) _)
    (List.forall_mem_cons.mpr ⟨isCell_nat time, hFigures⟩)
  exact ⟨line, hText, hEnd, (columns r).map Prod.snd, hLine, map_component_titles r⟩

/-! ## Tables -/

/-- The lines of readings and their times. -/
def rowsText : List (Nat × Reading) → String
  | [] => ""
  | r :: rest => dataRow r.1 r.2 ++ rowsText rest

/-- The text of a file to which the lines of readings were added: a header before the first. -/
def tableText : List (Nat × Reading) → String
  | [] => ""
  | r :: rest => headerRow r.2 ++ rowsText (r :: rest)

theorem rowsText_concat (rows : List (Nat × Reading)) (time : Nat) (r : Reading) :
    rowsText (rows ++ [(time, r)]) = rowsText rows ++ dataRow time r := by
  induction rows with
  | nil => simp only [List.nil_append, rowsText, String.append_empty, String.empty_append]
  | cons row rest ih => rw [List.cons_append, rowsText, rowsText, ih, String.append_assoc]

theorem tableText_singleton (time : Nat) (r : Reading) :
    tableText [(time, r)] = headerRow r ++ dataRow time r := by
  rw [tableText, rowsText, rowsText, String.append_empty]

theorem tableText_concat {rows : List (Nat × Reading)} (hSome : rows ≠ []) (time : Nat)
    (r : Reading) : tableText (rows ++ [(time, r)]) = tableText rows ++ dataRow time r := by
  cases rows with
  | nil => exact absurd rfl hSome
  | cons first rest =>
    rw [List.cons_append, tableText, tableText, ← List.cons_append, rowsText_concat,
      String.append_assoc]

theorem rowsText_lines {titles : List String} {rows : List (Nat × Reading)}
    (h : ∀ row ∈ rows, row.2.titles = titles) :
    ∃ lines, Text.pieces '\n' (rowsText rows).toList = lines ++ [[]] ∧
      List.Forall₂ (fun row line => RowOf titles row.1 row.2 line) rows lines := by
  induction rows with
  | nil => exact ⟨[], rfl, .nil⟩
  | cons row rest ih =>
    obtain ⟨hFirst, hRest⟩ := List.forall_mem_cons.mp h
    obtain ⟨line, hText, hEnd, hRow⟩ := dataRow_line row.1 row.2
    obtain ⟨lines, hLines, hRows⟩ := ih hRest
    rw [hFirst] at hRow
    -- the first line ends where its own end of line is, as there is none inside it
    refine ⟨line :: lines, ?_, .cons hRow hRows⟩
    rw [rowsText, String.toList_append, hText, List.append_assoc, List.singleton_append,
      Text.pieces_append_sep '\n' hEnd, hLines, List.cons_append]

/-- A header and the lines of readings with its titles are a table of these readings. -/
theorem isTable_tableText {titles : List String} {rows : List (Nat × Reading)} (hSome : rows ≠ [])
    (h : ∀ row ∈ rows, row.2.titles = titles) : IsTable titles rows (tableText rows) := by
  obtain ⟨first, rest, rfl⟩ := List.exists_cons_of_ne_nil hSome
  obtain ⟨header, hText, hEnd, hHeader⟩ := headerRow_line first.2
  obtain ⟨lines, hLines, hRows⟩ := rowsText_lines h
  rw [h first List.mem_cons_self] at hHeader
  refine ⟨header, lines, ?_, hHeader, hRows⟩
  rw [tableText, String.toList_append, hText, List.append_assoc, List.singleton_append,
    Text.pieces_append_sep '\n' hEnd, hLines, List.cons_append]

/-! ## Files of a directory -/

/-- A name that leads to a place in a directory: without slashes, and neither empty nor dots. -/
def IsChild (name : String) : Prop :=
  '/' ∉ name.toList ∧ name.toList ∉ [[], ['.'], ['.', '.']]

/-- What stands for a character in the name of a file. -/
def fileChar (c : Char) : Char := if isFileChar c then c else '_'

theorem toList_fileName (metric : String) :
    (fileName metric).toList = metric.toList.map fileChar ++ ".csv".toList := by
  rw [fileName, String.toList_append, String.toList_ofList]
  rfl

theorem isFileChar_fileChar (c : Char) : isFileChar (fileChar c) = true := by
  unfold fileChar
  split
  · next hStays => exact hStays
  · decide

/-- The name of a file has no other characters. -/
theorem isFileChar_of_mem_fileName {metric : String} {c : Char}
    (h : c ∈ (fileName metric).toList) : isFileChar c = true := by
  rw [toList_fileName] at h
  rcases List.mem_append.mp h with hName | hEnding
  · obtain ⟨d, -, rfl⟩ := List.mem_map.mp hName
    exact isFileChar_fileChar d
  · have hChars : ".csv".toList.all isFileChar = true := by decide
    exact List.all_eq_true.mp hChars c hEnding

theorem isChild_fileName (metric : String) : IsChild (fileName metric) := by
  constructor
  · -- a slash is none of the characters that stay as they are
    intro hSlash
    exact absurd (isFileChar_of_mem_fileName hSlash) (by decide)
  · intro hMem
    have hLong : 4 ≤ (fileName metric).toList.length := by
      rw [toList_fileName, List.length_append]
      exact Nat.le_add_left 4 _
    have hShort : ∀ cs ∈ [[], ['.'], ['.', '.']], cs.length < 4 := by decide
    exact Nat.not_lt.mpr hLong (hShort _ hMem)

/-- A name alone is a path of one step. -/
theorem isChild_step {name : String} (h : IsChild name) :
    [name.toList].filter (fun s => s ≠ [] && s ≠ ['.']) = [name.toList] ∧
      ["".toList, ".".toList].contains name.toList = false := by
  obtain ⟨-, hName⟩ := h
  have hEmpty : name.toList ≠ [] := fun hSame => hName (by simp [hSame])
  have hDot : name.toList ≠ ['.'] := fun hSame => hName (by simp [hSame])
  constructor
  · simp [hEmpty, hDot]
  · rw [← Bool.not_eq_true, List.contains_iff_mem]
    intro hMem
    rcases List.mem_cons.mp hMem with hSame | hRest
    · exact hEmpty hSame
    · exact hDot (List.mem_singleton.mp hRest)

/-- The path of a name after a slash. -/
theorem ofString_of_toList {path name : String} {front : List Char} (hName : IsChild name)
    (h : path.toList = front ++ '/' :: name.toList) :
    Files.Path.ofString path = ⟨path.toList.head? == some '/',
      ((Text.pieces '/' front).filter fun s => s ≠ [] && s ≠ ['.']) ++ [name.toList], false⟩ := by
  have hPieces : Text.pieces '/' path.toList = Text.pieces '/' front ++ [name.toList] := by
    rw [h, Text.pieces_append, Text.pieces_of_notMem '/' hName.1]
  have hLast : (Text.pieces '/' front ++ [name.toList]).getLastD [] = name.toList := by
    rw [List.getLastD_eq_getLast?, List.getLast?_concat, Option.getD_some]
  rw [Files.Path.ofString, hPieces, hLast, List.filter_append, (isChild_step hName).1,
    (isChild_step hName).2]

/-- A path that names a directory goes on with a slash, of its own or a new one, and the name. -/
theorem childPath_toList {directory : String} (hSome : directory ≠ "") (name : String) :
    ∃ front, (childPath directory name).toList = front ++ '/' :: name.toList ∧
      (childPath directory name).toList.head? = directory.toList.head? ∧
      (Files.Path.ofString directory).steps =
        (Text.pieces '/' front).filter fun s => s ≠ [] && s ≠ ['.'] := by
  obtain ⟨first, rest, hChars⟩ := List.exists_cons_of_ne_nil
    (show directory.toList ≠ [] from fun hNil => hSome (String.toList_eq_nil_iff.mp hNil))
  rw [childPath, if_neg hSome]
  split
  · next hSlash =>
    have hLast : directory.toList.getLast? = some '/' := by
      rw [hChars, List.getLastD_cons] at hSlash
      rw [hChars, List.getLast?_cons, ← List.getLastD_eq_getLast?, hSlash]
    obtain ⟨front, hFront⟩ := List.getLast?_eq_some_iff.mp hLast
    refine ⟨front, ?_, ?_, ?_⟩
    · rw [String.toList_append, hFront, List.append_assoc, List.singleton_append]
    · rw [String.toList_append, hChars]
      rfl
    · -- behind the slash of its own the directory has no step
      rw [Files.Path.ofString, hFront, Text.pieces_append, List.filter_append]
      exact List.append_nil _
  · have hText : (directory ++ "/" ++ name).toList = directory.toList ++ '/' :: name.toList := by
      rw [String.toList_append, String.toList_append, List.append_assoc]
      rfl
    refine ⟨directory.toList, hText, ?_, rfl⟩
    rw [hText, hChars]
    rfl

/-- A name in a directory is the last step of its path. -/
theorem ofString_childPath {name : String} (h : IsChild name) (directory : String) :
    Files.Path.ofString (childPath directory name) =
      ⟨(Files.Path.ofString directory).rooted,
        (Files.Path.ofString directory).steps ++ [name.toList], false⟩ := by
  by_cases hSome : directory = ""
  · -- without a directory the name is the path, and starts with no slash
    have hRooted : (name.toList.head? == some '/') = false := by
      cases hChars : name.toList with
      | nil => rfl
      | cons c rest =>
        have hSlash : c ≠ '/' := fun hSame => h.1 (by simp [hChars, hSame])
        simpa using hSlash
    rw [childPath, if_pos hSome, hSome, Files.Path.ofString, Text.pieces_of_notMem '/' h.1,
      (isChild_step h).1, hRooted, List.getLastD_cons, List.getLastD_nil, (isChild_step h).2]
    rfl
  · obtain ⟨front, hText, hHead, hSteps⟩ := childPath_toList hSome name
    rw [ofString_of_toList h hText, hHead, hSteps]
    rfl

end Report

end Metering
