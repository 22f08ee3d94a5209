import Metering.Proofs.Json.Numbers
import Metering.Proofs.Report.Table

/-!
# Metering — lines of text for people

The name of a sample stands in the middle of its line as it is, with whatever commas there are in
it. The line still says all that it shows: the kind comes before the first comma, and as many fields
follow the name as there are in readings of that kind, none with a comma of its own.

* `fieldText_inj` — a field is told from its text;
* `readingFields_eq_iff` — the fields of two readings of one kind, compared;
* `pieces_textLine` — a line, cut at its commas;
* `text_lines_unambiguous` — when two samples have the same line.
-/

namespace Metering.Report

/-! ## Fields -/

/-- A field as it is written. -/
def fieldText (f : Field) : List Char := f.1.toList ++ '=' :: f.2.toList

theorem toList_field (f : Field) : (f.1 ++ "=" ++ f.2).toList = fieldText f := by
  rw [String.toList_append, String.toList_append, List.append_assoc]
  rfl

/-- A field ends at a comma, and its key at an equals sign. -/
def IsField (f : Field) : Prop := '=' ∉ f.1.toList ∧ IsCell f.1.toList ∧ IsCell f.2.toList

theorem isField_of_isCell {key figure : String} (hKey : '=' ∉ key.toList ∧ IsCell key.toList)
    (h : IsCell figure.toList) : IsField (key, figure) :=
  ⟨hKey.1, hKey.2, h⟩

/-- A field is told from its text. -/
theorem fieldText_inj {f g : Field} (hf : '=' ∉ f.1.toList) (hg : '=' ∉ g.1.toList)
    (h : fieldText f = fieldText g) : f = g := by
  -- the key is what stands before the first equals sign, whatever there is in the figure
  have hPieces := congrArg (Text.pieces '=') h
  rw [fieldText, fieldText, Text.pieces_append_sep '=' hf, Text.pieces_append_sep '=' hg] at hPieces
  obtain ⟨hKeys, hFigures⟩ := List.cons.inj hPieces
  have hText := congrArg (Text.joined '=') hFigures
  rw [Text.joined_pieces, Text.joined_pieces] at hText
  exact Prod.ext (String.toList_inj.mp hKeys) (String.toList_inj.mp hText)

theorem map_fieldText_inj {fs gs : List Field} (hf : ∀ f ∈ fs, IsField f) (hg : ∀ g ∈ gs, IsField g)
    (h : fs.map fieldText = gs.map fieldText) : fs = gs := by
  induction fs generalizing gs with
  | nil => exact (List.map_eq_nil_iff.mp h.symm).symm
  | cons f fs ih =>
    cases gs with
    | nil => cases h
    | cons g gs =>
      obtain ⟨hFirst, hRest⟩ := List.cons.inj h
      obtain ⟨hFirstKey, hMore⟩ := List.forall_mem_cons.mp hf
      obtain ⟨hOtherKey, hOthers⟩ := List.forall_mem_cons.mp hg
      rw [fieldText_inj hFirstKey.1 hOtherKey.1 hFirst, ih hMore hOthers hRest]

theorem IsField.comma_notMem {f : Field} (h : IsField f) : ',' ∉ fieldText f :=
  List.not_mem_append h.2.1.1 fun hMem => (List.mem_cons.mp hMem).elim (by decide) h.2.2.1

/-! ## Fields of readings -/

theorem isField_rateFields (r : Rates) : ∀ f ∈ rateFields r, IsField f := by
  simp only [rateFields, List.forall_mem_cons, IsField, isCell_plainText, and_true,
    List.not_mem_nil, false_imp_iff, implies_true]
  decide

theorem isField_spreadFields (d : Distribution) : ∀ f ∈ spreadFields d, IsField f := by
  simp only [spreadFields, List.forall_mem_cons, IsField, isCell_int, isCell_plainText, and_true,
    List.not_mem_nil, false_imp_iff, implies_true]
  decide

theorem isField_readingFields (r : Reading) : ∀ f ∈ readingFields r, IsField f := by
  have hCount {count : String} (h : IsCell count.toList) : IsField ("count", count) :=
    isField_of_isCell (by decide) h
  cases r with
  | counter count => exact List.forall_mem_singleton.mpr (hCount (isCell_int _))
  | meter count rates =>
    exact List.forall_mem_cons.mpr ⟨hCount (isCell_nat _), isField_rateFields rates⟩
  | histogram count spread =>
    exact List.forall_mem_cons.mpr ⟨hCount (isCell_nat _), isField_spreadFields spread⟩
  | timer count rates spread =>
    exact List.forall_mem_cons.mpr ⟨hCount (isCell_nat _),
      List.forall_mem_append.mpr ⟨isField_spreadFields spread, isField_rateFields rates⟩⟩
  | gauge value =>
    exact List.forall_mem_singleton.mpr (isField_of_isCell (by decide) (isCell_plainText value))

theorem rateFields_eq_iff {r q : Rates} :
    rateFields r = rateFields q ↔ r.figures.map plainText = q.figures.map plainText := by
  simp only [rateFields, Rates.figures, List.map_cons, List.map_nil, List.cons.injEq, Prod.mk.injEq,
    true_and, and_true]

theorem spreadFields_eq_iff {d e : Distribution} :
    spreadFields d = spreadFields e ↔ d.min.toInt = e.min.toInt ∧ d.max.toInt = e.max.toInt ∧
      d.figures.map plainText = e.figures.map plainText := by
  simp only [spreadFields, Distribution.figures, List.map_cons, List.map_nil, List.cons.injEq,
    Prod.mk.injEq, true_and, and_true, Json.toString_int_inj]

theorem length_spreadFields (d : Distribution) : (spreadFields d).length = 10 := rfl

/-- A distribution with rates behind it: both have as many fields as any other. -/
theorem spreadFields_append_eq_iff {d e : Distribution} {r q : Rates} :
    spreadFields d ++ rateFields r = spreadFields e ++ rateFields q ↔
      spreadFields d = spreadFields e ∧ rateFields r = rateFields q := by
  refine ⟨fun h => List.append_inj h ?_, fun ⟨hSpread, hRates⟩ => by rw [hSpread, hRates]⟩
  rw [length_spreadFields, length_spreadFields]

theorem length_figures (r : Rates) : (r.figures.map plainText).length = 4 := rfl

theorem map_figures_append_eq_iff {d e : Distribution} {r q : Rates} :
    (r.figures ++ d.figures).map plainText = (q.figures ++ e.figures).map plainText ↔
      r.figures.map plainText = q.figures.map plainText ∧
        d.figures.map plainText = e.figures.map plainText := by
  rw [List.map_append, List.map_append]
  refine ⟨fun h => List.append_inj h ?_, fun ⟨hRates, hSpread⟩ => by rw [hRates, hSpread]⟩
  rw [length_figures, length_figures]

/-- Readings of one kind have the same fields if they show the same whole numbers, and real numbers
that are written alike. -/
theorem readingFields_eq_iff {r q : Reading} (h : r.IsLike q) :
    readingFields r = readingFields q ↔
      r.integers = q.integers ∧ r.reals.map plainText = q.reals.map plainText := by
  cases h with
  | counter =>
    simp only [readingFields, Reading.integers, Reading.reals, List.cons.injEq, Prod.mk.injEq,
      true_and, and_true, Json.toString_int_inj]
  | meter =>
    simp only [readingFields, Reading.integers, Reading.reals, List.cons.injEq, Prod.mk.injEq,
      true_and, and_true, Json.toString_nat_inj, Int.natCast_inj, rateFields_eq_iff]
  | histogram =>
    simp only [readingFields, Reading.integers, Reading.reals, List.cons.injEq, Prod.mk.injEq,
      true_and, and_true, and_assoc, Json.toString_nat_inj, Int.natCast_inj, spreadFields_eq_iff]
  | timer =>
    -- rates are written after the distribution
    simp only [readingFields, Reading.integers, Reading.reals, List.cons_append, List.cons.injEq,
      Prod.mk.injEq, true_and, and_true, and_assoc, Json.toString_nat_inj, Int.natCast_inj,
      spreadFields_append_eq_iff, map_figures_append_eq_iff, rateFields_eq_iff, spreadFields_eq_iff]
    simp only [and_comm]
  | gauge =>
    simp only [readingFields, Reading.integers, Reading.reals, List.cons.injEq, Prod.mk.injEq,
      true_and, and_true, List.map_cons, List.map_nil]

/-- So does the label at the front of a line. -/
theorem lineLabel_eq_iff {r q : Reading} : lineLabel r = lineLabel q ↔ r.IsLike q := by
  refine ⟨fun h => ?_, fun h => by cases h <;> rfl⟩
  cases r <;> cases q <;> first | constructor | simp [lineLabel] at h

theorem length_readingFields {r q : Reading} (h : r.IsLike q) :
    (readingFields r).length = (readingFields q).length := by
  cases h <;> simp only [readingFields, rateFields, spreadFields, List.length_append,
    List.length_cons, List.length_nil]

/-! ## Lines -/

/-- A blank after each comma is the same as a blank before each text but the first. -/
theorem intercalate_comma_blank (p : List Char) (ps : List (List Char)) :
    [',', ' '].intercalate (p :: ps) = Text.joined ',' (p :: ps.map (' ' :: ·)) := by
  induction ps generalizing p with
  | nil => exact List.intercalate_singleton
  | cons q qs ih =>
    have hBlank : Text.joined ',' ((' ' :: q) :: qs.map (' ' :: ·)) =
        ' ' :: Text.joined ',' (q :: qs.map (' ' :: ·)) := by
      cases qs <;> rfl
    rw [List.intercalate_cons_cons, ih, List.map_cons, Text.joined_cons_cons, hBlank,
      List.append_assoc]
    rfl

/-- The texts between the commas of a line. Only the name may have commas of its own. -/
theorem pieces_textLine (s : Sample) :
    Text.pieces ',' (textLine s).toList =
      fieldText ("type", lineLabel s.reading) ::
        (Text.pieces ',' (' ' :: fieldText ("name", s.name)) ++
          ((readingFields s.reading).map fieldText).map (' ' :: ·)) := by
  have hType : ',' ∉ fieldText ("type", lineLabel s.reading) := by
    cases s.reading <;> rw [lineLabel] <;> decide
  have hFields : ∀ p ∈ ((readingFields s.reading).map fieldText).map (' ' :: ·), ',' ∉ p := by
    intro p hp
    obtain ⟨text, hText, rfl⟩ := List.mem_map.mp hp
    obtain ⟨f, hf, rfl⟩ := List.mem_map.mp hText
    exact fun hMem => (List.mem_cons.mp hMem).elim (by decide)
      (isField_readingFields s.reading f hf).comma_notMem
  have hTexts (fs : List Field) : (fs.map fun f => f.1 ++ "=" ++ f.2).map String.toList =
      fs.map fieldText := by
    rw [List.map_map]
    exact List.map_congr_left fun f _ => toList_field f
  have hLine : (textLine s).toList = Text.joined ',' (fieldText ("type", lineLabel s.reading) ::
      (' ' :: fieldText ("name", s.name)) ::
        ((readingFields s.reading).map fieldText).map (' ' :: ·)) := by
    rw [textLine, String.toList_intercalate, hTexts]
    exact intercalate_comma_blank _ _
  rw [hLine, Text.pieces_joined_flatMap ',' (List.cons_ne_nil _ _), List.flatMap_cons,
    List.flatMap_cons, Text.pieces_of_notMem ',' hType, Text.flatMap_pieces_of_notMem ',' hFields]
  rfl

/-- Two samples have the same line exactly if they are of one kind, have the same name and show the
same whole numbers, and real numbers that are written alike. -/
theorem text_lines_unambiguous (s t : Sample) :
    LineFormat.text.line s = LineFormat.text.line t ↔
      s.reading.label = t.reading.label ∧ s.name = t.name ∧
        s.reading.integers = t.reading.integers ∧
        s.reading.reals.map plainText = t.reading.reals.map plainText := by
  constructor
  · intro h
    have hKeys : '=' ∉ "type".toList ∧ '=' ∉ "name".toList := by decide
    have hPieces := congrArg (fun line => Text.pieces ',' line.toList) h
    obtain ⟨hType, hRest⟩ := List.cons.inj ((pieces_textLine s).symm.trans
      (hPieces.trans (pieces_textLine t)))
    have hLike : s.reading.IsLike t.reading := by
      refine lineLabel_eq_iff.mp ?_
      exact (Prod.mk.inj (fieldText_inj hKeys.1 hKeys.1 hType)).2
    -- what follows the name is told by its length, from the end of the line
    obtain ⟨hName, hFields⟩ := List.append_inj' hRest
      (by simp only [List.length_map, length_readingFields hLike])
    have hNameText := congrArg (Text.joined ',') hName
    rw [Text.joined_pieces, Text.joined_pieces] at hNameText
    have hNameField := fieldText_inj hKeys.2 hKeys.2 (List.cons.inj hNameText).2
    have hSame : readingFields s.reading = readingFields t.reading := by
      refine map_fieldText_inj (isField_readingFields _) (isField_readingFields _) ?_
      exact List.map_injective_iff.mpr (fun _ _ hText => (List.cons.inj hText).2) hFields
    exact ⟨Reading.label_eq_iff.mpr hLike, (Prod.mk.inj hNameField).2,
      (readingFields_eq_iff hLike).mp hSame⟩
  · rintro ⟨hLabel, hName, hNumbers⟩
    have hLike := Reading.label_eq_iff.mp hLabel
    show textLine s = textLine t
    rw [textLine, textLine, hName, lineLabel_eq_iff.mpr hLike,
      (readingFields_eq_iff hLike).mpr hNumbers]

end Metering.Report
