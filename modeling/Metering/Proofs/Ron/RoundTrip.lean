import Metering.Proofs.Document.Fits
import Metering.Proofs.Ron.Tokens
import Metering.Ron.Reader

/-!
# Metering — documents in RON that were written are read

* `Fits` — a datum has a shape, with names that can be written, and is not nested too deeply;
  `Fits.of_shape`;
* `Reads` — a datum is read from the lines that are written for it, wherever they end;
* `items?_render`, `entries?_render`, `fields?_render` — the parts of a datum are read if each of
  them is;
* `Fits.reads` — a datum that fits is read, with `readDatum?_render` for a whole document.
-/

namespace Metering.Ron

/-- A datum has a shape and is nested at most so deep. The words of choices and the names of fields
are simple; fields are known, and none comes twice. -/
inductive Fits : Nat → Shape → Datum → Prop
  | switch {depth : Nat} (on : Bool) : Fits depth .switch (.switch on)
  | word {depth : Nat} (n : UInt64) : Fits depth .word (.word n)
  | text {depth : Nat} (s : String) : Fits depth .text (.text s)
  | choice {depth : Nat} {words : List String} {w : String} (hListed : w ∈ words)
      (hSimple : isSimple w = true) : Fits (depth + 1) (.choice words) (.choice w)
  | absent {depth : Nat} {shape : Shape} : Fits depth (.optional shape) .absent
  | present {depth : Nat} {shape : Shape} {d : Datum} (h : Fits depth shape d) :
      Fits (depth + 1) (.optional shape) (.present d)
  | list {depth : Nat} {shape : Shape} {ds : List Datum} (h : ∀ d ∈ ds, Fits depth shape d) :
      Fits (depth + 2) (.list shape) (.list ds)
  | map {depth : Nat} {shape : Shape} {es : List (String × Datum)}
      (h : ∀ e ∈ es, Fits depth shape e.2) : Fits (depth + 2) (.map shape) (.map es)
  | record {depth : Nat} {name : String} {shapes : List (String × Shape)}
      {fs : List (String × Datum)} (hNodup : (fs.map Prod.fst).Nodup)
      (hSimple : ∀ f ∈ fs, isSimple f.1 = true)
      (hKnown : ∀ f ∈ fs, ∃ shape, shapes.lookup f.1 = some shape)
      (h : ∀ f ∈ fs, ∀ shape, shapes.lookup f.1 = some shape → Fits depth shape f.2) :
      Fits (depth + 2) (.record name shapes) (.record fs)

variable {depth : Nat} {shape : Shape} {d : Datum}

mutual

/-- How deep data of a shape may be nested. -/
def depthOf : Shape → Nat
  | .switch | .word | .text => 0
  | .choice _ => 1
  | .optional shape => depthOf shape + 1
  | .list shape | .map shape => depthOf shape + 2
  | .record _ fields => depthOfFields fields + 2

/-- How deep fields may be nested. -/
def depthOfFields : List (String × Shape) → Nat
  | [] => 0
  | (_, shape) :: fields => max (depthOf shape) (depthOfFields fields)

end

mutual

/-- Whether the words of choices and the names of fields are simple. -/
def isWritable : Shape → Bool
  | .switch | .word | .text => true
  | .choice words => words.all isSimple
  | .optional shape | .list shape | .map shape => isWritable shape
  | .record _ fields => areWritable fields

/-- Whether names and what stands under them can be written. -/
def areWritable : List (String × Shape) → Bool
  | [] => true
  | (name, shape) :: fields => isSimple name && isWritable shape && areWritable fields

end

theorem depthOf_le {fields : List (String × Shape)} {f : String × Shape} (hf : f ∈ fields) :
    depthOf f.2 ≤ depthOfFields fields := by
  induction fields with
  | nil => cases hf
  | cons first rest ih =>
    obtain ⟨name, shape⟩ := first
    rw [depthOfFields]
    rcases List.mem_cons.mp hf with rfl | hf
    · exact Nat.le_max_left _ _
    · exact Nat.le_trans (ih hf) (Nat.le_max_right _ _)

theorem isWritable_of_mem {fields : List (String × Shape)} (h : areWritable fields = true)
    {f : String × Shape} (hf : f ∈ fields) : isSimple f.1 = true ∧ isWritable f.2 = true := by
  induction fields with
  | nil => cases hf
  | cons first rest ih =>
    obtain ⟨name, shape⟩ := first
    rw [areWritable, Bool.and_eq_true, Bool.and_eq_true] at h
    rcases List.mem_cons.mp hf with rfl | hf
    · exact h.1
    · exact ih h.2 hf

/-- A datum of a shape that can be written is nested at most as deep as its shape. -/
theorem Fits.of_shape (h : shape.Fits d) (hWritable : isWritable shape = true)
    (hDepth : depthOf shape ≤ depth) : Fits depth shape d := by
  induction h generalizing depth with
  | switch on => exact .switch on
  | word n => exact .word n
  | text s => exact .text s
  | choice hListed =>
    rw [depthOf] at hDepth
    obtain ⟨n, rfl⟩ : ∃ n, depth = n + 1 := ⟨depth - 1, by omega⟩
    exact .choice hListed (List.all_eq_true.mp hWritable _ hListed)
  | absent => exact .absent
  | present _ _ ih =>
    rw [depthOf] at hDepth
    obtain ⟨n, rfl⟩ : ∃ n, depth = n + 1 := ⟨depth - 1, by omega⟩
    exact .present (ih hWritable (by omega))
  | list _ ih =>
    rw [depthOf] at hDepth
    obtain ⟨n, rfl⟩ : ∃ n, depth = n + 2 := ⟨depth - 2, by omega⟩
    exact .list fun d hd => ih d hd hWritable (by omega)
  | map _ ih =>
    rw [depthOf] at hDepth
    obtain ⟨n, rfl⟩ : ∃ n, depth = n + 2 := ⟨depth - 2, by omega⟩
    exact .map fun e he => ih e he hWritable (by omega)
  | @record name shapes fs hNodup hNames _ ih =>
    rw [depthOf] at hDepth
    obtain ⟨n, rfl⟩ : ∃ n, depth = n + 2 := ⟨depth - 2, by omega⟩
    -- the names of the fields are among those of the shape
    have hKnown : ∀ f ∈ fs, ∃ s ∈ shapes, s.1 = f.1 := fun f hf =>
      List.mem_map.mp (hNames.subset (List.mem_map_of_mem hf))
    refine .record (hNodup.sublist hNames) (fun f hf => ?_) (fun f hf => ?_)
      (fun f hf shape hShape => ?_)
    · obtain ⟨s, hs, hName⟩ := hKnown f hf
      exact hName ▸ (isWritable_of_mem hWritable hs).1
    · obtain ⟨s, hs, hName⟩ := hKnown f hf
      exact ⟨s.2, hName ▸ lookup_of_mem hNodup hs⟩
    · obtain ⟨before, after, rfl, -⟩ := List.lookup_eq_some_iff.mp hShape
      have hMem : (f.1, shape) ∈ before ++ (f.1, shape) :: after :=
        List.mem_append_right _ List.mem_cons_self
      have hBelow : depthOf shape ≤ _ := depthOf_le hMem
      exact ih f hf shape hShape (isWritable_of_mem hWritable hMem).2 (by omega)

/-! ## Gaps between lines -/

/-- After a gap there is no other gap. -/
theorem gap?_idem {cs rest : List Char} (h : gap? cs = some rest) : gap? rest = some rest := by
  have hAll : ∀ (state : GapState) (cs rest : List Char), gapFrom state cs = some rest →
      gap? rest = some rest := by
    intro state cs
    fun_induction gapFrom state cs <;> intro rest h
    case case3 | case14 => cases h
    case case5 c more _ _ _ hBlank =>
      -- the character at which the reader stops is no blank, and no slash either
      cases h
      rw [gap?, gapFrom, if_neg hBlank] <;> assumption
    case case6 | case9 =>
      cases h
      rfl
    all_goals
      rename_i ih
      exact ih rest h
  exact hAll .outside cs rest h

/-- After the comma at the end of a line, what comes next is left without a gap. -/
theorem comma?_line_of_gap {more : List Char} (h : (gap? more).isSome = true) :
    ∃ next, comma? (',' :: '\n' :: more) = some (true, next) ∧ gap? next = gap? more := by
  obtain ⟨next, hNext⟩ := Option.isSome_iff_exists.mp h
  exact ⟨next, by rw [comma?_line, hNext, Option.map_some], by rw [gap?_idem hNext, hNext]⟩

theorem gap?_end (j : Nat) {c : Char} (hc : isBlank c = false ∧ c ≠ '/') (rest : List Char) :
    gap? (indent j ++ c :: rest) = some (c :: rest) := by
  rw [gap?_indent, gap?_solid (solid_cons hc rest)]

/-! ## The first character -/

/-- What is written for a datum starts with a character that is no gap, and no mark by which a list
ends or a document starts. -/
theorem render_cons (h : Fits depth shape d) (k : Nat) :
    ∃ c more, render k d = c :: more ∧ isBlank c = false ∧ c ∉ ['/', ']', '#'] := by
  cases h with
  | switch on =>
    cases on
    · exact ⟨'f', _, rfl, by decide, by decide⟩
    · exact ⟨'t', _, rfl, by decide, by decide⟩
  | word n =>
    obtain ⟨ds, hSome, hDigits, hBelow, -⟩ := digits_spec 10 (by decide) n.toNat
    obtain ⟨d, more, rfl⟩ := List.exists_cons_of_ne_nil hSome
    have hPlain : ∀ d < 10, isBlank d.digitChar = false ∧ d.digitChar ∉ ['/', ']', '#'] := by
      decide
    refine ⟨d.digitChar, more.map Nat.digitChar, ?_, hPlain d (hBelow d List.mem_cons_self)⟩
    rw [render, Nat.toString_eq_repr, Nat.toList_repr, hDigits, List.map_cons]
  | text s => exact ⟨'"', _, rfl, by decide, by decide⟩
  | @choice _ _ w hListed hSimple =>
    obtain ⟨c, more, hName, hc, -⟩ := exists_of_isSimple hSimple
    have hMarks : ∀ mark ∈ ['/', ']', '#'], isSimpleChar mark = false :=
      forall_of_all (by decide)
    refine ⟨c, more, by rw [render, hName], isBlank_of_simple hc, fun hMem => ?_⟩
    exact ne_of_simple hc (hMarks c hMem) rfl
  | absent => exact ⟨'N', _, rfl, by decide, by decide⟩
  | present h => exact ⟨'S', _, rfl, by decide, by decide⟩
  | @list _ _ ds h =>
    cases ds <;> exact ⟨'[', _, rfl, by decide, by decide⟩
  | @map _ _ es h =>
    cases es <;> exact ⟨'{', _, rfl, by decide, by decide⟩
  | @record _ _ _ fs =>
    cases fs <;> exact ⟨'(', _, rfl, by decide, by decide⟩

theorem solid_render (h : Fits depth shape d) (k : Nat) (rest : List Char) :
    Solid (render k d ++ rest) := by
  obtain ⟨c, more, hRender, hBlank, hMarks⟩ := render_cons h k
  rw [hRender]
  exact solid_cons ⟨hBlank, fun hSlash => hMarks (by simp [hSlash])⟩ (more ++ rest)

/-! ## The parts -/

/-- A datum of a shape is read from the lines that are written for it, up to where a token stops. -/
def Reads (depth : Nat) (shape : Shape) (d : Datum) : Prop :=
  ∀ (fuel k : Nat) (rest : List Char), Stops rest → (render k d).length ≤ fuel →
    datum? {} (fuel + 1) depth shape (render k d ++ rest) = some (d, rest)

section parts

variable {x : Extensions} {fuel k : Nat} {comma : Bool} {c : Char} {cs inner after next : List Char}

/-- Reading one item. -/
theorem items?_step (hLine : gap? cs = some (c :: inner)) (hOpen : c ≠ ']')
    (hDatum : datum? x fuel depth shape (c :: inner) = some (d, after))
    (hComma : comma? after = some (comma, next)) :
    items? x (fuel + 1) (depth + 1) shape true cs =
      (items? x fuel (depth + 1) shape comma next).map fun (ds, rest) => (d :: ds, rest) := by
  rw [items?, hLine]
  split
  · contradiction
  · next hSame => exact absurd (List.cons.inj (Option.some.inj hSame)).1 hOpen
  · next hSame =>
    cases hSame
    simp only [hDatum, hComma]

/-- Reading one entry. -/
theorem entries?_step {key : List Char} {value : List Char}
    (hLine : gap? cs = some (c :: inner)) (hOpen : c ≠ '}')
    (hKey : text? (c :: inner) = some (key, ':' :: value))
    (hDatum : (gap? value).bind (datum? x fuel depth shape) = some (d, after))
    (hComma : comma? after = some (comma, next)) :
    entries? x (fuel + 1) (depth + 1) shape true cs =
      (entries? x fuel (depth + 1) shape comma next).map fun (es, rest) =>
        ((String.ofList key, d) :: es, rest) := by
  have hColon : gap? (':' :: value) = some (':' :: value) := gap?_solid (solid_cons (by decide) _)
  rw [entries?, hLine]
  split
  · contradiction
  · next hSame => exact absurd (List.cons.inj (Option.some.inj hSame)).1 hOpen
  · next hSame =>
    cases hSame
    simp only [hKey, hColon, hDatum, hComma]

/-- Reading one field that is known and has not been seen. -/
theorem fields?_step {shapes : List (String × Shape)} {seen : List String} {name : String}
    {value : List Char} (hLine : gap? cs = some (c :: inner)) (hOpen : c ≠ ')')
    (hName : identifier? (c :: inner) = some (name, ':' :: value))
    (hKnown : shapes.lookup name = some shape) (hNew : name ∉ seen)
    (hDatum : (gap? value).bind (datum? x fuel depth shape) = some (d, after))
    (hComma : comma? after = some (comma, next)) :
    fields? x (fuel + 1) (depth + 1) shapes seen true cs =
      (fields? x fuel (depth + 1) shapes (name :: seen) comma next).map fun (fs, rest) =>
        ((name, d) :: fs, rest) := by
  have hColon : gap? (':' :: value) = some (':' :: value) := gap?_solid (solid_cons (by decide) _)
  have hSeen : seen.contains name = false := by
    rw [← Bool.not_eq_true, List.contains_iff_mem]
    exact hNew
  rw [fields?, hLine]
  split
  · contradiction
  · next hSame => exact absurd (List.cons.inj (Option.some.inj hSame)).1 hOpen
  · next hSame =>
    cases hSame
    simp only [hName, hColon, hKnown, hSeen, Bool.false_eq_true, if_false, hDatum, hComma]

end parts

/-! ## Lists -/

theorem gap?_items {ds : List Datum} (hFits : ∀ d ∈ ds, Fits depth shape d) (k : Nat)
    {more : List Char} (hMore : (gap? more).isSome = true) :
    (gap? (renderItems k ds ++ more)).isSome = true := by
  cases ds with
  | nil => exact hMore
  | cons d ds =>
    have hFirst := hFits d List.mem_cons_self
    rw [renderItems, List.append_assoc, List.append_assoc, gap?_indent,
      gap?_solid (solid_render hFirst k _)]
    rfl

/-- Items are read from their lines, one after the other, if each of them is. -/
theorem items?_render {ds : List Datum} (hFits : ∀ d ∈ ds, Fits depth shape d)
    (hReads : ∀ d ∈ ds, Reads depth shape d) {fuel k : Nat}
    (hFuel : (renderItems k ds).length ≤ fuel) (j : Nat) (rest : List Char) {cs : List Char}
    (hGap : gap? cs = gap? (renderItems k ds ++ (indent j ++ ']' :: rest))) :
    items? {} (fuel + 1) (depth + 1) shape true cs = some (ds, rest) := by
  have hEnd : gap? (indent j ++ ']' :: rest) = some (']' :: rest) := gap?_end j (by decide) rest
  -- by induction on the items: each takes its own line, and leaves the next one without a gap
  induction ds generalizing fuel cs with
  | nil =>
    rw [items?, hGap, renderItems, List.nil_append, hEnd]
    rfl
  | cons d ds ih =>
    obtain ⟨hFirst, hRest⟩ := List.forall_mem_cons.mp hFits
    obtain ⟨hReadsFirst, hReadsRest⟩ := List.forall_mem_cons.mp hReads
    rw [renderItems, List.length_append, List.length_append, List.length_cons,
      List.length_cons] at hFuel
    obtain ⟨fuel, rfl⟩ := Nat.exists_eq_add_one_of_ne_zero (show fuel ≠ 0 by omega)
    let more := renderItems k ds ++ (indent j ++ ']' :: rest)
    have hLine : gap? cs = some (render k d ++ ',' :: '\n' :: more) := by
      rw [hGap, renderItems, List.append_assoc, List.append_assoc, gap?_indent]
      exact gap?_solid (solid_render hFirst k _)
    have hMore : (gap? more).isSome = true := gap?_items hRest k (by rw [hEnd]; rfl)
    obtain ⟨next, hComma, hNext⟩ := comma?_line_of_gap hMore
    have hDatum := hReadsFirst fuel k (',' :: '\n' :: more) (stops_cons (by decide) _)
      (by omega)
    have hItems : items? {} (fuel + 1) (depth + 1) shape true next = some (ds, rest) :=
      ih hRest hReadsRest (by omega) hNext
    obtain ⟨c, inner, hRender, -, hMarks⟩ := render_cons hFirst k
    have hOpen : c ≠ ']' := fun hSame => hMarks (by simp [hSame])
    rw [hRender, List.cons_append] at hLine hDatum
    rw [items?_step hLine hOpen hDatum hComma, hItems, Option.map_some]

/-! ## Maps and records -/

/-- A datum is read after the blank that follows a colon. -/
theorem Reads.after_blank (hFits : Fits depth shape d) (hReads : Reads depth shape d)
    {fuel k : Nat} (hFuel : (render k d).length ≤ fuel) {rest : List Char} (hRest : Stops rest) :
    (gap? (' ' :: (render k d ++ rest))).bind (datum? {} (fuel + 1) depth shape) =
      some (d, rest) := by
  rw [gap?_space, gap?_solid (solid_render hFits k rest), Option.bind_some]
  exact hReads fuel k rest hRest hFuel

theorem renderEntries_cons (k : Nat) (key : String) (d : Datum) (es : List (String × Datum))
    (more : List Char) : renderEntries k ((key, d) :: es) ++ more =
      indent k ++ (quote key ++ ':' :: ' ' :: (render k d ++ ',' :: '\n' ::
        (renderEntries k es ++ more))) := by
  simp only [renderEntries, List.append_assoc, List.cons_append]

theorem gap?_entries (es : List (String × Datum)) (k : Nat) {more : List Char}
    (hMore : (gap? more).isSome = true) : (gap? (renderEntries k es ++ more)).isSome = true := by
  cases es with
  | nil => exact hMore
  | cons e es =>
    rw [renderEntries_cons, gap?_indent, gap?_solid ((solid_quote e.1).append _)]
    rfl

/-- Entries are read from their lines, one after the other, if each of their values is. -/
theorem entries?_render {es : List (String × Datum)} (hFits : ∀ e ∈ es, Fits depth shape e.2)
    (hReads : ∀ e ∈ es, Reads depth shape e.2) {fuel k : Nat}
    (hFuel : (renderEntries k es).length ≤ fuel) (j : Nat) (rest : List Char) {cs : List Char}
    (hGap : gap? cs = gap? (renderEntries k es ++ (indent j ++ '}' :: rest))) :
    entries? {} (fuel + 1) (depth + 1) shape true cs = some (es, rest) := by
  have hEnd : gap? (indent j ++ '}' :: rest) = some ('}' :: rest) := gap?_end j (by decide) rest
  -- by induction on the entries, as for items
  induction es generalizing fuel cs with
  | nil =>
    rw [entries?, hGap, renderEntries, List.nil_append, hEnd]
    rfl
  | cons e es ih =>
    obtain ⟨key, d⟩ := e
    obtain ⟨hFirst, hRest⟩ := List.forall_mem_cons.mp hFits
    obtain ⟨hReadsFirst, hReadsRest⟩ := List.forall_mem_cons.mp hReads
    let more := renderEntries k es ++ (indent j ++ '}' :: rest)
    let value := ' ' :: (render k d ++ ',' :: '\n' :: more)
    simp only [renderEntries, List.length_append, List.length_cons] at hFuel
    obtain ⟨fuel, rfl⟩ := Nat.exists_eq_add_one_of_ne_zero (show fuel ≠ 0 by omega)
    have hLengths : (render k d).length ≤ fuel ∧ (renderEntries k es).length ≤ fuel := by
      omega
    have hLine : gap? cs = some (quote key ++ ':' :: value) := by
      rw [hGap, renderEntries_cons, gap?_indent]
      exact gap?_solid ((solid_quote key).append _)
    have hMore : (gap? more).isSome = true := gap?_entries es k (by rw [hEnd]; rfl)
    obtain ⟨next, hComma, hNext⟩ := comma?_line_of_gap hMore
    have hKey : text? (quote key ++ ':' :: value) = some (key.toList, ':' :: value) :=
      text?_quote key _
    have hDatum : (gap? value).bind (datum? {} (fuel + 1) depth shape) =
        some (d, ',' :: '\n' :: more) :=
      hReadsFirst.after_blank hFirst hLengths.1 (stops_cons (by decide) _)
    have hEntries : entries? {} (fuel + 1) (depth + 1) shape true next = some (es, rest) :=
      ih hRest hReadsRest hLengths.2 hNext
    obtain ⟨inner, hQuote⟩ : ∃ inner, quote key ++ ':' :: value = '"' :: inner := ⟨_, rfl⟩
    rw [hQuote] at hLine hKey
    rw [entries?_step hLine (by decide) hKey hDatum hComma, hEntries, Option.map_some,
      String.ofList_toList]

theorem renderFields_cons (k : Nat) (name : String) (d : Datum) (fs : List (String × Datum))
    (more : List Char) : renderFields k ((name, d) :: fs) ++ more =
      indent k ++ (name.toList ++ ':' :: ' ' :: (render k d ++ ',' :: '\n' ::
        (renderFields k fs ++ more))) := by
  simp only [renderFields, List.append_assoc, List.cons_append]

theorem gap?_fields {fs : List (String × Datum)} (hSimple : ∀ f ∈ fs, isSimple f.1 = true)
    (k : Nat) {more : List Char} (hMore : (gap? more).isSome = true) :
    (gap? (renderFields k fs ++ more)).isSome = true := by
  cases fs with
  | nil => exact hMore
  | cons f fs =>
    have hName := solid_simple (hSimple f List.mem_cons_self)
    rw [renderFields_cons, gap?_indent, gap?_solid (hName.append _)]
    rfl

/-- Known fields with different names, which have not been seen, are read from their lines, one
after the other, if each of their values is. -/
theorem fields?_render {shapes : List (String × Shape)} {fs : List (String × Datum)}
    (hNodup : (fs.map Prod.fst).Nodup) (hSimple : ∀ f ∈ fs, isSimple f.1 = true)
    (hKnown : ∀ f ∈ fs, ∃ shape, shapes.lookup f.1 = some shape)
    (hFits : ∀ f ∈ fs, ∀ shape, shapes.lookup f.1 = some shape → Fits depth shape f.2)
    (hReads : ∀ f ∈ fs, ∀ shape, shapes.lookup f.1 = some shape → Reads depth shape f.2)
    {seen : List String} (hNew : ∀ f ∈ fs, f.1 ∉ seen) {fuel k : Nat}
    (hFuel : (renderFields k fs).length ≤ fuel) (j : Nat) (rest : List Char) {cs : List Char}
    (hGap : gap? cs = gap? (renderFields k fs ++ (indent j ++ ')' :: rest))) :
    fields? {} (fuel + 1) (depth + 1) shapes seen true cs = some (fs, rest) := by
  have hEnd : gap? (indent j ++ ')' :: rest) = some (')' :: rest) := gap?_end j (by decide) rest
  -- by induction on the fields, as for items; what is read has been seen from then on
  induction fs generalizing seen fuel cs with
  | nil =>
    rw [fields?, hGap, renderFields, List.nil_append, hEnd]
    rfl
  | cons f fs ih =>
    obtain ⟨name, d⟩ := f
    rw [List.map_cons, List.nodup_cons] at hNodup
    obtain ⟨hSimpleFirst, hSimpleRest⟩ := List.forall_mem_cons.mp hSimple
    obtain ⟨⟨shape, hShape⟩, hKnownRest⟩ := List.forall_mem_cons.mp hKnown
    obtain ⟨hFitsFirst, hFitsRest⟩ := List.forall_mem_cons.mp hFits
    obtain ⟨hReadsFirst, hReadsRest⟩ := List.forall_mem_cons.mp hReads
    obtain ⟨hNewFirst, hNewRest⟩ := List.forall_mem_cons.mp hNew
    -- the field that is read first has no other field's name
    have hNewRest : ∀ f ∈ fs, f.1 ∉ name :: seen := by
      intro f hf hMem
      rcases List.mem_cons.mp hMem with hSame | hSeen
      · exact hNodup.1 (List.mem_map.mpr ⟨f, hf, hSame⟩)
      · exact hNewRest f hf hSeen
    let more := renderFields k fs ++ (indent j ++ ')' :: rest)
    let value := ' ' :: (render k d ++ ',' :: '\n' :: more)
    simp only [renderFields, List.length_append, List.length_cons] at hFuel
    obtain ⟨fuel, rfl⟩ := Nat.exists_eq_add_one_of_ne_zero (show fuel ≠ 0 by omega)
    have hLengths : (render k d).length ≤ fuel ∧ (renderFields k fs).length ≤ fuel := by omega
    have hLine : gap? cs = some (name.toList ++ ':' :: value) := by
      rw [hGap, renderFields_cons, gap?_indent]
      exact gap?_solid ((solid_simple hSimpleFirst).append _)
    have hMore : (gap? more).isSome = true := gap?_fields hSimpleRest k (by rw [hEnd]; rfl)
    obtain ⟨next, hComma, hNext⟩ := comma?_line_of_gap hMore
    have hName : identifier? (name.toList ++ ':' :: value) = some (name, ':' :: value) :=
      identifier?_simple hSimpleFirst (stops_cons (by decide) _)
    have hDatum : (gap? value).bind (datum? {} (fuel + 1) depth shape) =
        some (d, ',' :: '\n' :: more) :=
      (hReadsFirst shape hShape).after_blank (hFitsFirst shape hShape) hLengths.1
        (stops_cons (by decide) _)
    have hFields : fields? {} (fuel + 1) (depth + 1) shapes (name :: seen) true next =
        some (fs, rest) :=
      ih hNodup.2 hSimpleRest hKnownRest hFitsRest hReadsRest hNewRest hLengths.2 hNext
    obtain ⟨c, inner, hChars, hc, -⟩ := exists_of_isSimple hSimpleFirst
    rw [hChars, List.cons_append] at hLine hName
    rw [fields?_step hLine (ne_of_simple hc (by decide)) hName hShape hNewFirst hDatum hComma,
      hFields, Option.map_some]

/-! ## Data -/

/-- What is marked as present is read if it is read without the mark. -/
theorem Reads.present (hFits : Fits depth shape d) (hReads : Reads depth shape d) :
    Reads (depth + 1) (.optional shape) (.present d) := by
  intro fuel k rest hRest hFuel
  simp only [render, List.length_append, List.length_singleton] at hFuel
  have hMark : "Some(".toList.length = 5 := rfl
  obtain ⟨fuel, rfl⟩ : ∃ f, fuel = f + 2 := ⟨fuel - 2, by omega⟩
  have hText : render k (.present d) ++ rest =
      "Some".toList ++ '(' :: (render k d ++ ')' :: rest) := by
    simp [render]
  -- the first letter tells the two marks apart
  have hNone : keyword? "None" ("Some".toList ++ '(' :: (render k d ++ ')' :: rest)) = none :=
    keyword?_of_head rfl (show some 'S' ≠ some 'N' by decide)
  have hSome : keyword? "Some" ("Some".toList ++ '(' :: (render k d ++ ')' :: rest)) =
      some ('(' :: (render k d ++ ')' :: rest)) :=
    keyword?_append "Some" (stops_cons (by decide) _).nameGoesOn
  have hOpen : gap? ('(' :: (render k d ++ ')' :: rest)) =
      some ('(' :: (render k d ++ ')' :: rest)) := gap?_solid (solid_cons (by decide) _)
  have hDatum : (gap? (render k d ++ ')' :: rest)).bind (datum? {} (fuel + 1) depth shape) =
      some (d, ')' :: rest) := by
    rw [gap?_solid (solid_render hFits k _), Option.bind_some]
    exact hReads fuel k _ (stops_cons (by decide) _) (by omega)
  -- there is no comma between the datum and the parenthesis that closes the mark
  have hClose : comma? (')' :: rest) = some (false, ')' :: rest) := by
    rw [comma?, gap?_solid (solid_cons (by decide) _)]
    rfl
  rw [hText]
  simp only [datum?, hNone, optional?, hSome, hOpen, hDatum, hClose]

/-- The lines of a list's items stand one part deeper than the list. -/
theorem render_list (k : Nat) (ds : List Datum) (rest : List Char) :
    ∃ inner j, render k (.list ds) ++ rest = '[' :: inner ∧
      gap? inner = gap? (renderItems (k + 1) ds ++ (indent j ++ ']' :: rest)) ∧
      (renderItems (k + 1) ds).length < (render k (.list ds)).length := by
  cases ds with
  | nil => exact ⟨']' :: rest, 0, rfl, rfl, Nat.zero_lt_succ _⟩
  | cons d ds =>
    refine ⟨'\n' :: (renderItems (k + 1) (d :: ds) ++ (indent k ++ ']' :: rest)), k, ?_,
      gap?_newline _, ?_⟩
    · simp [render]
    · simp only [render, List.length_append, List.length_cons]
      omega

/-- The lines of a map's entries stand one part deeper than the map. -/
theorem render_map (k : Nat) (es : List (String × Datum)) (rest : List Char) :
    ∃ inner j, render k (.map es) ++ rest = '{' :: inner ∧
      gap? inner = gap? (renderEntries (k + 1) es ++ (indent j ++ '}' :: rest)) ∧
      (renderEntries (k + 1) es).length < (render k (.map es)).length := by
  cases es with
  | nil => exact ⟨'}' :: rest, 0, rfl, rfl, Nat.zero_lt_succ _⟩
  | cons e es =>
    refine ⟨'\n' :: (renderEntries (k + 1) (e :: es) ++ (indent k ++ '}' :: rest)), k, ?_,
      gap?_newline _, ?_⟩
    · simp [render]
    · simp only [render, List.length_append, List.length_cons]
      omega

/-- The lines of a record's fields stand one part deeper than the record. -/
theorem render_record (k : Nat) (fs : List (String × Datum)) (rest : List Char) :
    ∃ inner j, render k (.record fs) ++ rest = '(' :: inner ∧
      gap? inner = gap? (renderFields (k + 1) fs ++ (indent j ++ ')' :: rest)) ∧
      (renderFields (k + 1) fs).length < (render k (.record fs)).length := by
  cases fs with
  | nil => exact ⟨')' :: rest, 0, rfl, rfl, Nat.zero_lt_succ _⟩
  | cons f fs =>
    refine ⟨'\n' :: (renderFields (k + 1) (f :: fs) ++ (indent k ++ ')' :: rest)), k, ?_,
      gap?_newline _, ?_⟩
    · simp [render]
    · simp only [render, List.length_append, List.length_cons]
      omega

/-- A datum that fits is read from the lines that are written for it. -/
theorem Fits.reads (h : Fits depth shape d) : Reads depth shape d := by
  -- by induction on how the datum has its shape; its text is longer than those of its parts
  induction h with
  | switch on =>
    intro fuel k rest hRest _
    cases on with
    | true =>
      have hTrue : keyword? "true" ("true".toList ++ rest) = some rest :=
        keyword?_append "true" hRest.nameGoesOn
      simp only [datum?, render, if_true, hTrue]
    | false =>
      have hTrue : keyword? "true" ("false".toList ++ rest) = none :=
        keyword?_of_head rfl (show some 'f' ≠ some 't' by decide)
      have hFalse : keyword? "false" ("false".toList ++ rest) = some rest :=
        keyword?_append "false" hRest.nameGoesOn
      simp only [datum?, render, Bool.false_eq_true, if_false, hTrue, hFalse]
  | word n =>
    intro fuel k rest hRest _
    rw [datum?, render, word?_toString n hRest, Option.map_some]
  | text s =>
    intro fuel k rest _ _
    rw [datum?, render, text?_quote, Option.map_some]
    dsimp only
    rw [String.ofList_toList]
  | choice hListed hSimple =>
    intro fuel k rest hRest _
    rw [datum?, render, identifier?_simple hSimple hRest]
    exact if_pos ⟨List.contains_iff_mem.mpr hListed, Nat.succ_pos _⟩
  | absent =>
    intro fuel k rest hRest _
    have hNone : keyword? "None" ("None".toList ++ rest) = some rest :=
      keyword?_append "None" hRest.nameGoesOn
    rw [render, datum?.eq_def]
    simp only [hNone]
  | present h ih => exact ih.present h
  | @list depth shape ds h ih =>
    intro fuel k rest _ hFuel
    obtain ⟨inner, j, hText, hGap, hShort⟩ := render_list k ds rest
    obtain ⟨fuel, rfl⟩ := Nat.exists_eq_add_one_of_ne_zero (show fuel ≠ 0 by omega)
    have hItems := items?_render h ih (Nat.le_of_lt_succ (Nat.lt_of_lt_of_le hShort hFuel)) j
      rest hGap
    rw [hText]
    simp only [datum?, hItems, Option.map_some]
  | @map depth shape es h ih =>
    intro fuel k rest _ hFuel
    obtain ⟨inner, j, hText, hGap, hShort⟩ := render_map k es rest
    obtain ⟨fuel, rfl⟩ := Nat.exists_eq_add_one_of_ne_zero (show fuel ≠ 0 by omega)
    have hEntries := entries?_render h ih (Nat.le_of_lt_succ (Nat.lt_of_lt_of_le hShort hFuel)) j
      rest hGap
    rw [hText]
    simp only [datum?, hEntries, Option.map_some]
  | @record depth name shapes fs hNodup hSimple hKnown h ih =>
    intro fuel k rest _ hFuel
    obtain ⟨inner, j, hText, hGap, hShort⟩ := render_record k fs rest
    obtain ⟨fuel, rfl⟩ := Nat.exists_eq_add_one_of_ne_zero (show fuel ≠ 0 by omega)
    have hFields : fields? {} (fuel + 1) (depth + 1) shapes [] true inner = some (fs, rest) :=
      fields?_render hNodup hSimple hKnown h ih (fun _ _ => List.not_mem_nil)
        (Nat.le_of_lt_succ (Nat.lt_of_lt_of_le hShort hFuel)) j rest hGap
    -- the name of the record is left out
    have hOpen : (recordName? {} name ('(' :: inner)).bind gap? = some ('(' :: inner) :=
      gap?_solid (solid_cons (by decide) inner)
    rw [hText]
    rw [datum?.eq_def]
    simp only [hOpen, hFields, Option.map_some]

/-- A document that fits is read from its text. -/
theorem readDatum?_render (h : Fits maxDepth shape d) :
    readDatum? shape (String.ofList (render 0 d)) = some d := by
  have hGap : gap? (render 0 d) = some (render 0 d) := by
    have hSolid := solid_render h 0 []
    rw [List.append_nil] at hSolid
    exact gap?_solid hSolid
  -- no document starts with a line that asks for extensions
  have hExtensions : extensions? ((render 0 d).length + 1) {} (render 0 d) =
      some ({}, render 0 d) := by
    obtain ⟨c, more, hRender, -, hMarks⟩ := render_cons h 0
    rw [hRender, extensions?]
    rintro rest hSame
    exact hMarks (by simp [(List.cons.inj hSame).1])
  have hDatum : datum? {} (6 * (render 0 d).length + 16) maxDepth shape (render 0 d) =
      some (d, []) := by
    have hRead := h.reads (6 * (render 0 d).length + 15) 0 [] (.inl rfl) (by omega)
    rw [List.append_nil] at hRead
    exact hRead
  simp only [readDatum?, String.toList_ofList, hGap, Option.bind_some, hExtensions, hDatum]
  rfl

end Metering.Ron
