import Metering.Proofs.Document.Fits
import Metering.Proofs.Json.Tokens

/-!
# Metering — documents in JSON and what may be added to them

A record is read from the members that bear the names of its fields. Whatever other members there
are, and in which order members come, does not matter.

* `datum?_ofDatum` — a datum of a shape is read from its own value;
* `Pads` — a value with one more member that no field is read from, or with its members in another
  order, at any depth;
* `datum?_pads` — what such a value is read as.
-/

namespace Metering.Json

variable {fields : List (String × Shape)} {named named' : List (String × Json)}

/-! ## Fields -/

/-- The fields of a record depend on what is found under their names only. -/
theorem fields?_congr (h : ∀ f ∈ fields,
    (named.lookup f.1).map (datum? f.2) = (named'.lookup f.1).map (datum? f.2)) :
    fields? fields named = fields? fields named' := by
  induction fields with
  | nil => rw [fields?, fields?]
  | cons f rest ih =>
    obtain ⟨name, shape⟩ := f
    obtain ⟨hFirst, hRest⟩ := List.forall_mem_cons.mp h
    have hSame := ih hRest
    rw [fields?, fields?]
    dsimp only at hFirst
    cases hAt : named.lookup name with
    | none =>
      rw [hAt, Option.map_none, eq_comm, Option.map_eq_none_iff] at hFirst
      rw [hFirst]
      exact hSame
    | some v =>
      rw [hAt, Option.map_some, eq_comm, Option.map_eq_some_iff] at hFirst
      obtain ⟨v', hAt', hValue⟩ := hFirst
      rw [hAt']
      dsimp only
      rw [hValue, hSame]

/-- Where the first name of a shape is that of a field at all, the record begins with this field. -/
theorem exists_cons_of_sublist {fs : List (String × Datum)} {name : String} {names : List String}
    (hOnce : name ∉ names) (hNames : (fs.map Prod.fst).Sublist (name :: names))
    (hFound : name ∈ fs.map Prod.fst) : ∃ d more, fs = (name, d) :: more := by
  cases fs with
  | nil => cases hFound
  | cons g gs =>
    rcases List.cons_sublist_cons'.mp hNames with hSkipped | ⟨hSame, -⟩
    · exact absurd (hSkipped.subset hFound) hOnce
    · exact ⟨g.2, gs, by rw [← show g.1 = name from hSame]⟩

/-- A record is read if each of its fields is found under its name, in the order of the shape. -/
theorem fields?_eq {fs : List (String × Datum)} (hNodup : (fields.map Prod.fst).Nodup)
    (hNames : (fs.map Prod.fst).Sublist (fields.map Prod.fst))
    (hRead : ∀ f ∈ fs, ∀ shape, fields.lookup f.1 = some shape →
      datum? shape (ofDatum f.2) = some f.2)
    (hThere : ∀ f ∈ fields, named.lookup f.1 = (fs.lookup f.1).map ofDatum) :
    fields? fields named = some fs := by
  -- by induction on the shape: its next field is the next of the record, or is missing there
  induction fields generalizing fs with
  | nil =>
    have hNone : fs = [] := List.map_eq_nil_iff.mp (List.sublist_nil.mp hNames)
    rw [fields?, hNone]
  | cons f rest ih =>
    obtain ⟨name, shape⟩ := f
    rw [List.map_cons, List.nodup_cons] at hNodup
    obtain ⟨hFirst, hRest⟩ := List.forall_mem_cons.mp hThere
    have hLater : ∀ f ∈ rest, f.1 ≠ name := fun f hf hSame =>
      hNodup.1 (List.mem_map.mpr ⟨f, hf, hSame⟩)
    rw [fields?]
    dsimp only at hFirst
    by_cases hFound : name ∈ fs.map Prod.fst
    · -- the field is there, and nothing can stand before it
      obtain ⟨d, fs, rfl⟩ := exists_cons_of_sublist hNodup.1 hNames hFound
      have hMore : (fs.map Prod.fst).Sublist (rest.map Prod.fst) :=
        List.cons_sublist_cons.mp hNames
      have hValue : datum? shape (ofDatum d) = some d :=
        hRead (name, d) List.mem_cons_self shape (lookup_cons_self name shape rest)
      have hFields : fields? rest named = some fs := by
        refine ih hNodup.2 hMore (fun f hf shape' hShape => ?_) fun f hf => ?_
        · have hOther : f.1 ≠ name := fun hSame =>
            hNodup.1 (hMore.subset (List.mem_map.mpr ⟨f, hf, hSame⟩))
          exact hRead f (List.mem_cons_of_mem _ hf) shape' (by rw [lookup_cons_of_ne hOther, hShape])
        · rw [hRest f hf, lookup_cons_of_ne (hLater f hf)]
      rw [lookup_cons_self] at hFirst
      rw [hFirst]
      dsimp only [Option.map_some]
      rw [hValue, hFields]
      rfl
    · have hMore : (fs.map Prod.fst).Sublist (rest.map Prod.fst) := by
        rcases List.sublist_cons_iff.mp hNames with hSkipped | ⟨names, hSame, -⟩
        · exact hSkipped
        · exact absurd (hSame ▸ List.mem_cons_self) hFound
      have hNone : fs.lookup name = none := List.lookup_eq_none_iff.mpr fun p hp =>
        bne_iff_ne.mpr fun hSame => hFound (List.mem_map.mpr ⟨p, hp, hSame.symm⟩)
      rw [hNone] at hFirst
      rw [hFirst]
      refine ih hNodup.2 hMore (fun f hf shape' hShape => ?_) hRest
      have hOther : f.1 ≠ name := fun hSame => hFound (List.mem_map.mpr ⟨f, hf, hSame⟩)
      exact hRead f hf shape' (by rw [lookup_cons_of_ne hOther, hShape])

/-! ## Data -/

theorem readKeys?_ofEntries (es : List (String × Datum)) :
    readKeys? (ofEntries es) = some (es.map fun e => (e.1, ofDatum e.2)) := by
  induction es with
  | nil => rfl
  | cons e rest ih =>
    obtain ⟨key, d⟩ := e
    rw [readKeys?] at ih
    rw [readKeys?, ofEntries, List.mapM_cons, textOf?_encode, ih]
    rfl

theorem lookup_map (fs : List (String × Datum)) (name : String) :
    (fs.map fun f => (f.1, ofDatum f.2)).lookup name = (fs.lookup name).map ofDatum := by
  induction fs with
  | nil => rfl
  | cons f rest ih =>
    rw [List.map_cons, List.lookup_cons, List.lookup_cons, ih]
    cases name == f.1 <;> rfl

theorem ofItems_eq (ds : List Datum) : ofItems ds = ds.map ofDatum := by
  induction ds with
  | nil => rw [ofItems, List.map_nil]
  | cons d rest ih => rw [ofItems, ih, List.map_cons]

/-- What is not marked as absent or present has a value. -/
theorem ofDatum_ne_null {shape : Shape} {d : Datum} (h : shape.Fits d)
    (hOnce : ∀ inner, shape ≠ .optional inner) : ofDatum d ≠ .null := by
  cases h with
  | absent | present => exact absurd rfl (hOnce _)
  | switch | word | text | choice | list | map | record =>
    rw [ofDatum]
    exact nofun

/-- A datum of a shape is read from its own value. -/
theorem datum?_ofDatum {shape : Shape} {d : Datum} (h : shape.Fits d) :
    datum? shape (ofDatum d) = some d := by
  induction h with
  | switch on => rw [ofDatum, datum?]
  | word n =>
    rw [ofDatum, datum?, wordOf?_digitsOf]
    rfl
  | text s =>
    rw [ofDatum, ofText, datum?, textOf?_encode]
    rfl
  | @choice words w hListed =>
    rw [ofDatum, ofText, datum?, textOf?_encode, Option.bind_some,
      if_pos (List.contains_iff_mem.mpr hListed)]
  | absent => rw [ofDatum, datum?]
  | @present shape d hOnce h ih =>
    rw [ofDatum, datum?, ih]
    · rfl
    · exact ofDatum_ne_null h hOnce
  | @list shape ds h ih =>
    rw [ofDatum, datum?, ofItems_eq, mapM_map ih]
    rfl
  | @map shape es h ih =>
    have hEntry : ∀ e ∈ es, ((datum? shape (ofDatum e.2)).map fun d => (e.1, d)) = some e :=
      fun e he => by rw [ih e he]; rfl
    rw [ofDatum, datum?, readKeys?_ofEntries, Option.bind_some, mapM_map hEntry]
    rfl
  | @record name shapes fs hNodup hNames h ih =>
    have hFields := fields?_eq hNodup hNames ih (fun f _ => lookup_map fs f.1)
    have hKeys : (((fs.map fun f => (f.1, ofDatum f.2)).filter
        fun m => shapes.any fun f => f.1 == m.1).map Prod.fst).Nodup := by
      refine List.Nodup.sublist (List.filter_sublist.map Prod.fst) ?_
      rw [List.map_map]
      exact hNodup.sublist hNames
    rw [ofDatum, datum?, readKeys?_ofEntries, Option.bind_some, if_pos hKeys, hFields]
    rfl

/-! ## Additions -/

/-- A value and the same value with one more member in a record, or with the members of a record in
another order, at any depth. The name of the further member is no field of the record. -/
inductive Pads : Shape → Json → Json → Prop
  | extra {name : String} {fields : List (String × Shape)} (before after : List (List Char × Json))
      {key : List Char} {k : String} (v : Json) (hKey : textOf? key = some k)
      (hUnknown : fields.lookup k = none) :
      Pads (.record name fields) (.object (before ++ after)) (.object (before ++ (key, v) :: after))
  | order {name : String} {fields : List (String × Shape)} {ms ms' : List (List Char × Json)}
      (h : ms.Perm ms') : Pads (.record name fields) (.object ms) (.object ms')
  | inside {name : String} {fields : List (String × Shape)}
      (before after : List (List Char × Json)) {key : List Char} {k : String} {shape : Shape}
      {v v' : Json} (hNodup : (fields.map Prod.fst).Nodup) (hKey : textOf? key = some k)
      (hField : fields.lookup k = some shape) (h : Pads shape v v') :
      Pads (.record name fields) (.object (before ++ (key, v) :: after))
        (.object (before ++ (key, v') :: after))

/-- The members that bear the name of a field. -/
def known (fields : List (String × Shape)) (named : List (String × Json)) : List (String × Json) :=
  named.filter fun m => fields.any fun f => f.1 == m.1

/-- A record is read alike where the same names are known, and fields are read alike. -/
theorem datum?_record_congr {name : String} {ms ms' : List (List Char × Json)}
    (hKeys : readKeys? ms = some named) (hKeys' : readKeys? ms' = some named')
    (hNodup : ((known fields named').map Prod.fst).Nodup ↔
      ((known fields named).map Prod.fst).Nodup)
    (h : ((known fields named).map Prod.fst).Nodup → ∀ f ∈ fields,
      (named'.lookup f.1).map (datum? f.2) = (named.lookup f.1).map (datum? f.2)) :
    datum? (.record name fields) (.object ms') = datum? (.record name fields) (.object ms) := by
  rw [datum?, datum?, hKeys, hKeys', Option.bind_some, Option.bind_some]
  change (if ((known fields named').map Prod.fst).Nodup then _ else _ : Option _).map _ =
    (if ((known fields named).map Prod.fst).Nodup then _ else _ : Option _).map _
  by_cases hOnce : ((known fields named).map Prod.fst).Nodup
  · rw [if_pos hOnce, if_pos (hNodup.mpr hOnce), fields?_congr (h hOnce)]
  · rw [if_neg hOnce, if_neg (mt hNodup.mp hOnce)]

theorem readKeys?_cons (m : List Char × Json) (ms : List (List Char × Json)) :
    readKeys? (m :: ms) = (textOf? m.1).bind fun key =>
      (readKeys? ms).map fun named => (key, m.2) :: named := by
  rw [readKeys?, List.mapM_cons, readKeys?]
  cases textOf? m.1 with
  | none => rfl
  | some key => cases ms.mapM fun m => (textOf? m.1).map fun key => (key, m.2) <;> rfl

theorem readKeys?_append (ms ms' : List (List Char × Json)) :
    readKeys? (ms ++ ms') = (readKeys? ms).bind fun named =>
      (readKeys? ms').map fun more => named ++ more := by
  rw [readKeys?, List.mapM_append, readKeys?, readKeys?]
  cases ms.mapM fun m => (textOf? m.1).map fun key => (key, m.2) with
  | none => rfl
  | some named =>
    cases ms'.mapM fun m => (textOf? m.1).map fun key => (key, m.2) <;> rfl

/-- A record whose keys cannot be read is not read. -/
theorem datum?_of_readKeys? {name : String} {ms : List (List Char × Json)}
    (h : readKeys? ms = none) : datum? (.record name fields) (.object ms) = none := by
  rw [datum?, h]
  rfl

theorem known_append (before after : List (String × Json)) :
    known fields (before ++ after) = known fields before ++ known fields after :=
  List.filter_append ..

/-- Some members among others may be replaced, if the names that are known are the same and their
values are read alike. -/
theorem datum?_replace {name : String} (before after : List (List Char × Json))
    {ms ms' : List (List Char × Json)} {m m' : List (String × Json)}
    (hKeys : readKeys? ms = some m) (hKeys' : readKeys? ms' = some m')
    (hNames : (known fields m').map Prod.fst = (known fields m).map Prod.fst)
    (hValues : ∀ f ∈ fields,
      (m'.lookup f.1).map (datum? f.2) = (m.lookup f.1).map (datum? f.2)) :
    datum? (.record name fields) (.object (before ++ (ms' ++ after))) =
      datum? (.record name fields) (.object (before ++ (ms ++ after))) := by
  have hFirst := readKeys?_append before (ms ++ after)
  have hSecond := readKeys?_append before (ms' ++ after)
  rw [readKeys?_append ms, hKeys, Option.bind_some] at hFirst
  rw [readKeys?_append ms', hKeys', Option.bind_some] at hSecond
  -- the keys of the others are read in both, or in neither
  cases hBefore : readKeys? before with
  | none =>
    rw [hBefore] at hFirst hSecond
    rw [datum?_of_readKeys? hFirst, datum?_of_readKeys? hSecond]
  | some b =>
    cases hAfter : readKeys? after with
    | none =>
      rw [hBefore, hAfter] at hFirst hSecond
      rw [datum?_of_readKeys? hFirst, datum?_of_readKeys? hSecond]
    | some a =>
      rw [hBefore, hAfter] at hFirst hSecond
      have hSame : (known fields (b ++ (m' ++ a))).map Prod.fst =
          (known fields (b ++ (m ++ a))).map Prod.fst := by
        simp only [known_append, List.map_append, hNames]
      refine datum?_record_congr hFirst hSecond (by rw [hSame]) fun _ f hf => ?_
      simp only [List.lookup_append, Option.map_or, hValues f hf]

/-- One more member is not read, if no field has its name. -/
theorem datum?_extra {name : String} {before after : List (List Char × Json)} {key : List Char}
    {k : String} (v : Json) (hKey : textOf? key = some k) (hUnknown : fields.lookup k = none) :
    datum? (.record name fields) (.object (before ++ (key, v) :: after)) =
      datum? (.record name fields) (.object (before ++ after)) := by
  have hOther : ∀ f ∈ fields, f.1 ≠ k := fun f hf =>
    (bne_iff_ne.mp (List.lookup_eq_none_iff.mp hUnknown f hf)).symm
  have hKnown : known fields [(k, v)] = [] := by
    have hRefused : fields.any (fun f => f.1 == k) = false :=
      List.any_eq_false.mpr fun f hf hSame => hOther f hf (beq_iff_eq.mp hSame)
    exact List.filter_cons_of_neg (Bool.eq_false_iff.mp hRefused)
  have hKeys : readKeys? [(key, v)] = some [(k, v)] := by
    rw [readKeys?_cons, hKey]
    rfl
  have hNone : readKeys? [] = some [] := rfl
  refine datum?_replace before after hNone hKeys (by rw [hKnown]; rfl) fun f hf => ?_
  rw [lookup_cons_of_ne (hOther f hf)]

/-- Members in another order have the same names, if these can be read at all. -/
theorem readKeys?_perm {ms ms' : List (List Char × Json)} (h : ms.Perm ms') :
    (readKeys? ms = none ∧ readKeys? ms' = none) ∨
      ∃ named named', readKeys? ms = some named ∧ readKeys? ms' = some named' ∧
        named.Perm named' := by
  induction h with
  | nil => exact .inr ⟨[], [], rfl, rfl, .refl _⟩
  | cons m _ ih =>
    rw [readKeys?_cons, readKeys?_cons]
    cases textOf? m.1 with
    | none => exact .inl ⟨rfl, rfl⟩
    | some key =>
      rcases ih with ⟨hNone, hNone'⟩ | ⟨named, named', hSome, hSome', hPerm⟩
      · rw [hNone, hNone']
        exact .inl ⟨rfl, rfl⟩
      · rw [hSome, hSome']
        exact .inr ⟨_, _, rfl, rfl, hPerm.cons _⟩
  | swap m m' ms =>
    rw [readKeys?_cons, readKeys?_cons, readKeys?_cons, readKeys?_cons]
    cases textOf? m.1 <;> cases textOf? m'.1 <;> cases readKeys? ms
    case some.some.some key key' named =>
      exact .inr ⟨_, _, rfl, rfl, .swap (key, m.2) (key', m'.2) named⟩
    all_goals exact .inl ⟨rfl, rfl⟩
  | trans _ _ ih ih' =>
    rcases ih with ⟨hNone, hNone'⟩ | ⟨named, named', hSome, hSome', hPerm⟩ <;>
      rcases ih' with ⟨hThen, hThen'⟩ | ⟨then_, then', hThen, hThen', hPerm'⟩
    · exact .inl ⟨hNone, hThen'⟩
    · cases hNone'.symm.trans hThen
    · cases hSome'.symm.trans hThen
    · cases hSome'.symm.trans hThen
      exact .inr ⟨named, then', hSome, hThen', hPerm.trans hPerm'⟩

theorem lookup_eq_of_perm {α : Type} {entries entries' : List (String × α)}
    (hNodup : (entries.map Prod.fst).Nodup) (h : entries.Perm entries') (k : String) :
    entries'.lookup k = entries.lookup k := by
  cases hAt : entries.lookup k with
  | none =>
    rw [List.lookup_eq_none_iff] at hAt ⊢
    exact fun p hp => hAt p (h.symm.subset hp)
  | some v =>
    obtain ⟨before, after, rfl, -⟩ := List.lookup_eq_some_iff.mp hAt
    have hMem : (k, v) ∈ entries' := h.subset (List.mem_append_right _ List.mem_cons_self)
    exact lookup_of_mem ((h.map Prod.fst).nodup_iff.mp hNodup) hMem

/-- A field is found among the members whose names are known. -/
theorem lookup_known {f : String × Shape} (hf : f ∈ fields) (named : List (String × Json)) :
    (known fields named).lookup f.1 = named.lookup f.1 := by
  induction named with
  | nil => rfl
  | cons m rest ih =>
    rw [known, List.filter_cons, List.lookup_cons]
    split
    · rw [List.lookup_cons]
      split
      · rfl
      · exact ih
    · next hUnknown =>
      have hOther : (f.1 == m.1) = false := by
        rw [← Bool.not_eq_true]
        exact fun hSame => hUnknown (List.any_eq_true.mpr ⟨f, hf, hSame⟩)
      rw [hOther]
      exact ih

/-- The order of members does not matter. -/
theorem datum?_order {name : String} {ms ms' : List (List Char × Json)} (h : ms.Perm ms') :
    datum? (.record name fields) (.object ms') = datum? (.record name fields) (.object ms) := by
  rcases readKeys?_perm h with ⟨hNone, hNone'⟩ | ⟨named, named', hSome, hSome', hPerm⟩
  · rw [datum?_of_readKeys? hNone, datum?_of_readKeys? hNone']
  · have hKnown : (known fields named).Perm (known fields named') := hPerm.filter _
    refine datum?_record_congr hSome hSome' (hKnown.map Prod.fst).nodup_iff.symm
      fun hOnce f hf => ?_
    rw [← lookup_known hf named', lookup_eq_of_perm hOnce hKnown, lookup_known hf]

/-- A member may have another value that is read alike. -/
theorem datum?_inside {name : String} {before after : List (List Char × Json)} {key : List Char}
    {k : String} {shape : Shape} {v v' : Json} (hNodup : (fields.map Prod.fst).Nodup)
    (hKey : textOf? key = some k) (hField : fields.lookup k = some shape)
    (h : datum? shape v' = datum? shape v) :
    datum? (.record name fields) (.object (before ++ (key, v') :: after)) =
      datum? (.record name fields) (.object (before ++ (key, v) :: after)) := by
  have hKeys (w : Json) : readKeys? [(key, w)] = some [(k, w)] := by
    rw [readKeys?_cons, hKey]
    rfl
  have hNames : (known fields [(k, v')]).map Prod.fst = (known fields [(k, v)]).map Prod.fst := by
    rw [known, known, List.filter_cons, List.filter_cons]
    dsimp only
    split <;> rfl
  refine datum?_replace before after (hKeys v) (hKeys v') hNames fun f hf => ?_
  by_cases hSame : f.1 = k
  · -- the field of this name has the shape that the values were read with
    have hShape : shape = f.2 := by
      have hFound := lookup_of_mem hNodup hf
      rw [hSame, hField] at hFound
      exact Option.some.inj hFound
    rw [hSame, lookup_cons_self, lookup_cons_self, ← hShape]
    exact congrArg some h
  · rw [lookup_cons_of_ne hSame, lookup_cons_of_ne hSame]

/-- What is added to a value is not read. -/
theorem datum?_pads {shape : Shape} {v v' : Json} (h : Pads shape v v') :
    datum? shape v' = datum? shape v := by
  induction h with
  | extra before after v hKey hUnknown => exact datum?_extra v hKey hUnknown
  | order h => exact datum?_order h
  | inside before after hNodup hKey hField _ ih => exact datum?_inside hNodup hKey hField ih

end Metering.Json
