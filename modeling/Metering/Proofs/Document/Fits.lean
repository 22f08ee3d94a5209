import Mathlib.Data.List.Forall2
import Mathlib.Data.List.Nodup
import Metering.Document.Shape

/-!
# Metering — documents of a shape

What a document of a shape looks like before it is written in any notation, and what becomes of it
when some of its fields are deleted.

* `Shape.Fits` — a datum has a shape; `Shape.Fits.ofFields` — a record with all its fields;
* `Deletion` — fields that are deleted, by their paths; `Datum.without` — a datum without them;
* `Shape.Fits.without` — a datum with deleted fields still has its shape;
* `Datum.fieldOr_without` — what a deleted field is read as, and one that is kept.
-/

namespace Metering

/-! ## Shapes -/

/-- A datum has a shape. The fields of a record come in the order of the shape, in which no name
comes twice, and any of them may be missing. -/
inductive Shape.Fits : Shape → Datum → Prop
  | switch (on : Bool) : Fits .switch (.switch on)
  | word (n : UInt64) : Fits .word (.word n)
  | text (s : String) : Fits .text (.text s)
  | choice {words : List String} {w : String} (hListed : w ∈ words) :
      Fits (.choice words) (.choice w)
  | absent {shape : Shape} : Fits (.optional shape) .absent
  | present {shape : Shape} {d : Datum} (hOnce : ∀ inner, shape ≠ .optional inner)
      (h : Fits shape d) : Fits (.optional shape) (.present d)
  | list {shape : Shape} {ds : List Datum} (h : ∀ d ∈ ds, Fits shape d) :
      Fits (.list shape) (.list ds)
  | map {shape : Shape} {es : List (String × Datum)} (h : ∀ e ∈ es, Fits shape e.2) :
      Fits (.map shape) (.map es)
  | record {name : String} {shapes : List (String × Shape)} {fs : List (String × Datum)}
      (hNodup : (shapes.map Prod.fst).Nodup)
      (hNames : (fs.map Prod.fst).Sublist (shapes.map Prod.fst))
      (h : ∀ f ∈ fs, ∀ shape, shapes.lookup f.1 = some shape → Fits shape f.2) :
      Fits (.record name shapes) (.record fs)

theorem lookup_cons_self {α : Type} (name : String) (value : α) (more : List (String × α)) :
    ((name, value) :: more).lookup name = some value := by
  rw [List.lookup_cons, beq_self_eq_true]

theorem lookup_cons_of_ne {α : Type} {name other : String} (h : name ≠ other) (value : α)
    (more : List (String × α)) : ((other, value) :: more).lookup name = more.lookup name := by
  rw [List.lookup_cons, beq_eq_false_iff_ne.mpr h]

/-- Where no name comes twice, everybody is found under their name. -/
theorem lookup_of_mem {α : Type} {entries : List (String × α)}
    (hNodup : (entries.map Prod.fst).Nodup) {e : String × α} (he : e ∈ entries) :
    entries.lookup e.1 = some e.2 := by
  obtain ⟨before, after, rfl⟩ := List.append_of_mem he
  refine List.lookup_eq_some_iff.mpr ⟨before, after, rfl, fun p hp => ?_⟩
  -- the names before an entry are others than its own
  rw [List.map_append, List.nodup_append] at hNodup
  have hOther : p.1 ≠ e.1 :=
    hNodup.2.2 p.1 (List.mem_map_of_mem hp) e.1 (List.mem_map_of_mem List.mem_cons_self)
  exact bne_iff_ne.mpr hOther.symm

/-- Items are read if each of them is read from what is written for it. -/
theorem mapM_map {α β : Type} {write : α → β} {read : β → Option α} {as : List α}
    (h : ∀ a ∈ as, read (write a) = some a) : (as.map write).mapM read = some as := by
  induction as with
  | nil => rfl
  | cons a rest ih =>
    obtain ⟨hFirst, hRest⟩ := List.forall_mem_cons.mp h
    rw [List.map_cons, List.mapM_cons, hFirst, ih hRest]
    rfl

/-- The fields of a record fit the fields of a shape, in the same order. -/
def FieldsFit (fs : List (String × Datum)) (shapes : List (String × Shape)) : Prop :=
  List.Forall₂ (fun f s => f.1 = s.1 ∧ s.2.Fits f.2) fs shapes

/-- A record whose fields are those of its shape fits if each of them does. -/
theorem Shape.Fits.ofFields {name : String} {shapes : List (String × Shape)}
    {fs : List (String × Datum)} (hNodup : (shapes.map Prod.fst).Nodup) (h : FieldsFit fs shapes) :
    Fits (.record name shapes) (.record fs) := by
  have hNames : fs.map Prod.fst = shapes.map Prod.fst := by
    rw [← List.forall₂_eq_eq_eq, List.forall₂_map_left_iff, List.forall₂_map_right_iff]
    exact h.imp fun _ _ hPair => hPair.1
  refine .record hNodup (hNames ▸ List.Sublist.refl _) fun f hf shape hShape => ?_
  -- each field stands at the place of its shape
  obtain ⟨i, hi, rfl⟩ := List.mem_iff_getElem.mp hf
  have hj : i < shapes.length := h.length_eq ▸ hi
  obtain ⟨hName, hFits⟩ := List.Forall₂.get h hi hj
  have hFound := lookup_of_mem hNodup (List.getElem_mem hj)
  simp only [List.get_eq_getElem] at hName hFits
  rw [hName, hFound] at hShape
  exact Option.some.inj hShape ▸ hFits

/-! ## Deleted fields -/

/-- Which fields of a document are deleted, each by the names that lead to it. -/
abbrev Deletion := List String → Bool

/-- The fields that are deleted within the field of a name. -/
def Deletion.under (gone : Deletion) (name : String) : Deletion := fun path => gone (name :: path)

/-- What becomes of a field: it has the usual value if it is deleted. -/
def Deletion.keep {α : Type} (gone : Deletion) (name : String) (usual value : α) : α :=
  if gone [name] then usual else value

/-- Nothing is deleted. -/
def Deletion.none : Deletion := fun _ => false

mutual

/-- A datum without the fields that are deleted, in records at any depth. -/
def Datum.without (gone : Deletion) : Datum → Datum
  | .record fields => .record (fieldsWithout gone fields)
  | d => d

/-- Fields without those that are deleted. -/
def Datum.fieldsWithout (gone : Deletion) : List (String × Datum) → List (String × Datum)
  | [] => []
  | (name, d) :: fs =>
    if gone [name] then fieldsWithout gone fs
    else (name, d.without (gone.under name)) :: fieldsWithout gone fs

end

namespace Datum

variable {gone : Deletion} {fs : List (String × Datum)}

theorem fieldsWithout_cons (gone : Deletion) (name : String) (d : Datum)
    (fs : List (String × Datum)) :
    fieldsWithout gone ((name, d) :: fs) =
      if gone [name] then fieldsWithout gone fs
      else (name, d.without (gone.under name)) :: fieldsWithout gone fs := by
  rw [fieldsWithout]

/-- Whatever is kept was there, and has lost the fields that are deleted within it. -/
theorem mem_fieldsWithout {f : String × Datum} (h : f ∈ fieldsWithout gone fs) :
    ∃ d, (f.1, d) ∈ fs ∧ f.2 = d.without (gone.under f.1) := by
  induction fs with
  | nil => cases h
  | cons first rest ih =>
    obtain ⟨name, d⟩ := first
    rw [fieldsWithout_cons] at h
    have hRest (h : f ∈ fieldsWithout gone rest) : ∃ d', (f.1, d') ∈ (name, d) :: rest ∧
        f.2 = d'.without (gone.under f.1) := by
      obtain ⟨d', hMem, hValue⟩ := ih h
      exact ⟨d', List.mem_cons_of_mem _ hMem, hValue⟩
    split at h
    · exact hRest h
    · rcases List.mem_cons.mp h with rfl | h
      · exact ⟨d, List.mem_cons_self, rfl⟩
      · exact hRest h

theorem names_fieldsWithout (gone : Deletion) (fs : List (String × Datum)) :
    ((fieldsWithout gone fs).map Prod.fst).Sublist (fs.map Prod.fst) := by
  induction fs with
  | nil => rw [fieldsWithout]
  | cons first rest ih =>
    obtain ⟨name, d⟩ := first
    rw [fieldsWithout_cons]
    split
    · exact ih.cons name
    · exact ih.cons_cons name

/-- A field that is deleted is not found, and one that is kept is found as it was. -/
theorem lookup_fieldsWithout (name : String) :
    (fieldsWithout gone fs).lookup name =
      if gone [name] then Option.none
      else (fs.lookup name).map fun d => d.without (gone.under name) := by
  induction fs with
  | nil =>
    rw [fieldsWithout]
    split <;> rfl
  | cons first rest ih =>
    obtain ⟨other, d⟩ := first
    rw [fieldsWithout_cons]
    by_cases hSame : name = other
    · subst hSame
      rw [lookup_cons_self]
      split
      · next hGone => rw [ih, if_pos hGone]
      · next hKept => rw [lookup_cons_self, Option.map_some]
    · rw [lookup_cons_of_ne hSame]
      split
      · exact ih
      · rw [lookup_cons_of_ne hSame]
        exact ih

/-- What a field is read as, where some are deleted. -/
theorem fieldOr_without {α : Type} {name : String} {value : Datum} {read : Datum → Option α}
    {a : α} (hThere : fs.lookup name = some value)
    (hRead : read (value.without (gone.under name)) = some a) (usual : α) :
    ((record fs).without gone).fieldOr name read usual = some (gone.keep name usual a) := by
  rw [without, fieldOr, field?, lookup_fieldsWithout, hThere, Deletion.keep]
  by_cases hGone : gone [name] = true
  · rw [if_pos hGone, if_pos hGone]
  · rw [if_neg hGone, if_neg hGone]
    exact hRead

theorem asSwitch?_without (on : Bool) (gone : Deletion) :
    ((switch on).without gone).asSwitch? = some on := rfl

theorem asWord?_without (n : UInt64) (gone : Deletion) :
    ((word n).without gone).asWord? = some n := rfl

theorem asText?_without (s : String) (gone : Deletion) :
    ((text s).without gone).asText? = some s := rfl

mutual

theorem without_none : (d : Datum) → d.without Deletion.none = d
  | .record fields => by rw [without, fieldsWithout_none fields]
  | .switch _ | .word _ | .text _ | .choice _ | .absent | .present _ | .list _ | .map _ => rfl

theorem fieldsWithout_none : (fs : List (String × Datum)) → fieldsWithout Deletion.none fs = fs
  | [] => by rw [fieldsWithout]
  | (name, d) :: fs => by
    have hUnder : Deletion.none.under name = Deletion.none := rfl
    rw [fieldsWithout_cons, hUnder, without_none d, fieldsWithout_none fs]
    rfl

end

end Datum

/-- A datum with deleted fields still has its shape. -/
theorem Shape.Fits.without {shape : Shape} {d : Datum} (h : shape.Fits d) (gone : Deletion) :
    shape.Fits (d.without gone) := by
  induction h generalizing gone with
  | @record name shapes fs hNodup hNames h ih =>
    rw [Datum.without]
    refine .record hNodup ((Datum.names_fieldsWithout gone fs).trans hNames) ?_
    intro f hf shape hShape
    obtain ⟨d, hMem, hValue⟩ := Datum.mem_fieldsWithout hf
    rw [hValue]
    exact ih (f.1, d) hMem shape hShape _
  | switch on => exact .switch on
  | word n => exact .word n
  | text s => exact .text s
  | choice hListed => exact .choice hListed
  | absent => exact .absent
  | present hOnce h => exact .present hOnce h
  | list h => exact .list h
  | map h => exact .map h

end Metering
