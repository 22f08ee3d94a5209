import Mathlib.Logic.Relation
import Metering.Proofs.Json.Documents
import Metering.Proofs.Json.Grammar
import Metering.Proofs.Settings

/-!
# Metering — settings of which a part is written

A file of settings in JSON seldom holds all of them. Whatever is left out has the default of the
part that it belongs to, and whatever else the file holds is passed over.

* `Json.Padded` — a value with any additions that are not read;
* `ofJson?_of_isText` — every text of a document without some fields, and with such additions, gives
  back the settings with the defaults in the place of these fields;
* `partial_documents_read` — the same of all settings, and that whole documents give them back.
-/

namespace Metering

/-- A value with any number of further members in its records, and with their members in any
order. -/
def Json.Padded (shape : Shape) : Json → Json → Prop := Relation.ReflTransGen (Json.Pads shape)

/-- What is added is not read, however much it is. -/
theorem Json.datum?_padded {shape : Shape} {v v' : Json} (h : Json.Padded shape v v') :
    Json.datum? shape v' = Json.datum? shape v := by
  induction h with
  | refl => rfl
  | tail _ hLast ih => rw [datum?_pads hLast, ih]

namespace Settings

/-- A text is read as the settings with defaults in the place of the fields that it lacks. -/
theorem ofJson?_of_isText (s : Settings) (gone : Deletion) {v : Json} {text : String}
    (hPadded : Json.Padded shape (.ofDatum (s.toDatum.without gone)) v)
    (hText : v.IsText text.toList) : ofJson? text = some (s.reset gone) := by
  have hFits : shape.Fits (s.toDatum.without gone) := s.toDatum_fits.without gone
  have hDocument : Json.readDatum? shape text = some (s.toDatum.without gone) := by
    rw [Json.readDatum?, Json.read?_of_isText hText, Option.bind_some, Json.datum?_padded hPadded,
      Json.datum?_ofDatum hFits]
  rw [ofJson?, hDocument, Option.bind_some, ofDatum?_without]

theorem isText_toJson (s : Settings) :
    Json.IsText (.ofDatum s.toDatum) s.toJson.toList := by
  refine ⟨[], (Json.ofDatum s.toDatum).render, [], ?_, Json.isGap_nil, Json.writes_render _,
    Json.isGap_nil⟩
  rw [toJson, String.toList_ofList, List.append_nil, List.nil_append]

/-- For all settings, whichever fields of their document are deleted, in whichever record, and
whatever members are added to its records under names that are no fields there: every text of this
document, with blanks anywhere and with members in any order, is read as the settings with the
default of its part in the place of each field that was deleted. The text of a whole document is
read as the settings themselves. -/
theorem partial_documents_read (s : Settings) :
    (∀ (gone : Deletion) (v : Json) (text : String),
      Json.Padded shape (.ofDatum (s.toDatum.without gone)) v → v.IsText text.toList →
      ofJson? text = some (s.reset gone)) ∧
    (∀ (v : Json) (text : String),
      Json.Padded shape (.ofDatum s.toDatum) v → v.IsText text.toList → ofJson? text = some s) ∧
    ofJson? s.toJson = some s := by
  have hWhole : ∀ (v : Json) (text : String),
      Json.Padded shape (.ofDatum s.toDatum) v → v.IsText text.toList → ofJson? text = some s := by
    intro v text hPadded hText
    have hRead := s.ofJson?_of_isText .none (by rw [Datum.without_none]; exact hPadded) hText
    rw [reset_none] at hRead
    exact hRead
  refine ⟨fun gone v text => s.ofJson?_of_isText gone, hWhole, ?_⟩
  exact hWhole _ _ .refl s.isText_toJson

/-- A document that says how values are kept and nothing else, with two members that mean
nothing. -/
theorem partial_documents_read_kind :
    let text := "\x7b\"comment\":[\"x\"],\"reservoir\":" ++
      "\x7b\"kind\":\"sliding_time_window\",\"n\":7\x7d\x7d"
    ofJson? text = some { usual with reservoir := ⟨.lastTime, 1028, 60⟩ } := by
  intro text
  let s : Settings := { usual with enabled := false, reservoir := ⟨.lastTime, 5, 6⟩ }
  let gone : Deletion := fun path => path ∉ [["reservoir"], ["reservoir", "kind"]]
  let kept : Datum := .record [("reservoir", .record [("kind", .choice "sliding_time_window")])]
  let padded : Datum := .record [("comment", .list [.text "x"]),
    ("reservoir", .record [("kind", .choice "sliding_time_window"), ("n", .word 7)])]
  have hKept : s.toDatum.without gone = kept := rfl
  -- one member is added to the document and one to the record of the reservoir
  have hFirst : Json.Pads shape (.ofDatum kept) (.ofDatum (.record [("comment", .list [.text "x"]),
      ("reservoir", .record [("kind", .choice "sliding_time_window")])])) :=
    .extra [] [_] _ (Json.textOf?_encode "comment") rfl
  have hSecond : Json.Pads reservoirShape
      (.ofDatum (.record [("kind", .choice "sliding_time_window")]))
      (.ofDatum (.record [("kind", .choice "sliding_time_window"), ("n", .word 7)])) :=
    .extra [_] [] _ (Json.textOf?_encode "n") rfl
  have hPadded : Json.Padded shape (.ofDatum (s.toDatum.without gone)) (.ofDatum padded) := by
    rw [hKept]
    refine .tail (.single hFirst) ?_
    exact .inside [_] [] (by decide) (Json.textOf?_encode "reservoir") rfl hSecond
  have hText : Json.IsText (.ofDatum padded) text.toList := by
    refine ⟨[], (Json.ofDatum padded).render, [], ?_, Json.isGap_nil, Json.writes_render padded,
      Json.isGap_nil⟩
    decide +kernel
  exact (partial_documents_read s).1 gone _ _ hPadded hText

end Settings

end Metering
