import Metering.Proofs.Document.Fits
import Metering.Proofs.Json.Grammar
import Metering.Proofs.Json.Numbers
import Metering.Proofs.Report.Selected

/-!
# Metering — lines of text for programs

The line of a sample in JSON is one object, and a reader of the notation finds there what the sample
shows, each part under its own key and all keys in their order.

* `IsTextOf`, `IsIntegerOf`, `IsRealOf`, `IsRecordOf` — what a value is read as;
* `IsRecordOf.agree` — two descriptions of one object have the same keys, and agree under each;
* `Shows` — a value is read as the sample;
* `json_lines_decode` — the line of every sample.
-/

namespace Metering

namespace Json

/-! ## What values are read as -/

/-- The value is a string that is read as the text. -/
def IsTextOf (text : String) (v : Json) : Prop :=
  ∃ written, v = .string written ∧ textOf? written = some text

/-- The value is a number that is read as the integer. -/
def IsIntegerOf (n : Int) (v : Json) : Prop :=
  ∃ written, v = .number written ∧ integerOf? written = some n

/-- The value is a number, or null for what is infinite or no number, and only for that. -/
def IsRealOf (x : Float) (v : Json) : Prop :=
  (v = .null ↔ x.isNaN = true ∨ x.isInf = true) ∧ (v = .null ∨ ∃ written, v = .number written)

/-- A key, and what is said of the value under it. -/
abbrev Part := String × (Json → Prop)

/-- A member of an object has the key, and a value as is said. -/
def Part.HoldsOf (part : Part) (member : String × Json) : Prop :=
  member.1 = part.1 ∧ part.2 member.2

/-- Two parts have one key, and there is a value as both say. -/
def Part.Meets (part other : Part) : Prop := part.1 = other.1 ∧ ∃ v, part.2 v ∧ other.2 v

/-- The value is an object with these keys and no others, in this order, and under each of them is a
value as is said. -/
def IsRecordOf (parts : List Part) (v : Json) : Prop :=
  ∃ members named, v = .object members ∧ readKeys? members = some named ∧
    List.Forall₂ Part.HoldsOf parts named

variable {v : Json}

theorem IsTextOf.unique {text other : String} (h : IsTextOf text v) (h' : IsTextOf other v) :
    text = other := by
  obtain ⟨written, rfl, hRead⟩ := h
  obtain ⟨_, hSame, hRead'⟩ := h'
  rw [← Json.string.inj hSame, hRead] at hRead'
  exact Option.some.inj hRead'

theorem IsIntegerOf.unique {n m : Int} (h : IsIntegerOf n v) (h' : IsIntegerOf m v) : n = m := by
  obtain ⟨written, rfl, hRead⟩ := h
  obtain ⟨_, hSame, hRead'⟩ := h'
  rw [← Json.number.inj hSame, hRead] at hRead'
  exact Option.some.inj hRead'

/-- Two descriptions of one object have the same keys, and are true of the same values. -/
theorem IsRecordOf.agree {parts others : List Part} (h : IsRecordOf parts v)
    (h' : IsRecordOf others v) : List.Forall₂ Part.Meets parts others := by
  obtain ⟨members, named, rfl, hKeys, hParts⟩ := h
  obtain ⟨_, _, hSame, hKeys', hOthers⟩ := h'
  rw [← Json.object.inj hSame, hKeys] at hKeys'
  obtain rfl := Option.some.inj hKeys'
  clear hKeys hKeys' hSame
  -- by induction on the parts, along the members that both describe
  induction hParts generalizing others with
  | nil =>
    cases hOthers
    exact .nil
  | cons hFirst _ ih =>
    cases hOthers with
    | cons hOther hRest =>
      exact .cons ⟨hFirst.1.symm.trans hOther.1, _, hFirst.2, hOther.2⟩ (ih hRest)

/-! ## What is written for data -/

theorem isTextOf_ofText (text : String) : IsTextOf text (.ofText text) :=
  ⟨_, rfl, textOf?_encode text⟩

theorem readKeys?_encode (members : List (String × Json)) :
    readKeys? (members.map fun m => (Text.encode m.1.toList, m.2)) = some members := by
  refine mapM_map fun m _ => ?_
  rw [textOf?_encode]
  rfl

theorem isRecordOf_ofMembers {parts : List Part} {members : List (String × Json)}
    (h : List.Forall₂ Part.HoldsOf parts members) : IsRecordOf parts (.ofMembers members) :=
  ⟨_, members, rfl, readKeys?_encode members, h⟩

theorem wellFormed_ofText (text : String) : WellFormed (.ofText text) :=
  .string (isInner_encode text.toList)

theorem wellFormed_ofMembers {members : List (String × Json)} (h : ∀ m ∈ members, WellFormed m.2) :
    WellFormed (.ofMembers members) := by
  refine .object (fun m hm => ?_) fun m hm => ?_
  · obtain ⟨member, -, rfl⟩ := List.mem_map.mp hm
    exact isInner_encode member.1.toList
  · obtain ⟨member, hMember, rfl⟩ := List.mem_map.mp hm
    exact h member hMember

end Json

namespace Report

open Json

/-! ## Numbers -/

theorem isIntegerOf_wordJson (n : Int64) : IsIntegerOf n.toInt (wordJson n) :=
  ⟨_, rfl, integerOf?_toString n.toInt⟩

theorem isIntegerOf_countJson (n : UInt64) : IsIntegerOf n.toNat (countJson n) :=
  ⟨_, rfl, integerOf?_toString n.toNat⟩

theorem wellFormed_wordJson (n : Int64) : WellFormed (wordJson n) :=
  .number (isNumber_toString_int n.toInt)

theorem wellFormed_countJson (n : UInt64) : WellFormed (countJson n) :=
  .number (isNumber_toString_int n.toNat)

theorem isRealOf_realJson (x : Float) : IsRealOf x (realJson x) := by
  rw [IsRealOf, ← isFinite_ofFloat]
  unfold realJson
  split
  · next hFinite => simp [hFinite]
  · next hOther => simp [hOther]

theorem wellFormed_realJson (x : Float) : WellFormed (realJson x) := by
  unfold realJson
  split
  · next hFinite => exact .number (isNumber_interchange hFinite)
  · exact .null

/-! ## Parts of samples -/

/-- What rates are read as. -/
def rateParts (r : Rates) : List Part :=
  [("mean_rate", IsRealOf r.mean), ("m1_rate", IsRealOf r.one), ("m5_rate", IsRealOf r.five),
    ("m15_rate", IsRealOf r.fifteen)]

/-- What a distribution is read as. -/
def spreadParts (d : Distribution) : List Part :=
  [("min", IsIntegerOf d.min.toInt), ("max", IsIntegerOf d.max.toInt), ("mean", IsRealOf d.mean),
    ("std_dev", IsRealOf d.deviation), ("median", IsRealOf d.median), ("p75", IsRealOf d.p75),
    ("p95", IsRealOf d.p95), ("p98", IsRealOf d.p98), ("p99", IsRealOf d.p99),
    ("p999", IsRealOf d.p999)]

/-- What a reading is read as, behind its name and its kind. -/
def readingParts : Reading → List Part
  | .counter count => [("count", IsIntegerOf count.toInt)]
  | .meter count rates =>
    [("count", IsIntegerOf count.toNat), ("rates", IsRecordOf (rateParts rates))]
  | .histogram count spread =>
    [("count", IsIntegerOf count.toNat), ("distribution", IsRecordOf (spreadParts spread))]
  | .timer count rates spread =>
    [("count", IsIntegerOf count.toNat), ("rates", IsRecordOf (rateParts rates)),
      ("distribution", IsRecordOf (spreadParts spread))]
  | .gauge value => [("value", IsRealOf value)]

/-- The value is read as the sample: an object with its name, its kind and the parts of a reading of
this kind. -/
def Shows (s : Sample) : Json → Prop :=
  IsRecordOf (("name", IsTextOf s.name) :: ("type", IsTextOf s.reading.label) ::
    readingParts s.reading)

theorem isRecordOf_ratesJson (r : Rates) : IsRecordOf (rateParts r) (ratesJson r) := by
  refine isRecordOf_ofMembers ?_
  simp only [rateParts, List.forall₂_cons, Part.HoldsOf, isRealOf_realJson, and_self,
    List.Forall₂.nil]

theorem isRecordOf_spreadJson (d : Distribution) : IsRecordOf (spreadParts d) (spreadJson d) := by
  refine isRecordOf_ofMembers ?_
  simp only [spreadParts, List.forall₂_cons, Part.HoldsOf, isIntegerOf_wordJson,
    isRealOf_realJson, and_self,
    List.Forall₂.nil]

theorem wellFormed_ratesJson (r : Rates) : WellFormed (ratesJson r) := by
  refine wellFormed_ofMembers ?_
  simp only [List.forall_mem_cons, wellFormed_realJson, true_and, List.not_mem_nil, false_imp_iff,
    implies_true]

theorem wellFormed_spreadJson (d : Distribution) : WellFormed (spreadJson d) := by
  refine wellFormed_ofMembers ?_
  simp only [List.forall_mem_cons, wellFormed_realJson, wellFormed_wordJson, true_and,
    List.not_mem_nil, false_imp_iff, implies_true]

/-- Every sample is read from its object. -/
theorem shows_sampleJson (s : Sample) : Shows s (sampleJson s) := by
  refine isRecordOf_ofMembers (.cons ⟨rfl, isTextOf_ofText _⟩ (.cons ⟨rfl, isTextOf_ofText _⟩ ?_))
  cases s.reading <;> simp only [readingParts, readingMembers, List.forall₂_cons, Part.HoldsOf,
    isIntegerOf_wordJson, isIntegerOf_countJson, isRealOf_realJson, isRecordOf_ratesJson,
    isRecordOf_spreadJson, and_self, List.Forall₂.nil]

theorem wellFormed_sampleJson (s : Sample) : WellFormed (sampleJson s) := by
  refine wellFormed_ofMembers ?_
  cases s.reading <;> simp only [readingMembers, List.forall_mem_cons, wellFormed_ofText,
    wellFormed_wordJson, wellFormed_countJson, wellFormed_realJson, wellFormed_ratesJson,
    wellFormed_spreadJson, true_and, List.not_mem_nil, false_imp_iff, implies_true]

/-! ## Samples of one object -/

theorem spread_integers_eq {d e : Distribution} {v : Json} (h : IsRecordOf (spreadParts d) v)
    (h' : IsRecordOf (spreadParts e) v) :
    d.min.toInt = e.min.toInt ∧ d.max.toInt = e.max.toInt := by
  have hAgree := h.agree h'
  simp only [spreadParts, List.forall₂_cons, Part.Meets, true_and] at hAgree
  obtain ⟨⟨_, hMin, hMin'⟩, ⟨_, hMax, hMax'⟩, -⟩ := hAgree
  exact ⟨hMin.unique hMin', hMax.unique hMax'⟩

/-- Readings of one kind whose parts agree show the same integers. -/
theorem integers_eq_of_parts {r q : Reading} (h : r.IsLike q)
    (hParts : List.Forall₂ Part.Meets (readingParts r) (readingParts q)) :
    r.integers = q.integers := by
  cases h with
  | counter =>
    simp only [readingParts, List.forall₂_cons, Part.Meets, true_and] at hParts
    obtain ⟨⟨_, hCount, hCount'⟩, -⟩ := hParts
    rw [Reading.integers, Reading.integers, hCount.unique hCount']
  | meter =>
    simp only [readingParts, List.forall₂_cons, Part.Meets, true_and] at hParts
    obtain ⟨⟨_, hCount, hCount'⟩, -⟩ := hParts
    rw [Reading.integers, Reading.integers, hCount.unique hCount']
  | histogram =>
    simp only [readingParts, List.forall₂_cons, Part.Meets, true_and] at hParts
    obtain ⟨⟨_, hCount, hCount'⟩, ⟨_, hSpread, hSpread'⟩, -⟩ := hParts
    obtain ⟨hMin, hMax⟩ := spread_integers_eq hSpread hSpread'
    rw [Reading.integers, Reading.integers, hCount.unique hCount', hMin, hMax]
  | timer =>
    simp only [readingParts, List.forall₂_cons, Part.Meets, true_and] at hParts
    obtain ⟨⟨_, hCount, hCount'⟩, -, ⟨_, hSpread, hSpread'⟩, -⟩ := hParts
    obtain ⟨hMin, hMax⟩ := spread_integers_eq hSpread hSpread'
    rw [Reading.integers, Reading.integers, hCount.unique hCount', hMin, hMax]
  | gauge => rfl

/-- What is read as two samples has one name and one kind, and shows the same integers. -/
theorem Shows.agree {s t : Sample} {v : Json} (h : Shows s v) (h' : Shows t v) :
    s.name = t.name ∧ s.reading.label = t.reading.label ∧
      s.reading.integers = t.reading.integers := by
  have hAgree := IsRecordOf.agree h h'
  simp only [List.forall₂_cons, Part.Meets, true_and] at hAgree
  obtain ⟨⟨_, hName, hName'⟩, ⟨_, hLabel, hLabel'⟩, hParts⟩ := hAgree
  have hSame := hLabel.unique hLabel'
  exact ⟨hName.unique hName', hSame, integers_eq_of_parts (Reading.label_eq_iff.mp hSame) hParts⟩

/-- The line of a sample has no control characters, and so it is one line. It is an object of the
notation, and it is read as the sample: under its name and its kind stand the parts of a reading of
this kind in their order, integers exactly, and null in place of real numbers that are infinite or
none. Samples with the same line have the same name, kind and integers. -/
theorem json_lines_decode (s : Sample) :
    NoControl (LineFormat.json.line s).toList ∧
      (∃ v, Writes v (LineFormat.json.line s).toList ∧
        read? (LineFormat.json.line s).toList = some v ∧ Shows s v) ∧
      ∀ t, LineFormat.json.line s = LineFormat.json.line t →
        s.name = t.name ∧ s.reading.label = t.reading.label ∧
          s.reading.integers = t.reading.integers := by
  have hLine (s : Sample) : (LineFormat.json.line s).toList = (sampleJson s).render :=
    String.toList_ofList
  have hRead (s : Sample) : read? (sampleJson s).render = some (sampleJson s) :=
    read?_of_isText ⟨[], _, [], (List.append_nil _).symm, isGap_nil,
      (wellFormed_sampleJson s).writes, isGap_nil⟩
  refine ⟨?_, ⟨sampleJson s, ?_, ?_, shows_sampleJson s⟩, fun t hSame => ?_⟩
  · rw [hLine]
    exact (wellFormed_sampleJson s).noControl
  · rw [hLine]
    exact (wellFormed_sampleJson s).writes
  · rw [hLine, hRead]
  · -- a line is read as one value only
    have hText := congrArg (fun line => read? line.toList) hSame
    rw [hLine, hLine, hRead, hRead] at hText
    have hShows := shows_sampleJson s
    rw [Option.some.inj hText] at hShows
    exact hShows.agree (shows_sampleJson t)

end Report

end Metering
