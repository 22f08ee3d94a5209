/-!
# Metering — texts cut at a separator

* `pieces sep cs` — the parts of a text between the separators; there is always at least one;
* `joined sep ps` — the parts put together again with one separator between neighbours.

The two undo each other (`joined_pieces`, `pieces_joined`).
-/

namespace Metering.Text

/-- The parts of a text between the occurrences of a separator. -/
def pieces (sep : Char) : List Char → List (List Char)
  | [] => [[]]
  | c :: rest =>
    if c = sep then [] :: pieces sep rest
    else
      match pieces sep rest with
      | [] => [[c]]
      | p :: ps => (c :: p) :: ps

/-- Parts with one separator between neighbours. -/
def joined (sep : Char) : List (List Char) → List Char
  | [] => []
  | [p] => p
  | p :: q :: ps => p ++ sep :: joined sep (q :: ps)

theorem pieces_ne_nil (sep : Char) (cs : List Char) : pieces sep cs ≠ [] := by
  cases cs with
  | nil => simp [pieces]
  | cons c rest =>
    rw [pieces]
    split
    · simp
    · split <;> simp

theorem joined_cons_cons (sep : Char) (p q : List Char) (ps : List (List Char)) :
    joined sep (p :: q :: ps) = p ++ sep :: joined sep (q :: ps) := rfl

theorem joined_cons_of_ne_nil (sep : Char) (p : List Char) {ps : List (List Char)}
    (h : ps ≠ []) : joined sep (p :: ps) = p ++ sep :: joined sep ps := by
  cases ps with
  | nil => exact absurd rfl h
  | cons q qs => rfl

theorem joined_concat (sep : Char) {ps : List (List Char)} (h : ps ≠ []) (p : List Char) :
    joined sep (ps ++ [p]) = joined sep ps ++ sep :: p := by
  induction ps with
  | nil => exact absurd rfl h
  | cons q qs ih =>
    cases qs with
    | nil => rfl
    | cons r rs =>
      rw [List.cons_append, joined_cons_of_ne_nil sep q (by simp), ih (by simp),
        joined_cons_cons, List.append_assoc, List.cons_append]

/-- Joining the pieces gives the text back. -/
theorem joined_pieces (sep : Char) (cs : List Char) : joined sep (pieces sep cs) = cs := by
  induction cs with
  | nil => rfl
  | cons c rest ih =>
    rw [pieces]
    split
    next h => rw [joined_cons_of_ne_nil sep [] (pieces_ne_nil sep rest), ih, h]; rfl
    next h =>
      split
      next hp => exact absurd hp (pieces_ne_nil sep rest)
      next p ps hp =>
        cases ps with
        | nil => simpa [joined, hp] using ih
        | cons q qs => rw [hp] at ih; simpa [joined] using ih

/-- No piece holds the separator. -/
theorem sep_notMem_of_mem_pieces {sep : Char} {cs p : List Char} (h : p ∈ pieces sep cs) :
    sep ∉ p := by
  induction cs generalizing p with
  | nil => simp_all [pieces]
  | cons c rest ih =>
    rw [pieces] at h
    split at h
    next hc =>
      rcases List.mem_cons.mp h with rfl | h
      · simp
      · exact ih h
    next hc =>
      split at h
      next hp => exact absurd hp (pieces_ne_nil sep rest)
      next q qs hq =>
        rcases List.mem_cons.mp h with rfl | h
        · have : sep ∉ q := ih (by simp [hq])
          simp only [List.mem_cons, not_or]
          exact ⟨fun e => hc e.symm, this⟩
        · exact ih (by simp [hq, h])

theorem pieces_append_sep (sep : Char) {p : List Char} (hp : sep ∉ p) (cs : List Char) :
    pieces sep (p ++ sep :: cs) = p :: pieces sep cs := by
  induction p with
  | nil => simp [pieces]
  | cons c rest ih =>
    simp only [List.mem_cons, not_or] at hp
    rw [List.cons_append, pieces, if_neg (fun e => hp.1 e.symm), ih hp.2]

theorem pieces_of_notMem (sep : Char) {p : List Char} (hp : sep ∉ p) :
    pieces sep p = [p] := by
  induction p with
  | nil => rfl
  | cons c rest ih =>
    simp only [List.mem_cons, not_or] at hp
    rw [pieces, if_neg (fun e => hp.1 e.symm), ih hp.2]

/-- The parts of two texts with a separator between them. -/
theorem pieces_append (sep : Char) (front rest : List Char) :
    pieces sep (front ++ sep :: rest) = pieces sep front ++ pieces sep rest := by
  induction front with
  | nil => simp [pieces]
  | cons c more ih =>
    rw [List.cons_append, pieces, pieces, ih]
    split
    · rfl
    · cases hMore : pieces sep more with
      | nil => exact absurd hMore (pieces_ne_nil sep more)
      | cons p ps => rfl

/-- Joined texts are cut where each of them is, and between neighbours. -/
theorem pieces_joined_flatMap (sep : Char) {ps : List (List Char)} (h : ps ≠ []) :
    pieces sep (joined sep ps) = ps.flatMap (pieces sep) := by
  induction ps with
  | nil => exact absurd rfl h
  | cons p rest ih =>
    cases rest with
    | nil => exact (List.flatMap_singleton (pieces sep) p).symm
    | cons q qs =>
      rw [joined_cons_cons, pieces_append, ih (List.cons_ne_nil q qs)]
      exact List.flatMap_cons.symm

theorem flatMap_pieces_of_notMem (sep : Char) {ps : List (List Char)} (h : ∀ p ∈ ps, sep ∉ p) :
    ps.flatMap (pieces sep) = ps := by
  induction ps with
  | nil => rfl
  | cons p rest ih =>
    obtain ⟨hFirst, hRest⟩ := List.forall_mem_cons.mp h
    rw [List.flatMap_cons, pieces_of_notMem sep hFirst, ih hRest, List.singleton_append]

/-- Cutting joined parts gives the parts back, if none of them holds the separator. -/
theorem pieces_joined (sep : Char) {ps : List (List Char)} (hne : ps ≠ [])
    (h : ∀ p ∈ ps, sep ∉ p) : pieces sep (joined sep ps) = ps := by
  rw [pieces_joined_flatMap sep hne, flatMap_pieces_of_notMem sep h]

/-- Parts that were joined before count as one part, and are joined as if they had not been. -/
theorem joined_cons_joined (sep : Char) {front : List (List Char)} (h : front ≠ [])
    (rest : List (List Char)) :
    joined sep (joined sep front :: rest) = joined sep (front ++ rest) := by
  cases rest with
  | nil => rw [List.append_nil]; rfl
  | cons r rs =>
    -- by induction on what comes in front; the separator before the rest is always there
    rw [joined_cons_cons]
    induction front with
    | nil => exact absurd rfl h
    | cons p ps ih =>
      cases ps with
      | nil => rfl
      | cons q qs =>
        rw [joined_cons_cons, List.append_assoc, List.cons_append, ih (List.cons_ne_nil q qs)]
        rfl

/-- Texts with one separator between neighbours. -/
theorem intercalate_eq_joined (sep : Char) (ps : List (List Char)) :
    [sep].intercalate ps = joined sep ps := by
  induction ps with
  | nil => rfl
  | cons p rest ih =>
    cases rest with
    | nil => exact List.intercalate_singleton
    | cons q qs => rw [joined_cons_cons, ← ih, List.intercalate_cons_cons, List.append_assoc,
        List.singleton_append]

/-- A character of joined texts is one of theirs, or the separator. -/
theorem mem_joined {sep c : Char} {ps : List (List Char)} (h : c ∈ joined sep ps) :
    c = sep ∨ ∃ p ∈ ps, c ∈ p := by
  induction ps with
  | nil => cases h
  | cons p rest ih =>
    cases rest with
    | nil => exact .inr ⟨p, List.mem_cons_self, h⟩
    | cons q qs =>
      rw [joined_cons_cons, List.mem_append, List.mem_cons] at h
      rcases h with hFirst | hSep | hRest
      · exact .inr ⟨p, List.mem_cons_self, hFirst⟩
      · exact .inl hSep
      · rcases ih hRest with hSep | ⟨r, hr, hc⟩
        · exact .inl hSep
        · exact .inr ⟨r, List.mem_cons_of_mem p hr, hc⟩

end Metering.Text
