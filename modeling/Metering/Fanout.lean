/-!
# Metering — fan-out

What is told to a metric with counted ancestors is told to all of them, the metric itself first.

* `fanOut` — changes the members one after another, up to the first that breaks off;
* `fanOut_append`, `fanOut_map_some` — when a fan-out runs through.
-/

namespace Metering

/-- Changes the members one after another. The first change that breaks off ends it; what was
changed before stays changed. Also says whether all members were reached. -/
def fanOut {σ ι : Type} (change : σ → ι → Option σ) (s : σ) : List ι → σ × Bool
  | [] => (s, true)
  | i :: rest =>
    match change s i with
    | some s => fanOut change s rest
    | none => (s, false)

theorem fanOut_append {σ ι : Type} (change : σ → ι → Option σ) (s : σ) (is js : List ι) :
    fanOut change s (is ++ js) =
      if (fanOut change s is).2 then fanOut change (fanOut change s is).1 js
      else fanOut change s is := by
  induction is generalizing s with
  | nil => rfl
  | cons i rest ih =>
    rw [List.cons_append, fanOut, fanOut]
    split
    · exact ih _
    · rfl

theorem fanOut_map_some {σ ι : Type} (change : σ → ι → σ) (s : σ) (is : List ι) :
    fanOut (fun s i => some (change s i)) s is = (is.foldl change s, true) := by
  induction is generalizing s with
  | nil => rfl
  | cons i rest ih => exact ih _

end Metering
