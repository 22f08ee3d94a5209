import Mathlib.Tactic.Common
import Metering.Update

/-!
# Metering — tallies

Of all that a statistic has recorded its tally is what must never be lost: the kind, and the
count in 64 bits. An update of the right kind moves the count by its amount, wrapping around at
the ends of the 64 bits; nothing else does, least of all reading.

* `Update.amount` — by how much an update moves a count;
* `Kind.wrapped` — a total as the count of a metric of some kind shows it;
* `Statistic.count_updated` — an update moves the count by its amount;
* `Statistic.tally_updated` — and leaves the statistics of other kinds alone;
* `Statistics.tally?_read`, `Statistics.tally?_readAll` — reading changes no tally.
-/

namespace Metering

/-! ## Amounts -/

/-- By how much an update moves a count: events and signed amounts as they are told, values and
durations one by one. -/
def Update.amount : Update → Int
  | add n => n.toInt
  | subtract n => -n.toInt
  | mark n => n.toNat
  | value _ | duration _ => 1

/-- A total in 64 bits, as the count of a metric shows it: a counter's with a sign, in two's
complement, any other without. Gauges count nothing. -/
def Kind.wrapped : Kind → Int → Int
  | counter, n => n.bmod UInt64.size
  | meter, n | histogram, n | timer, n => n % UInt64.size
  | gauge, _ | cachedGauge, _ => 0

theorem Kind.wrapped_zero (k : Kind) : k.wrapped 0 = 0 := by
  cases k <;> rfl

/-- It does not matter whether a total was wrapped before more is added. -/
theorem Kind.wrapped_wrapped_add (k : Kind) (n a : Int) :
    k.wrapped (k.wrapped n + a) = k.wrapped (n + a) := by
  cases k with
  | counter => exact Int.bmod_add_bmod
  | meter | histogram | timer => exact Int.emod_add_emod _ _ _
  | gauge | cachedGauge => rfl

/-! ## What an update does to a count -/

section Meters

variable {A : Type} [Accumulator A] [DecidableEq A]

theorem Meter.count_tick (m : Meter A) (now : Instant) : (m.tick now).count = m.count := by
  simp only [Meter.tick]
  split <;> rfl

theorem Meter.count_mark (m : Meter A) (now : Instant) (n : UInt64) :
    (m.mark now n).count = m.count + n := by
  rw [Meter.mark]
  show (m.tick now).count + n = m.count + n
  rw [Meter.count_tick]

theorem Timer.count_update (t : Timer A) (now : Instant) (d : Duration) :
    (t.update now d).count = t.count + 1 := rfl

end Meters

/-- A count without a sign, moved by an amount. -/
theorem toNat_add_cast (c n : UInt64) :
    ((c + n).toNat : Int) = ((c.toNat : Int) + n.toNat) % UInt64.size := by
  rw [UInt64.toNat_add, Int.natCast_emod, Int.natCast_add, Int.natCast_pow]

/-- An update of the kind of the statistic moves the count by its amount. -/
theorem Statistic.count_updated {s : Statistic} {u : Update} (h : u.measure.kind = s.kind)
    (now : Instant) : (s.updated now u).count = s.kind.wrapped (s.count + u.amount) := by
  cases s <;> cases u <;> try cases h
  case counter.add c n => exact Int64.toInt_add c n
  case counter.subtract c n => exact Int64.toInt_sub c n
  case meter.mark m n =>
    show ((m.mark now n).count.toNat : Int) = _
    rw [Meter.count_mark, toNat_add_cast]
    rfl
  case histogram.value hist v => exact toNat_add_cast hist.count 1
  case timer.duration t d =>
    show ((t.update now d).count.toNat : Int) = _
    rw [Timer.count_update, toNat_add_cast]
    rfl

/-! ## Tallies in the table -/

/-- The kind and the count. -/
def Statistic.tally (s : Statistic) : Kind × Int := (s.kind, s.count)

/-- What an update makes of a tally: one that is not for its kind changes nothing. -/
def Update.moved (u : Update) (t : Kind × Int) : Kind × Int :=
  if u.measure.kind = t.1 then (t.1, t.1.wrapped (t.2 + u.amount)) else t

theorem Statistic.updated_of_ne {s : Statistic} {u : Update} (h : u.measure.kind ≠ s.kind)
    (now : Instant) : s.updated now u = s := by
  cases s <;> cases u <;> first | rfl | exact absurd rfl h

theorem Statistic.tally_updated (s : Statistic) (now : Instant) (u : Update) :
    (s.updated now u).tally = u.moved s.tally := by
  rw [Update.moved]
  split
  · next h => rw [tally, kind_updated, count_updated h, tally]
  · next h => rw [updated_of_ne h]

/-- The tally of the statistic at a place. -/
def Statistics.tally? (s : Statistics) (id : StatId) : Option (Kind × Int) :=
  (s.get? id).map Statistic.tally

namespace Statistics

theorem tally?_eq_some {s : Statistics} {id : StatId} {stat : Statistic}
    (h : s.get? id = some stat) : s.tally? id = some stat.tally := by
  rw [tally?, h, Option.map_some]

theorem get?_add_of_ne (s : Statistics) (stat : Statistic) {id : StatId}
    (h : id ≠ s.table.length) : (s.add stat).1.get? id = s.get? id := by
  rw [add, get?, get?, List.getElem?_append]
  split
  · rfl
  · next hLate =>
    have hPast : s.table.length ≤ id := Nat.le_of_not_lt hLate
    have hBeyond : [stat].length ≤ id - s.table.length :=
      Nat.sub_pos_of_lt (Nat.lt_of_le_of_ne hPast (Ne.symm h))
    rw [List.getElem?_eq_none hPast, List.getElem?_eq_none hBeyond]

theorem get?_add_self (s : Statistics) (stat : Statistic) :
    (s.add stat).1.get? s.table.length = some stat := by
  rw [add, get?, List.getElem?_concat_length]

/-- The place that the next statistic gets is still free. -/
theorem tally?_length (s : Statistics) : s.tally? s.table.length = none := by
  rw [tally?, get?, List.getElem?_eq_none (Nat.le_refl _), Option.map_none]

theorem tally?_add_self (s : Statistics) (stat : Statistic) :
    (s.add stat).1.tally? s.table.length = some stat.tally :=
  tally?_eq_some (get?_add_self s stat)

theorem tally?_add_of_some {s : Statistics} {id : StatId} {t : Kind × Int}
    (h : s.tally? id = some t) (stat : Statistic) : (s.add stat).1.tally? id = some t := by
  have hne : id ≠ s.table.length := by
    rintro rfl
    rw [tally?_length] at h
    cases h
  rw [tally?, get?_add_of_ne s stat hne]
  exact h

theorem get?_set (s : Statistics) (id other : StatId) (stat : Statistic) :
    (s.set id stat).get? other =
      if other = id then (s.get? id).map fun _ => stat else s.get? other := by
  rw [set, get?, get?, get?, List.getElem?_set]
  by_cases h : other = id
  · subst h
    rw [if_pos rfl, if_pos rfl]
    split
    · next hIn => rw [List.getElem?_eq_getElem hIn, Option.map_some]
    · next hOut => rw [List.getElem?_eq_none (Nat.le_of_not_lt hOut), Option.map_none]
  · rw [if_neg (Ne.symm h), if_neg h]

theorem tally?_set_self {s : Statistics} {id : StatId} {old : Statistic}
    (hOld : s.get? id = some old) (new : Statistic) :
    (s.set id new).tally? id = some new.tally := by
  rw [tally?, get?_set, if_pos rfl, hOld, Option.map_some, Option.map_some]

theorem tally?_set_of_ne {id other : StatId} (h : other ≠ id) (s : Statistics)
    (new : Statistic) : (s.set id new).tally? other = s.tally? other := by
  rw [tally?, tally?, get?_set, if_neg h]

/-- A statistic that gives way to one of the same tally leaves all tallies as they were. -/
theorem tally?_set {s : Statistics} {id : StatId} {old new : Statistic}
    (hOld : s.get? id = some old) (h : new.tally = old.tally) (other : StatId) :
    (s.set id new).tally? other = s.tally? other := by
  by_cases heq : other = id
  · rw [heq, tally?_set_self hOld, tally?_eq_some hOld, h]
  · rw [tally?_set_of_ne heq]

/-! ## Reading -/

theorem tally?_ask (s : Statistics) (supplier : Supplier) (source : Nat) (id : StatId) :
    (s.ask supplier source).1.tally? id = s.tally? id := rfl

/-- Reading a statistic changes no tally: a meter may only fold what it has counted. -/
theorem tally?_read (s : Statistics) (now : Instant) (id other : StatId) :
    (s.read now id).1.tally? other = s.tally? other := by
  rw [read]
  split
  · rfl
  · rfl
  · next m hAt =>
    refine tally?_set hAt ?_ other
    show (Kind.meter, ((m.tick now).count.toNat : Int)) = (Kind.meter, (m.count.toNat : Int))
    rw [Meter.count_tick]
  · rfl
  · next t hAt =>
    refine tally?_set hAt ?_ other
    rfl
  · rfl
  · next g supplier source hAt =>
    split
    · rfl
    · -- asking leaves the table alone, so the gauge is still where it was
      simp only [ask]
      split
      · refine (tally?_set hAt ?_ other).trans (tally?_ask s supplier source other)
        rfl
      · rfl

theorem tally?_readAll (s : Statistics) (now : Instant) (entries : List (String × StatId))
    (other : StatId) : (s.readAll now entries).1.tally? other = s.tally? other := by
  induction entries generalizing s with
  | nil => rfl
  | cons e rest ih =>
    have hRead := tally?_read s now e.2 other
    rw [readAll]
    split
    · next hNone =>
      rw [hNone] at hRead
      exact hRead
    · next hSome =>
      rw [hSome] at hRead
      exact (ih _).trans hRead

end Statistics

end Metering
