/-!
# Metering — the value of a floating-point number

A double is not a number, infinite, or a whole number of some power of two. `Binary64.ofFloat`
reads this off the 64 bits; all decimal text is made from it in exact arithmetic.
-/

namespace Metering.Decimal

/-- The value of a double: `finite negative m e` stands for `m * 2 ^ e` with its sign. -/
inductive Binary64 where
  | nan
  | infinite (negative : Bool)
  | finite (negative : Bool) (significand : Nat) (exponent : Int)
  deriving DecidableEq

/-- The value that the bits of a double encode. -/
def Binary64.ofBits (bits : Nat) : Binary64 :=
  let negative := (bits >>> 63) % 2 == 1
  let biased : Nat := (bits >>> 52) % 2048
  let mantissa : Nat := bits % (1 <<< 52)
  if biased = 2047 then
    if mantissa = 0 then .infinite negative else .nan
  else if biased = 0 then .finite negative mantissa (-1074)
  else .finite negative ((1 <<< 52) + mantissa) ((biased : Int) - 1075)

/-- The value of a double. -/
def Binary64.ofFloat (x : Float) : Binary64 := Binary64.ofBits x.toBits.toNat

/-- Whether the double is a finite number. -/
def Binary64.isFinite : Binary64 → Bool
  | finite _ _ _ => true
  | nan | infinite _ => false

/-- A numerator and a denominator of `n * 2 ^ e`. -/
def scaled (n : Nat) (e : Int) : Nat × Nat :=
  if e < 0 then (n, 1 <<< (-e).toNat) else (n <<< e.toNat, 1)

end Metering.Decimal
