import Metering.Decimal.Shortest

/-!
# Metering — decimal text

Three ways to write a double are in use, and each is a value of this module.

* `Layout.plain` — as few digits as read back, always positional, no needless fraction;
* `Layout.interchange` — the same digits, always with a fraction or an exponent;
* `twoPlaces` — two places after the point, half a unit going to the even neighbour.
-/

namespace Metering.Decimal

/-- How the shortest figure of a double is laid out. -/
structure Layout where
  /-- Which of two equally near figures is written. -/
  tie : Tie
  /-- Whether a whole number gets a `.0`. -/
  pointed : Bool
  /-- The exponents that are written positionally; all if there are no bounds. -/
  positional : Option (Int × Int)

/-- Text for people: positional at every size, and whole numbers without a point. -/
def Layout.plain : Layout := ⟨.up, false, none⟩

/-- Text for programs: a point or an exponent shows that a number is no integer. -/
def Layout.interchange : Layout := ⟨.even, true, some (-5, 15)⟩

/-- The decimal digits of a number. -/
def digitsOf (n : Nat) : List Char := Nat.toDigits 10 n

/-- The digits of a figure with the point put in its place. -/
def positionalText (pointed : Bool) (f : Figure) : List Char :=
  let ds := digitsOf f.digits
  let point : Int := ds.length + f.scale
  if 0 ≤ f.scale then
    ds ++ List.replicate f.scale.toNat '0' ++ (if pointed then ['.', '0'] else [])
  else if 0 < point then
    ds.take point.toNat ++ '.' :: ds.drop point.toNat
  else '0' :: '.' :: List.replicate (-point).toNat '0' ++ ds

/-- The digits of a figure with one digit before the point and an exponent. -/
def exponentText (f : Figure) : List Char :=
  let ds := digitsOf f.digits
  let exponent : Int := ds.length + f.scale - 1
  let mantissa :=
    match ds with
    | d :: [] => [d]
    | d :: more => d :: '.' :: more
    | [] => []
  let signed := if exponent < 0 then '-' :: digitsOf (-exponent).toNat
    else '+' :: digitsOf exponent.toNat
  mantissa ++ 'e' :: signed

/-- The text of a figure. -/
def Layout.figureText (l : Layout) (f : Figure) : List Char :=
  match l.positional with
  | none => positionalText l.pointed f
  | some (low, high) =>
    let exponent : Int := (digitsOf f.digits).length + f.scale - 1
    if low ≤ exponent ∧ exponent ≤ high then positionalText l.pointed f else exponentText f

/-- A text after its sign. -/
def signedText (negative : Bool) (text : List Char) : String :=
  String.ofList (if negative then '-' :: text else text)

/-- The text of a double. -/
def Layout.render (l : Layout) (x : Float) : String :=
  match Binary64.ofFloat x with
  | .nan => "NaN"
  | .infinite negative => signedText negative "inf".toList
  | .finite negative m e =>
    signedText negative
      (if m = 0 then positionalText l.pointed ⟨0, 0⟩ else l.figureText (shortest l.tie m e))

/-! ## Two places -/

/-- The whole number nearest to a fraction; a half goes to the even one. -/
def nearest (num den : Nat) : Nat :=
  let lower := num / den
  match compare (2 * (num % den)) den with
  | .lt => lower
  | .gt => lower + 1
  | .eq => if lower % 2 = 0 then lower else lower + 1

/-- A number of hundredths, written with a point. -/
def hundredthsText (n : Nat) : List Char :=
  digitsOf (n / 100) ++ '.' :: digitsOf (n / 10 % 10) ++ digitsOf (n % 10)

/-- The double rounded to two places. -/
def twoPlaces (x : Float) : String :=
  match Binary64.ofFloat x with
  | .nan => "NaN"
  | .infinite negative => signedText negative "inf".toList
  | .finite negative m e =>
    let (num, den) := scaled m e
    signedText negative (hundredthsText (nearest (100 * num) den))

end Metering.Decimal
