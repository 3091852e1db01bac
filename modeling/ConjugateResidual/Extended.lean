import ConjugateResidual.Arithmetic

/-!
Arithmetic in the extended format, with 64 binary digits and a range far beyond that of binary64.
A number is opened into sign, significand and exponent; every operation takes the exact result
and rounds it once. `floorRoot` is the integer square root, with its two bounds.
-/

namespace ConjugateResidual

open Binary64

structure Extended where
  shape : Shape

def floorRoot (radicand : Nat) : Nat :=
  if zero : radicand = 0 then 0
  else
    let half := 2 * floorRoot (radicand / 4)
    if (half + 1) * (half + 1) ≤ radicand then half + 1 else half
  termination_by radicand

namespace Extended

def ofRatio (negative : Bool) (numerator denominator : Nat) : Extended :=
  ⟨binary80.nearest negative numerator denominator⟩

def ofShape (shape : Shape) : Extended :=
  ⟨shape.roundTo binary80⟩

def ofFloat (value : Float) : Extended :=
  ⟨Binary64.shape value⟩

def ofInt (value : Int) : Extended :=
  ofShape (.ofInt value)

def toFloat (value : Extended) : Float :=
  value.shape.toFloat

def nan : Extended := ⟨.nan⟩

def infinite (negative : Bool) : Extended := ⟨.infinite negative⟩

def zero (negative : Bool) : Extended := ⟨.finite ⟨negative, 0, 0⟩⟩

def isNegative (value : Extended) : Bool :=
  match value.shape with
  | .nan => false
  | .infinite negative => negative
  | .finite parts => parts.negative

def withSign (negative : Bool) (value : Extended) : Extended :=
  match value.shape with
  | .nan => nan
  | .infinite _ => infinite negative
  | .finite parts => ⟨.finite { parts with negative }⟩

def neg (value : Extended) : Extended :=
  value.withSign !value.isNegative

/-- A signed multiple of `2 ^ exponent`, for an exponent no greater than that of the parts. -/
def units (exponent : Int) (parts : Parts) : Int :=
  let magnitude : Int := parts.significand * Nat.pow 2 (parts.exponent - exponent).toNat
  if parts.negative then -magnitude else magnitude

def aligned (left right : Parts) : Int × Int × Int :=
  let exponent := min left.exponent right.exponent
  (units exponent left, units exponent right, exponent)

/-- An exact sum of zero is positive unless both terms are negative. -/
def add (left right : Extended) : Extended :=
  match left.shape, right.shape with
  | .nan, _ | _, .nan => nan
  | .infinite first, .infinite second => if first = second then infinite first else nan
  | .infinite negative, _ | _, .infinite negative => infinite negative
  | .finite first, .finite second =>
      let (leftUnits, rightUnits, exponent) := aligned first second
      let total := leftUnits + rightUnits
      if total = 0 then zero (first.negative && second.negative)
      else
        ofRatio (total < 0) (total.natAbs * Nat.pow 2 exponent.toNat)
          (Nat.pow 2 (-exponent).toNat)

def sub (left right : Extended) : Extended :=
  left.add right.neg

def mul (left right : Extended) : Extended :=
  let negative := left.isNegative != right.isNegative
  match left.shape, right.shape with
  | .nan, _ | _, .nan => nan
  | .infinite _, .infinite _ => infinite negative
  | .infinite _, .finite parts | .finite parts, .infinite _ =>
      if parts.significand = 0 then nan else infinite negative
  | .finite first, .finite second =>
      ofRatio negative (first.numerator * second.numerator)
        (first.denominator * second.denominator)

def div (left right : Extended) : Extended :=
  let negative := left.isNegative != right.isNegative
  match left.shape, right.shape with
  | .nan, _ | _, .nan => nan
  | .infinite _, .infinite _ => nan
  | .infinite _, .finite _ => infinite negative
  | .finite _, .infinite _ => zero negative
  | .finite first, .finite second =>
      if second.significand = 0 then
        if first.significand = 0 then nan else infinite negative
      else
        ofRatio negative (first.numerator * second.denominator)
          (first.denominator * second.numerator)

/-- The root of a positive number has more digits than the format before it is rounded; an odd
last digit stands for all that is cut off. -/
def rootOf (parts : Parts) : Extended :=
  let shift : Nat := if parts.exponent % 2 = 0 then 132 else 133
  let radicand := parts.significand * Nat.pow 2 shift
  let root := floorRoot radicand
  let significand := if root * root = radicand then 2 * root else 2 * root + 1
  let exponent := (parts.exponent - shift) / 2 - 1
  ofRatio false (significand * Nat.pow 2 exponent.toNat) (Nat.pow 2 (-exponent).toNat)

def sqrt (value : Extended) : Extended :=
  match value.shape with
  | .nan => nan
  | .infinite negative => if negative then nan else infinite false
  | .finite parts =>
      if parts.significand = 0 then value
      else if parts.negative then nan
      else rootOf parts

def compare (relation : Int → Int → Bool) (left right : Extended) : Bool :=
  let sign (negative : Bool) : Int := if negative then -1 else 1
  match left.shape, right.shape with
  | .nan, _ | _, .nan => false
  | .infinite first, .infinite second => relation (sign first) (sign second)
  | .infinite negative, .finite _ => relation (sign negative) 0
  | .finite _, .infinite negative => relation 0 (sign negative)
  | .finite first, .finite second =>
      let (leftUnits, rightUnits, _) := aligned first second
      relation leftUnits rightUnits

end Extended

instance : Arithmetic Extended where
  zero := .zero false
  one := .ofInt 1
  add := .add
  sub := .sub
  mul := .mul
  neg := .neg
  div := .div
  sqrt := .sqrt
  copySign magnitude sign := magnitude.withSign sign.isNegative
  lt := Extended.compare fun left right => left < right
  le := Extended.compare fun left right => left ≤ right
  same := Extended.compare fun left right => left == right

end ConjugateResidual
