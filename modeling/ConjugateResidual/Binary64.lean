/-!
Finite binary64 values as exact ratios of natural numbers. `shape` opens a float into sign,
significand and exponent; `ofRatio` is the float nearest to a ratio, ties going to the even
significand. `Format.nearest` rounds a ratio to any binary format, and `Format.round` a float to a
narrower one.
-/

namespace ConjugateResidual.Binary64

/-- The value `± significand * 2 ^ exponent`. -/
structure Parts where
  negative : Bool
  significand : Nat
  exponent : Int
  deriving DecidableEq, Repr

inductive Shape where
  | nan
  | infinite (negative : Bool)
  | finite (parts : Parts)
  deriving DecidableEq, Repr

def shape (value : Float) : Shape :=
  let word := value.toBits.toNat
  let negative := word / Nat.pow 2 63 == 1
  let exponentField : Nat := word / Nat.pow 2 52 % Nat.pow 2 11
  let fraction := word % Nat.pow 2 52
  if exponentField == 2047 then
    if fraction == 0 then .infinite negative else .nan
  else if exponentField == 0 then
    .finite ⟨negative, fraction, -1074⟩
  else
    .finite ⟨negative, Nat.pow 2 52 + fraction, Int.ofNat exponentField - 1075⟩

def Parts.numerator (parts : Parts) : Nat :=
  parts.significand * Nat.pow 2 parts.exponent.toNat

def Parts.denominator (parts : Parts) : Nat :=
  Nat.pow 2 (-parts.exponent).toNat

def isNegative (value : Float) : Bool :=
  value.toBits.toNat / Nat.pow 2 63 == 1

def roundHalfEven (numerator denominator : Nat) : Nat :=
  let quotient := numerator / denominator
  let twice := 2 * (numerator % denominator)
  if twice < denominator then quotient
  else if denominator < twice then quotient + 1
  else if quotient % 2 = 0 then quotient
  else quotient + 1

def significandAt (numerator denominator : Nat) (exponent : Int) : Nat :=
  roundHalfEven (numerator * Nat.pow 2 (-exponent).toNat) (denominator * Nat.pow 2 exponent.toNat)

/-- The exponent at which a positive ratio has `digits` binary digits before the point, but
never below `least`. -/
def scaleOf (digits : Nat) (least : Int) (numerator denominator : Nat) : Int :=
  let estimate : Int := (numerator.log2 : Int) - denominator.log2 - digits + 1
  let tooLarge :=
    numerator * Nat.pow 2 (-estimate).toNat <
      denominator * Nat.pow 2 estimate.toNat * Nat.pow 2 (digits - 1)
  max (if tooLarge then estimate - 1 else estimate) least

/-- The float nearest to `± numerator / denominator`. The word of a float grows with its value,
so a significand that rounds up to the next power of two carries into the exponent by itself. -/
def ofRatio (negative : Bool) (numerator denominator : Nat) : Float :=
  let signWord := if negative then Nat.pow 2 63 else 0
  if numerator = 0 then Float.ofBits (UInt64.ofNat signWord)
  else
    let exponent := scaleOf 53 (-1074) numerator denominator
    let magnitude :=
      (exponent + 1074).toNat * Nat.pow 2 52 + significandAt numerator denominator exponent
    Float.ofBits (UInt64.ofNat (signWord + min magnitude (2047 * Nat.pow 2 52)))

def ofInt (value : Int) : Float :=
  ofRatio (value < 0) value.natAbs 1

/-- From this magnitude on an integer has no finite neighbour to round to. -/
def overflowThreshold : Nat :=
  Nat.pow 2 1024 - Nat.pow 2 970

def truncate? (value : Float) : Option Int :=
  match shape value with
  | .finite parts =>
      let magnitude : Int := (parts.numerator / parts.denominator : Nat)
      some (if parts.negative then -magnitude else magnitude)
  | _ => none

/-- A binary format: the number of its digits, the exponent of its finest steps, and that of the
steps between its largest values. -/
structure Format where
  digits : Nat
  leastExponent : Int
  greatestExponent : Int

def binary16 : Format :=
  { digits := 11, leastExponent := -24, greatestExponent := 5 }

def binary32 : Format :=
  { digits := 24, leastExponent := -149, greatestExponent := 104 }

def binary64 : Format :=
  { digits := 53, leastExponent := -1074, greatestExponent := 971 }

def binary80 : Format :=
  { digits := 64, leastExponent := -16445, greatestExponent := 16320 }

/-- The value of a format nearest to `± numerator / denominator`; infinite beyond its largest
value. Equal values come out as equal parts: a significand that rounds up to the next power of two
moves to the next exponent. -/
def Format.nearest (format : Format) (negative : Bool) (numerator denominator : Nat) : Shape :=
  if numerator = 0 then .finite ⟨negative, 0, 0⟩
  else
    let scale := scaleOf format.digits format.leastExponent numerator denominator
    let rounded := significandAt numerator denominator scale
    let (significand, exponent) :=
      if rounded = Nat.pow 2 format.digits then (Nat.pow 2 (format.digits - 1), scale + 1)
      else (rounded, scale)
    if format.greatestExponent < exponent then .infinite negative
    else .finite ⟨negative, significand, exponent⟩

def Shape.roundTo (format : Format) : Shape → Shape
  | .finite parts => format.nearest parts.negative parts.numerator parts.denominator
  | other => other

def Shape.ofInt (value : Int) : Shape :=
  .finite ⟨value < 0, value.natAbs, 0⟩

def Shape.toFloat : Shape → Float
  | .nan => 0.0 / 0.0
  | .infinite negative => if negative then -(1.0 / 0.0) else 1.0 / 0.0
  | .finite parts => ofRatio parts.negative parts.numerator parts.denominator

def Format.round (format : Format) (value : Float) : Float :=
  ((shape value).roundTo format).toFloat

end ConjugateResidual.Binary64
