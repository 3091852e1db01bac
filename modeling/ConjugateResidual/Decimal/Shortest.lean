import ConjugateResidual.Decimal.Scientific

/-!
The shortest decimal text that reads back as the same number of a binary format. Of the texts of
that length the one nearest to the value is taken. Numbers from `10 ^ -4` up to `10 ^ 16` are
written positionally, all others with an exponent.
-/

namespace ConjugateResidual.Decimal

open Binary64

def readBack (format : Format) (negative : Bool) (digits : Nat) (exponent : Int) : Shape :=
  format.nearest negative (digits * Nat.pow 10 exponent.toNat) (Nat.pow 10 (-exponent).toNat)

/-- The neighbours of a positive ratio among the multiples of `10 ^ exponent`, the nearer first;
an exact tie prefers the even one. -/
def neighbours (numerator denominator : Nat) (exponent : Int) : List Nat :=
  let (top, bottom) := scaled numerator denominator exponent
  let nearest := roundHalfEven top bottom
  let below := top / bottom
  [nearest, if nearest = below then below + 1 else below]

/-- Digits and the exponent of the last one, from the first of the lengths that has a text which
reads back. One of 21 digits always does. -/
def shortestDigits (format : Format) (parts : Parts) : Nat × Int :=
  let leading := leadingExponent parts.numerator parts.denominator
  let target := (Shape.finite parts).roundTo format
  let readsBack (exponent : Int) (digits : Nat) : Bool :=
    readBack format parts.negative digits exponent == target
  let candidates := (List.range 21).findSome? fun (extra : Nat) =>
    let exponent : Int := leading - extra
    (neighbours parts.numerator parts.denominator exponent).find? (readsBack exponent) |>.map
      fun digits => (digits, exponent)
  candidates.getD (parts.significand, parts.exponent)

def dropTrailingZeros : Nat → Nat → Int → Nat × Int
  | 0, digits, exponent => (digits, exponent)
  | fuel + 1, digits, exponent =>
      if digits % 10 = 0 then dropTrailingZeros fuel (digits / 10) (exponent + 1)
      else (digits, exponent)

/-- Digits times `10 ^ exponent` without an exponent; a whole number keeps `.0`. -/
def positional (digits : Nat) (exponent : Int) : String :=
  if 0 ≤ exponent then
    digitsOf 1 (digits * Nat.pow 10 exponent.toNat) ++ ".0"
  else
    let places := (-exponent).toNat
    digitsOf 1 (digits / Nat.pow 10 places) ++ "." ++ digitsOf places (digits % Nat.pow 10 places)

def shortestIn (format : Format) (value : Float) : String :=
  match shape value with
  | .nan => "nan"
  | .infinite negative => signText negative ++ "inf"
  | .finite parts =>
      if parts.significand = 0 then signText parts.negative ++ "0.0"
      else
        let (rough, roughExponent) := shortestDigits format parts
        let (digits, exponent) := dropTrailingZeros 20 rough roughExponent
        let text := digitsOf 1 digits
        let leading : Int := exponent + text.length - 1
        signText parts.negative ++
          if -4 ≤ leading ∧ leading < 16 then positional digits exponent
          else pointAfterFirst text ++ exponentText leading

def shortest (value : Float) : String :=
  shortestIn binary64 value

end ConjugateResidual.Decimal
