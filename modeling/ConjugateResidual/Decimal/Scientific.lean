import ConjugateResidual.Binary64

/-!
Decimal texts with a chosen number of digits. `scientific places` writes one digit, `places`
more and an exponent of at least two digits; `fixed places` writes no exponent. Both round the
exact binary value, halfway cases to the even last digit.
-/

namespace ConjugateResidual.Decimal

open Binary64

def reaches (numerator denominator : Nat) (exponent : Int) : Bool :=
  denominator * Nat.pow 10 exponent.toNat ≤ numerator * Nat.pow 10 (-exponent).toNat

/-- The exponent of the leading decimal digit of a positive ratio. The binary lengths give it up
to one either way, and one comparison with a power of ten settles each case. -/
def leadingExponent (numerator denominator : Nat) : Int :=
  let binary : Int := (numerator.log2 : Int) - denominator.log2
  let estimate := (binary * 30103).fdiv 100000
  if reaches numerator denominator (estimate + 1) then estimate + 1
  else if reaches numerator denominator estimate then estimate
  else estimate - 1

def scaled (numerator denominator : Nat) (exponent : Int) : Nat × Nat :=
  (numerator * Nat.pow 10 (-exponent).toNat, denominator * Nat.pow 10 exponent.toNat)

def leadingDigits (digits : Nat) (numerator denominator : Nat) : Nat × Int :=
  let exponent := leadingExponent numerator denominator
  let (top, bottom) := scaled numerator denominator (exponent - digits)
  let rounded := roundHalfEven top bottom
  if rounded = Nat.pow 10 (digits + 1) then (Nat.pow 10 digits, exponent + 1)
  else (rounded, exponent)

def digitsOf (width value : Nat) : String :=
  let text := String.ofList (Nat.toDigits 10 value)
  String.ofList (List.replicate (width - text.length) '0') ++ text

def padLeft (width : Nat) (text : String) : String :=
  String.ofList (List.replicate (width - text.length) ' ') ++ text

def signText (negative : Bool) : String :=
  if negative then "-" else ""

def exponentText (exponent : Int) : String :=
  (if exponent < 0 then "e-" else "e+") ++ digitsOf 2 exponent.natAbs

def pointAfterFirst (digits : String) : String :=
  match digits.toList with
  | first :: second :: rest => String.ofList (first :: '.' :: second :: rest)
  | short => String.ofList short

def scientific (places : Nat) (value : Float) : String :=
  match shape value with
  | .nan => "nan"
  | .infinite negative => signText negative ++ "inf"
  | .finite parts =>
      if parts.significand = 0 then
        signText parts.negative ++ pointAfterFirst (digitsOf (places + 1) 0) ++ exponentText 0
      else
        let (digits, exponent) := leadingDigits places parts.numerator parts.denominator
        signText parts.negative ++ pointAfterFirst (digitsOf (places + 1) digits) ++
          exponentText exponent

def fixed (places : Nat) (value : Float) : String :=
  match shape value with
  | .nan => "nan"
  | .infinite negative => signText negative ++ "inf"
  | .finite parts =>
      let rounded := roundHalfEven (parts.numerator * Nat.pow 10 places) parts.denominator
      let whole := digitsOf 1 (rounded / Nat.pow 10 places)
      let fraction :=
        if places = 0 then "" else "." ++ digitsOf places (rounded % Nat.pow 10 places)
      signText parts.negative ++ whole ++ fraction

end ConjugateResidual.Decimal
