import ConjugateResidual.Binary64
import ConjugateResidual.Text.Blank

/-!
Reading decimal numerals. A numeral is an optional sign, digits with an optional point, and an
optional exponent; single underscores may stand between digits, blanks around the whole, and
`inf`, `infinity` and `nan` are read in any case. The value is the float nearest to the exact
decimal.
-/

namespace ConjugateResidual.Decimal

open Text

/-- Digits with their count, and what follows them. An underscore is skipped only between two
digits. -/
def takeDigits : List Char → Nat → Nat → Nat × Nat × List Char
  | [], value, count => (value, count, [])
  | char :: rest, value, count =>
      match digitValue? char with
      | some digit => takeDigits rest (10 * value + digit) (count + 1)
      | none =>
          match char, rest with
          | '_', next :: after =>
              match digitValue? next with
              | some digit =>
                  if count = 0 then (value, count, char :: rest)
                  else takeDigits after (10 * value + digit) (count + 1)
              | none => (value, count, char :: rest)
          | _, _ => (value, count, char :: rest)
  termination_by chars => chars.length

def takeSign : List Char → Bool × List Char
  | '-' :: rest => (true, rest)
  | '+' :: rest => (false, rest)
  | chars => (false, chars)

structure Numeral where
  negative : Bool
  significand : Nat
  exponent : Int
  digits : Nat

/-- Beyond these magnitudes the nearest float is infinite or zero, whatever the digits are; no
power of ten is formed then. -/
def Numeral.toFloat (numeral : Numeral) : Float :=
  let magnitude := numeral.exponent + numeral.digits
  if numeral.significand = 0 ∨ magnitude < -330 then
    Binary64.ofRatio numeral.negative 0 1
  else if 330 < numeral.exponent then
    Binary64.ofRatio numeral.negative Binary64.overflowThreshold 1
  else
    Binary64.ofRatio numeral.negative (numeral.significand * Nat.pow 10 numeral.exponent.toNat)
      (Nat.pow 10 (-numeral.exponent).toNat)

def readExponent : List Char → Option Int
  | [] => some 0
  | mark :: rest =>
      if mark = 'e' ∨ mark = 'E' then
        let (negative, unsigned) := takeSign rest
        match takeDigits unsigned 0 0 with
        | (value, count, []) =>
            if count = 0 then none
            else some (if negative then -(value : Int) else value)
        | _ => none
      else none

def readUnsigned (negative : Bool) (chars : List Char) : Option Numeral :=
  let (whole, wholeCount, afterWhole) := takeDigits chars 0 0
  let (significand, fractionCount, afterFraction) :=
    match afterWhole with
    | '.' :: rest =>
        let (fraction, count, remaining) := takeDigits rest 0 0
        (whole * Nat.pow 10 count + fraction, count, remaining)
    | _ => (whole, 0, afterWhole)
  if wholeCount + fractionCount = 0 then none
  else
    (readExponent afterFraction).map fun exponent =>
      { negative, significand
        exponent := exponent - fractionCount
        digits := wholeCount + fractionCount }

def readWord (negative : Bool) (chars : List Char) : Option Float :=
  let word := String.ofList (chars.map Char.toLower)
  if word = "inf" ∨ word = "infinity" then
    some (if negative then -(1.0 / 0.0) else 1.0 / 0.0)
  else if word = "nan" then some (0.0 / 0.0)
  else none

def readFloat? (text : String) : Option Float :=
  let (negative, unsigned) := takeSign (trimBlanks text.toList)
  match readWord negative unsigned with
  | some value => some value
  | none => (readUnsigned negative unsigned).map Numeral.toFloat

end ConjugateResidual.Decimal
