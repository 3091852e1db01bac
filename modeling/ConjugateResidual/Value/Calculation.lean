import ConjugateResidual.Fault

/-!
Sums and products of values of any kind, as object arrays need them, and when two values are equal.
Truth values count as integers, integers are exact, and an integer beside a float becomes a float
if it is in range.
-/

namespace ConjugateResidual.Value

def whole? : Value → Option Int
  | .truth value | .typedTruth value => some (if value then 1 else 0)
  | .integer value | .typedInteger _ value => some value
  | _ => none

def isNumber (value : Value) : Bool :=
  value.whole?.isSome || value.isFloat

def equals (left right : Value) : Bool :=
  match left.whole?, right.whole? with
  | some first, some second => first == second
  | _, _ =>
      if left.isNumber && right.isNumber then
        match left.toFloat, right.toFloat with
        | .ok first, .ok second => first == second
        | _, _ => false
      else left.literal == right.literal

theorem equals_integer (left right : Int) :
    (integer left).equals (integer right) = (left == right) := rfl

def figure (value : Value) : Except (Fault Float) Float :=
  match value with
  | .text _ => .error .unreadableNumber
  | other => other.toFloat

def combine (onIntegers : Int → Int → Int) (onFloats : Float → Float → Float)
    (left right : Value) : Except (Fault Float) Value :=
  match left.whole?, right.whole? with
  | some first, some second => .ok (.integer (onIntegers first second))
  | _, _ =>
      if !left.isNumber || !right.isNumber then .error .notNumeric
      else do
        let first ← left.toFloat
        let second ← right.toFloat
        .ok (.number (onFloats first second))

def times : Value → Value → Except (Fault Float) Value :=
  combine (· * ·) (· * ·)

def plus : Value → Value → Except (Fault Float) Value :=
  combine (· + ·) (· + ·)

def conjugate (value : Value) : Except (Fault Float) Value :=
  if value.isNumber then .ok value else .error .lacksMember

def realPart (value : Value) : Except (Fault Float) Float :=
  if value.isNumber then value.toFloat else .error .lacksMember

/-- Roots are taken of floats and of integers that a number type holds. -/
def squareRoot (value : Value) : Except (Fault Float) Float :=
  if value.isNumber && !value.isOpaque then value.toFloat.map Float.sqrt else .error .notNumeric

/-- The products of two rows, added up from the left. Nothing is the sum of none. -/
def dot (left right : List Value) : Except (Fault Float) Value := do
  let step (total? : Option Value) (factors : Value × Value) :
      Except (Fault Float) (Option Value) := do
    let product ← factors.1.times factors.2
    match total? with
    | none => .ok (some product)
    | some total => some <$> total.plus product
  let total? ← (left.zip right).foldlM step none
  .ok (total?.getD .absent)

end ConjugateResidual.Value
