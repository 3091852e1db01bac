import ConjugateResidual.Extended
import ConjugateResidual.Rectangular

/-!
The entries of arrays. Integers are kept exactly, real and complex numbers by their parts, rounded
to the element type, and whatever is no number as it was given. Operations take two entries of one
field; sums of integers wrap around when they are converted to their type.
-/

namespace ConjugateResidual

inductive Entry where
  /-- A truth value, an integer, or a count of time units. -/
  | integer (value : Int)
  | number (value : Rectangular Float)
  | extended (value : Rectangular Extended)
  | given (value : Value)

def ElementType.round (elementType : ElementType) (value : Float) : Float :=
  match elementType.precision? with
  | some precision => precision.round value
  | none => value

def ElementType.accumulator : ElementType → ElementType
  | .real precision => .real precision.accumulator
  | .complex precision => .complex precision.accumulator
  | elementType => elementType

def ElementType.isExtended (elementType : ElementType) : Bool :=
  elementType.precision? == some .extended

/-- The number that a value stands for; one that stands for none is not a number. -/
def Value.reading (value : Value) : Float :=
  match value.toFloat with
  | .ok reading => reading
  | .error _ => 0.0 / 0.0

namespace Entry

def zero : Entry := .integer 0

def ofReal (value : Float) : Entry := .number (.ofReal value)

def toNumber : Entry → Rectangular Float
  | .integer value => .ofReal (Binary64.ofInt value)
  | .number value => value
  | .extended value => value.map Extended.toFloat
  | .given value => .ofReal value.reading

def toExtended : Entry → Rectangular Extended
  | .integer value | .given (.integer value) => .ofReal (.ofInt value)
  | .extended value => value
  | entry => entry.toNumber.map Extended.ofFloat

def re (entry : Entry) : Float := entry.toNumber.re

def im (entry : Entry) : Float := entry.toNumber.im

def toInteger : Entry → Int
  | .integer value | .given (.integer value) => value
  | entry => (Binary64.truncate? entry.re).getD 0

def toValue : Entry → Value
  | .integer value => .integer value
  | .given value => value
  | entry => .number entry.re

def conjugate : Entry → Entry
  | .number value => .number value.conjugate
  | .extended value => .extended value.conjugate
  | entry => entry

def isNan (entry : Entry) : Bool :=
  entry.re.isNaN || entry.im.isNaN

def isInfinite (entry : Entry) : Bool :=
  entry.re.isInf || entry.im.isInf

def isFinite (entry : Entry) : Bool :=
  entry.re.isFinite && entry.im.isFinite

def isZero : Entry → Bool
  | .integer value => value == 0
  | .number value => value.isZero
  | .extended value => value.isZero
  | .given value => !value.isTrue

def toPrecision (precision : Precision) (entry : Entry) : Entry :=
  let narrow (shape : Binary64.Shape) : Float := (shape.roundTo precision.format).toFloat
  if precision = .extended then .extended entry.toExtended
  else
    match entry with
    | .integer value => ofReal (narrow (.ofInt value))
    | .extended value => .number (value.map fun part => narrow part.shape)
    | other => .number (other.toNumber.map precision.round)

def realPart : Entry → Entry
  | .number value => ofReal value.re
  | .extended value => .extended (.ofReal value.re)
  | entry => entry

/-- The entry of an element type that stands for a number; integers drop the fraction and wrap
around. -/
def convert (target : ElementType) (entry : Entry) : Entry :=
  match target with
  | .complex precision => entry.toPrecision precision
  | .real precision => (entry.toPrecision precision).realPart
  | .boolean => .integer (if entry.isZero then 0 else 1)
  | .signed width => .integer (width.wrapSigned entry.toInteger)
  | .unsigned width => .integer (width.wrapUnsigned entry.toInteger)
  | .moment _ | .duration _ => .integer entry.toInteger
  | .text _ => .given (.text entry.toValue.display)
  | .object | .foreign _ => .given entry.toValue

abbrev NumberOperation : Type 1 :=
  {R : Type} → [Arithmetic R] → (R → R) → Rectangular R → Rectangular R → Rectangular R

def onParts (field : ElementType) (operation : NumberOperation) (left right : Entry) : Entry :=
  if field.isExtended then .extended (operation id left.toExtended right.toExtended)
  else .number (operation field.round left.toNumber right.toNumber)

def add (field : ElementType) (left right : Entry) : Entry :=
  if field.isIntegral then .integer (left.toInteger + right.toInteger)
  else onParts field Rectangular.add left right

def sub (field : ElementType) (left right : Entry) : Entry :=
  if field.isIntegral then .integer (left.toInteger - right.toInteger)
  else onParts field Rectangular.sub left right

def mul (field : ElementType) (left right : Entry) : Entry :=
  if field.isIntegral then .integer (left.toInteger * right.toInteger)
  else if field.isComplex then onParts field Rectangular.mul left right
  else onParts field Rectangular.mulReal left right

def div (field : ElementType) (left right : Entry) : Entry :=
  if field.isComplex then onParts field Rectangular.div left right
  else onParts field Rectangular.divReal left right

def dot (field : ElementType) (left right : List Entry) : Entry :=
  (List.zipWith (mul field) left right).foldl (add field) zero

end Entry

end ConjugateResidual
