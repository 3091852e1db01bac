import ConjugateResidual.Tensor
import ConjugateResidual.Value.Calculation

/-!
Inner products, norms and updates of arrays. Sums run in the precision of the arrays; a scalar is
rounded to that precision before it multiplies an entry. Updates over two element types run in the
common routine field and are cast back to the type of the updated array. Object arrays follow the
arithmetic of their values.
-/

namespace ConjugateResidual

namespace Tensor

def values (tensor : Tensor) : List Value :=
  tensor.entries.map Entry.toValue

def readAs (field : ElementType) (tensor : Tensor) : Except (Fault Float) Tensor := do
  let readEntry : Entry → Except (Fault Float) Entry
    | .given .absent => .ok (.ofReal (0.0 / 0.0))
    | .given value => value.toFloat.map Entry.ofReal
    | entry => .ok entry
  let entries ← tensor.entries.mapM readEntry
  .ok { tensor with elementType := field, entries := entries.map (Entry.convert field) }

def dotOfValues (left right : List Value) : Except (Fault Float) Float := do
  let conjugated ← left.mapM Value.conjugate
  let total ← Value.dot conjugated right
  total.realPart

/-- The real part of the inner product of all entries, the first array conjugated. Integers wrap
around; texts and times have no inner product. -/
def dot (left right : Tensor) : Except (Fault Float) Float :=
  let types := [left.elementType, right.elementType]
  if left.size ≠ right.size then .error .shapeMismatch
  else if types.contains .object then dotOfValues left.values right.values
  else if types.any ElementType.isTemporal then .error .notNumeric
  else if !types.all ElementType.isNumeric then .error .unreadableNumber
  else
    let field := left.elementType.promote right.elementType
    let inner := field.accumulator
    let conjugated := left.entries.map fun entry => (entry.convert field).conjugate
    let total := Entry.dot inner conjugated (right.entries.map (Entry.convert field))
    .ok (total.convert field).re

/-- The root of the sum of squares of the parts, without scaling: it overflows and underflows with
the squares. -/
def rootOfSquares {R : Type} [Arithmetic R] (inner outer : R → R) (isComplex : Bool)
    (numbers : List (Rectangular R)) : R :=
  let sumOfSquares (part : Rectangular R → R) : R :=
    (numbers.map part).foldl (fun total value => inner (total + inner (value * value))) 0
  let squares := outer (sumOfSquares Rectangular.re)
  let total :=
    if isComplex then outer (squares + outer (sumOfSquares Rectangular.im)) else squares
  outer (Arithmetic.sqrt total)

def norm (tensor : Tensor) : Float :=
  let own := tensor.withoutIntegers
  let field := own.elementType
  if field.isExtended then
    (rootOfSquares id id field.isComplex (own.entries.map Entry.toExtended)).toFloat
  else
    rootOfSquares field.accumulator.round field.round field.isComplex
      (own.entries.map Entry.toNumber)

def normOfAny (tensor : Tensor) : Except (Fault Float) Float :=
  if tensor.elementType.isInexact then .ok tensor.norm
  else if tensor.elementType = .object then do
    let total ← Value.dot tensor.values tensor.values
    total.squareRoot
  else do
    let numbers ← tensor.readAs .float64
    .ok numbers.norm

def isVoidGrid (tensor : Tensor) : Bool :=
  2 ≤ tensor.shape.length && tensor.size == 0

/-- The target plus a multiple of the source, entry by entry with the first index running fastest;
a longer target keeps its other entries. A multiple that rounds to zero leaves the target as it
is. -/
def addScaled (scale : Float) (source target : Tensor) : Except (Fault Float) Tensor := do
  let field := ElementType.routineField [source.elementType, target.elementType]
  if source.isVoidGrid then .error .shapeMismatch
  let increments ← source.readAs field
  if target.isVoidGrid then .error .shapeMismatch
  let own ← target.readAs field
  if source.size = 0 ∨ target.size < source.size then .error .routineRefused
  if !field.canCastWithinKind target.elementType then .error .castRefused
  let factor := field.round scale
  let update (entry increment : Entry) : Entry :=
    entry.add field (Entry.mul field (.ofReal factor) increment)
  let ordered := toColumnMajor own.shape own.entries
  let updated :=
    List.zipWith update ordered (toColumnMajor increments.shape increments.entries) ++
      ordered.drop source.size
  let entries := if factor == 0.0 then own.entries else ofColumnMajor own.shape updated
  .ok { target with entries := entries.map (Entry.convert target.elementType) }

def scaled (scale : Float) (tensor : Tensor) : Except (Fault Float) Tensor := do
  let field := tensor.elementType
  if field = .object then
    let products ← tensor.values.mapM fun value => value.times (.number scale)
    .ok { tensor with entries := products.map Entry.given }
  else if !field.isInexact then .error .elementwiseRefused
  else
    let factor := Entry.ofReal (field.round scale)
    .ok (tensor.mapEntries fun entry => entry.mul field factor)

def added (source target : Tensor) : Except (Fault Float) Tensor := do
  let field := target.elementType.promote source.elementType
  if !field.canCastWithinKind target.elementType then .error .elementwiseRefused
  match source.broadcast? target.shape with
  | none => .error .shapeMismatch
  | some increments =>
      if field = .object then
        let pairs := target.values.zip (increments.map Entry.toValue)
        let sums ← pairs.mapM fun (value, increment) => value.plus increment
        .ok { target with entries := sums.map Entry.given }
      else
        let update (entry increment : Entry) : Entry :=
          ((entry.convert field).add field (increment.convert field)).convert target.elementType
        .ok { target with entries := List.zipWith update target.entries increments }

/-- The target is scaled first, so that zero times infinity shows; then the source is added. -/
def combine (scale : Float) (source : Tensor) (targetScale : Float) (target : Tensor) :
    Except (Fault Float) Tensor := do
  let scaledTarget ← target.scaled targetScale
  if scale == 1.0 then source.added scaledTarget
  else addScaled scale source scaledTarget

instance : VectorArithmetic Float Tensor where
  dot := dot
  norm := norm
  addScaled := addScaled
  combine := combine
  cleared := cleared

end Tensor

end ConjugateResidual
