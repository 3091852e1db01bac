import ConjugateResidual.Data
import ConjugateResidual.Tensor.Routines
import ConjugateResidual.TrustRegion

/-!
The vector routines on data as a caller hands it over. Norms and inner products take lists as well
as arrays; updates need a ready array to write to, and scaled updates need two of them.
-/

namespace ConjugateResidual.Data

def norm (data : Data) : Except (Fault Float) Float := do
  let tensor ← data.toTensor
  tensor.normOfAny

def dot (left right : Data) : Except (Fault Float) Float := do
  let leftTensor ← left.toTensor
  let rightTensor ← right.toTensor
  leftTensor.dot rightTensor

def addScaled (scale : Float) (source target : Data) : Except (Fault Float) Tensor := do
  let sourceTensor ← source.givenArray
  let targetTensor ← target.givenArray
  sourceTensor.addScaled scale targetTensor

/-- A summand as an array. A plain number takes the type of the inexact array it is added to. -/
def summand (target : ElementType) (data : Data) : Except (Fault Float) Tensor :=
  match data with
  | .nested (.integer value) => plain (.integer value)
  | .nested (.number value) => plain (.number value)
  | _ => data.toTensor
where
  plain (value : Value) : Except (Fault Float) Tensor := do
    let _ ← value.toFloat
    .ok { elementType := target, shape := [], entries := [(Entry.given value).convert target] }

def combine (scale : Float) (source : Data) (targetScale : Float) (target : Data) :
    Except (Fault Float) Tensor :=
  match target with
  | .unreadable fault => .error fault
  | .nested _ => do
      let _ ← target.toTensor
      .error .notNumeric
  | .array targetTensor => do
      let scaledTarget ← targetTensor.scaled targetScale
      if scale == 1.0 then
        let sourceTensor ← source.summand scaledTarget.elementType
        sourceTensor.added scaledTarget
      else
        let sourceTensor ← source.givenArray
        sourceTensor.addScaled scale scaledTarget

/-- The step lengths to a sphere. The radius is judged before the vectors are looked at. -/
def crossings (point direction : Data) (radius : Float)
    (knownPoint knownDirection : Option Float) : Except (Fault Float) (Float × Float) := do
  if radius ≤ 0.0 then .error (.nonpositiveRadius radius)
  let pointTensor ← point.toTensor
  let directionTensor ← direction.toTensor
  TrustRegion.crossings pointTensor directionTensor radius knownPoint knownDirection

end ConjugateResidual.Data
