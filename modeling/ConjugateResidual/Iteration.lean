import ConjugateResidual.Problem
import ConjugateResidual.TrustRegion
import ConjugateResidual.View

/-!
The conjugate residual recurrences on the normal equations `(Aᴴ M A + λ) x = Aᴴ M b`, written
on the vectors of a workspace. `setUp` clears the workspace for a right-hand side, `launch` forms
the first gradient and direction, `iterations` runs until the gradient is small enough, a step
ends the run, the observer stops it, or the budget is used up.
-/

namespace ConjugateResidual

open Arithmetic

variable {J R X Y : Type} [Arithmetic R] [VectorArithmetic R X] [VectorArithmetic R Y]

/-- The scalars that one iteration hands to the next. -/
structure Progress (R : Type) where
  curvature : R
  optimality : R
  residual : R

structure Course (R : Type) extends Progress R where
  iterations : Nat
  /-- The last step went along the gradient because the direction has no curvature. -/
  flat : Bool
  clipped : Bool
  exited : Bool

namespace Problem

variable (problem : Problem J R X Y)

def applyForward (vector : X) : Run J R X Y Y :=
  Run.perform (problem.forward vector)

def applyAdjoint (vector : Y) : Run J R X Y X :=
  Run.perform (problem.adjoint vector)

/-- A residual-space vector as the preconditioner weighs it. The weighted copy is kept in the
workspace; without a preconditioner the vector weighs itself. -/
def weigh (vector : Y) : Run J R X Y Y :=
  match problem.weight? with
  | none => pure vector
  | some weight => do
      let weighted ← Run.perform (weight.apply vector)
      Run.update ({ · with weighted? := some weighted })
      pure weighted

end Problem

def addRidge (ridge : R) (source target : X) : Run J R X Y X :=
  if isPositive ridge then Run.ofExcept (VectorArithmetic.addScaled ridge source target)
  else pure target

def withRidge (ridge curvature optimality : R) : R :=
  if isPositive ridge then curvature + ridge * optimality * optimality else curvature

def residualNorm (ridge : R) : Run J R X Y R := do
  let workspace ← Run.workspace
  if isPositive ridge then
    let residualSquare ← Run.ofExcept (VectorArithmetic.dot workspace.residual workspace.residual)
    let solutionSquare ← Run.ofExcept (VectorArithmetic.dot workspace.solution workspace.solution)
    pure (sqrt (residualSquare + ridge * solutionSquare))
  else pure (VectorArithmetic.norm workspace.residual)

def isDue (interval iterations : Nat) : Bool :=
  0 < interval && iterations % interval == 0

def report (interval iterations : Nat) (progress : Progress R) : Run J R X Y Unit :=
  if isDue interval iterations then
    Run.print (.progress iterations progress.optimality progress.residual)
  else pure ()

/-- The solution is cleared before the right-hand side is read, which may be a view of it. -/
def setUp (rightHandSide : View X Y) (problem : Problem J R X Y) (settings : Settings R) :
    Run J R X Y R := do
  Run.update ({ · with recorder := .cleared settings.keepsHistory })
  if problem.weight?.isSome then Run.update Workspace.withBuffer
  Run.update fun workspace =>
    { workspace with solution := VectorArithmetic.cleared workspace.solution }
  Run.update fun workspace => { workspace with residual := rightHandSide.read workspace }
  let workspace ← Run.workspace
  let norm := VectorArithmetic.norm workspace.residual
  Run.update fun workspace =>
    { workspace with recorder := workspace.recorder.recordResidual norm }
  pure norm

def launch (problem : Problem J R X Y) (settings : Settings R) (residual : R) :
    Run J R X Y (Progress R) := do
  let workspace ← Run.workspace
  let weightedResidual ← problem.weigh workspace.residual
  let gradient ← problem.applyAdjoint weightedResidual
  Run.update ({ · with gradient })
  let gradientImage ← problem.applyForward gradient
  Run.update ({ · with gradientImage })
  let weightedImage ← problem.weigh gradientImage
  Run.update ({ · with direction := gradient, directionImage := gradientImage })
  let plainImage ← problem.applyAdjoint weightedImage
  Run.update ({ · with normalImage := plainImage })
  let normalImage ← addRidge settings.ridge gradient plainImage
  Run.update ({ · with normalImage })
  let curvature ← Run.ofExcept (VectorArithmetic.dot gradientImage weightedImage)
  let optimality := VectorArithmetic.norm gradient
  Run.update fun workspace =>
    { workspace with recorder := workspace.recorder.recordOptimality optimality }
  pure
    { curvature := withRidge settings.ridge curvature optimality
      optimality, residual }

/-- Whether the normal equations have no curvature along the direction. Inside a trust region a
curvature that is small against the tolerance counts as none. -/
def directionIsFlat (settings : Settings R) (threshold normalSquare : R) :
    Run J R X Y Bool := do
  let workspace ← Run.workspace
  if isZero normalSquare then pure true
  else if isPositive settings.radius then
    let imageSquare ←
      Run.ofExcept (VectorArithmetic.dot workspace.directionImage workspace.directionImage)
    let directionNorm : R := VectorArithmetic.norm workspace.direction
    pure (le imageSquare (threshold * sqrt normalSquare * directionNorm))
  else pure false

/-- Moves the solution along a vector and the gradient along its image in the normal equations;
gives the norm of the new gradient. -/
def moveAlong (step : R) (vector normalImage : X) : Run J R X Y R := do
  let workspace ← Run.workspace
  let solution ← Run.ofExcept (VectorArithmetic.addScaled step vector workspace.solution)
  Run.update ({ · with solution })
  let gradient ←
    Run.ofExcept (VectorArithmetic.addScaled (-step) normalImage workspace.gradient)
  Run.update ({ · with gradient })
  pure (VectorArithmetic.norm gradient)

def gradientStep (settings : Settings R) (progress : Progress R) (solution gradient : X) :
    Except (Fault R) R := do
  let gradientSquare := progress.optimality * progress.optimality
  let step ←
    if isPositive progress.curvature then quotient gradientSquare progress.curvature else .ok 0
  if isPositive settings.radius then
    let bound ←
      TrustRegion.stepToBoundary solution gradient settings.radius gradientSquare
    .ok (smaller step bound)
  else .ok step

def finishAlongGradient (problem : Problem J R X Y) (settings : Settings R)
    (progress : Progress R) : Run J R X Y R := do
  let before ← Run.workspace
  let weightedImage ← problem.weigh before.gradientImage
  let plainImage ← problem.applyAdjoint weightedImage
  Run.update ({ · with normalImage := plainImage })
  let normalImage ← addRidge settings.ridge before.gradient plainImage
  Run.update ({ · with normalImage })
  let step ← Run.ofExcept (gradientStep settings progress before.solution before.gradient)
  moveAlong step before.gradient normalImage

def directionStep (settings : Settings R) (curvature normalSquare : R) (solution direction : X) :
    Except (Fault R) (R × Bool) := do
  let step ← quotient curvature normalSquare
  if isPositive settings.radius then
    let directionNorm : R := VectorArithmetic.norm direction
    let bound ←
      TrustRegion.stepToBoundary solution direction settings.radius
        (directionNorm * directionNorm)
    .ok (if le bound step then (bound, true) else (step, false))
  else .ok (step, false)

/-- The rest of an iteration after an unclipped step: the residual, the images, and a direction
conjugate to all earlier ones. -/
def renewDirection (problem : Problem J R X Y) (settings : Settings R)
    (step oldCurvature optimality : R) : Run J R X Y (Progress R) := do
  let before ← Run.workspace
  let residual ←
    Run.ofExcept (VectorArithmetic.addScaled (-step) before.directionImage before.residual)
  Run.update ({ · with residual })
  let gradientImage ← problem.applyForward before.gradient
  Run.update ({ · with gradientImage })
  let weightedImage ← problem.weigh gradientImage
  let product ← Run.ofExcept (VectorArithmetic.dot gradientImage weightedImage)
  let curvature := withRidge settings.ridge product optimality
  let ratio ← Run.ofExcept (quotient curvature oldCurvature)
  let direction ←
    Run.ofExcept (VectorArithmetic.combine 1 before.gradient ratio before.direction)
  Run.update ({ · with direction })
  let directionImage ←
    Run.ofExcept (VectorArithmetic.combine 1 gradientImage ratio before.directionImage)
  Run.update ({ · with directionImage })
  let weightedDirection ← problem.weigh directionImage
  let plainImage ← problem.applyAdjoint weightedDirection
  Run.update ({ · with normalImage := plainImage })
  let normalImage ← addRidge settings.ridge direction plainImage
  Run.update ({ · with normalImage })
  let norm ← residualNorm settings.ridge
  pure { curvature, optimality, residual := norm }

def complete (settings : Settings R) (observer : Run J R X Y Bool) (iterations : Nat)
    (progress : Progress R) : Run J R X Y Bool := do
  Run.update fun workspace =>
    { workspace with
      recorder :=
        ({ workspace.recorder with iterations } |>.recordResidual progress.residual
          |>.recordOptimality progress.optimality) }
  report settings.interval iterations progress
  observer

/-- One iteration. A step along the gradient or to the sphere is the last one and does not count
as completed. -/
def iterate (problem : Problem J R X Y) (settings : Settings R) (observer : Run J R X Y Bool)
    (threshold : R) (course : Course R) : Run J R X Y (Course R) := do
  let before ← Run.workspace
  let normalSquare ←
    Run.ofExcept (VectorArithmetic.dot before.normalImage before.normalImage)
  let flat ← directionIsFlat settings threshold normalSquare
  if flat then
    let optimality ← finishAlongGradient problem settings course.toProgress
    pure { course with optimality, flat := true }
  else
    let (step, clipped) ←
      Run.ofExcept
        (directionStep settings course.curvature normalSquare before.solution before.direction)
    let optimality ← moveAlong step before.direction before.normalImage
    if clipped then pure { course with optimality, clipped := true }
    else
      let progress ← renewDirection problem settings step course.curvature optimality
      let exited ← complete settings observer (course.iterations + 1) progress
      pure { course with toProgress := progress, iterations := course.iterations + 1, exited }

def Progress.isOptimal (threshold : R) (progress : Progress R) : Bool :=
  le progress.optimality threshold

/-- Whether no further iteration is due, whatever the budget. -/
def Course.isOver (threshold : R) (course : Course R) : Bool :=
  course.isOptimal threshold || course.flat || course.clipped || course.exited

def iterations (problem : Problem J R X Y) (settings : Settings R) (observer : Run J R X Y Bool)
    (threshold : R) : Nat → Course R → Run J R X Y (Course R)
  | 0, course => pure course
  | remaining + 1, course =>
      if course.isOver threshold then pure course
      else do
        let next ← iterate problem settings observer threshold course
        iterations problem settings observer threshold remaining next

end ConjugateResidual
