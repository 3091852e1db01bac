import ConjugateResidual.Workspace

/-!
Right-hand sides where they lie. An array has memory of its own, or it is a view that shows a part
of a vector of a workspace; the entries of a view are those that the vector has when they are read.
-/

namespace ConjugateResidual

/-- The vectors of a workspace with an entry for each column. -/
inductive ColumnVector where
  | solution | gradient | direction | normalImage
  deriving DecidableEq, Repr

/-- The vectors of a workspace with an entry for each row. -/
inductive RowVector where
  | residual | directionImage | gradientImage | weighted
  deriving DecidableEq, Repr

/-- An array that can stand as a right-hand side. -/
inductive View (X Y : Type) where
  | own (entries : Y)
  | ofColumns (vector : ColumnVector) (part : X → Y)
  | ofRows (vector : RowVector) (part : Y → Y)

namespace Workspace

variable {R X Y : Type} (workspace : Workspace R X Y)

def column : ColumnVector → X
  | .solution => workspace.solution
  | .gradient => workspace.gradient
  | .direction => workspace.direction
  | .normalImage => workspace.normalImage

/-- The preconditioned copy is clear as long as nothing has been preconditioned. -/
def row [VectorArithmetic R Y] : RowVector → Y
  | .residual => workspace.residual
  | .directionImage => workspace.directionImage
  | .gradientImage => workspace.gradientImage
  | .weighted => workspace.weighted?.getD (VectorArithmetic.cleared workspace.residual)

end Workspace

/-- The entries that an array has while the workspace is as given. -/
def View.read {R X Y : Type} [VectorArithmetic R Y] (view : View X Y)
    (workspace : Workspace R X Y) : Y :=
  match view with
  | .own entries => entries
  | .ofColumns vector part => part (workspace.column vector)
  | .ofRows vector part => part (workspace.row vector)

end ConjugateResidual
