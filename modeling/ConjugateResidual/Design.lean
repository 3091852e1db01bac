import ConjugateResidual.Keywords
import ConjugateResidual.Preconditioner
import ConjugateResidual.Solve

/-!
A least-squares problem as it is given, checked as a whole: the right-hand side first, then the
operator, then the preconditioner, all in one field. A checked design trusts its sizes.
-/

namespace ConjugateResidual

structure Design where
  operator : LinearOperator
  rightHandSide : Tensor
  preconditioner : Preconditioner

namespace Design

def rows (design : Design) : Nat := design.operator.rows

def columns (design : Design) : Nat := design.operator.columns

def field (design : Design) : ElementType := design.rightHandSide.elementType

def checkRightHandSide (data : Data) : Except (Fault Float) Tensor := do
  let tensor ← Check.array "b" data
  Check.oneDimensional "b" tensor
  Check.supportedField "b" tensor.elementType
  Check.finite "b" tensor
  .ok tensor

def build (operatorSource : Source) (data : Data) (weightSource : Source) (modeValue : Value) :
    Answer Design := do
  let rightHandSide ← Reply.ofExcept (checkRightHandSide data)
  let operator ← operatorSource.toOperator "A"
  Reply.ofExcept (Check.length "b" rightHandSide operator.rows "rows of A")
  Reply.ofExcept (Check.sameField "A" operator.elementType rightHandSide.elementType)
  let preconditioner ← Preconditioner.build "M" weightSource modeValue operator.rows
  match preconditioner.elementType? with
  | some elementType =>
      Reply.ofExcept (Check.sameField "M" elementType rightHandSide.elementType)
  | none => pure ()
  pure { operator, rightHandSide, preconditioner }

/-- The problem that a design poses: products are stored in vectors of its field and sizes. -/
def toProblem (design : Design) : MachineProblem :=
  { rows := design.rows
    columns := design.columns
    field := design.field
    tolerance :=
      match design.field.tolerance? with
      | .ok tolerance => tolerance
      | .error _ => 0.0
    zeroColumns := .zeros design.field design.columns
    zeroRows := .zeros design.field design.rows
    rightHandSide := design.rightHandSide
    forward := design.operator.applyForward design.field design.rows
    adjoint := design.operator.applyAdjoint design.field design.columns
    weight? :=
      if design.preconditioner.isIdentity then none
      else
        some
          { mode := design.preconditioner.mode
            apply := design.preconditioner.apply design.field design.rows } }

end Design

structure Request where
  operatorSource : Source
  data : Data
  weightSource : Source := .value .absent
  keywords : Keywords := {}

def Request.prepare (request : Request) : Answer (Options Float × MachineProblem) := do
  let options ← Reply.ofExcept (Options.ofKeywords request.keywords)
  let design ←
    Design.build request.operatorSource request.data request.weightSource
      (.text options.mode.name)
  pure (options, design.toProblem)

def MachineWorkspace.allocate (rows columns : Int) (field : ElementType) :
    Except (Fault Float) MachineWorkspace := do
  Check.supportedField "dtype" field
  if rows < 0 ∨ columns < 0 then Check.refuse (.negativeSize rows columns)
  else
    let rowCount := rows.toNat
    let columnCount := columns.toNat
    .ok (.fresh rowCount columnCount field (.zeros field columnCount) (.zeros field rowCount))

/-- A workspace for an operator and a right-hand side, which need not fit each other yet. A
right-hand side without a supported field gets a `float64` workspace. -/
def MachineWorkspace.forProblem (operatorSource : Source) (data : Data) :
    Answer MachineWorkspace := do
  let tensor ← Reply.ofExcept (Check.array "b" data)
  let operator ← operatorSource.toOperator "A"
  let field := if tensor.elementType.isSupported then tensor.elementType else .float64
  Reply.ofExcept (allocate operator.rows operator.columns field)

end ConjugateResidual
