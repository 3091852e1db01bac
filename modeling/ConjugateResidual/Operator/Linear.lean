import ConjugateResidual.Event
import ConjugateResidual.Operator.Sparse

/-!
Linear operators with a declared shape and element type. An application takes a vector of the
operator's own length, as a row or as a single column, and refuses all others.
-/

namespace ConjugateResidual

structure LinearOperator where
  rows : Nat
  columns : Nat
  elementType : ElementType
  forward : Tensor → Answer Tensor
  adjoint : Tensor → Answer Tensor

/-- An operator given by functions of its own. Each application is noted; whether the functions
fit the declared shape and element type shows when they are applied. -/
structure OperatorFunctions where
  shape : List Nat
  elementType? : Option ElementType
  forward : Tensor → Except (Fault Float) Tensor
  adjoint? : Option (Tensor → Except (Fault Float) Tensor)

/-- Functions over a matrix. The declared shape and element type need not be those of the matrix. -/
structure MatrixFunctions where
  matrix : Tensor
  shape : List Nat
  elementType? : Option ElementType
  hasAdjoint : Bool
  outputType? : Option ElementType

namespace LinearOperator

def isVectorOf (length : Nat) (operand : Tensor) : Bool :=
  operand.shape == [length] || operand.shape == [length, 1]

def guarded (length : Nat) (operand : Tensor) (apply : Tensor → Answer Tensor) :
    Answer Tensor :=
  if isVectorOf length operand then apply operand else Reply.fail .shapeMismatch

def product (matrix operand : Tensor) (multiply : Tensor → Tensor) : Answer Tensor :=
  if matrix.elementType.isText || operand.elementType.isText then Reply.fail .unreadableNumber
  else pure (multiply operand)

def ofMatrix (matrix : Tensor) (rows columns : Nat) : LinearOperator :=
  { rows, columns
    elementType := matrix.elementType
    forward := fun operand =>
      guarded columns operand fun own => product matrix own matrix.times
    adjoint := fun operand =>
      guarded rows operand fun own => product matrix own matrix.adjointTimes }

def ofSparse (matrix : SparseMatrix) : LinearOperator :=
  { rows := matrix.rowCount
    columns := matrix.columnCount
    elementType := matrix.elementType
    forward := fun operand =>
      guarded matrix.columnCount operand fun own => pure (matrix.times own)
    adjoint := fun operand =>
      guarded matrix.rowCount operand fun own => pure (matrix.adjointTimes own) }

end LinearOperator

namespace MatrixFunctions

def accepts (functions : MatrixFunctions) (operand : Tensor) : Bool :=
  functions.matrix.elementType.hasProducts && operand.elementType.hasProducts

def outerLength (matrix : Tensor) : Nat := matrix.shape.headD 0

def innerLength (matrix : Tensor) : Nat := matrix.shape.getLastD 0

def forward (functions : MatrixFunctions) (operand : Tensor) : Except (Fault Float) Tensor :=
  if !functions.accepts operand then .error .elementwiseRefused
  else if innerLength functions.matrix ≠ operand.size then .error .shapeMismatch
  else
    let product := functions.matrix.times operand
    match functions.outputType? with
    | some target => .ok (product.convert target)
    | none => .ok product

def adjoint (functions : MatrixFunctions) (operand : Tensor) : Except (Fault Float) Tensor :=
  if !functions.accepts operand then .error .elementwiseRefused
  else if outerLength functions.matrix ≠ operand.size then .error .shapeMismatch
  else .ok (functions.matrix.adjointTimes operand)

def toFunctions (functions : MatrixFunctions) : OperatorFunctions :=
  { shape := functions.shape
    elementType? := functions.elementType?
    forward := functions.forward
    adjoint? := if functions.hasAdjoint then some functions.adjoint else none }

end MatrixFunctions

namespace OperatorFunctions

def sized (length : Nat) (product : Tensor) : Answer Tensor :=
  if product.size = length then pure product else Reply.fail .shapeMismatch

/-- An application by an operator's own function. The product may have any shape of the right
size. -/
def noted (action : Action) (length : Nat) (function : Tensor → Except (Fault Float) Tensor)
    (operand : Tensor) : Answer Tensor := do
  Reply.note (.applied action operand)
  let product ← Reply.ofExcept (function operand)
  sized length product

def checkedForward (functions : OperatorFunctions) (rows columns : Nat) (operand : Tensor) :
    Answer Tensor :=
  LinearOperator.guarded columns operand (noted .forward rows functions.forward)

def checkedAdjoint (functions : OperatorFunctions) (rows columns : Nat) (operand : Tensor) :
    Answer Tensor :=
  LinearOperator.guarded rows operand fun own =>
    match functions.adjoint? with
    | some adjoint => noted .adjoint columns adjoint own
    | none => Reply.fail .adjointUndefined

/-- The operator with its element type, which may take one application to find out. A shape has
two entries. -/
def toOperator (functions : OperatorFunctions) : Answer LinearOperator :=
  match functions.shape with
  | [rows, columns] => do
      let elementType ←
        match functions.elementType? with
        | some declared => pure declared
        | none => do
            let probe := Tensor.zeros (.signed .w8) columns
            let product ← functions.checkedForward rows columns probe
            pure product.elementType
      pure
        { rows, columns, elementType
          forward := functions.checkedForward rows columns
          adjoint := functions.checkedAdjoint rows columns }
  | _ => Reply.fail .shapeMismatch

end OperatorFunctions

end ConjugateResidual
