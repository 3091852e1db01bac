import ConjugateResidual.Check
import ConjugateResidual.Operator.Elimination
import ConjugateResidual.Operator.Linear

/-!
The forms in which an operator or a preconditioner may be given, and the linear operator that a
form stands for.
-/

namespace ConjugateResidual

/-- An object that may solve by a function of its own. What it declares, and the element type of a
factor that it may carry, need not fit the function. -/
structure SolverObject where
  solve? : Option (Tensor → Except (Fault Float) Tensor)
  shape? : Option (List Nat)
  elementType? : Option ElementType
  factorType? : Option ElementType := none

/-- A ready preconditioner. Without a function it is the identity. -/
structure Preconditioner where
  mode : Mode
  elementType? : Option ElementType
  function? : Option (Tensor → Answer Tensor)
  takesLists : Bool := true

inductive Source where
  | dense (matrix : Tensor)
  | sparse (matrix : SparseMatrix)
  | operatorFunctions (functions : OperatorFunctions)
  | plainFunctions (functions : OperatorFunctions)
  | operator (linear : LinearOperator)
  | preconditioner (ready : Preconditioner)
  | factored (factors : SparseSolver)
  | solver (object : SolverObject)
  | value (given : Value)

namespace Source

def kindName : Source → String
  | .dense _ | .sparse _ => "matrix"
  | .operatorFunctions _ => "_CustomLinearOperator"
  | .plainFunctions _ => "Duck"
  | .operator _ => "OperatorAdapter"
  | .preconditioner _ => "Preconditioner"
  | .factored _ => "factors"
  | .solver _ => "Solver"
  | .value given => given.kindName

def withoutIntegers : Source → Source
  | .dense matrix => .dense matrix.withoutIntegers
  | .sparse matrix => .sparse matrix.withoutIntegers
  | source => source

def shape? : Source → Option (List Nat)
  | .dense matrix => some matrix.shape
  | .sparse matrix => some [matrix.rowCount, matrix.columnCount]
  | .operatorFunctions functions | .plainFunctions functions => some functions.shape
  | .operator linear => some [linear.rows, linear.columns]
  | .factored factors => some [factors.size, factors.size]
  | .solver object => object.shape?
  | .preconditioner _ | .value _ => none

def elementType? : Source → Option ElementType
  | .dense matrix => some matrix.elementType
  | .sparse matrix => some matrix.elementType
  | .operatorFunctions functions | .plainFunctions functions => functions.elementType?
  | .operator linear => some linear.elementType
  | .solver object => object.elementType?
  | .preconditioner _ | .factored _ | .value _ => none

def isOperatorLike : Source → Bool
  | .operatorFunctions _ => true
  | .plainFunctions functions => functions.elementType?.isSome && functions.adjoint?.isSome
  | _ => false

/-- The sparse factors of a matrix, whichever way it is stored. Narrow integers are read as single
precision numbers. -/
def factor : Source → Except (Fault Float) SparseSolver
  | .dense matrix => SparseSolver.ofMatrix (SparseMatrix.ofDense matrix).withFractions
  | .sparse matrix => SparseSolver.ofMatrix matrix.withFractions
  | _ => .error .notNumeric

def toOperator (name : String) (source : Source) : Answer LinearOperator :=
  match source.withoutIntegers with
  | .operator linear => pure linear
  | .dense matrix =>
      match matrix.shape with
      | [rows, columns] => pure (.ofMatrix matrix rows columns)
      | shape => Reply.fail (.misuse (.notMatrix name shape))
  | .sparse matrix => pure (.ofSparse matrix)
  | .operatorFunctions functions | .plainFunctions functions => functions.toOperator
  | .preconditioner _ | .factored _ | .solver _ | .value _ =>
      Reply.fail (.misuse (.notOperator name))

end Source

def LinearOperator.applyForward (operator : LinearOperator) (target : ElementType) (length : Nat)
    (operand : Tensor) : Answer Tensor := do
  let product ← operator.forward operand
  Reply.ofExcept (product.flatten.store target length)

def LinearOperator.applyAdjoint (operator : LinearOperator) (target : ElementType) (length : Nat)
    (operand : Tensor) : Answer Tensor := do
  let product ← operator.adjoint operand
  Reply.ofExcept (product.flatten.store target length)

namespace SolverObject

def isDivisible : ElementType → Bool
  | .text _ | .moment _ => false
  | _ => true

/-- Solves with a diagonal matrix. -/
def divide (diagonal operand : Tensor) : Except (Fault Float) Tensor :=
  let common := operand.elementType.promote diagonal.elementType
  let field := if common.isIntegral then ElementType.float64 else common
  if !isDivisible operand.elementType || !isDivisible diagonal.elementType then
    .error .elementwiseRefused
  else if !field.isInexact then .error .notNumeric
  else
    match Tensor.commonShape? operand.shape diagonal.shape with
    | none => .error .shapeMismatch
    | some shape =>
        match operand.broadcast? shape, diagonal.broadcast? shape with
        | some values, some divisors =>
            let quotient (value divisor : Entry) : Entry :=
              (value.convert field).div field (divisor.convert field)
            .ok { elementType := field, shape, entries := List.zipWith quotient values divisors }
        | _, _ => .error .shapeMismatch

def noted (solve : Tensor → Except (Fault Float) Tensor) (operand : Tensor) : Answer Tensor := do
  Reply.note (.applied .solve operand)
  Reply.ofExcept (solve operand)

end SolverObject

end ConjugateResidual
