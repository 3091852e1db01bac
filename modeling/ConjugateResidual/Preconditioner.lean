import ConjugateResidual.Operator.Source

/-!
Preconditioners on the residual space. One that multiplies is any linear operator; one that
solves is an object with a solve of its own or a matrix, which is factored once.
-/

namespace ConjugateResidual

namespace Preconditioner

def identity : Preconditioner :=
  { mode := .multiply, elementType? := none, function? := none }

def isIdentity (preconditioner : Preconditioner) : Bool :=
  preconditioner.function?.isNone

def probe (size : Nat) (solve : Tensor → Answer Tensor) : Answer ElementType := do
  let solution ← solve (.zeros .float64 size)
  pure solution.elementType

def multiplying (name : String) (source : Source) : Answer Preconditioner := do
  let operator ← source.toOperator name
  pure
    { mode := .multiply
      elementType? := some operator.elementType
      function? := some operator.forward }

def solving (name : String) (size : Nat) (source : Source) : Answer Preconditioner :=
  let solver (elementType? : Option ElementType) (apply : Tensor → Answer Tensor) :
      Preconditioner :=
    { mode := .solve, elementType?, function? := some apply }
  match source with
  | .factored factors =>
      pure
        { solver (some factors.elementType) (Reply.ofExcept ∘ factors.solve) with
          takesLists := false }
  | .solver { solve? := some solve, elementType?, factorType?, .. } => do
      let elementType ←
        match elementType?.or factorType? with
        | some declared => pure declared
        | none => probe size (SolverObject.noted solve)
      pure (solver (some elementType) (SolverObject.noted solve))
  | .sparse matrix => do
      let factors ← Reply.ofExcept (SparseSolver.ofMatrix matrix)
      pure
        { solver (some matrix.elementType) (Reply.ofExcept ∘ factors.solve) with
          takesLists := false }
  | .dense matrix =>
      if matrix.shape.length ≠ 2 then
        Reply.fail (.misuse (.notMatrixToSolve name matrix.shape))
      else do
        let factors ← Reply.ofExcept (DenseSolver.ofMatrix matrix)
        pure (solver (some matrix.elementType) (Reply.ofExcept ∘ factors.solve))
  | other => Reply.fail (.misuse (.notSolvable name other.kindName))

/-- A preconditioner from what a caller gives. Nothing stands for the identity, and a ready one is
taken as it is; any other form has to declare the right shape, if it declares one. -/
def build (name : String) (source : Source) (modeValue : Value) (size : Int) :
    Answer Preconditioner := do
  let mode ← Reply.ofExcept (Check.mode modeValue)
  match source.withoutIntegers with
  | .value .absent => pure identity
  | .preconditioner ready => pure ready
  | own =>
      match own.shape? with
      | some shape =>
          if shape.map Int.ofNat ≠ [size, size] then
            Reply.fail (.misuse (.notSquare name size (shape.map Int.ofNat)))
          else construct mode own
      | none => construct mode own
where
  construct (mode : Mode) (own : Source) : Answer Preconditioner :=
    match mode with
    | .multiply => multiplying name own
    | .solve => solving name size.toNat own

def apply (preconditioner : Preconditioner) (target : ElementType) (length : Nat)
    (operand : Tensor) : Answer Tensor :=
  match preconditioner.function? with
  | none => Reply.ofExcept (operand.store target length)
  | some function => do
      let product ← function operand
      Reply.ofExcept (product.flatten.store target length)

def applyTo (preconditioner : Preconditioner) (target : ElementType) (length : Nat)
    (data : Data) : Answer Tensor :=
  match preconditioner.takesLists, data with
  | false, .nested _ => Reply.fail .notNumeric
  | _, _ => do
      let operand ← Reply.ofExcept data.toTensor
      preconditioner.apply target length operand

end Preconditioner

end ConjugateResidual
