import ConjugateResidual.Operator.Sparse

/-!
Solving square systems by elimination with row exchanges. A factorization is a list of stages, one
for each unknown: which of the remaining rows was taken, its pivot and what follows it, and the
multiples of it that clear the other rows.
-/

namespace ConjugateResidual

structure Stage where
  place : Nat
  pivot : Entry
  tail : List Entry
  multipliers : List Entry

structure Factorization where
  field : ElementType
  stages : List Stage

namespace Factorization

def magnitude (entry : Entry) : Float :=
  entry.re.abs + entry.im.abs

def pivotPlace (column : List Entry) : Nat :=
  let step (best : Nat × Float) (candidate : Entry × Nat) : Nat × Float :=
    if best.2 < magnitude candidate.1 then (candidate.2, magnitude candidate.1) else best
  match column with
  | [] => 0
  | first :: rest => ((rest.zipIdx 1).foldl step (0, magnitude first)).1

def exchange {A : Type} (place : Nat) (items : List A) : Option (A × List A) :=
  match items, place with
  | [], _ => none
  | first :: rest, 0 => some (first, rest)
  | first :: rest, other + 1 =>
      match rest[other]? with
      | none => none
      | some chosen => some (chosen, rest.set other first)

/-- The target minus a multiple. Where one factor is zero there may be nothing to subtract. -/
def subtractMultiple (field : ElementType) (skipZeros : Bool) (target factor value : Entry) :
    Entry :=
  if skipZeros && (factor.isZero || value.isZero) then target
  else target.sub field (Entry.mul field factor value)

def stagesOf (field : ElementType) (skipZeros : Bool) : Nat → List (List Entry) → List Stage
  | 0, _ => []
  | remaining + 1, rows =>
      let place := pivotPlace (rows.map fun row => row.headD .zero)
      match exchange place rows with
      | none => []
      | some (pivotRow, others) =>
          let pivot := pivotRow.headD .zero
          let tail := pivotRow.tail
          let multiplierOf (row : List Entry) : Entry :=
            if pivot.isZero then .zero else (row.headD .zero).div field pivot
          let multipliers := others.map multiplierOf
          let reduce (row : List Entry) : List Entry :=
            List.zipWith
              (fun target value => subtractMultiple field skipZeros target (multiplierOf row) value)
              row.tail tail
          { place, pivot, tail, multipliers } ::
            stagesOf field skipZeros remaining (others.map reduce)

def ofRows (field : ElementType) (skipZeros : Bool) (rows : List (List Entry)) : Factorization :=
  { field
    stages :=
      stagesOf field skipZeros rows.length (rows.map fun row => row.map (Entry.convert field)) }

def solveStages (field : ElementType) (skipZeros : Bool) :
    List Stage → List Entry → List Entry
  | [], _ => []
  | stage :: later, values =>
      match exchange stage.place values with
      | none => []
      | some (own, others) =>
          let reduced :=
            List.zipWith
              (fun target factor => subtractMultiple field skipZeros target factor own)
              others stage.multipliers
          let solved := solveStages field skipZeros later reduced
          let rest :=
            (List.zip stage.tail solved).foldr
              (fun (factor, value) total =>
                subtractMultiple field skipZeros total factor value)
              own
          rest.div field stage.pivot :: solved

def solve (factorization : Factorization) (skipZeros : Bool) (values : List Entry) : List Entry :=
  solveStages factorization.field skipZeros factorization.stages
    (values.map (Entry.convert factorization.field))

def solveColumns (factorization : Factorization) (skipZeros : Bool) (size : Nat)
    (operand : Tensor) : Except (Fault Float) Tensor :=
  let solved := operand.asColumns.map (factorization.solve skipZeros)
  let entries := (List.range size).flatMap fun row =>
    solved.map fun column => column.getD row .zero
  if operand.shape.head? = some size ∧ operand.shape.length ≤ 2 then
    .ok { elementType := factorization.field, shape := operand.shape, entries }
  else .error .shapeMismatch

/-- A right-hand side of more than two dimensions is a row of matrices, solved one by one. -/
def solveParts (factorization : Factorization) (skipZeros : Bool) (size : Nat)
    (operand : Tensor) : Except (Fault Float) Tensor := do
  let depth := operand.shape.length - 2
  let inner := operand.shape.drop depth
  let parts := Tensor.chunks (Tensor.volume inner) (Tensor.volume (operand.shape.take depth))
    operand.entries
  let solved ← parts.mapM fun entries =>
    factorization.solveColumns skipZeros size { operand with shape := inner, entries }
  .ok { operand with
        elementType := factorization.field
        entries := solved.flatMap Tensor.entries }

def isSingular (factorization : Factorization) : Bool :=
  factorization.stages.any fun stage => stage.pivot.isZero || stage.pivot.isNan

end Factorization

/-- A dense square matrix, ready to be solved with in any routine field. A singular one is
accepted. -/
structure DenseSolver where
  matrix : Tensor

namespace DenseSolver

def ofMatrix (matrix : Tensor) : Except (Fault Float) DenseSolver :=
  if matrix.entries.all Entry.isFinite then .ok { matrix }
  else .error .nonFiniteSystem

/-- The factors are formed in the routine field of the matrix; a solve runs in the common routine
field of the factors and the vector. A single entry has no length, and nothing has no shape. -/
def solve (solver : DenseSolver) (operand : Tensor) : Except (Fault Float) Tensor :=
  let own := ElementType.routineField [solver.matrix.elementType]
  let field := ElementType.routineField [own, operand.elementType]
  if operand.elementType.isInexact && !operand.entries.all Entry.isFinite then
    .error .nonFiniteSystem
  else if operand.shape.isEmpty then
    match operand.entries with
    | [.given .absent] => .error .lacksMember
    | _ => .error .indexOutOfRange
  else do
    let numbers ← operand.readAs field
    let factors := Factorization.ofRows own false solver.matrix.rows
    { factors with field }.solveParts false solver.matrix.rows.length numbers

end DenseSolver

structure SparseSolver where
  elementType : ElementType
  size : Nat
  factorization : Factorization

namespace SparseSolver

/-- A singular matrix has no factors, and extended precision has none either. -/
def ofMatrix (matrix : SparseMatrix) : Except (Fault Float) SparseSolver :=
  let own := matrix.withoutIntegers
  if own.elementType.precision? = some .extended then .error .castRefused
  else if own.rowCount ≠ own.columnCount then .error .shapeMismatch
  else
    let factorization := Factorization.ofRows own.elementType true own.denseRows
    if factorization.isSingular then .error .singularFactor
    else .ok { elementType := own.elementType, size := own.rowCount, factorization }

/-- The vector is cast to the field of the factors, where that loses nothing. -/
def solve (solver : SparseSolver) (operand : Tensor) : Except (Fault Float) Tensor :=
  if !operand.elementType.canCastSafely solver.elementType then .error .castRefused
  else solver.factorization.solveColumns true solver.size operand

end SparseSolver

end ConjugateResidual
