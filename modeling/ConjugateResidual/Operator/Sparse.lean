import ConjugateResidual.Tensor.Routines

/-!
Sparse matrices as lists of stored entries. Only stored entries take part in a product, so a zero
that is not stored meets no infinity.
-/

namespace ConjugateResidual

structure Triplet where
  row : Nat
  column : Nat
  entry : Entry

structure SparseMatrix where
  elementType : ElementType
  rowCount : Nat
  columnCount : Nat
  triplets : List Triplet

namespace SparseMatrix

/-- A triplet added to those before it; two at the same place add up. -/
def insert (elementType : ElementType) (triplet : Triplet) : List Triplet → List Triplet
  | [] => [triplet]
  | first :: rest =>
      if first.row = triplet.row ∧ first.column = triplet.column then
        { first with entry := first.entry.add elementType triplet.entry } :: rest
      else first :: insert elementType triplet rest

def isStorable (elementType : ElementType) : Bool :=
  elementType.isNumeric && elementType ≠ .float16

/-- A matrix from its triplets, all of which must lie inside. Sums of integers wrap around, unless
the matrix keeps its triplets apart and adds them up in a product only. -/
def ofTriplets (elementType : ElementType) (rowCount columnCount : Nat) (keptApart : Bool)
    (triplets : List Triplet) : Except (Fault Float) SparseMatrix :=
  let merged := triplets.foldl (fun merged triplet => insert elementType triplet merged) []
  let wrapped (triplet : Triplet) : Triplet :=
    { triplet with entry := triplet.entry.convert elementType }
  if triplets.all fun triplet => triplet.row < rowCount && triplet.column < columnCount then
    .ok
      { elementType, rowCount, columnCount
        triplets := if keptApart then merged else merged.map wrapped }
  else .error .shapeMismatch

def ofLists (elementType : ElementType) (sizes : List Int) (keptApart : Bool)
    (rows columns : List Int) (entries : List Entry) : Except (Fault Float) SparseMatrix :=
  let places := List.zip rows columns
  let triplets := List.zipWith
    (fun (place : Int × Int) (entry : Entry) =>
      { row := place.1.toNat, column := place.2.toNat, entry := entry.convert elementType })
    places entries
  if !isStorable elementType then .error .notStorable
  else if places.any fun (row, column) => row < 0 || column < 0 then .error .shapeMismatch
  else
    match sizes with
    | [.ofNat rowCount, .ofNat columnCount] =>
        ofTriplets elementType rowCount columnCount keptApart triplets
    | _ => .error .shapeMismatch

def ofDense (matrix : Tensor) : SparseMatrix :=
  let numberedRows := matrix.rows.zipIdx
  let triplets := numberedRows.flatMap fun (entries, row) =>
    entries.zipIdx.filterMap fun (entry, column) =>
      if entry.isZero then none else some { row, column, entry }
  match matrix.shape with
  | [rowCount, columnCount] =>
      { elementType := matrix.elementType, rowCount, columnCount, triplets }
  | _ => { elementType := matrix.elementType, rowCount := 0, columnCount := 0, triplets := [] }

def withIntegersAs (field : ElementType) (matrix : SparseMatrix) : SparseMatrix :=
  if matrix.elementType.isIntegral then
    { matrix with
      elementType := field
      triplets := matrix.triplets.map fun triplet =>
        { triplet with entry := triplet.entry.convert field } }
  else matrix

def withoutIntegers (matrix : SparseMatrix) : SparseMatrix :=
  matrix.withIntegersAs .float64

def withFractions (matrix : SparseMatrix) : SparseMatrix :=
  matrix.withIntegersAs matrix.elementType.fractionField

def row (matrix : SparseMatrix) (index : Nat) : List (Nat × Entry) :=
  ((matrix.triplets.filter fun triplet => triplet.row == index).map fun triplet =>
    (triplet.column, triplet.entry)).mergeSort fun left right => left.1 ≤ right.1

def transposed (matrix : SparseMatrix) : SparseMatrix :=
  { matrix with
    rowCount := matrix.columnCount
    columnCount := matrix.rowCount
    triplets := matrix.triplets.map fun triplet =>
      { row := triplet.column, column := triplet.row, entry := triplet.entry.conjugate } }

def times (matrix : SparseMatrix) (operand : Tensor) : Tensor :=
  let field := matrix.elementType.promote operand.elementType
  let values := operand.entries.map (Entry.convert field)
  let rowValue (index : Nat) : Entry :=
    let stored := matrix.row index
    Entry.dot field (stored.map fun (_, entry) => entry.convert field)
      (stored.map fun (column, _) => values.getD column .zero)
  .vector field ((List.range matrix.rowCount).map rowValue)

def adjointTimes (matrix : SparseMatrix) (operand : Tensor) : Tensor :=
  matrix.transposed.times operand

def denseRows (matrix : SparseMatrix) : List (List Entry) :=
  (List.range matrix.rowCount).map fun index =>
    let stored := matrix.row index
    (List.range matrix.columnCount).map fun column => (stored.lookup column).getD .zero

end SparseMatrix

end ConjugateResidual
