import ConjugateResidual.Entry

/-!
Arrays of entries of one element type. `broadcast?` spreads the entries over a wider shape, and
`store` is the copy into a buffer of given type and length: it keeps the kind of number and repeats
a single entry.
-/

namespace ConjugateResidual

/-- Entries in row-major order. -/
structure Tensor where
  elementType : ElementType
  shape : List Nat
  entries : List Entry

namespace Tensor

def size (tensor : Tensor) : Nat := tensor.entries.length

def vector (elementType : ElementType) (entries : List Entry) : Tensor :=
  { elementType, entries, shape := [entries.length] }

def zeros (elementType : ElementType) (length : Nat) : Tensor :=
  vector elementType (List.replicate length (Entry.zero.convert elementType))

def flatten (tensor : Tensor) : Tensor :=
  vector tensor.elementType tensor.entries

def convert (target : ElementType) (tensor : Tensor) : Tensor :=
  { tensor with
    elementType := target
    entries := tensor.entries.map (Entry.convert target) }

def mapEntries (change : Entry → Entry) (tensor : Tensor) : Tensor :=
  { tensor with entries := tensor.entries.map change }

def cleared (tensor : Tensor) : Tensor :=
  tensor.mapEntries fun _ => Entry.zero.convert tensor.elementType

def withoutIntegers (tensor : Tensor) : Tensor :=
  if tensor.elementType.isIntegral then tensor.convert .float64 else tensor

def chunks (width : Nat) : Nat → List Entry → List (List Entry)
  | 0, _ => []
  | count + 1, entries => entries.take width :: chunks width count (entries.drop width)

def volume (shape : List Nat) : Nat := shape.foldr (· * ·) 1

def padded (rank : Nat) (shape : List Nat) : List Nat :=
  List.replicate (rank - shape.length) 1 ++ shape

/-- Entries of a shape spread over a wider one of as many dimensions: along a dimension of length
one they are repeated. -/
def widen : List Nat → List Nat → List Entry → List Entry
  | own :: ownInner, wide :: wideInner, entries =>
      let parts := (chunks (volume ownInner) own entries).map (widen ownInner wideInner)
      if own = wide then parts.flatten else (List.replicate wide parts.flatten).flatten
  | _, _, entries => entries

def broadcast? (shape : List Nat) (tensor : Tensor) : Option (List Entry) :=
  let own := padded shape.length tensor.shape
  let fits := own.length = shape.length ∧
    (List.zipWith (fun length wide => length == 1 || length == wide) own shape).all id
  if fits then some (widen own shape tensor.entries) else none

def commonShape? (left right : List Nat) : Option (List Nat) :=
  let rank := max left.length right.length
  let common (first second : Nat) : Option Nat :=
    if first = second ∨ second = 1 then some first
    else if first = 1 then some second
    else none
  (List.zipWith common (padded rank left) (padded rank right)).mapM id

def interleave (length : Nat) (strands : List (List Entry)) : List Entry :=
  (List.range length).flatMap fun index => strands.map fun strand => strand.getD index .zero

/-- Row-major entries of a shape with the first index running fastest. -/
def toColumnMajor : List Nat → List Entry → List Entry
  | [], entries | [_], entries => entries
  | length :: inner, entries =>
      interleave (volume inner) ((chunks (volume inner) length entries).map (toColumnMajor inner))

def ofColumnMajor : List Nat → List Entry → List Entry
  | [], entries | [_], entries => entries
  | length :: inner, entries =>
      let strands := chunks length (volume inner) entries
      (List.range length).flatMap fun index =>
        ofColumnMajor inner (strands.map fun strand => strand.getD index .zero)

/-- The entries of a one-dimensional buffer that a source fills: leading dimensions of length one
do not count, and a single entry is repeated. -/
def spread? (length : Nat) (source : Tensor) : Option (List Entry) :=
  match source.shape.dropWhile (· == 1) with
  | [] =>
      match source.entries with
      | [entry] => some (List.replicate length entry)
      | _ => none
  | [own] => if own = length then some source.entries else none
  | _ => none

/-- A source as the contents of a buffer. The cast is checked before the length. -/
def store (target : ElementType) (length : Nat) (source : Tensor) :
    Except (Fault Float) Tensor :=
  if !source.elementType.canCastWithinKind target then .error .castRefused
  else
    match source.spread? length with
    | some entries => .ok (vector target (entries.map (Entry.convert target)))
    | none => .error .shapeMismatch

def rows (matrix : Tensor) : List (List Entry) :=
  match matrix.shape with
  | [rowCount, columnCount] => chunks columnCount rowCount matrix.entries
  | _ => []

def columns (matrix : Tensor) : List (List Entry) :=
  match matrix.shape with
  | [_, columnCount] =>
      (List.range columnCount).map fun column =>
        matrix.rows.map fun row => row.getD column .zero
  | _ => []

def asColumns (tensor : Tensor) : List (List Entry) :=
  match tensor.shape with
  | [_, _] => tensor.columns
  | _ => [tensor.entries]

def timesRows (elementType : ElementType) (matrixRows : List (List Entry)) (operand : Tensor) :
    Tensor :=
  let field := elementType.promote operand.elementType
  let inner := field.accumulator
  let values := matrixRows.map fun row =>
    (Entry.dot inner (row.map (Entry.convert field))
      (operand.entries.map (Entry.convert field))).convert field
  vector field values

def times (matrix operand : Tensor) : Tensor :=
  timesRows matrix.elementType matrix.rows operand

def adjointTimes (matrix operand : Tensor) : Tensor :=
  timesRows matrix.elementType (matrix.columns.map (List.map Entry.conjugate)) operand

theorem length_spread? {length : Nat} {source : Tensor} {entries : List Entry}
    (filled : source.spread? length = some entries)
    (shaped : source.size = volume source.shape) : entries.length = length := by
  have dropOnes : ∀ dimensions : List Nat,
      volume (dimensions.dropWhile (· == 1)) = volume dimensions := by
    intro dimensions
    induction dimensions with
    | nil => rfl
    | cons first rest ih =>
        by_cases one : first = 1
        · simpa [one, volume] using ih
        · simp [one]
  unfold spread? at filled
  split at filled
  · split at filled
    · simp only [Option.some.injEq] at filled
      simp [← filled]
    · simp at filled
  · rename_i own remaining
    split at filled
    · rename_i sameLength
      simp only [Option.some.injEq] at filled
      have product := dropOnes source.shape
      simp only [remaining, volume, List.foldr_cons, List.foldr_nil, Nat.mul_one] at product
      rw [← filled, ← sameLength, product]
      exact shaped
    · simp at filled
  · simp at filled

theorem size_store {target : ElementType} {length : Nat} {source stored : Tensor}
    (written : source.store target length = .ok stored)
    (shaped : source.size = volume source.shape) : stored.size = length := by
  unfold store at written
  split at written
  · simp at written
  · split at written
    · rename_i entries filled
      simp only [Except.ok.injEq] at written
      rw [← written]
      simpa [vector, size] using length_spread? filled shaped
    · simp at written

end Tensor

end ConjugateResidual
