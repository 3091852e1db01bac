import ConjugateResidual.Tensor

/-!
Nested lists read as arrays. The shape is the one that all branches share, and the element type
is the one that the leaves add up to; branches of different lengths are no array.
-/

namespace ConjugateResidual

/-- What nested lists look like: the dimensions that all branches share, whether they share all
of them, and the leaves in order. -/
structure Nesting where
  shape : List Nat
  even : Bool
  leaves : List Value

namespace Nesting

def commonStart : List Nat → List Nat → List Nat
  | left :: leftRest, right :: rightRest =>
      if left = right then left :: commonStart leftRest rightRest else []
  | _, _ => []

def beside (left right : Nesting) : Nesting :=
  { shape := commonStart left.shape right.shape
    even := left.even && right.even && left.shape == right.shape
    leaves := left.leaves ++ right.leaves }

mutual

def ofValue : Value → Nesting
  | .list [] => { shape := [0], even := true, leaves := [] }
  | .list (first :: rest) =>
      let inner := ofBranches (ofValue first) rest
      { inner with shape := (rest.length + 1) :: inner.shape }
  | leaf => { shape := [], even := true, leaves := [leaf] }

def ofBranches (before : Nesting) : List Value → Nesting
  | [] => before
  | branch :: rest => ofBranches (before.beside (ofValue branch)) rest

end

end Nesting

namespace ElementType

def writtenWidth : ElementType → Nat
  | .boolean => 5
  | .unsigned _ => 20
  | .signed _ => 21
  | .complex _ => 64
  | _ => 32

/-- The type of a single leaf. An integer is signed if it can be, and an object if it is out of
range. -/
def ofLeaf (leaf : Value) : ElementType :=
  match leaf with
  | .truth _ | .typedTruth _ => .boolean
  | .integer value =>
      if Value.fitsSigned value then .signed .w64
      else if Value.fitsUnsigned value then .unsigned .w64
      else .object
  | .number _ => float64
  | .typedInteger elementType _ => elementType
  | .typedNumber precision _ => .real precision
  | .typedComplex precision _ => .complex precision
  | .text value => .text value.length
  | .absent | .list _ | .table _ => .object

def join : ElementType → ElementType → ElementType
  | .text left, .text right => .text (max left right)
  | .text width, other | other, .text width =>
      if other.isNumeric then .text (max width other.writtenWidth) else .object
  | left, right => left.promote right

/-- The leaves are taken in order, so that a text between a signed and an unsigned integer keeps
them from becoming floats. A text has at least one character. -/
def ofLeaves (leaves : List Value) : ElementType :=
  match leaves.map ofLeaf with
  | [] => float64
  | first :: rest =>
      match rest.foldl join first with
      | .text width => .text (max width 1)
      | other => other

end ElementType

def Tensor.ofNested (value : Value) : Except (List Nat) Tensor :=
  let nesting := Nesting.ofValue value
  let elementType := ElementType.ofLeaves nesting.leaves
  if nesting.even then
    .ok { elementType, shape := nesting.shape
          entries := nesting.leaves.map fun leaf => (Entry.given leaf).convert elementType }
  else .error nesting.shape

end ConjugateResidual
