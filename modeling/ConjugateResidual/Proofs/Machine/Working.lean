import ConjugateResidual.Proofs.Machine.Operands
import ConjugateResidual.Proofs.Machine.Stored

/-!
Operators that work: they answer every vector of their own field and length by a vector of that
field. All matrices do, dense and sparse ones, and so no application fails in a problem that is
posed with a matrix and a preconditioner that works.
-/

namespace ConjugateResidual

private theorem ElementType.isText_of_isSupported {field : ElementType}
    (supported : field.isSupported = true) : field.isText = false := by
  cases field with
  | text length => cases supported
  | _ => rfl

namespace Tensor

variable {field : ElementType} {length size : Nat}

/-- An application that answers the vectors of a field and length by vectors of another length. -/
def Serves (field : ElementType) (length size : Nat) (application : Tensor → Answer Tensor) :
    Prop :=
  ∀ vector : Tensor, vector.IsVector field length →
    ∃ product, (application vector).outcome = .ok product ∧ product.IsVector field size

/-- What serves the vectors of a field fills the buffers of a solve. -/
theorem Serves.stored {application : Tensor → Answer Tensor}
    (serves : Serves field length size application) {vector : Tensor}
    (isVector : vector.IsVector field length) :
    ∃ image, (application vector >>= fun product =>
      Reply.ofExcept (product.flatten.store field size)).outcome = .ok image := by
  rcases serves vector isVector with ⟨product, answered, product_vector⟩
  rw [Reply.outcome_bind_of_ok answered]
  exact ⟨_, product_vector.store_eq⟩

theorem isVector_vector {entries : List Entry} (sized : entries.length = size) :
    (vector field entries).IsVector field size := by
  constructor
  case elementType => rfl
  case shape => simp [vector, sized]
  case entries => exact sized

private theorem isVector_timesRows (supported : field.isSupported = true) {operand : Tensor}
    (isVector : operand.IsVector field length) {rows : List (List Entry)}
    (sized : rows.length = size) : (timesRows field rows operand).IsVector field size := by
  unfold timesRows
  rw [isVector.elementType, ElementType.promote_self supported]
  apply isVector_vector
  rw [List.length_map, sized]

private theorem length_columns {matrix : Tensor} {rowCount columnCount : Nat}
    (shape : matrix.shape = [rowCount, columnCount]) : matrix.columns.length = columnCount := by
  unfold columns
  rw [shape]
  simp

end Tensor

private theorem SparseMatrix.isVector_times {matrix : SparseMatrix} {length : Nat}
    (supported : matrix.elementType.isSupported = true) {operand : Tensor}
    (isVector : operand.IsVector matrix.elementType length) :
    (matrix.times operand).IsVector matrix.elementType matrix.rowCount := by
  unfold times
  rw [isVector.elementType, ElementType.promote_self supported]
  apply Tensor.isVector_vector
  rw [List.length_map, List.length_range]

namespace LinearOperator

structure Works (operator : LinearOperator) : Prop where
  forward : Tensor.Serves operator.elementType operator.columns operator.rows operator.forward
  adjoint : Tensor.Serves operator.elementType operator.rows operator.columns operator.adjoint

theorem serves_guarded {field : ElementType} {length size : Nat}
    {application : Tensor → Answer Tensor} (serves : Tensor.Serves field length size application) :
    Tensor.Serves field length size fun vector => guarded length vector application := by
  intro vector isVector
  have own : isVectorOf length vector = true := by simp [isVectorOf, isVector.shape]
  simp only [guarded, if_pos own]
  exact serves vector isVector

private theorem serves_product {matrix : Tensor} (supported : matrix.elementType.isSupported = true)
    (length : Nat) {size : Nat} {rows : List (List Entry)} (sized : rows.length = size) :
    Tensor.Serves matrix.elementType length size fun vector =>
      product matrix vector (Tensor.timesRows matrix.elementType rows) := by
  intro vector isVector
  have text := ElementType.isText_of_isSupported supported
  refine ⟨_, ?_, Tensor.isVector_timesRows supported isVector sized⟩
  simp [product, isVector.elementType, text, Reply.outcome_pure]

private theorem works_ofMatrix {matrix : Tensor} {rows columns : Nat}
    (shape : matrix.shape = [rows, columns]) (supported : matrix.elementType.isSupported = true) :
    (ofMatrix matrix rows columns).Works := by
  constructor
  case forward => exact serves_guarded (serves_product supported columns (Tensor.length_rows shape))
  case adjoint =>
    apply serves_guarded (serves_product supported rows _)
    exact (List.length_map _).trans (Tensor.length_columns shape)

private theorem works_ofSparse {matrix : SparseMatrix}
    (supported : matrix.elementType.isSupported = true) :
    (ofSparse matrix).Works := by
  constructor
  case forward =>
    apply serves_guarded
    intro vector isVector
    exact ⟨_, rfl, SparseMatrix.isVector_times supported isVector⟩
  case adjoint =>
    apply serves_guarded
    intro vector isVector
    exact ⟨_, rfl, matrix.transposed.isVector_times supported isVector⟩

end LinearOperator

def Source.IsMatrix : Source → Prop
  | .dense _ | .sparse _ => True
  | _ => False

private theorem Source.works_of_matrix {source : Source} (matrix : source.IsMatrix) {name : String}
    {operator : LinearOperator} (formed : (source.toOperator name).outcome = .ok operator)
    (supported : operator.elementType.isSupported = true) : operator.Works := by
  cases source with
  | dense own =>
      unfold toOperator withoutIntegers at formed
      dsimp only at formed
      split at formed
      · rename_i rows columns shape
        cases formed
        exact LinearOperator.works_ofMatrix shape supported
      · cases formed
  | sparse own =>
      cases formed
      exact LinearOperator.works_ofSparse supported
  | _ => cases matrix

structure Problem.Works (problem : MachineProblem) : Prop where
  forward : ∀ vector : Tensor, vector.IsVector problem.field problem.columns →
    ∃ image, (problem.forward vector).outcome = .ok image
  adjoint : ∀ vector : Tensor, vector.IsVector problem.field problem.rows →
    ∃ image, (problem.adjoint vector).outcome = .ok image
  weight : ∀ weight ∈ problem.weight?, ∀ vector : Tensor,
    vector.IsVector problem.field problem.rows →
      ∃ weighted, (weight.apply vector).outcome = .ok weighted

/-- A request with a matrix and without a preconditioner never fails in an application. -/
theorem Request.works_of_matrix {request : Request} {options : Options Float}
    {problem : MachineProblem} (ready : request.prepare.outcome = .ok (options, problem))
    (matrix : request.operatorSource.IsMatrix) (plain : problem.weight? = none) :
    problem.Works := by
  rcases request.of_prepare_eq_ok ready with ⟨design, built, rfl⟩
  rcases Design.equations_of_build built with ⟨equations, -, -⟩
  have field : design.operator.elementType = design.field := equations.field
  have supported : design.field.isSupported = true :=
    (Design.checkRightHandSide_eq_ok_iff.mp equations.checked).2.supported
  rw [← field] at supported
  have works := Source.works_of_matrix matrix equations.formed supported
  constructor
  case forward =>
    intro vector isVector
    have serves := works.forward
    rw [field] at serves
    exact serves.stored isVector
  case adjoint =>
    intro vector isVector
    have serves := works.adjoint
    rw [field] at serves
    exact serves.stored isVector
  case weight =>
    intro weight weighs
    rw [plain] at weighs
    cases weighs

end ConjugateResidual
