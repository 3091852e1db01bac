import ConjugateResidual.Proofs.Machine.Building

/-!
The operands that operators and solvers answer. An operator goes by its declared shape, and a
factored matrix solves for vectors of as many entries as it has rows; neither answers a vector of
another length.
-/

namespace ConjugateResidual

namespace Tensor

private theorem length_chunks (width count : Nat) (entries : List Entry) :
    (chunks width count entries).length = count := by
  induction count generalizing entries with
  | zero => rfl
  | succ count ih => rw [chunks, List.length_cons, ih]

variable {matrix : Tensor} {rowCount columnCount : Nat}

theorem length_rows (shape : matrix.shape = [rowCount, columnCount]) :
    matrix.rows.length = rowCount := by
  unfold rows
  rw [shape]
  exact length_chunks columnCount rowCount matrix.entries

private theorem size_times (shape : matrix.shape = [rowCount, columnCount]) (operand : Tensor) :
    (matrix.times operand).size = rowCount := by
  unfold times timesRows
  exact (List.length_map _).trans (length_rows shape)

private theorem size_adjointTimes (shape : matrix.shape = [rowCount, columnCount])
    (operand : Tensor) :
    (matrix.adjointTimes operand).size = columnCount := by
  unfold adjointTimes timesRows columns
  rw [shape]
  simp [size, vector]

end Tensor

namespace LinearOperator

/-- An application that answers vectors of one length only, and with as many entries as its answers
are to have. -/
def Answers (length size : Nat) (application : Tensor → Answer Tensor) : Prop :=
  ∀ operand answer, (application operand).outcome = .ok answer →
    isVectorOf length operand = true ∧ answer.size = size

structure IsSized (operator : LinearOperator) : Prop where
  forward : Answers operator.columns operator.rows operator.forward
  adjoint : Answers operator.rows operator.columns operator.adjoint

theorem answers_guarded {length size : Nat} {application : Tensor → Answer Tensor}
    (sized : ∀ operand answer, (application operand).outcome = .ok answer → answer.size = size) :
    Answers length size fun operand => guarded length operand application := by
  intro operand answer applied
  change (if isVectorOf length operand then application operand
    else Reply.fail .shapeMismatch : Answer Tensor).outcome = .ok answer at applied
  split at applied
  · exact ⟨‹_›, sized operand answer applied⟩
  · cases applied

private theorem of_product_eq_ok {matrix operand answer : Tensor} {multiply : Tensor → Tensor}
    (multiplied : (product matrix operand multiply).outcome = .ok answer) :
    answer = multiply operand := by
  unfold product at multiplied
  split at multiplied
  · cases multiplied
  · cases multiplied
    rfl

private theorem isSized_ofMatrix {matrix : Tensor} {rows columns : Nat}
    (shape : matrix.shape = [rows, columns]) : (ofMatrix matrix rows columns).IsSized :=
  { forward := answers_guarded fun operand answer multiplied => by
      rw [of_product_eq_ok multiplied]
      exact Tensor.size_times shape operand
    adjoint := answers_guarded fun operand answer multiplied => by
      rw [of_product_eq_ok multiplied]
      exact Tensor.size_adjointTimes shape operand }

private theorem isSized_ofSparse (matrix : SparseMatrix) : (ofSparse matrix).IsSized := by
  have size (own : SparseMatrix) (operand : Tensor) : (own.times operand).size = own.rowCount := by
    simp [SparseMatrix.times, Tensor.size, Tensor.vector]
  exact
    { forward := answers_guarded fun operand answer multiplied => by
        cases multiplied
        exact size matrix operand
      adjoint := answers_guarded fun operand answer multiplied => by
        cases multiplied
        exact size matrix.transposed operand }

end LinearOperator

namespace OperatorFunctions

private theorem size_noted {action : Action} {length : Nat}
    {function : Tensor → Except (Fault Float) Tensor} {operand answer : Tensor}
    (applied : (noted action length function operand).outcome = .ok answer) :
    answer.size = length := by
  obtain ⟨_, _, applied⟩ := Reply.of_bind_eq_ok applied
  obtain ⟨product, _, measured⟩ := Reply.of_bind_eq_ok applied
  unfold sized at measured
  split at measured
  · cases measured
    assumption
  · cases measured

/-- Functions are held to the declared shape whenever they are applied. -/
theorem of_toOperator_eq_ok {functions : OperatorFunctions} {operator : LinearOperator}
    (formed : functions.toOperator.outcome = .ok operator) :
    functions.shape = [operator.rows, operator.columns] ∧ operator.IsSized := by
  unfold toOperator at formed
  split at formed
  · rename_i rows columns shape
    have made : ∃ elementType, operator =
        { rows, columns, elementType
          forward := functions.checkedForward rows columns
          adjoint := functions.checkedAdjoint rows columns } := by
      cases found : functions.elementType? with
      | some declared =>
          rw [found] at formed
          cases formed
          exact ⟨declared, rfl⟩
      | none =>
          rw [found] at formed
          obtain ⟨product, _, made⟩ := Reply.of_bind_eq_ok formed
          cases made
          exact ⟨product.elementType, rfl⟩
    obtain ⟨elementType, rfl⟩ := made
    refine ⟨shape, ?_, ?_⟩
    · exact LinearOperator.answers_guarded fun operand answer => size_noted
    · refine LinearOperator.answers_guarded fun operand answer applied => ?_
      split at applied
      · exact size_noted applied
      · cases applied
  · cases formed

end OperatorFunctions

namespace Source

/-- Whatever is checked settles the size, too. Ready preconditioners are not checked and objects
that solve by a function of their own are not looked into, and a ready operator is as good as what
it was made from. -/
def IsMeasured : Source → Prop
  | .operator linear => linear.IsSized
  | .preconditioner _ | .solver _ => False
  | .dense _ | .sparse _ | .operatorFunctions _ | .plainFunctions _ | .factored _ | .value _ => True

theorem shape?_withoutIntegers (source : Source) :
    source.withoutIntegers.shape? = source.shape? := by
  cases source with
  | dense matrix =>
      unfold withoutIntegers shape? Tensor.withoutIntegers
      dsimp only
      split <;> rfl
  | sparse matrix =>
      unfold withoutIntegers shape? SparseMatrix.withoutIntegers SparseMatrix.withIntegersAs
      dsimp only
      split <;> rfl
  | operatorFunctions functions => rfl
  | plainFunctions functions => rfl
  | operator linear => rfl
  | preconditioner ready => rfl
  | factored factors => rfl
  | solver object => rfl
  | value given => rfl

/-- Only matrices are changed. -/
theorem eq_of_withoutIntegers {source other : Source} (own : source.withoutIntegers = other)
    (not_dense : ∀ matrix, other ≠ .dense matrix) (not_sparse : ∀ matrix, other ≠ .sparse matrix) :
    source = other := by
  cases source with
  | dense matrix => exact absurd own.symm (not_dense _)
  | sparse matrix => exact absurd own.symm (not_sparse _)
  | operatorFunctions functions => exact own
  | plainFunctions functions => exact own
  | operator linear => exact own
  | preconditioner ready => exact own
  | factored factors => exact own
  | solver object => exact own
  | value given => exact own

theorem isMeasured_withoutIntegers (source : Source) :
    source.withoutIntegers.IsMeasured ↔ source.IsMeasured := by
  cases source <;> exact Iff.rfl

theorem of_toOperator_eq_ok {source : Source} {name : String} {operator : LinearOperator}
    (formed : (source.toOperator name).outcome = .ok operator) :
    source.shape? = some [operator.rows, operator.columns] ∧
      (source.IsMeasured → operator.IsSized) := by
  rw [← shape?_withoutIntegers, ← isMeasured_withoutIntegers]
  unfold toOperator at formed
  split at formed
  · rename_i linear own
    cases formed
    rw [own]
    exact ⟨rfl, id⟩
  · rename_i matrix own
    rw [own]
    split at formed
    · rename_i rows columns shape
      cases formed
      exact ⟨congrArg some shape, fun _ => LinearOperator.isSized_ofMatrix shape⟩
    · cases formed
  · rename_i matrix own
    cases formed
    rw [own]
    exact ⟨rfl, fun _ => LinearOperator.isSized_ofSparse matrix⟩
  · rename_i functions own
    rw [own]
    obtain ⟨shape, sized⟩ := functions.of_toOperator_eq_ok formed
    exact ⟨congrArg some shape, fun _ => sized⟩
  · rename_i functions own
    rw [own]
    obtain ⟨shape, sized⟩ := functions.of_toOperator_eq_ok formed
    exact ⟨congrArg some shape, fun _ => sized⟩
  all_goals cases formed

end Source

/-! ### Solvers -/

namespace Factorization

variable {factorization : Factorization} {skipZeros : Bool} {size length : Nat}
variable {operand answer : Tensor}

theorem size_solveColumns (flat : operand.shape = [length])
    (solved : factorization.solveColumns skipZeros size operand = .ok answer) :
    length = size ∧ answer.size = size := by
  unfold solveColumns Tensor.asColumns at solved
  rw [flat] at solved
  dsimp only at solved
  split at solved
  · rename_i fits
    cases solved
    refine ⟨Option.some.inj fits.1, ?_⟩
    simp [Tensor.size, List.map_const']
  · cases solved

/-- A vector is a single part. -/
theorem size_solveParts (flat : operand.shape = [length])
    (solved : factorization.solveParts skipZeros size operand = .ok answer) :
    length = size ∧ answer.size = size := by
  unfold solveParts at solved
  rw [flat] at solved
  obtain ⟨parts, each, made⟩ := of_bind_eq_ok solved
  cases made
  have single : Tensor.chunks (Tensor.volume [length]) 1 operand.entries =
      [operand.entries.take (Tensor.volume [length])] := rfl
  change (Tensor.chunks (Tensor.volume [length]) 1 operand.entries).mapM _ = _ at each
  rw [single, List.mapM_cons, List.mapM_nil] at each
  obtain ⟨part, own, each⟩ := of_bind_eq_ok each
  cases each
  obtain ⟨same, measured⟩ := size_solveColumns rfl own
  refine ⟨same, ?_⟩
  simpa [Tensor.size] using measured

end Factorization

theorem DenseSolver.matrix_ofMatrix {matrix : Tensor} {solver : DenseSolver}
    (factored : ofMatrix matrix = .ok solver) : solver.matrix = matrix := by
  unfold ofMatrix at factored
  split at factored
  · cases factored
    rfl
  · cases factored

theorem SparseSolver.size_ofMatrix {matrix : SparseMatrix} {solver : SparseSolver}
    (factored : ofMatrix matrix = .ok solver) : solver.size = matrix.rowCount := by
  unfold ofMatrix at factored
  dsimp only at factored
  split at factored
  · cases factored
  split at factored
  · cases factored
  split at factored
  · cases factored
  · cases factored
    unfold SparseMatrix.withoutIntegers SparseMatrix.withIntegersAs
    dsimp only
    split
    · rfl
    · rfl

namespace Preconditioner

def OnVectors (size : Nat) (function : Tensor → Answer Tensor) : Prop :=
  ∀ operand answer length, operand.shape = [length] →
    (function operand).outcome = .ok answer → length = size ∧ answer.size = size

variable {size : Nat}

theorem onVectors_of_answers {function : Tensor → Answer Tensor}
    (answers : LinearOperator.Answers size size function) : OnVectors size function := by
  intro operand answer length flat applied
  obtain ⟨fits, measured⟩ := answers operand answer applied
  refine ⟨?_, measured⟩
  unfold LinearOperator.isVectorOf at fits
  rw [flat] at fits
  simpa using fits

theorem onVectors_sparse {factors : SparseSolver} (fits : factors.size = size) :
    OnVectors size (Reply.ofExcept ∘ factors.solve) := by
  intro operand answer length flat solved
  change factors.solve operand = .ok answer at solved
  unfold SparseSolver.solve at solved
  split at solved
  · cases solved
  · rw [fits] at solved
    exact Factorization.size_solveColumns flat solved

theorem onVectors_dense {solver : DenseSolver} {columns : Nat}
    (shape : solver.matrix.shape = [size, columns]) :
    OnVectors size (Reply.ofExcept ∘ solver.solve) := by
  intro operand answer length flat solved
  change solver.solve operand = .ok answer at solved
  unfold DenseSolver.solve at solved
  rw [flat, Tensor.length_rows shape] at solved
  dsimp only at solved
  split at solved
  · cases solved
  · obtain ⟨numbers, read, solved⟩ := of_bind_eq_ok solved
    obtain ⟨entries, _, made⟩ := of_bind_eq_ok read
    cases made
    exact Factorization.size_solveParts (by exact flat) solved

end Preconditioner

end ConjugateResidual
