import ConjugateResidual.Proofs.Machine.Building

/-!
Objects that solve by themselves and say nothing of their field. Before such an object is accepted
it solves once, for `float64` zeros, and the element type of the answer is taken for its field.
-/

namespace ConjugateResidual

namespace ElementType

private theorem isDivisible_of_isInexact {left right : ElementType}
    (inexact : (left.promote right).isInexact = true) :
    SolverObject.isDivisible left = true ∧ SolverObject.isDivisible right = true := by
  cases left <;> cases right <;> simp_all [promote, isInexact, SolverObject.isDivisible]

private theorem isIntegral_of_isInexact {elementType : ElementType}
    (inexact : elementType.isInexact = true) : elementType.isIntegral = false := by
  cases elementType <;> simp_all [isInexact, isIntegral]

/-- Of the fields that absorb a type, `float64` is the common type with `float64` in itself, and
`complex128` where the type is complex. -/
theorem promote_float64_eq_iff {field own : ElementType} (supported : field.isSupported = true)
    (absorbs : field.promote own = field) :
    float64.promote own = field ↔
      field = float64 ∨ field = complex128 ∧ own.isComplex = true := by
  have isField : field ∈ [float32, float64, complex64, complex128] := by
    simpa [isSupported, ElementType.supported] using supported
  simp only [List.mem_cons, List.not_mem_nil, or_false] at isField
  revert absorbs
  cases own with
  | boolean => rcases isField with rfl | rfl | rfl | rfl <;> decide
  | signed width => cases width <;> rcases isField with rfl | rfl | rfl | rfl <;> decide
  | unsigned width => cases width <;> rcases isField with rfl | rfl | rfl | rfl <;> decide
  | real precision => cases precision <;> rcases isField with rfl | rfl | rfl | rfl <;> decide
  | complex precision => cases precision <;> rcases isField with rfl | rfl | rfl | rfl <;> decide
  | text width => rcases isField with rfl | rfl | rfl | rfl <;> intro absorbs <;> cases absorbs
  | object => rcases isField with rfl | rfl | rfl | rfl <;> decide
  | moment unit => rcases isField with rfl | rfl | rfl | rfl <;> intro absorbs <;> cases absorbs
  | duration unit => rcases isField with rfl | rfl | rfl | rfl <;> intro absorbs <;> cases absorbs
  | foreign name => rcases isField with rfl | rfl | rfl | rfl <;> intro absorbs <;> cases absorbs

/-- What has an inexact type in common with some type has one with `float64`. -/
theorem isInexact_promote_float64 {field own : ElementType}
    (inexact : (field.promote own).isInexact = true) :
    (float64.promote own).isInexact = true := by
  cases own with
  | boolean => rfl
  | signed width => rfl
  | unsigned width => rfl
  | real precision => rfl
  | complex precision => rfl
  | text width => cases field <;> cases inexact
  | object => cases field <;> cases inexact
  | moment unit => cases field <;> cases inexact
  | duration unit => cases field <;> cases inexact
  | foreign name => cases field <;> cases inexact

end ElementType

private theorem Tensor.IsVector.broadcast? {tensor : Tensor} {field : ElementType} {length : Nat}
    (isVector : tensor.IsVector field length) :
    ∃ entries, tensor.broadcast? [length] = some entries ∧ entries.length = length := by
  have spread : ∃ entries, tensor.broadcast? [length] = some entries := by
    unfold Tensor.broadcast?
    rw [isVector.shape]
    exact ⟨_, if_pos ⟨rfl, by simp [padded]⟩⟩
  obtain ⟨entries, found⟩ := spread
  exact ⟨entries, found, isVector.length_broadcast? found⟩

namespace SolverObject

/-- A quotient of vectors is a vector of their common type. -/
theorem divide_vectors {diagonal vector : Tensor} {own field : ElementType} {size : Nat}
    (divisors : diagonal.IsVector own size) (values : vector.IsVector field size)
    (inexact : (field.promote own).isInexact = true) :
    ∃ solution, divide diagonal vector = .ok solution ∧
      solution.IsVector (field.promote own) size := by
  obtain ⟨first, second⟩ := ElementType.isDivisible_of_isInexact inexact
  have fraction := ElementType.isIntegral_of_isInexact inexact
  have common : Tensor.commonShape? vector.shape diagonal.shape = some [size] := by
    rw [values.shape, divisors.shape]
    simp [Tensor.commonShape?, Tensor.padded]
  obtain ⟨numerators, spread, length⟩ := values.broadcast?
  obtain ⟨denominators, spread', length'⟩ := divisors.broadcast?
  unfold divide
  simp only [common, values.elementType, divisors.elementType, first, second, fraction, inexact,
    spread, spread', Bool.not_true, Bool.or_false, Bool.false_eq_true, if_false]
  refine ⟨_, rfl, { elementType := rfl, shape := rfl, entries := ?_ }⟩
  rw [List.length_zipWith, length, length', Nat.min_self]

structure Bare (size : Nat) (solve : Tensor → Except (Fault Float) Tensor)
    (object : SolverObject) : Prop where
  solves : object.solve? = some solve
  elementType : object.elementType? = none
  factor : object.factorType? = none
  shape : object.shape? = none ∨ object.shape? = some [size, size]

/-- Vectors of a field are answered by vectors of the same field. -/
def SolvesIn (field : ElementType) (size : Nat) (solve : Tensor → Except (Fault Float) Tensor) :
    Prop :=
  ∀ vector : Tensor, vector.IsVector field size →
    ∃ solution, solve vector = .ok solution ∧ solution.IsVector field size

def ready (solve : Tensor → Except (Fault Float) Tensor) (elementType : ElementType) :
    Preconditioner :=
  { mode := .solve, elementType? := some elementType, function? := some (noted solve) }

variable {object : SolverObject} {solve : Tensor → Except (Fault Float) Tensor} {size : Nat}

private theorem Bare.build_eq (bare : object.Bare size solve) (name : String) :
    Preconditioner.build name (.solver object) (.text Mode.solve.name) size =
      Preconditioner.probe size (noted solve) >>= fun elementType =>
        pure (ready solve elementType) := by
  obtain ⟨solve?, shape?, elementType?, factorType?⟩ := object
  obtain ⟨solves, undeclared, factorless, shape⟩ := bare
  cases solves
  cases undeclared
  cases factorless
  unfold Preconditioner.build
  rw [Check.mode_name, Reply.ofExcept_ok, pure_bind]
  rcases shape with shapeless | square
  · cases shapeless
    rfl
  · cases square
    simp only [Source.withoutIntegers, Source.shape?]
    rw [if_neg (by simp)]
    rfl

private theorem Bare.outcome_build (bare : object.Bare size solve) (name : String) :
    (Preconditioner.build name (.solver object) (.text Mode.solve.name) size).outcome =
      (solve (.zeros .float64 size)).map fun solution => ready solve solution.elementType := by
  rw [bare.build_eq]
  unfold Preconditioner.probe noted
  cases solve (.zeros .float64 size) with
  | error fault => rfl
  | ok solution => rfl

/-- The zeros go through, and the answer has to be of the field of the right-hand side. -/
theorem Bare.outcome_design {operatorSource : Source} {data : Data} {rightHandSide : Tensor}
    {operator : LinearOperator} (bare : object.Bare operator.rows solve)
    (equations : Design.Equations operatorSource data rightHandSide operator) :
    (Design.build operatorSource data (.solver object) (.text Mode.solve.name)).outcome =
      solve (.zeros .float64 operator.rows) >>= fun solution =>
        if solution.elementType = rightHandSide.elementType then
          .ok
            { operator, rightHandSide
              preconditioner := ready solve rightHandSide.elementType }
        else
          .error (.misuse (.fieldMismatch "M" rightHandSide.elementType solution.elementType)) := by
  rw [equations.build_eq]
  dsimp only
  rw [bare.outcome_build]
  cases solve (.zeros .float64 operator.rows) with
  | error fault => rfl
  | ok solution =>
      change (Check.sameField "M" solution.elementType rightHandSide.elementType >>= fun _ => _) = _
      simp only [bind, Except.bind]
      unfold Check.sameField
      by_cases same : solution.elementType = rightHandSide.elementType
      · rw [if_pos same, if_pos same, same]
      · rw [if_neg same, if_neg same]
        rfl

theorem solvesIn_divide {diagonal : Tensor} {own field : ElementType}
    (divisors : diagonal.IsVector own size) (supported : field.isSupported = true)
    (absorbs : field.promote own = field) : SolvesIn field size (divide diagonal) := by
  intro vector values
  have inexact : (field.promote own).isInexact = true := by
    rw [absorbs]
    exact ElementType.isInexact_of_isSupported supported
  have divided := divide_vectors divisors values inexact
  rwa [absorbs] at divided

end SolverObject

/-- What a solver object without an element type is accepted for. The field of such an object is
that of its answer to `float64` zeros, whatever it makes of vectors of the field that it is needed
in. In `float64` every object that solves in the field is accepted. In any other field some object
that solves in it is refused, and of the objects that divide by a diagonal only those with complex
entries are accepted, and only in `complex128`. -/
theorem solvers_are_judged_by_a_probe {operatorSource : Source} {data : Data}
    {rightHandSide : Tensor} {operator : LinearOperator}
    (equations : Design.Equations operatorSource data rightHandSide operator) :
    let field := rightHandSide.elementType
    let size := operator.rows
    let built (object : SolverObject) :=
      (Design.build operatorSource data (.solver object) (.text Mode.solve.name)).outcome
    let accepted (solve : Tensor → Except (Fault Float) Tensor) : Design :=
      { operator, rightHandSide, preconditioner := SolverObject.ready solve field }
    let refusal (actual : ElementType) : Fault Float :=
      .misuse (.fieldMismatch "M" field actual)
    (∀ object solve, object.Bare size solve →
      built object = solve (.zeros .float64 size) >>= fun solution =>
        if solution.elementType = field then .ok (accepted solve)
        else .error (refusal solution.elementType)) ∧
    (field = .float64 → ∀ object solve, object.Bare size solve →
      SolverObject.SolvesIn field size solve → built object = .ok (accepted solve)) ∧
    (field ≠ .float64 → ∃ solve, SolverObject.SolvesIn field size solve ∧
      ∀ object, object.Bare size solve → built object = .error (refusal .float64)) ∧
    ∀ object diagonal own, diagonal.IsVector own size → field.promote own = field →
      object.Bare size (SolverObject.divide diagonal) →
      SolverObject.SolvesIn field size (SolverObject.divide diagonal) ∧
        built object =
          if field = .float64 ∨ field = .complex128 ∧ own.isComplex = true then
            .ok (accepted (SolverObject.divide diagonal))
          else .error (refusal (ElementType.float64.promote own)) := by
  intro field size built accepted refusal
  have probed (object : SolverObject) (solve : Tensor → Except (Fault Float) Tensor)
      (bare : object.Bare size solve) :
      built object = solve (.zeros .float64 size) >>= fun solution =>
        if solution.elementType = field then .ok (accepted solve)
        else .error (refusal solution.elementType) :=
    bare.outcome_design equations
  have answered {object : SolverObject} {solve : Tensor → Except (Fault Float) Tensor}
      (bare : object.Bare size solve) {solution : Tensor}
      (answer : solve (.zeros .float64 size) = .ok solution) :
      built object =
        if solution.elementType = field then .ok (accepted solve)
        else .error (refusal solution.elementType) := by
    rw [probed object solve bare, answer]
    rfl
  have supported : field.isSupported = true :=
    (Design.checkRightHandSide_eq_ok_iff.mp equations.checked).2.supported
  refine ⟨probed, ?_, ?_, ?_⟩
  · intro double object solve bare solves
    obtain ⟨solution, answer, isVector⟩ :=
      solves (.zeros .float64 size) (double ▸ Tensor.isVector_zeros _ _)
    rw [answered bare answer, if_pos isVector.elementType]
  · intro other
    refine ⟨.ok, fun vector values => ⟨vector, rfl, values⟩, fun object bare => ?_⟩
    rw [answered bare rfl]
    exact if_neg fun same => other same.symm
  · intro object diagonal own divisors absorbs bare
    refine ⟨SolverObject.solvesIn_divide divisors supported absorbs, ?_⟩
    have zeros : (Tensor.zeros .float64 size).IsVector .float64 size := Tensor.isVector_zeros _ _
    have inexact : (field.promote own).isInexact = true := by
      rw [absorbs]
      exact ElementType.isInexact_of_isSupported supported
    obtain ⟨solution, answer, isVector⟩ :=
      SolverObject.divide_vectors divisors zeros (ElementType.isInexact_promote_float64 inexact)
    rw [answered bare answer, isVector.elementType]
    simp only [ElementType.promote_float64_eq_iff supported absorbs]

/-! ### Two equations in single precision -/

def Source.singlePair : Source :=
  .dense
    { elementType := .float32, shape := [2, 2], entries := [1.0, 0.0, 0.0, 1.0].map Entry.ofReal }

def Tensor.singlePair : Tensor :=
  .vector .float32 ([1.0, 2.0].map Entry.ofReal)

def SolverObject.singlePair : SolverObject :=
  { solve? := some (divide .singlePair), shape? := some [2, 2], elementType? := none }

def LinearOperator.singlePair : LinearOperator :=
  .ofMatrix
    { elementType := .float32, shape := [2, 2], entries := [1.0, 0.0, 0.0, 1.0].map Entry.ofReal }
    2 2

theorem Design.equations_singlePair :
    Equations .singlePair (.array .singlePair) .singlePair .singlePair :=
  { checked := rfl, formed := rfl, shape := rfl, field := rfl }

theorem Tensor.isVector_singlePair : Tensor.singlePair.IsVector .float32 2 :=
  { elementType := rfl, shape := rfl, entries := rfl }

theorem SolverObject.bare_singlePair :
    SolverObject.singlePair.Bare LinearOperator.singlePair.rows (divide .singlePair) :=
  { solves := rfl, elementType := rfl, factor := rfl, shape := .inr rfl }

/-- A `float32` solver is refused for a `float32` problem. -/
theorem solvers_are_judged_by_a_probe_single :
    SolverObject.SolvesIn .float32 2 (SolverObject.divide .singlePair) ∧
      (Design.build .singlePair (.array .singlePair) (.solver .singlePair)
        (.text Mode.solve.name)).outcome =
          .error (.misuse (.fieldMismatch "M" .float32 .float64)) := by
  obtain ⟨_, _, _, divides⟩ := solvers_are_judged_by_a_probe Design.equations_singlePair
  obtain ⟨solves, refused⟩ :=
    divides .singlePair .singlePair .float32 Tensor.isVector_singlePair (by decide)
      SolverObject.bare_singlePair
  refine ⟨solves, refused.trans ?_⟩
  rw [if_neg (by decide)]
  rfl

/-- It is not so that an object is accepted in every field in which it solves. -/
theorem solvers_in_single_precision_are_refused :
    ¬ ∀ (operatorSource : Source) (data : Data) (rightHandSide : Tensor)
        (operator : LinearOperator) (object : SolverObject)
        (solve : Tensor → Except (Fault Float) Tensor),
      Design.Equations operatorSource data rightHandSide operator →
      object.Bare operator.rows solve →
      SolverObject.SolvesIn rightHandSide.elementType operator.rows solve →
      ∀ actual,
        (Design.build operatorSource data (.solver object) (.text Mode.solve.name)).outcome ≠
          .error (.misuse (.fieldMismatch "M" rightHandSide.elementType actual)) := by
  intro admitted
  have solves : SolverObject.SolvesIn .float32 2 (SolverObject.divide .singlePair) :=
    SolverObject.solvesIn_divide Tensor.isVector_singlePair (by decide) (by decide)
  refine admitted _ _ _ _ _ _ Design.equations_singlePair SolverObject.bare_singlePair solves
    .float64 ?_
  rw [SolverObject.bare_singlePair.outcome_design Design.equations_singlePair]
  rfl

end ConjugateResidual
