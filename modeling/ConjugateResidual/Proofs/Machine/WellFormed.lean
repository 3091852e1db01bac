import ConjugateResidual.Proofs.Machine.Acceptance
import ConjugateResidual.Proofs.Machine.Operands
import ConjugateResidual.Proofs.Machine.Solvers

/-!
What is known of a design that has been accepted: its right-hand side is a vector of finite numbers
of a supported field, its operator has as many rows, and its preconditioner, unless it was ready
before, has been formed for that many rows and in that field.
-/

namespace ConjugateResidual

/-! ### Grids of entries -/

namespace Nesting

private theorem commonStart_self (shape : List Nat) : commonStart shape shape = shape := by
  induction shape with
  | nil => rfl
  | cons length inner ih => rw [commonStart, if_pos rfl, ih]

private theorem even_beside {left right : Nesting} (even : (left.beside right).even = true) :
    left.even = true ∧ right.even = true ∧ left.shape = right.shape := by
  unfold beside at even
  simpa [and_assoc] using even

mutual

/-- Lists that nest evenly have a leaf for every place of their shape. -/
theorem length_ofValue (value : Value) (even : (ofValue value).even = true) :
    (ofValue value).leaves.length = Tensor.volume (ofValue value).shape := by
  cases value with
  | list items =>
      cases items with
      | nil => rfl
      | cons first rest =>
          have counted := length_ofBranches (ofValue first) rest 1
            (fun own => by rw [length_ofValue first own, Nat.one_mul]) even
          refine counted.trans ?_
          rw [Nat.add_comm]
          rfl
  | _ => rfl

/-- The branches before count as often as they have the shape of the ones that follow. -/
theorem length_ofBranches (before : Nesting) (branches : List Value) (count : Nat)
    (counted : before.even = true → before.leaves.length = count * Tensor.volume before.shape)
    (even : (ofBranches before branches).even = true) :
    (ofBranches before branches).leaves.length =
      (count + branches.length) * Tensor.volume (ofBranches before branches).shape := by
  cases branches with
  | nil => exact counted even
  | cons branch rest =>
      rw [ofBranches] at even ⊢
      rw [List.length_cons, Nat.add_comm rest.length, ← Nat.add_assoc]
      refine
        length_ofBranches (before.beside (ofValue branch)) rest (count + 1) (fun both => ?_) even
      obtain ⟨left, right, shape⟩ := even_beside both
      unfold beside
      dsimp only
      rw [List.length_append, counted left, length_ofValue branch right, shape, commonStart_self,
        Nat.succ_mul]

end

end Nesting

/-- Every place of the shape has an entry. -/
def Tensor.IsGrid (tensor : Tensor) : Prop :=
  tensor.entries.length = volume tensor.shape

private theorem Tensor.isGrid_ofNested {value : Value} {tensor : Tensor}
    (read : ofNested value = .ok tensor) : tensor.IsGrid := by
  unfold ofNested at read
  dsimp only at read
  split at read
  · cases read
    exact (List.length_map _).trans (Nesting.length_ofValue value ‹_›)
  · cases read

private theorem Tensor.isGrid_withoutIntegers {tensor : Tensor} (grid : tensor.IsGrid) :
    tensor.withoutIntegers.IsGrid := by
  unfold withoutIntegers
  split
  · exact (List.length_map _).trans grid
  · exact grid

def Data.IsGrid : Data → Prop
  | .array tensor => tensor.IsGrid
  | .nested _ | .unreadable _ => True

private theorem Check.isGrid_array {name : String} {data : Data} {tensor : Tensor}
    (grid : data.IsGrid)
    (read : array name data = .ok tensor) : tensor.IsGrid := by
  rw [array_eq] at read
  obtain ⟨given, found, accepted⟩ := of_bind_eq_ok read
  have given_grid : given.IsGrid := by
    unfold readArray at found
    split at found
    · cases found
      exact grid
    · cases found
    · split at found
      · cases found
        exact Tensor.isGrid_ofNested ‹_›
      · cases found
  unfold numbers at accepted
  split at accepted
  · cases accepted
  split at accepted
  · cases accepted
    exact Tensor.isGrid_withoutIntegers given_grid
  · cases accepted

/-! ### Preconditioners that are formed -/

namespace Preconditioner

/-- A preconditioner formed for a size. Only an object that solves by a function of its own may
leave its shape open. -/
structure Made (source : Source) (asked : Mode) (size : Nat) (preconditioner : Preconditioner) :
    Prop where
  mode : preconditioner.mode = asked
  works : preconditioner.isIdentity = false
  declares : preconditioner.elementType?.isSome = true
  shape : source.shape? = some [size, size] ∨
    source.shape? = none ∧ asked = .solve ∧ ∃ object, source = .solver object
  vectors : source.IsMeasured → ∀ function ∈ preconditioner.function?, OnVectors size function

variable {name : String} {source : Source} {size : Nat} {mode : Mode}
variable {preconditioner : Preconditioner}

/-- A form with a square shape of the size and a function on vectors of that size. -/
theorem made_of_square {field : ElementType} {function : Tensor → Answer Tensor} {takesLists : Bool}
    (square : source.shape? = some [size, size])
    (vectors : source.IsMeasured → OnVectors size function) :
    Made source mode size
      { mode, elementType? := some field, function? := some function, takesLists } :=
  { mode := rfl, works := rfl, declares := rfl, shape := .inl square
    vectors := fun measured _ chosen => Option.some.inj chosen ▸ vectors measured }

private theorem made_of_multiplying (fits : ∀ shape ∈ source.shape?, shape = [size, size])
    (formed : (multiplying name source).outcome = .ok preconditioner) :
    preconditioner.Made source .multiply size := by
  obtain ⟨operator, own, made⟩ := Reply.of_bind_eq_ok formed
  cases made
  obtain ⟨shape, sized⟩ := source.of_toOperator_eq_ok own
  have square := fits _ shape
  obtain ⟨rows, columns⟩ : operator.rows = size ∧ operator.columns = size := by
    simpa using square
  refine made_of_square (by rw [shape, rows, columns]) fun measured => ?_
  have answers := (sized measured).forward
  rw [rows, columns] at answers
  exact onVectors_of_answers answers

private theorem of_solving_solver_eq_ok {object : SolverObject}
    (formed : (solving name size (.solver object)).outcome = .ok preconditioner) :
    ∃ solve elementType, preconditioner = SolverObject.ready solve elementType := by
  obtain ⟨solve?, shape?, elementType?, factorType?⟩ := object
  cases solve? with
  | none => cases formed
  | some solve =>
      unfold solving at formed
      dsimp only at formed
      cases found : elementType?.or factorType? with
      | some declared =>
          rw [found] at formed
          cases formed
          exact ⟨solve, declared, rfl⟩
      | none =>
          rw [found] at formed
          obtain ⟨elementType, _, made⟩ := Reply.of_bind_eq_ok formed
          cases made
          exact ⟨solve, elementType, rfl⟩

private theorem made_of_solving (fits : ∀ shape ∈ source.shape?, shape = [size, size])
    (formed : (solving name size source).outcome = .ok preconditioner) :
    preconditioner.Made source .solve size := by
  cases source with
  | dense matrix =>
      have shape : matrix.shape = [size, size] := fits _ rfl
      unfold solving at formed
      dsimp only at formed
      rw [if_neg (by rw [shape]; simp)] at formed
      obtain ⟨solver, factored, made⟩ := Reply.of_bind_eq_ok formed
      cases made
      have own : solver.matrix = matrix := DenseSolver.matrix_ofMatrix factored
      exact made_of_square (congrArg some shape) fun _ => onVectors_dense (by rw [own, shape])
  | sparse matrix =>
      have shape : [matrix.rowCount, matrix.columnCount] = [size, size] := fits _ rfl
      obtain ⟨solver, factored, made⟩ := Reply.of_bind_eq_ok formed
      cases made
      have own : solver.size = matrix.rowCount := SparseSolver.size_ofMatrix factored
      exact made_of_square (congrArg some shape) fun _ =>
        onVectors_sparse (own.trans (List.cons.inj shape).1)
  | factored factors =>
      cases formed
      have shape : [factors.size, factors.size] = [size, size] := fits _ rfl
      exact made_of_square (congrArg some shape) fun _ => onVectors_sparse (List.cons.inj shape).1
  | solver object =>
      have shape : object.shape? = some [size, size] ∨ object.shape? = none := by
        cases found : object.shape? with
        | none => exact .inr rfl
        | some shape => exact .inl (congrArg some (fits shape found))
      obtain ⟨solve, elementType, rfl⟩ := of_solving_solver_eq_ok formed
      exact
        { mode := rfl, works := rfl, declares := rfl
          shape := shape.imp id fun open_shape => ⟨open_shape, rfl, object, rfl⟩
          vectors := fun measured => measured.elim }
  | operatorFunctions functions => cases formed
  | plainFunctions functions => cases formed
  | operator linear => cases formed
  | preconditioner ready => cases formed
  | value given => cases formed

private theorem Made.of_withoutIntegers
    (made : preconditioner.Made source.withoutIntegers mode size) :
    preconditioner.Made source mode size := by
  have shape := made.shape
  rw [source.shape?_withoutIntegers] at shape
  refine
    { made with
      shape := shape.imp id fun open_shape => ?_
      vectors := fun measured => made.vectors (source.isMeasured_withoutIntegers.mpr measured) }
  obtain ⟨unshaped, solves, object, own⟩ := open_shape
  exact ⟨unshaped, solves, object, Source.eq_of_withoutIntegers own (fun _ => nofun) fun _ => nofun⟩

theorem eq_square_iff {shape : List Nat} :
    shape.map Int.ofNat = [(size : Int), size] ↔ shape = [size, size] := by
  change shape.map Int.ofNat = [size, size].map Int.ofNat ↔ _
  exact List.map_inj_right fun _ _ => Int.ofNat.inj

/-- A preconditioner is the identity, or it was ready before, or it has been formed. -/
theorem of_build_eq_ok {modeValue : Value}
    (built : (build name source modeValue size).outcome = .ok preconditioner) :
    ∃ mode, Check.mode modeValue = .ok mode ∧
      (source = .value .absent ∧ preconditioner = identity ∨
        source = .preconditioner preconditioner ∨ preconditioner.Made source mode size) := by
  obtain ⟨mode, known, built⟩ := Reply.of_bind_eq_ok built
  refine ⟨mode, known, ?_⟩
  have formed (fits : ∀ shape ∈ source.shape?, shape = [size, size])
      (constructed :
        (build.construct name size mode source.withoutIntegers).outcome = .ok preconditioner) :
      preconditioner.Made source mode size := by
    rw [← source.shape?_withoutIntegers] at fits
    refine .of_withoutIntegers ?_
    cases mode with
    | multiply => exact made_of_multiplying fits constructed
    | solve => exact made_of_solving fits constructed
  split at built
  · rename_i own
    cases built
    exact .inl ⟨Source.eq_of_withoutIntegers own (fun _ => nofun) fun _ => nofun, rfl⟩
  · rename_i ready own
    cases built
    exact .inr (.inl (Source.eq_of_withoutIntegers own (fun _ => nofun) fun _ => nofun))
  · right
    right
    rw [source.shape?_withoutIntegers] at built
    cases found : source.shape? with
    | none =>
        rw [found] at built
        refine formed (fun shape declared => ?_) built
        rw [found] at declared
        cases declared
    | some shape =>
        rw [found] at built
        dsimp only at built
        split at built
        · cases built
        · rename_i same
          have square : shape = [size, size] := eq_square_iff.mp (Decidable.not_not.mp same)
          refine formed (fun other declared => ?_) built
          rw [found] at declared
          exact (Option.some.inj declared).symm.trans square

/-- A shape that does not fit is refused before anything is applied. -/
theorem build_of_shape {modeValue : Value} (known : Check.mode modeValue = .ok mode)
    {shape : List Nat} (declared : source.shape? = some shape) (other : shape ≠ [size, size]) :
    build name source modeValue size =
      Reply.fail (.misuse (.notSquare name size (shape.map Int.ofNat))) := by
  have misfit : shape.map Int.ofNat ≠ [(size : Int), size] := mt eq_square_iff.mp other
  rw [← source.shape?_withoutIntegers] at declared
  unfold build
  rw [known, Reply.ofExcept_ok, pure_bind]
  split
  · rename_i own
    rw [own] at declared
    cases declared
  · rename_i own
    rw [own] at declared
    cases declared
  · rw [declared]
    exact if_pos misfit

/-- An object that declares its element type and leaves its shape open is taken as it is. -/
theorem build_of_open_shape {object : SolverObject} {modeValue : Value}
    {solve : Tensor → Except (Fault Float) Tensor} {field : ElementType}
    (solves : object.solve? = some solve) (open_shape : object.shape? = none)
    (declared : object.elementType?.or object.factorType? = some field)
    (known : Check.mode modeValue = .ok .solve) :
    build name (.solver object) modeValue size = pure (SolverObject.ready solve field) := by
  obtain ⟨solve?, shape?, elementType?, factorType?⟩ := object
  cases solves
  cases open_shape
  unfold build
  rw [known, Reply.ofExcept_ok, pure_bind]
  change solving name (size : Int).toNat
    (.solver { solve? := some solve, shape? := none, elementType?, factorType? }) = _
  unfold solving
  dsimp only at declared ⊢
  rw [declared]
  rfl

end Preconditioner

namespace Design

variable {operatorSource weightSource : Source} {data : Data} {modeValue : Value}
variable {rightHandSide : Tensor} {operator : LinearOperator}

private theorem Equations.outcome_of_pure {preconditioner : Preconditioner}
    (equations : Equations operatorSource data rightHandSide operator)
    (weighed : Preconditioner.build "M" weightSource modeValue operator.rows = pure preconditioner)
    (field : ∀ elementType ∈ preconditioner.elementType?, elementType = rightHandSide.elementType) :
    (build operatorSource data weightSource modeValue).outcome =
      .ok { operator, rightHandSide, preconditioner } := by
  have fits := preconditioner.checkField_eq_ok_iff.mpr field
  rw [equations.build_eq, weighed]
  change (preconditioner.checkField rightHandSide.elementType >>= fun _ => _) = _
  rw [fits]
  rfl

theorem isVector_of_build {design : Design} (grid : data.IsGrid)
    (equations : Equations operatorSource data design.rightHandSide design.operator) :
    design.rightHandSide.IsVector design.field design.rows := by
  have arrayed := (checkRightHandSide_eq_ok_iff.mp equations.checked).1
  have entries := Check.isGrid_array grid arrayed
  unfold Tensor.IsGrid at entries
  rw [equations.shape] at entries
  exact
    { elementType := rfl
      shape := equations.shape
      entries := entries.trans (Nat.mul_one _) }

end Design

/-- What is accepted is well formed, as far as it is looked into. The right-hand side is a vector of
finite numbers of a supported field, the operator has as many rows and the same field, and a
preconditioner is the identity, or it has been formed for that many rows and in that field, or it
was ready before and has that field, if it has any. A declared shape that is not square of that
size is refused, and then nothing has been applied but an operator that does not declare its field.
What was ready before is accepted whatever it was formed for, and so is an object with a field that
leaves its shape open, whatever it solves for. -/
theorem accepted_designs_are_well_formed (operatorSource weightSource : Source) (data : Data)
    (modeValue : Value) :
    let reply := Design.build operatorSource data weightSource modeValue
    (∀ design, reply.outcome = .ok design →
      Design.Equations operatorSource data design.rightHandSide design.operator ∧
      Design.Admits design.rightHandSide ∧
      (data.IsGrid → design.rightHandSide.IsVector design.field design.rows) ∧
      (operatorSource.IsMeasured → design.operator.IsSized) ∧
      ∃ mode, Check.mode modeValue = .ok mode ∧
        (weightSource = .value .absent ∧ design.preconditioner = .identity ∨
          weightSource = .preconditioner design.preconditioner ∧
            (∀ field ∈ design.preconditioner.elementType?, field = design.field) ∨
          design.preconditioner.Made weightSource mode design.rows ∧
            design.preconditioner.elementType? = some design.field)) ∧
    ∀ rightHandSide operator mode,
      Design.Equations operatorSource data rightHandSide operator →
      Check.mode modeValue = .ok mode →
      (∀ shape, weightSource.shape? = some shape → shape ≠ [operator.rows, operator.rows] →
        reply.outcome =
          .error (.misuse (.notSquare "M" operator.rows (shape.map Int.ofNat))) ∧
        reply.journal = (operatorSource.toOperator "A").journal ∧
        (operatorSource.isUndeclared = false → reply.journal = [])) ∧
      (∀ ready, weightSource = .preconditioner ready →
        (∀ field ∈ ready.elementType?, field = rightHandSide.elementType) →
        reply.outcome = .ok { operator, rightHandSide, preconditioner := ready }) ∧
      ∀ object solve, weightSource = .solver object → mode = .solve →
        object.solve? = some solve → object.shape? = none →
        object.elementType?.or object.factorType? = some rightHandSide.elementType →
        reply.outcome =
          .ok
            { operator, rightHandSide
              preconditioner := SolverObject.ready solve rightHandSide.elementType } := by
  intro reply
  constructor
  · intro design built
    obtain ⟨equations, weighed, fields⟩ := Design.equations_of_build built
    have fields := design.preconditioner.checkField_eq_ok_iff.mp fields
    obtain ⟨mode, known, forms⟩ := Preconditioner.of_build_eq_ok weighed
    refine ⟨equations, (Design.checkRightHandSide_eq_ok_iff.mp equations.checked).2,
      fun grid => Design.isVector_of_build grid equations,
      (operatorSource.of_toOperator_eq_ok equations.formed).2, mode, known, ?_⟩
    rcases forms with absent | ready | made
    · exact .inl absent
    · exact .inr (.inl ⟨ready, fields⟩)
    · obtain ⟨field, declared⟩ := Option.isSome_iff_exists.mp made.declares
      exact .inr (.inr ⟨made, declared.trans (congrArg some (fields field declared))⟩)
  · intro rightHandSide operator mode equations known
    refine ⟨fun shape declared other => ?_, fun ready own field => ?_,
      fun object solve own solves works open_shape declared => ?_⟩
    · have refused : reply = _ := equations.build_eq
      rw [Preconditioner.build_of_shape known declared other] at refused
      have journal : reply.journal = (operatorSource.toOperator "A").journal := by
        refine (congrArg Reply.journal refused).trans ?_
        exact List.append_nil _
      refine ⟨congrArg Reply.outcome refused, journal, fun declared => ?_⟩
      rw [journal]
      rcases operatorSource.journal_toOperator "A" with silent | ⟨undeclared, _⟩
      · exact silent
      · rw [declared] at undeclared
        cases undeclared
    · subst own
      exact equations.outcome_of_pure (Preconditioner.build_ready known) field
    · subst own
      subst solves
      refine equations.outcome_of_pure
        (Preconditioner.build_of_open_shape works open_shape declared known) fun field own => ?_
      cases own
      rfl

/-! ### Two equations and a preconditioner for three -/

def Source.unitMatrix (size : Nat) : Source :=
  .dense
    { elementType := .float64
      shape := [size, size]
      entries := (List.range (size * size)).map fun place =>
        .ofReal (if place / size = place % size then 1.0 else 0.0) }

/-- It is not so that what is accepted for some equations is a preconditioner on vectors of as many
entries, or else the identity: a ready one may have been formed for more. -/
theorem ready_preconditioners_of_other_sizes_are_accepted :
    ¬ ∀ (operatorSource source : Source) (data : Data) (modeValue : Value) (size : Int)
        (ready : Preconditioner) (design : Design),
      (Preconditioner.build "M" source modeValue size).outcome = .ok ready →
      (Design.build operatorSource data (.preconditioner ready) modeValue).outcome = .ok design →
      ∀ function ∈ design.preconditioner.function?,
        Preconditioner.OnVectors design.rows function := by
  intro law
  have accepted := law (.unitMatrix 2) (.unitMatrix 3)
    (.array (.vector .float64 [.ofReal 1.0, .ofReal 2.0])) (.text Mode.multiply.name) 3
    _ _ rfl rfl _ rfl
  obtain ⟨same, _⟩ := accepted (.zeros .float64 3) _ 3 rfl rfl
  cases same

end ConjugateResidual
