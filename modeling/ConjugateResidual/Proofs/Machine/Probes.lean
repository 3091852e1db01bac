import ConjugateResidual.Proofs.Machine.Stored

/-!
What is applied before a solve starts. While a problem is prepared, an operator or a preconditioner
that declares no element type is applied once to zeros; nothing else is applied, and no data take
part. Faults of the options and of the right-hand side come before that.
-/

namespace ConjugateResidual

theorem Reply.journal_check_bind {J R A : Type} (check : Except (Fault R) Unit)
    {next : Unit → Reply J R A} (silent : (next ()).journal = []) :
    (ofExcept check >>= next).journal = [] :=
  journal_bind_of_silent fun _ => silent

/-- An object that has to be applied to find out its element type. -/
def Source.isUndeclared : Source → Bool
  | .operatorFunctions functions | .plainFunctions functions => functions.elementType?.isNone
  | .solver object => (object.elementType?.or object.factorType?).isNone
  | _ => false

theorem Source.isUndeclared_withoutIntegers (source : Source) :
    source.withoutIntegers.isUndeclared = source.isUndeclared := by
  cases source with
  | dense matrix => rfl
  | sparse matrix => rfl
  | operatorFunctions functions => rfl
  | plainFunctions functions => rfl
  | operator linear => rfl
  | preconditioner ready => rfl
  | factored factors => rfl
  | solver object => rfl
  | value given => rfl

namespace OperatorFunctions

private theorem journal_noted (action : Action) (length : Nat)
    (function : Tensor → Except (Fault Float) Tensor) (operand : Tensor) :
    (noted action length function operand).journal = [.applied action operand] := by
  have silent (product : Tensor) : (sized length product).journal = [] := by
    unfold sized
    split
    · rfl
    · rfl
  unfold noted
  rw [Reply.bind_of_ok rfl]
  dsimp only
  rw [Reply.journal_bind_of_silent silent]
  rfl

private theorem journal_checkedForward (functions : OperatorFunctions) (rows columns : Nat)
    (field : ElementType) :
    (functions.checkedForward rows columns (.zeros field columns)).journal =
      [.applied .forward (.zeros field columns)] := by
  have own : LinearOperator.isVectorOf columns (.zeros field columns) = true := by
    simp [LinearOperator.isVectorOf, Tensor.zeros, Tensor.vector]
  unfold checkedForward LinearOperator.guarded
  rw [if_pos own]
  exact journal_noted ..

/-- A declared operator is not applied, an undeclared one at most once and then to zeros. -/
theorem journal_toOperator (functions : OperatorFunctions) :
    functions.toOperator.journal = [] ∨
      functions.elementType?.isNone = true ∧ ∃ length,
        functions.toOperator.journal = [.applied .forward (.zeros (.signed .w8) length)] := by
  unfold toOperator
  split
  · rename_i rows columns shape
    cases declared : functions.elementType? with
    | some elementType => exact .inl rfl
    | none =>
        refine .inr ⟨rfl, columns, ?_⟩
        refine (Reply.journal_bind_of_silent fun _ => rfl).trans ?_
        exact functions.journal_checkedForward rows columns (.signed .w8)
  · exact .inl rfl

end OperatorFunctions

theorem Source.journal_toOperator (source : Source) (name : String) :
    (source.toOperator name).journal = [] ∨
      source.isUndeclared = true ∧ ∃ length,
        (source.toOperator name).journal = [.applied .forward (.zeros (.signed .w8) length)] := by
  unfold toOperator
  rw [← source.isUndeclared_withoutIntegers]
  cases source.withoutIntegers with
  | dense matrix =>
      dsimp only
      split
      · exact .inl rfl
      · exact .inl rfl
  | sparse matrix => exact .inl rfl
  | operatorFunctions functions => exact functions.journal_toOperator
  | plainFunctions functions => exact functions.journal_toOperator
  | operator linear => exact .inl rfl
  | preconditioner ready => exact .inl rfl
  | factored factors => exact .inl rfl
  | solver object => exact .inl rfl
  | value given => exact .inl rfl

namespace Preconditioner

private theorem journal_multiplying (name : String) (source : Source) :
    (multiplying name source).journal = (source.toOperator name).journal :=
  Reply.journal_bind_of_silent fun _ => rfl

private theorem journal_probe (size : Nat) (solve : Tensor → Except (Fault Float) Tensor) :
    (probe size (SolverObject.noted solve)).journal = [.applied .solve (.zeros .float64 size)] := by
  refine (Reply.journal_bind_of_silent fun _ => rfl).trans ?_
  unfold SolverObject.noted
  rw [Reply.bind_of_ok rfl]
  rfl

/-- Of what solves, only an object without an element type is applied, once and to zeros. -/
theorem journal_solving (name : String) (size : Nat) (source : Source) :
    (solving name size source).journal = [] ∨
      source.isUndeclared = true ∧
        (solving name size source).journal = [.applied .solve (.zeros .float64 size)] := by
  cases source with
  | dense matrix =>
      left
      unfold solving
      dsimp only
      split
      · rfl
      · cases factored : DenseSolver.ofMatrix matrix with
        | error fault => rfl
        | ok factors => rfl
  | sparse matrix =>
      left
      unfold solving
      dsimp only
      cases factored : SparseSolver.ofMatrix matrix with
      | error fault => rfl
      | ok factors => rfl
  | operatorFunctions functions => exact .inl rfl
  | plainFunctions functions => exact .inl rfl
  | operator linear => exact .inl rfl
  | preconditioner ready => exact .inl rfl
  | factored factors => exact .inl rfl
  | value given => exact .inl rfl
  | solver object =>
      obtain ⟨solve?, shape?, elementType?, factorType?⟩ := object
      cases solve? with
      | none => exact .inl rfl
      | some solve =>
          unfold Source.isUndeclared solving
          dsimp only
          cases elementType?.or factorType? with
          | some declared => exact .inl rfl
          | none =>
              refine .inr ⟨rfl, ?_⟩
              refine (Reply.journal_bind_of_silent fun _ => rfl).trans ?_
              exact journal_probe size solve

private theorem journal_construct (name : String) (size : Int) (mode : Mode) (source : Source) :
    (build.construct name size mode source).journal = [] ∨
      source.isUndeclared = true ∧ ∃ action field length, action ≠ .adjoint ∧
        (build.construct name size mode source).journal =
          [.applied action (.zeros field length)] := by
  cases mode with
  | multiply =>
      change (multiplying name source).journal = [] ∨ _ ∧ ∃ _ _ _, _ ∧
        (multiplying name source).journal = _
      rw [journal_multiplying]
      rcases source.journal_toOperator name with silent | ⟨undeclared, length, probed⟩
      · exact .inl silent
      · exact .inr ⟨undeclared, .forward, .signed .w8, length, by decide, probed⟩
  | solve =>
      rcases journal_solving name size.toNat source with silent | ⟨undeclared, probed⟩
      · exact .inl silent
      · exact .inr ⟨undeclared, .solve, .float64, size.toNat, by decide, probed⟩

theorem build_ready {name : String} {ready : Preconditioner} {modeValue : Value} {size : Int}
    {mode : Mode} (known : Check.mode modeValue = .ok mode) :
    build name (.preconditioner ready) modeValue size = pure ready := by
  unfold build
  rw [known]
  rfl

/-- A preconditioner that declares its element type is not applied when it is built, and any other
one at most once and then to zeros. -/
theorem journal_build (name : String) (source : Source) (modeValue : Value) (size : Int) :
    (build name source modeValue size).journal = [] ∨
      source.isUndeclared = true ∧ ∃ action field length, action ≠ .adjoint ∧
        (build name source modeValue size).journal = [.applied action (.zeros field length)] := by
  unfold build
  cases known : Check.mode modeValue with
  | error fault => exact .inl rfl
  | ok mode =>
      have settled : (Reply.ofExcept (.ok mode) : Answer Mode).outcome = .ok mode := rfl
      rw [Reply.bind_of_ok settled, ← source.isUndeclared_withoutIntegers]
      dsimp only [Reply.ofExcept]
      rw [List.nil_append]
      split
      · exact .inl rfl
      · exact .inl rfl
      · split
        · split
          · exact .inl rfl
          · exact journal_construct name size mode _
        · exact journal_construct name size mode _

end Preconditioner

/-! ### The stages of a preparation -/

namespace Request

/-- The options, the right-hand side and the operator of a request, accepted in this order before
its preconditioner is looked at. -/
def equations (request : Request) : Answer (Options Float × Tensor × LinearOperator) := do
  let options ← Reply.ofExcept (Options.ofKeywords request.keywords)
  let rightHandSide ← Reply.ofExcept (Design.checkRightHandSide request.data)
  let operator ← request.operatorSource.toOperator "A"
  Reply.ofExcept (Check.length "b" rightHandSide operator.rows "rows of A")
  Reply.ofExcept (Check.sameField "A" operator.elementType rightHandSide.elementType)
  pure (options, rightHandSide, operator)

def weighing (request : Request) (options : Options Float) (rightHandSide : Tensor)
    (operator : LinearOperator) : Answer Preconditioner := do
  let preconditioner ←
    Preconditioner.build "M" request.weightSource (.text options.mode.name) operator.rows
  match preconditioner.elementType? with
  | some elementType =>
      Reply.ofExcept (Check.sameField "M" elementType rightHandSide.elementType)
  | none => pure ()
  pure preconditioner

theorem prepare_eq (request : Request) :
    request.prepare =
      request.equations >>= fun (options, rightHandSide, operator) =>
        request.weighing options rightHandSide operator >>= fun preconditioner =>
          pure (options, { operator, rightHandSide, preconditioner : Design }.toProblem) := by
  unfold prepare equations weighing Design.build
  simp only [bind_assoc, pure_bind]
  refine bind_congr fun options => bind_congr fun rightHandSide => bind_congr fun operator =>
    bind_congr fun _ => bind_congr fun _ => bind_congr fun preconditioner => ?_
  cases preconditioner.elementType? with
  | none => simp only [pure_bind]
  | some elementType => simp only [bind_assoc, pure_bind]

/-- Faults of the options and of the right-hand side come before the operator is looked at. -/
theorem equations_of_options {request : Request} {fault : Fault Float}
    (unread : Options.ofKeywords request.keywords = .error fault) :
    request.equations = Reply.fail fault := by
  unfold equations
  rw [unread]
  rfl

theorem equations_of_data {request : Request} {options : Options Float} {fault : Fault Float}
    (known : Options.ofKeywords request.keywords = .ok options)
    (unfit : Design.checkRightHandSide request.data = .error fault) :
    request.equations = Reply.fail fault := by
  unfold equations
  rw [known, unfit]
  rfl

theorem journal_equations {request : Request} {options : Options Float} {rightHandSide : Tensor}
    (known : Options.ofKeywords request.keywords = .ok options)
    (checked : Design.checkRightHandSide request.data = .ok rightHandSide) :
    request.equations.journal = (request.operatorSource.toOperator "A").journal := by
  unfold equations
  rw [known, checked]
  exact Reply.journal_bind_of_silent fun operator =>
    Reply.journal_check_bind _ (Reply.journal_check_bind _ rfl)

theorem journal_weighing (request : Request) (options : Options Float) (rightHandSide : Tensor)
    (operator : LinearOperator) :
    (request.weighing options rightHandSide operator).journal =
      (Preconditioner.build "M" request.weightSource (.text options.mode.name)
        operator.rows).journal := by
  unfold weighing
  refine Reply.journal_bind_of_silent fun preconditioner => ?_
  cases preconditioner.elementType? with
  | none => rfl
  | some elementType => exact Reply.journal_check_bind _ rfl

theorem prepare_of_error {request : Request} {fault : Fault Float}
    (refused : request.equations.outcome = .error fault) :
    request.prepare = { journal := request.equations.journal, outcome := .error fault } := by
  rw [prepare_eq, Reply.bind_of_error refused]

section Accepted

variable {request : Request} {options : Options Float} {rightHandSide : Tensor}
variable {operator : LinearOperator}

theorem journal_prepare_of_ok
    (accepted : request.equations.outcome = .ok (options, rightHandSide, operator)) :
    request.prepare.journal =
      request.equations.journal ++ (request.weighing options rightHandSide operator).journal := by
  rw [prepare_eq, Reply.bind_of_ok accepted]
  exact congrArg _ (Reply.journal_bind_of_silent fun _ => rfl)

def verdict {A : Type} (reply : Answer A) : Except (Fault Float) Unit :=
  reply.outcome.map fun _ => ()

theorem verdict_prepare_of_ok
    (accepted : request.equations.outcome = .ok (options, rightHandSide, operator)) :
    verdict request.prepare = verdict (request.weighing options rightHandSide operator) := by
  rw [prepare_eq, Reply.bind_of_ok accepted]
  dsimp only
  unfold verdict
  cases weighs : (request.weighing options rightHandSide operator).outcome with
  | error fault =>
      rw [Reply.bind_of_error weighs]
      rfl
  | ok preconditioner =>
      rw [Reply.bind_of_ok weighs]
      rfl

end Accepted

/-! ### Functions that are not asked -/

def withOperator (request : Request) (operator : LinearOperator) : Request :=
  { request with operatorSource := .operator operator }

def withPreconditioner (request : Request) (preconditioner : Preconditioner) : Request :=
  { request with weightSource := .preconditioner preconditioner }

private theorem equations_withOperator {request : Request} {operator : LinearOperator}
    (formed : (request.operatorSource.toOperator "A").outcome = .ok operator)
    (forward adjoint : Tensor → Answer Tensor) :
    (request.withOperator { operator with forward, adjoint }).equations =
      { journal := []
        outcome := request.equations.outcome.map fun (options, rightHandSide, operator) =>
          (options, rightHandSide, { operator with forward, adjoint }) } := by
  unfold equations withOperator
  cases Options.ofKeywords request.keywords with
  | error fault => rfl
  | ok options =>
      cases Design.checkRightHandSide request.data with
      | error fault => rfl
      | ok rightHandSide =>
          have ready : Source.toOperator "A" (.operator { operator with forward, adjoint }) =
              pure { operator with forward, adjoint } := rfl
          simp only [Reply.ofExcept_ok, pure_bind, ready, Reply.outcome_bind_of_ok formed]
          cases Check.length "b" rightHandSide operator.rows "rows of A" with
          | error fault => rfl
          | ok =>
              cases Check.sameField "A" operator.elementType rightHandSide.elementType with
              | error fault => rfl
              | ok => rfl

/-- Operators that differ in nothing but their functions are prepared alike, apart from the notes
that were made when the first one was formed. -/
theorem prepare_withOperator {request : Request} {operator : LinearOperator}
    (formed : (request.operatorSource.toOperator "A").outcome = .ok operator)
    (forward adjoint : Tensor → Answer Tensor) :
    let other := request.withOperator { operator with forward, adjoint }
    verdict other.prepare = verdict request.prepare ∧
      request.prepare.journal = request.equations.journal ++ other.prepare.journal := by
  intro other
  have same := equations_withOperator formed forward adjoint
  have silent : other.equations.journal = [] := congrArg Reply.journal same
  have outcome : other.equations.outcome = _ := congrArg Reply.outcome same
  cases accepted : request.equations.outcome with
  | error fault =>
      rw [accepted] at outcome
      rw [prepare_of_error accepted, prepare_of_error outcome, silent]
      exact ⟨rfl, (List.append_nil _).symm⟩
  | ok found =>
      rw [accepted] at outcome
      rw [verdict_prepare_of_ok accepted, verdict_prepare_of_ok outcome,
        journal_prepare_of_ok accepted, journal_prepare_of_ok outcome, silent]
      exact ⟨rfl, rfl⟩

/-- Preconditioners that differ in nothing but their functions are prepared alike, apart from the
notes that were made when the first one was formed. -/
theorem prepare_withPreconditioner {request : Request} {options : Options Float}
    {rightHandSide : Tensor} {operator : LinearOperator} {preconditioner : Preconditioner}
    (accepted : request.equations.outcome = .ok (options, rightHandSide, operator))
    (formed : (Preconditioner.build "M" request.weightSource (.text options.mode.name)
      operator.rows).outcome = .ok preconditioner)
    (function? : Option (Tensor → Answer Tensor)) :
    let other := request.withPreconditioner { preconditioner with function? }
    verdict other.prepare = verdict request.prepare ∧
      request.prepare.journal =
        other.prepare.journal ++
          (Preconditioner.build "M" request.weightSource (.text options.mode.name)
            operator.rows).journal := by
  intro other
  have accepted' : other.equations.outcome = .ok (options, rightHandSide, operator) := accepted
  have formed' : Preconditioner.build "M" other.weightSource (.text options.mode.name)
      operator.rows = pure { preconditioner with function? } :=
    Preconditioner.build_ready (Check.mode_name options.mode)
  rw [verdict_prepare_of_ok accepted, verdict_prepare_of_ok accepted',
    journal_prepare_of_ok accepted, journal_prepare_of_ok accepted', journal_weighing,
    journal_weighing, formed', List.append_assoc]
  refine ⟨?_, rfl⟩
  unfold verdict weighing
  rw [formed', pure_bind, Reply.outcome_bind_of_ok formed]
  cases preconditioner.elementType? with
  | none => rfl
  | some elementType =>
      dsimp only
      cases Check.sameField "M" elementType rightHandSide.elementType with
      | error fault => rfl
      | ok => rfl

end Request

end ConjugateResidual
