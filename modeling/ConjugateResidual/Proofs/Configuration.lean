import ConjugateResidual.Proofs.Course.Refusal
import ConjugateResidual.Proofs.Machine.Probes
import ConjugateResidual.Proofs.Verdict

/-!
A solve that is refused has not touched its problem. What it may have applied are probes, each on
zeros, of objects that do not declare their element type; whatever else its operator and its
preconditioner do has no part in the refusal.
-/

namespace ConjugateResidual

namespace Request

structure Accepted (request : Request) (options : Options Float) (rightHandSide : Tensor)
    (operator : LinearOperator) : Prop where
  known : Options.ofKeywords request.keywords = .ok options
  checked : Design.checkRightHandSide request.data = .ok rightHandSide
  formed : (request.operatorSource.toOperator "A").outcome = .ok operator
  fits : Check.length "b" rightHandSide operator.rows "rows of A" = .ok ()
  agrees : Check.sameField "A" operator.elementType rightHandSide.elementType = .ok ()

private theorem Accepted.of_equations {request : Request} {options : Options Float}
    {rightHandSide : Tensor} {operator : LinearOperator}
    (accepted : request.equations.outcome = .ok (options, rightHandSide, operator)) :
    request.Accepted options rightHandSide operator := by
  unfold equations at accepted
  obtain ⟨_, known, accepted⟩ := Reply.of_bind_eq_ok accepted
  obtain ⟨_, checked, accepted⟩ := Reply.of_bind_eq_ok accepted
  obtain ⟨_, formed, accepted⟩ := Reply.of_bind_eq_ok accepted
  obtain ⟨⟨⟩, fits, accepted⟩ := Reply.of_bind_eq_ok accepted
  obtain ⟨⟨⟩, agrees, accepted⟩ := Reply.of_bind_eq_ok accepted
  cases accepted
  exact { known, checked, formed, fits, agrees }

private theorem Accepted.equations_eq {request : Request} {options : Options Float}
    {rightHandSide : Tensor} {operator : LinearOperator}
    (accepted : request.Accepted options rightHandSide operator) :
    request.equations.outcome = .ok (options, rightHandSide, operator) := by
  unfold equations
  rw [accepted.known, accepted.checked]
  simp only [Reply.ofExcept_ok, pure_bind, Reply.outcome_bind_of_ok accepted.formed, accepted.fits,
    accepted.agrees]
  rfl

structure Probed (request : Request) (ofOperator ofWeight : List Event) : Prop where
  all : request.prepare.journal = ofOperator ++ ofWeight
  operator :
    ofOperator = [] ∨
      request.operatorSource.isUndeclared = true ∧
        (∃ options, Options.ofKeywords request.keywords = .ok options) ∧
        (∃ rightHandSide, Design.checkRightHandSide request.data = .ok rightHandSide) ∧
        ∃ length, ofOperator = [.applied .forward (.zeros (.signed .w8) length)]
  weight :
    ofWeight = [] ∨
      request.weightSource.isUndeclared = true ∧
        (∃ options rightHandSide operator, request.Accepted options rightHandSide operator) ∧
        ∃ action field length, action ≠ .adjoint ∧
          ofWeight = [.applied action (.zeros field length)]

theorem prepare_of_options {request : Request} {fault : Fault Float}
    (unread : Options.ofKeywords request.keywords = .error fault) :
    request.prepare = Reply.fail fault := by
  rw [prepare_eq, equations_of_options unread]
  rfl

theorem prepare_of_data {request : Request} {options : Options Float} {fault : Fault Float}
    (known : Options.ofKeywords request.keywords = .ok options)
    (unfit : Design.checkRightHandSide request.data = .error fault) :
    request.prepare = Reply.fail fault := by
  rw [prepare_eq, equations_of_data known unfit]
  rfl

private theorem probes (request : Request) :
    ∃ ofOperator ofWeight, request.Probed ofOperator ofWeight := by
  have unprobed (silent : request.prepare.journal = []) :
      ∃ ofOperator ofWeight, request.Probed ofOperator ofWeight :=
    ⟨[], [], { all := silent, operator := .inl rfl, weight := .inl rfl }⟩
  cases known : Options.ofKeywords request.keywords with
  | error fault => exact unprobed (by rw [prepare_of_options known]; rfl)
  | ok options =>
      cases checked : Design.checkRightHandSide request.data with
      | error fault => exact unprobed (by rw [prepare_of_data known checked]; rfl)
      | ok rightHandSide =>
          have first := journal_equations known checked
          have ofOperator :
              request.equations.journal = [] ∨
                request.operatorSource.isUndeclared = true ∧
                  (∃ options, Options.ofKeywords request.keywords = .ok options) ∧
                  (∃ tensor, Design.checkRightHandSide request.data = .ok tensor) ∧
                  ∃ length, request.equations.journal =
                    [.applied .forward (.zeros (.signed .w8) length)] := by
            rw [first]
            rcases request.operatorSource.journal_toOperator "A" with silent | ⟨bare, probe⟩
            · exact .inl silent
            · exact .inr ⟨bare, ⟨options, known⟩, ⟨rightHandSide, checked⟩, probe⟩
          cases accepted : request.equations.outcome with
          | error fault =>
              refine ⟨request.equations.journal, [], ?_, ofOperator, .inl rfl⟩
              rw [prepare_of_error accepted, List.append_nil]
          | ok found =>
              obtain ⟨_, _, operator⟩ := found
              refine ⟨_, _, journal_prepare_of_ok accepted, ofOperator, ?_⟩
              rw [journal_weighing]
              rcases Preconditioner.journal_build "M" request.weightSource _ operator.rows with
                silent | ⟨bare, probe⟩
              · exact .inl silent
              · exact .inr ⟨bare, ⟨_, _, _, .of_equations accepted⟩, probe⟩

/-- Where both declare their element types nothing is probed. -/
theorem Probed.journal_eq_nil {request : Request} {ofOperator ofWeight : List Event}
    (probed : request.Probed ofOperator ofWeight)
    (operator : request.operatorSource.isUndeclared = false)
    (weight : request.weightSource.isUndeclared = false) : request.prepare.journal = [] := by
  have first : ofOperator = [] :=
    probed.operator.resolve_right fun ⟨bare, _⟩ => absurd bare (by rw [operator]; decide)
  have second : ofWeight = [] :=
    probed.weight.resolve_right fun ⟨bare, _⟩ => absurd bare (by rw [weight]; decide)
  rw [probed.all, first, second, List.append_nil]

end Request

/-- What is applied before a refusal, for any request, observer and workspace. The preparation makes
no application but its probes, and none before the options and the right-hand side are accepted. A
solve is refused with these notes and no others; if it is not refused it starts on a workspace that
is free. The functions of an operator or of a preconditioner that has been formed have no part in
whether and how the request is refused. -/
theorem refusals_come_before_products (request : Request) (observer : MachineRun Bool) :
    (∃ ofOperator ofWeight, request.Probed ofOperator ofWeight) ∧
    (∀ fault, Options.ofKeywords request.keywords = .error fault →
      request.prepare = Reply.fail fault) ∧
    (∀ options fault, Options.ofKeywords request.keywords = .ok options →
      Design.checkRightHandSide request.data = .error fault →
        request.prepare = Reply.fail fault) ∧
    (request.operatorSource.isUndeclared = false → request.weightSource.isUndeclared = false →
      request.prepare.journal = []) ∧
    (∀ (state : RunState Event Float Tensor Tensor) fault,
      state.workspace.refusal? request.prepare = some fault →
        solveInPlace request.prepare observer state =
          (.error fault, state.noted request.prepare.journal)) ∧
    (∀ state : RunState Event Float Tensor Tensor,
      state.workspace.refusal? request.prepare = none →
        ∃ options problem, request.prepare.outcome = .ok (options, problem) ∧
          state.workspace.busy = false ∧
          solveInPlace request.prepare observer state =
            solveWith options problem observer (state.noted request.prepare.journal)) ∧
    (∀ trail fault, request.prepare.outcome = .error fault →
      solveFresh request.prepare observer trail =
        (.error fault, { trail with journal := trail.journal ++ request.prepare.journal })) ∧
    (∀ operator, (request.operatorSource.toOperator "A").outcome = .ok operator →
      ∀ forward adjoint,
        let other := request.withOperator { operator with forward, adjoint }
        Request.verdict other.prepare = Request.verdict request.prepare ∧
          request.prepare.journal = request.equations.journal ++ other.prepare.journal) ∧
    (∀ options rightHandSide operator, request.Accepted options rightHandSide operator →
      ∀ preconditioner,
        (Preconditioner.build "M" request.weightSource (.text options.mode.name)
          operator.rows).outcome = .ok preconditioner →
        ∀ function?,
          let other := request.withPreconditioner { preconditioner with function? }
          Request.verdict other.prepare = Request.verdict request.prepare ∧
            request.prepare.journal =
              other.prepare.journal ++
                (Preconditioner.build "M" request.weightSource (.text options.mode.name)
                  operator.rows).journal) := by
  obtain ⟨ofOperator, ofWeight, probed⟩ := request.probes
  have starts (state : RunState Event Float Tensor Tensor)
      (admitted : state.workspace.refusal? request.prepare = none) :
      ∃ options problem, request.prepare.outcome = .ok (options, problem) ∧
        state.workspace.busy = false ∧
        solveInPlace request.prepare observer state =
          solveWith options problem observer (state.noted request.prepare.journal) := by
    obtain ⟨options, problem, ready, free, goes⟩ := solveInPlace_of_admitted admitted
    exact ⟨options, problem, ready, free, goes observer⟩
  exact
    ⟨⟨ofOperator, ofWeight, probed⟩,
      fun _ unread => Request.prepare_of_options unread,
      fun _ _ known unfit => Request.prepare_of_data known unfit,
      fun operator weight => probed.journal_eq_nil operator weight,
      fun _ _ refused => solveInPlace_of_refused refused,
      starts,
      fun trail _ unready => solveFresh_of_error unready trail,
      fun _ formed forward adjoint => Request.prepare_withOperator formed forward adjoint,
      fun _ _ _ accepted _ formed function? =>
        Request.prepare_withPreconditioner accepted.equations_eq formed function?⟩

/-- Three equations given by functions that do not declare an element type, with two numbers on the
right-hand side. -/
def Request.misfit : Request :=
  { operatorSource :=
      .plainFunctions <| MatrixFunctions.toFunctions
        { matrix :=
            { elementType := .float64, shape := [3, 2]
              entries := [1.0, 0.0, 0.0, 2.0, 1.0, 1.0].map Entry.ofReal }
          shape := [3, 2], elementType? := none, hasAdjoint := true, outputType? := none }
    data := .array (.vector .float64 ([1.0, 2.0].map Entry.ofReal)) }

/-- The functions are applied once, to zeros, before the right-hand side is found to be too short;
the workspace is left as it was. -/
theorem refusals_come_before_products_misfit :
    ∃ fault length,
      solveInPlace Request.misfit.prepare neverExit (.ofWorkspace .tall) =
        (.error fault,
          RunState.noted [.applied .forward (.zeros (.signed .w8) length)]
            (.ofWorkspace .tall)) := by
  obtain ⟨⟨ofOperator, ofWeight, probed⟩, _, _, _, refused, _⟩ :=
    refusals_come_before_products .misfit neverExit
  have computed : Request.misfit.prepare.outcome.toOption.isNone = true ∧
      Request.misfit.prepare.journal.length = 1 := by
    decide +kernel
  obtain ⟨fails, noted⟩ := computed
  have unweighted : ofWeight = [] :=
    probed.weight.resolve_right fun ⟨bare, _⟩ => absurd bare (by decide)
  have all := probed.all
  rw [unweighted, List.append_nil] at all
  obtain silent | ⟨_, _, _, length, probe⟩ := probed.operator
  · rw [all, silent] at noted
    cases noted
  · cases outcome : Request.misfit.prepare.outcome with
    | ok posed =>
        rw [outcome] at fails
        cases fails
    | error fault =>
        refine ⟨fault, length, ?_⟩
        rw [← probe, ← all]
        refine refused _ fault ?_
        unfold Workspace.refusal?
        rw [outcome]

end ConjugateResidual
