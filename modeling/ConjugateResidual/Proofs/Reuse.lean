import ConjugateResidual.Proofs.Course.Alike
import ConjugateResidual.Proofs.Course.Views
import ConjugateResidual.Proofs.Machine.Building
import ConjugateResidual.Proofs.Verdict

/-!
A workspace that has been used, beside a fresh one. Solves that were refused, that failed half-way
or that returned leave the vectors, the records and the preconditioned copy in all kinds of states;
none of it reaches a later solve by itself. A right-hand side that is a view of the workspace is
read after the solution has been cleared, so a view of the solution is wiped before it is solved
for.
-/

namespace ConjugateResidual

open Arithmetic

variable {J R X Y : Type} [Arithmetic R] [VectorArithmetic R X] [VectorArithmetic R Y]

/-- The workspaces that come about from one when solves use it one after another. Each solve has
ended, in whatever way, and may have been one for a view of the workspace. -/
inductive Reused (admitted : Reply J R (Options R × Problem J R X Y) → Prop)
    (own : Workspace R X Y) : Workspace R X Y → Prop where
  | unused : Reused admitted own own
  | again {used : Workspace R X Y} {prepared : Reply J R (Options R × Problem J R X Y)}
      {observer : Run J R X Y Bool} (before : Reused admitted own used) (poses : admitted prepared)
      (respects : Run.Respects observer) (trail : Trail J R) :
      Reused admitted own
        (solveInPlace prepared observer { trail with workspace := used }).2.workspace
  | viewed {used : Workspace R X Y} {view : View X Y}
      {prepare : Y → Reply J R (Options R × Problem J R X Y)} {observer : Run J R X Y Bool}
      (before : Reused admitted own used) (poses : admitted (prepare (view.read used)))
      (respects : Run.Respects observer) (trail : Trail J R) :
      Reused admitted own
        (solveInPlaceFrom view prepare observer { trail with workspace := used }).2.workspace

def Reply.Sized (blank : Sizes → X) (prepared : Reply J R (Options R × Problem J R X Y)) : Prop :=
  ∀ options problem, prepared.outcome = .ok (options, problem) → problem.Sized blank

omit [Arithmetic R] in
private theorem View.sized_posed {blank : Sizes → X} {view : View X Y} {workspace : Workspace R X Y}
    {prepare : Y → Reply J R (Options R × Problem J R X Y)}
    (sized : (prepare (view.read workspace)).Sized blank) :
    (view.posed prepare workspace).Sized blank := by
  intro options problem ready
  cases given : (prepare (view.read workspace)).outcome with
  | error fault =>
      rw [View.posed_of_error given] at ready
      cases ready
  | ok result =>
      obtain ⟨_, problem⟩ := result
      rw [View.posed_of_ok given] at ready
      cases ready
      exact sized _ problem given

theorem busy_solveInPlace (prepared : Reply J R (Options R × Problem J R X Y))
    (observer : Run J R X Y Bool) (state : RunState J R X Y) :
    (solveInPlace prepared observer state).2.workspace.busy = state.workspace.busy := by
  cases ready : prepared.outcome with
  | error fault => rw [solveInPlace_of_error ready]
  | ok posed =>
      obtain ⟨options, problem⟩ := posed
      rw [solveInPlace_eq ready]
      dsimp only
      cases state.workspace.checkFits (R := R) problem.rows problem.columns problem.field with
      | error fault => rfl
      | ok => exact Run.busy_holding _ _

theorem Reused.sized {blank : Sizes → X} (lawful : LawfulBlank blank) {own used : Workspace R X Y}
    (reused : Reused (Reply.Sized (J := J) blank) own used)
    (sized : own.Sized blank own.sizes) (free : own.busy = false) :
    used.Sized blank own.sizes ∧ used.busy = false := by
  induction reused with
  | unused => exact ⟨sized, free⟩
  | again before poses respects trail ih =>
      refine ⟨(solveInPlace_keeps lawful respects poses _ ih.1).1, ?_⟩
      rw [busy_solveInPlace]
      exact ih.2
  | viewed before poses respects trail ih =>
      rw [solveInPlaceFrom_eq]
      refine ⟨(solveInPlace_keeps lawful respects (View.sized_posed poses) _ ih.1).1, ?_⟩
      rw [busy_solveInPlace]
      exact ih.2

theorem Reused.mono {admitted admitted' : Reply J R (Options R × Problem J R X Y) → Prop}
    (weaker : ∀ prepared, admitted prepared → admitted' prepared) {own used : Workspace R X Y}
    (reused : Reused admitted own used) : Reused admitted' own used := by
  induction reused with
  | unused => exact .unused
  | again before poses respects trail ih => exact .again ih (weaker _ poses) respects trail
  | viewed before poses respects trail ih => exact .viewed ih (weaker _ poses) respects trail

/-- Nobody who is shown a workspace without its preconditioned copy can tell a solve on it from the
same solve on another one, even if everything that is shown is noted. -/
def Workspace.SolvesLike (J : Type) (used own : Workspace R X Y) : Prop :=
  ∀ (prepared : Reply J R (Options R × Problem J R X Y)) (observer : Run J R X Y Bool)
    (look : Workspace R X Y → List J) (trail : Trail J R), Run.Discreet observer →
    let observer' := Run.noting (fun workspace => look workspace.shown) observer
    Indistinct prepared.Asks
      (solveInPlace prepared observer' { trail with workspace := own })
      (solveInPlace prepared observer' { trail with workspace := used })

theorem Reused.solvesLike {blank : Sizes → X} (lawful : LawfulBlank blank)
    {own used : Workspace R X Y} (reused : Reused (Reply.Sized (J := J) blank) own used)
    (sized : own.Sized blank own.sizes) (free : own.busy = false) : used.SolvesLike J own := by
  intro prepared observer look trail discreet observer'
  obtain ⟨used_sized, used_free⟩ := reused.sized lawful sized free
  exact solveInPlace_indistinct (discreet.noting look) free used_free used_sized.sizes
    (used_sized.solution.trans sized.solution.symm)

/-! ### Views of the used workspace -/

theorem solveInPlace_of_zero {prepared : Reply J R (Options R × Problem J R X Y)}
    {options : Options R} {problem : Problem J R X Y}
    (ready : prepared.outcome = .ok (options, problem)) (observer : Run J R X Y Bool)
    {state : RunState J R X Y} (free : state.workspace.busy = false)
    (fits : state.workspace.checkFits (R := R) problem.rows problem.columns problem.field = .ok ())
    (zero : isZero (VectorArithmetic.norm problem.rightHandSide : R) = true) :
    ∃ report after, solveInPlace prepared observer state = (.ok report, after) ∧
      report.stats.status = .zeroRightHandSide := by
  rw [solveInPlace_eq ready]
  dsimp only
  rw [fits]
  unfold solveWith
  let entered : RunState J R X Y := { state with journal := state.journal ++ prepared.journal }
  have begins : entered.workspace.busy = false := free
  rw [solve_of_zero begins (announce_held _ _ entered) zero, solveZero_apply]
  exact ⟨_, _, rfl, (Workspace.stats_answered _).2.1⟩

private theorem status_of_nonzero {prepared : Reply J R (Options R × Problem J R X Y)}
    {options : Options R} {problem : Problem J R X Y}
    (ready : prepared.outcome = .ok (options, problem))
    (nonzero : isZero (VectorArithmetic.norm problem.rightHandSide : R) = false)
    {observer : Run J R X Y Bool} {state final : RunState J R X Y} {report : Report R}
    (returned : solveInPlace prepared observer state = (.ok report, final)) :
    report.stats.status ≠ .zeroRightHandSide := by
  have solved := of_solveInPlace_eq_ok ready returned
  unfold solveWith at solved
  have account := solve_account problem
    (options.resolve problem.rows problem.columns problem.tolerance) observer
    { state with journal := state.journal ++ prepared.journal }
  rw [solved] at account
  obtain ⟨figures, _, tells, _⟩ := account.tells_nonzero nonzero
  exact tells.known.2

structure Diverge (result result' : Except (Fault R) (Report R) × RunState J R X Y) : Prop where
  idle : ∃ report after, result = (.ok report, after) ∧
    report.stats.status = .zeroRightHandSide
  busy : ∀ report after, result' = (.ok report, after) →
    report.stats.status ≠ .zeroRightHandSide

/-- Solves on a used workspace for right-hand sides that may be views of it, beside the same solves
on another workspace, to which these are arrays like any other. -/
structure Workspace.TellsByViews (J : Type) (used own : Workspace R X Y) : Prop where
  avoiding : ∀ (view : View X Y) (prepare : Y → Reply J R (Options R × Problem J R X Y))
    (observer : Run J R X Y Bool) (look : Workspace R X Y → List J) (trail : Trail J R),
    view.AvoidsSolution → TakesOver prepare (view.read used) → Run.Discreet observer →
      let observer' := Run.noting (fun workspace => look workspace.shown) observer
      Indistinct (prepare (view.read used)).Asks
        (solveInPlace (prepare (view.read used)) observer' { trail with workspace := own })
        (solveInPlaceFrom view prepare observer' { trail with workspace := used })
  /-- A view of the solution is prepared for as it is, but solved for as it is once cleared. -/
  reread : ∀ (view : View X Y) (prepare : Y → Reply J R (Options R × Problem J R X Y))
    (observer : Run J R X Y Bool) (look : Workspace R X Y → List J) (trail : Trail J R),
    Run.Discreet observer →
      let observer' := Run.noting (fun workspace => look workspace.shown) observer
      Indistinct (view.posed prepare used).Asks
        (solveInPlace (view.posed prepare used) observer' { trail with workspace := own })
        (solveInPlaceFrom view prepare observer' { trail with workspace := used })
  wiped : ∀ (view : View X Y) (prepare : Y → Reply J R (Options R × Problem J R X Y))
    (observer : Run J R X Y Bool) (trail : Trail J R) (options : Options R)
    (problem : Problem J R X Y),
    (prepare (view.read used)).outcome = .ok (options, problem) →
      TakesOver prepare (view.read used) →
      used.checkFits (R := R) problem.rows problem.columns problem.field = .ok () →
      isZero (VectorArithmetic.norm (view.read used) : R) = false →
      isZero (VectorArithmetic.norm (view.read used.wiped) : R) = true →
        Diverge (solveInPlaceFrom view prepare observer { trail with workspace := used })
          (solveInPlace (prepare (view.read used)) observer { trail with workspace := own })

private theorem Workspace.SolvesLike.tellsByViews {used own : Workspace R X Y}
    (like : used.SolvesLike J own) (free : used.busy = false) : used.TellsByViews J own := by
  constructor
  case avoiding =>
    intro view prepare observer look trail avoids takes discreet observer'
    rw [solveInPlaceFrom_eq, View.posed_eq takes (avoids.read_wiped used)]
    exact like _ observer look trail discreet
  case reread =>
    intro view prepare observer look trail discreet observer'
    rw [solveInPlaceFrom_eq]
    exact like _ observer look trail discreet
  case wiped =>
    intro view prepare observer trail options problem ready takes fits nonzero zero
    rw [← takes options problem ready] at nonzero
    refine { idle := ?_, busy := fun _ _ returned => status_of_nonzero ready nonzero returned }
    rw [solveInPlaceFrom_eq]
    exact solveInPlace_of_zero (View.posed_of_ok ready) observer free fits zero

/-! ### Scripted observers -/

/-- A workspace that is held refuses to be solved on. -/
theorem solveInPlace_keeps_held {workspace : Workspace R X Y} (held : workspace.busy = true)
    (prepared : Reply J R (Options R × Problem J R X Y)) (observer : Run J R X Y Bool) :
    (solveInPlace prepared observer).Keeps (· = workspace) fun _ => True := by
  unfold solveInPlace
  refine .bind (.perform fun _ _ => trivial) fun (options, problem) _ => ?_
  refine .bind_workspace fun _ _ => ?_
  refine .bind (.ofExcept fun _ _ => trivial) fun _ _ => ?_
  rintro state rfl
  unfold solveWith
  rw [solve_of_busy held]
  exact ⟨rfl, fun _ _ => trivial⟩

namespace Script

variable {workspace : MachineWorkspace}

private theorem since_keeps (first : Int) {action : MachineRun Bool}
    (keeps : action.Keeps (· = workspace) fun _ => True) :
    (since first action).Keeps (· = workspace) fun _ => True := by
  refine .bind_workspace fun _ _ => ?_
  split
  · exact .pure trivial
  · exact keeps

private theorem runNested_keeps (held : workspace.busy = true) (request : Request)
    (inPlace : Bool) :
    (runNested request inPlace).Keeps (· = workspace) fun _ => True := by
  unfold runNested
  split
  · refine .bind (solveInPlace_keeps_held held _ _) fun report _ => ?_
    exact .bind_workspace fun _ _ => .perform fun _ _ => trivial
  · exact .bind (.onTrail _) fun _ _ => .perform fun _ _ => trivial

/-- Whatever a script tries, a solve of its own on the same workspace included. -/
theorem respects (script : Script) : Run.Respects script.observe := by
  intro state held
  suffices keeps : script.observe.Keeps (· = state.workspace) fun _ => True from
    (keeps state rfl).1
  unfold observe
  cases script with
  | exitAt iterations => exact .bind_workspace fun _ _ => .pure trivial
  | constant answer => exact .pure trivial
  | exitBelow name bound =>
      refine .bind_workspace fun workspace _ => ?_
      cases workspace.vector? name with
      | some vector => exact .pure trivial
      | none => exact .throw _
  | raise first message => exact since_keeps first (.throw _)
  | write first part answer =>
      refine since_keeps first (.bind_workspace fun _ _ => ?_)
      exact .bind (.perform fun _ _ => trivial) fun _ _ => .pure trivial
  | assign first field answer =>
      exact since_keeps first (.bind (.perform fun _ _ => trivial) fun _ _ => .pure trivial)
  | nested first request inPlace answer =>
      refine since_keeps first (.bind (runNested_keeps held request inPlace) fun _ _ => ?_)
      exact .pure trivial

end Script

/-! ### Requests -/

def Request.Poses (prepared : Answer (Options Float × MachineProblem)) : Prop :=
  ∃ request : Request, prepared = request.prepare

private theorem Reused.of_requests {own used : MachineWorkspace}
    (reused : Reused Request.Poses own used) :
    Reused (Reply.Sized (J := Event) Tensor.blank) own used := by
  refine reused.mono ?_
  rintro _ ⟨request, rfl⟩ options problem ready
  exact request.sized ready

def Request.prepareFor (request : Request) (tensor : Tensor) :
    Answer (Options Float × MachineProblem) :=
  { request with data := .array tensor }.prepare

/-- Arrays of inexact numbers are not copied when they are checked. -/
theorem Request.takesOver (request : Request) {tensor : Tensor}
    (inexact : tensor.elementType.isInexact = true) : TakesOver request.prepareFor tensor := by
  intro options problem ready
  obtain ⟨design, built, rfl⟩ := Request.of_prepare_eq_ok ready
  obtain ⟨checked, _⟩ := Design.of_build_eq_ok built
  obtain ⟨arrayed, _⟩ := Design.of_checkRightHandSide_eq_ok checked
  have kept : Check.array "b" (.array tensor) = .ok tensor := by
    obtain ⟨elementType, shape, entries⟩ := tensor
    cases elementType with
    | real precision => rfl
    | complex precision => rfl
    | _ => cases inexact
  exact Except.ok.inj (arrayed.symm.trans kept)

def Workspace.WipesSolution (used own : MachineWorkspace) : Prop :=
  ∀ (request : Request) (observer : MachineRun Bool) (trail : Trail Event Float)
    (options : Options Float) (problem : MachineProblem),
    (request.prepareFor used.solution).outcome = .ok (options, problem) →
      used.checkFits (R := Float) problem.rows problem.columns problem.field = .ok () →
      isZero (VectorArithmetic.norm used.solution : Float) = false →
        Diverge
          (solveInPlaceFrom (.ofColumns .solution id) request.prepareFor observer
            { trail with workspace := used })
          (solveInPlace (request.prepareFor used.solution) observer
            { trail with workspace := own })

private theorem Workspace.TellsByViews.wipesSolution {used own : MachineWorkspace}
    (tells : used.TellsByViews Event own) {made : Sizes}
    (supported : made.field.isSupported = true) (sized : used.Sized Tensor.blank made) :
    used.WipesSolution own := by
  intro request observer trail options problem ready fits nonzero
  have isVector := Tensor.cleared_eq_zeros_iff.mp sized.solution
  have inexact : used.solution.elementType.isInexact = true := by
    rw [isVector.elementType]
    exact ElementType.isInexact_of_isSupported supported
  have wiped : used.wiped.solution = .zeros made.field made.columns := sized.solution
  refine tells.wiped (.ofColumns .solution id) request.prepareFor observer trail options problem
    ready (request.takesOver inexact) fits nonzero ?_
  change isZero (Tensor.norm used.wiped.solution) = true
  rw [wiped, Tensor.norm_zeros supported]
  rfl

/-! ### All solves -/

/-- What a workspace went through leaves no trace in later solves, in any arithmetic in which the
updates of a solve keep the sizes of vectors, and in that of the machine, except where a right-hand
side is a view of the solution: it is zero when it is solved for. A solve that returns on a
workspace of its own returns the same on one that was made for the problem before. -/
theorem only_views_of_the_solution_tell (blank : Sizes → X) (lawful : LawfulBlank blank)
    (made : Sizes) (zeroRows : Y) (used : Workspace R X Y)
    (reused : Reused (Reply.Sized (J := J) blank)
      (.fresh made.rows made.columns made.field (blank made) zeroRows) used) :
    let own := Workspace.fresh made.rows made.columns made.field (blank made) zeroRows
    (used.SolvesLike J own ∧ used.TellsByViews J own) ∧
      (∀ (rows columns : Int) (field : ElementType) (own used : MachineWorkspace),
        MachineWorkspace.allocate rows columns field = .ok own → Reused Request.Poses own used →
          used.SolvesLike Event own ∧ used.TellsByViews Event own ∧ used.WipesSolution own) ∧
      ∀ (request : Request) (observer : MachineRun Bool) (trail after : Trail Event Float)
        (workspace : MachineWorkspace) (report : Report Float),
        solveFresh request.prepare observer trail = (.ok (workspace, report), after) →
          ∃ own,
            (MachineWorkspace.forProblem request.operatorSource request.data).outcome = .ok own ∧
              solveInPlace request.prepare observer { trail with workspace := own } =
                (.ok report, { after with workspace }) := by
  intro own
  refine ⟨?_, ?_, ?_⟩
  · have sized := Workspace.sized_fresh lawful made zeroRows
    have like := reused.solvesLike lawful sized rfl
    exact ⟨like, like.tellsByViews (reused.sized lawful sized rfl).2⟩
  · intro rows columns field own used allocated reused
    have admitted := reused.of_requests
    obtain ⟨_, supported, _⟩ := of_bind_eq_ok allocated
    rw [MachineWorkspace.of_allocate_eq_ok allocated] at admitted ⊢
    have sized := Workspace.sized_fresh Tensor.lawful_blank
      ⟨rows.toNat, columns.toNat, field⟩ (Tensor.zeros field rows.toNat)
    have like := admitted.solvesLike Tensor.lawful_blank sized rfl
    obtain ⟨used_sized, free⟩ := admitted.sized Tensor.lawful_blank sized rfl
    have tells := like.tellsByViews free
    exact ⟨like, tells, tells.wipesSolution (Check.of_supportedField_eq_ok supported) used_sized⟩
  · intro request observer trail after workspace report returned
    obtain ⟨options, problem, ready, solved⟩ := solveInPlace_of_solveFresh returned
    exact ⟨_, MachineWorkspace.outcome_forProblem ready, solved⟩

/-! ### One equation in one unknown -/

def Request.unit : Request :=
  { operatorSource :=
      .dense { elementType := .float64, shape := [1, 1], entries := [.ofReal 1.0] }
    data := .array (.vector .float64 [.ofReal 1.0]) }

theorem Request.solves_unit :
    ∃ workspace report after,
      solveFresh Request.unit.prepare neverExit { printed := [], journal := [] } =
        (.ok (workspace, report), after) := by
  have solved : (solveFresh Request.unit.prepare neverExit
      { printed := [], journal := [] }).1.toOption.isSome = true := by decide +kernel
  cases returned : solveFresh Request.unit.prepare neverExit { printed := [], journal := [] } with
  | mk outcome after =>
      rw [returned] at solved
      cases outcome with
      | error fault => cases solved
      | ok result => exact ⟨result.1, result.2, after, rfl⟩

/-- A workspace that has solved one equation is asked to solve it for the solution that it holds. It
answers for zero, while a fresh workspace works the solution out. -/
theorem solution_is_cleared_before_it_is_read_unit :
    let own : MachineWorkspace := .fresh 1 1 .float64 (.zeros .float64 1) (.zeros .float64 1)
    let used := (solveInPlace Request.unit.prepare neverExit (.ofWorkspace own)).2.workspace
    let onUsed :=
      solveInPlaceFrom (.ofColumns .solution id) Request.unit.prepareFor neverExit
        (.ofWorkspace used)
    let onOwn :=
      solveInPlace (Request.unit.prepareFor used.solution) neverExit (.ofWorkspace own)
    Reused Request.Poses own used ∧ used.busy = false ∧
      onUsed.1.toOption.map (fun report => report.stats.status) = some .zeroRightHandSide ∧
      onOwn.1.toOption.map (fun report => report.stats.status) = some .solved ∧
      onUsed.1 ≠ onOwn.1 := by
  intro own used onUsed onOwn
  have reused : Reused (J := Event) Request.Poses own used :=
    .again .unused ⟨Request.unit, rfl⟩ (fun _ _ => rfl) { printed := [], journal := [] }
  have cleared : onUsed.1.toOption.map (fun report => report.stats.status) =
      some .zeroRightHandSide := by decide +kernel
  have kept : onOwn.1.toOption.map (fun report => report.stats.status) = some .solved := by
    decide +kernel
  refine ⟨reused, by decide +kernel, cleared, kept, fun same => ?_⟩
  rw [same, kept] at cleared
  cases cleared

private theorem Request.of_accepts {prepared : Answer (Options Float × MachineProblem)}
    {workspace : MachineWorkspace}
    (accepts : (prepared.outcome.toOption.any fun (_, problem) =>
      (workspace.checkFits (R := Float) problem.rows problem.columns problem.field).isOk) = true) :
    ∃ options problem, prepared.outcome = .ok (options, problem) ∧
      workspace.checkFits (R := Float) problem.rows problem.columns problem.field = .ok () := by
  cases ready : prepared.outcome with
  | error fault =>
      rw [ready] at accepts
      cases accepts
  | ok posed =>
      rw [ready] at accepts
      obtain ⟨options, problem⟩ := posed
      change (workspace.checkFits (R := Float) _ _ _).isOk = true at accepts
      cases fits : workspace.checkFits (R := Float) problem.rows problem.columns
          problem.field with
      | error fault =>
          rw [fits] at accepts
          cases accepts
      | ok => exact ⟨options, problem, rfl, fits⟩

/-- After a solve that a script broke off, a workspace shows an observer what it would have shown
when it was fresh, but a solve for its own solution finds nothing to do. -/
theorem only_views_of_the_solution_tell_unit :
    let made : Sizes := { rows := 1, columns := 1, field := .float64 }
    let own : MachineWorkspace :=
      .fresh 1 1 .float64 (Tensor.blank made) (.zeros .float64 1)
    let broken :=
      (solveInPlace Request.unit.prepare (Script.raise 1 "stop").observe
        (.ofWorkspace own)).2.workspace
    let observer : MachineRun Bool :=
      Run.noting (fun workspace => [.observed workspace.shown]) neverExit
    broken.SolvesLike Event own ∧
      (solveInPlace Request.unit.prepare observer (.ofWorkspace broken)).2.toTrail =
        (solveInPlace Request.unit.prepare observer (.ofWorkspace own)).2.toTrail ∧
      Diverge
        (solveInPlaceFrom (.ofColumns .solution id) Request.unit.prepareFor neverExit
          (.ofWorkspace broken))
        (solveInPlace (Request.unit.prepareFor broken.solution) neverExit (.ofWorkspace own)) ∧
      ∃ workspace report after,
        solveFresh Request.unit.prepare neverExit { printed := [], journal := [] } =
            (.ok (workspace, report), after) ∧
          ∃ forProblem,
            solveInPlace Request.unit.prepare neverExit (.ofWorkspace forProblem) =
              (.ok report, { after with workspace }) := by
  intro made own broken observer
  have nonzero : isZero (VectorArithmetic.norm broken.solution : Float) = false := by
    decide +kernel
  have accepted : ((Request.unit.prepareFor broken.solution).outcome.toOption.any
      fun (_, problem) => (broken.checkFits (R := Float) problem.rows problem.columns
        problem.field).isOk) = true := by
    decide +kernel
  have reused : Reused (J := Event) Request.Poses own broken :=
    .again .unused ⟨Request.unit, rfl⟩ (Script.respects _) { printed := [], journal := [] }
  clear_value broken
  obtain ⟨⟨like, _⟩, onMachine, whole⟩ :=
    only_views_of_the_solution_tell Tensor.blank Tensor.lawful_blank made _ broken
      reused.of_requests
  obtain ⟨_, _, wipes⟩ := onMachine 1 1 .float64 own broken rfl reused
  obtain ⟨workspace, report, after, returned⟩ := Request.solves_unit
  obtain ⟨forProblem, _, solved⟩ := whole _ _ _ _ _ _ returned
  refine ⟨like, ?_, ?_, workspace, report, after, returned, forProblem, solved⟩
  · exact (like Request.unit.prepare neverExit (fun workspace => [.observed workspace])
      { printed := [], journal := [] } Run.discreet_neverExit).trail
  · obtain ⟨options, problem, ready, fits⟩ := Request.of_accepts accepted
    exact wipes Request.unit neverExit { printed := [], journal := [] } options problem ready fits
      nonzero

end ConjugateResidual
