import ConjugateResidual.Proofs.Course.Turns

/-!
Which operators a solve applies, and in which order, in any arithmetic. A journal is read by a
`sign`: every application leaves its own, and nothing else leaves any. `Run.Applies` says what a
part of a solve has applied when it returns; the rules follow the monad, and a row of turns is put
together from its steps.
-/

namespace ConjugateResidual

open Arithmetic

inductive Application where
  | forward | adjoint | weight
  deriving DecidableEq, Repr

variable {J R X Y A B : Type}

section Judgement

variable (sign : J → Option Application)

structure Problem.Signs (problem : Problem J R X Y) : Prop where
  forward : ∀ vector, (problem.forward vector).journal.filterMap sign = [.forward]
  adjoint : ∀ vector, (problem.adjoint vector).journal.filterMap sign = [.adjoint]
  weight : ∀ weight ∈ problem.weight?, ∀ vector,
    (weight.apply vector).journal.filterMap sign = [.weight]

def RunState.applications (state : RunState J R X Y) : List Application :=
  state.journal.filterMap sign

def Run.Idle (observer : Run J R X Y Bool) : Prop :=
  ∀ state, (observer state).2.applications sign = state.applications sign

def Run.Applies (run : Run J R X Y A) (made : List Application) : Prop :=
  ∀ ⦃state after : RunState J R X Y⦄ ⦃value : A⦄, run state = (.ok value, after) →
    after.applications sign = state.applications sign ++ made

namespace Run.Applies

variable {sign} {made later : List Application}

theorem bind {run : Run J R X Y A} {next : A → Run J R X Y B} (first : run.Applies sign made)
    (rest : ∀ value, (next value).Applies sign later) :
    (run >>= next).Applies sign (made ++ later) := by
  intro state after value ran
  obtain ⟨between, middle, begins, ends⟩ := Run.of_bind_eq_ok ran
  rw [rest between ends, first begins, List.append_assoc]

theorem after {run : Run J R X Y A} {next : A → Run J R X Y B} (first : run.Applies sign [])
    (rest : ∀ value, (next value).Applies sign made) : (run >>= next).Applies sign made :=
  first.bind rest

theorem before {run : Run J R X Y A} {next : A → Run J R X Y B} (first : run.Applies sign made)
    (rest : ∀ value, (next value).Applies sign []) : (run >>= next).Applies sign made := by
  have both := first.bind rest
  rwa [List.append_nil] at both

theorem pure (value : A) : (pure value : Run J R X Y A).Applies sign [] := by
  intro state after other ran
  cases ran
  rw [List.append_nil]

theorem ofExcept (outcome : Except (Fault R) A) :
    (Run.ofExcept outcome : Run J R X Y A).Applies sign [] := by
  intro state after value ran
  cases ran
  rw [List.append_nil]

theorem workspace : (Run.workspace : Run J R X Y _).Applies sign [] := by
  intro state after value ran
  cases ran
  rw [List.append_nil]

theorem update (change : Workspace R X Y → Workspace R X Y) :
    (Run.update change : Run J R X Y Unit).Applies sign [] := by
  intro state after value ran
  cases ran
  rw [List.append_nil]
  rfl

theorem perform {reply : Reply J R A} (noted : reply.journal.filterMap sign = made) :
    (Run.perform reply : Run J R X Y A).Applies sign made := by
  intro state after value ran
  obtain ⟨_, rfl⟩ := Prod.mk.inj ran
  unfold RunState.applications
  rw [List.filterMap_append, noted]

end Run.Applies

end Judgement

/-! ### The applications of a step -/

namespace Problem

variable (problem : Problem J R X Y)

def weighing : List Application :=
  if problem.weight?.isSome then [.weight] else []

def launching : List Application :=
  problem.weighing ++ ([.adjoint] ++ ([.forward] ++ (problem.weighing ++ [.adjoint])))

def stepping : Step → List Application
  | .full => [.forward] ++ (problem.weighing ++ (problem.weighing ++ [.adjoint]))
  | .toSphere => []
  | .alongGradient => problem.weighing ++ [.adjoint]

end Problem

variable [Arithmetic R] [VectorArithmetic R X] [VectorArithmetic R Y]
variable {sign : J → Option Application} {problem : Problem J R X Y} {settings : Settings R}

section Parts

omit [VectorArithmetic R Y] in
theorem addRidge_applies (ridge : R) (source target : X) :
    (addRidge ridge source target : Run J R X Y X).Applies sign [] := by
  unfold addRidge
  split
  · exact .ofExcept _
  · exact .pure _

private theorem residualNorm_applies (ridge : R) :
    (residualNorm ridge : Run J R X Y R).Applies sign [] := by
  unfold residualNorm
  refine .after .workspace fun workspace => ?_
  split
  · exact .after (.ofExcept _) fun _ => .after (.ofExcept _) fun _ => .pure _
  · exact .pure _

omit [VectorArithmetic R Y] in
private theorem moveAlong_applies (step : R) (vector normalImage : X) :
    (moveAlong step vector normalImage : Run J R X Y R).Applies sign [] := by
  unfold moveAlong
  refine .after .workspace fun _ => ?_
  refine .after (.ofExcept _) fun _ => .after (.update _) fun _ => ?_
  exact .after (.ofExcept _) fun _ => .after (.update _) fun _ => .pure _

variable (signs : problem.Signs sign)
include signs

omit [Arithmetic R] [VectorArithmetic R X] [VectorArithmetic R Y] in
theorem weigh_applies (vector : Y) : (problem.weigh vector).Applies sign problem.weighing := by
  unfold Problem.weigh Problem.weighing
  cases weighed : problem.weight? with
  | none => exact .pure _
  | some weight =>
      refine .before (.perform (signs.weight weight weighed vector)) fun _ => ?_
      exact .after (.update _) fun _ => .pure _

omit [Arithmetic R] [VectorArithmetic R X] [VectorArithmetic R Y] in
private theorem applyForward_applies (vector : X) :
    (problem.applyForward vector).Applies sign [.forward] :=
  .perform (signs.forward vector)

omit [Arithmetic R] [VectorArithmetic R X] [VectorArithmetic R Y] in
theorem applyAdjoint_applies (vector : Y) :
    (problem.applyAdjoint vector).Applies sign [.adjoint] :=
  .perform (signs.adjoint vector)

private theorem launch_applies (residual : R) :
    (launch problem settings residual).Applies sign problem.launching := by
  unfold launch Problem.launching
  refine .after .workspace fun _ => ?_
  refine .bind (weigh_applies signs _) fun _ => ?_
  refine .bind (applyAdjoint_applies signs _) fun _ => .after (.update _) fun _ => ?_
  refine .bind (applyForward_applies signs _) fun _ => .after (.update _) fun _ => ?_
  refine .bind (weigh_applies signs _) fun _ => .after (.update _) fun _ => ?_
  refine .before (applyAdjoint_applies signs _) fun _ => .after (.update _) fun _ => ?_
  refine .after (addRidge_applies _ _ _) fun _ => .after (.update _) fun _ => ?_
  exact .after (.ofExcept _) fun _ => .after (.update _) fun _ => .pure _

omit [VectorArithmetic R Y] in
private theorem finishAlongGradient_applies (progress : Progress R) :
    (finishAlongGradient problem settings progress).Applies sign
      (problem.stepping .alongGradient) := by
  unfold finishAlongGradient Problem.stepping
  refine .after .workspace fun _ => ?_
  refine .bind (weigh_applies signs _) fun _ => ?_
  refine .before (applyAdjoint_applies signs _) fun _ => .after (.update _) fun _ => ?_
  refine .after (addRidge_applies _ _ _) fun _ => .after (.update _) fun _ => ?_
  exact .after (.ofExcept _) fun _ => moveAlong_applies _ _ _

private theorem renewDirection_applies (step oldCurvature optimality : R) :
    (renewDirection problem settings step oldCurvature optimality).Applies sign
      (problem.stepping .full) := by
  unfold renewDirection Problem.stepping
  refine .after .workspace fun _ => ?_
  refine .after (.ofExcept _) fun _ => .after (.update _) fun _ => ?_
  refine .bind (applyForward_applies signs _) fun _ => .after (.update _) fun _ => ?_
  refine .bind (weigh_applies signs _) fun _ => ?_
  refine .after (.ofExcept _) fun _ => .after (.ofExcept _) fun _ => ?_
  refine .after (.ofExcept _) fun _ => .after (.update _) fun _ => ?_
  refine .after (.ofExcept _) fun _ => .after (.update _) fun _ => ?_
  refine .bind (weigh_applies signs _) fun _ => ?_
  refine .before (applyAdjoint_applies signs _) fun _ => .after (.update _) fun _ => ?_
  refine .after (addRidge_applies _ _ _) fun _ => .after (.update _) fun _ => ?_
  exact .after (residualNorm_applies _) fun _ => .pure _

/-- An attempt applies what the step that it chooses takes. -/
theorem attempt_applies {threshold : R} {course : Course R} {tried : Course R ⊕ Progress R}
    {state after : RunState J R X Y}
    (ran : attempt problem settings threshold course state = (.ok tried, after)) :
    ∃ step, course.chooses settings threshold state.workspace = .ok step ∧
      after.applications sign = state.applications sign ++ problem.stepping step := by
  unfold attempt at ran
  rw [Run.bind_of_ok (Run.workspace_apply state)] at ran
  obtain ⟨normalSquare, _, squared, ran⟩ := Run.of_bind_eq_ok ran
  obtain ⟨square, rfl⟩ := Run.of_ofExcept_eq squared
  obtain ⟨flat, between, tested, ran⟩ := Run.of_bind_eq_ok ran
  have isFlat := isFlat_of_directionIsFlat square tested
  have unchanged := directionIsFlat_state settings threshold normalSquare state
  rw [tested] at unchanged
  obtain rfl : between = state := unchanged
  cases flat with
  | true =>
      refine ⟨.alongGradient, Course.chooses_of_isFlat isFlat, ?_⟩
      exact (finishAlongGradient_applies signs _).before (fun _ => .pure _) ran
  | false =>
      obtain ⟨⟨step, clipped⟩, _, stepped, ran⟩ := Run.of_bind_eq_ok ran
      obtain ⟨chosen, rfl⟩ := Run.of_ofExcept_eq stepped
      refine ⟨_, Course.chooses_of_curved isFlat (reachesSphere_of_directionStep chosen square), ?_⟩
      cases clipped with
      | true => exact (moveAlong_applies _ _ _).after (fun _ => .pure _) ran
      | false =>
          have renews (optimality : R) :
              (renewDirection problem settings step course.curvature optimality).Applies sign
                (problem.stepping .full) :=
            renewDirection_applies signs _ _ _
          exact (moveAlong_applies _ _ _).after
            (fun _ => (renews _).before fun _ => .pure _) ran

private theorem openCourse_applies (norm : R) :
    (openCourse problem settings norm).Applies sign problem.launching := by
  intro state after opening opens
  cases launches : launch problem settings norm state with
  | mk outcome between =>
      cases outcome with
      | error fault =>
          rw [openCourse_of_fault settings launches] at opens
          cases opens
      | ok start =>
          obtain ⟨printed, opened⟩ := openCourse_of_launch settings launches
          rw [opened] at opens
          cases opens
          have launched := launch_applies signs norm launches
          exact launched

end Parts

/-! ### The applications of a row of turns -/

def Problem.taking (problem : Problem J R X Y) (turn : Turn J R X Y) : List Application :=
  (turn.step?.map problem.stepping).getD []

/-- A row of turns that come to the end of their steps: it returns, or its last turn has come to the
observer. -/
def Turn.Whole (turns : List (Turn J R X Y)) (outcome : Except (Fault R) A) : Prop :=
  ∀ fault, outcome = .error fault → ∀ turn ∈ turns.getLast?, turn.asked? ≠ none

section Rows

variable {observer : Run J R X Y Bool}
variable (signs : problem.Signs sign) (idle : Run.Idle sign observer)
include signs idle

variable (settings) in
/-- A turn comes to the end of its step if it returns, and also if the observer breaks it off. -/
theorem iterate_applies (threshold : R) (course : Course R) (state : RunState J R X Y)
    (whole : ∀ fault, (iterate problem settings observer threshold course state).1 = .error fault →
      (course.turn problem settings threshold state).asked? ≠ none) :
    (iterate problem settings observer threshold course state).2.applications sign =
      state.applications sign ++ problem.taking (course.turn problem settings threshold state) := by
  rw [iterate_eq, Run.bind_apply] at whole ⊢
  unfold Course.turn at whole ⊢
  cases ran : attempt problem settings threshold course state with
  | mk outcome between =>
      rw [ran] at whole
      cases outcome with
      | error fault => exact absurd rfl (whole fault rfl)
      | ok tried =>
          obtain ⟨step, chosen, applied⟩ := attempt_applies signs ran
          rw [chosen]
          cases tried with
          | inl next => exact applied
          | inr progress =>
              dsimp only [Course.settleAttempt]
              rw [Course.completed_eq]
              exact (idle _).trans applied

private theorem iterations_apply {threshold : R} (remaining : Nat) {course : Course R}
    {state : RunState J R X Y}
    (whole : Turn.Whole (turns problem settings observer threshold remaining course state)
      (iterations problem settings observer threshold remaining course state).1) :
    (iterations problem settings observer threshold remaining course state).2.applications sign =
      state.applications sign ++
        (turns problem settings observer threshold remaining course state).flatMap
          problem.taking := by
  induction remaining generalizing course state with
  | zero => exact (List.append_nil _).symm
  | succ remaining ih =>
      unfold iterations turns at whole ⊢
      cases ended : course.isOver threshold with
      | true => exact (List.append_nil _).symm
      | false =>
          simp only [ended, Bool.false_eq_true, if_false] at whole ⊢
          rw [Run.bind_apply] at whole ⊢
          have applied := iterate_applies settings signs idle threshold course state
          cases ran : iterate problem settings observer threshold course state with
          | mk outcome after =>
              rw [ran] at whole applied
              cases outcome with
              | error fault =>
                  have last := applied fun _ _ => whole fault rfl _ rfl
                  simpa using last
              | ok next =>
                  have first := applied fun fault failed => by cases failed
                  rw [ih, first, List.flatMap_cons, List.append_assoc]
                  intro fault failed turn last
                  refine whole fault failed turn ?_
                  rw [List.getLast?_cons, Option.mem_def.mp last]
                  rfl

end Rows

/-! ### The applications of a solve -/

/-- The applications of a solve that completes a number of iterations; a step along the gradient may
come behind them. -/
def Problem.applying (problem : Problem J R X Y) (count : Nat) (lastStep? : Option Step) :
    List Application :=
  problem.launching ++ ((List.replicate count (problem.stepping .full)).flatten ++
    if lastStep? = some .alongGradient then problem.stepping .alongGradient else [])

omit [Arithmetic R] [VectorArithmetic R X] [VectorArithmetic R Y] in
private theorem Problem.flatMap_taking_of_passes {observer : Run J R X Y Bool}
    {turns : List (Turn J R X Y)} (passes : ∀ turn ∈ turns, turn.Passes observer) :
    turns.flatMap problem.taking =
      (List.replicate turns.length (problem.stepping .full)).flatten := by
  induction turns with
  | nil => rfl
  | cons turn later ih =>
      obtain ⟨full, _⟩ := passes turn (List.mem_cons_self ..)
      have taken : problem.taking turn = problem.stepping .full := by
        unfold Problem.taking
        rw [full]
        rfl
      rw [List.flatMap_cons, taken,
        ih fun turn member => passes turn (List.mem_cons_of_mem _ member),
        List.length_cons, List.replicate_succ, List.flatten_cons]

namespace Problem

variable (problem : Problem J R X Y) (count : Nat) (lastStep? : Option Step)

omit [Arithmetic R] [VectorArithmetic R X] [VectorArithmetic R Y]

theorem count_applying (application : Application) :
    (problem.applying count lastStep?).count application =
      problem.launching.count application +
        (count * (problem.stepping .full).count application +
          if lastStep? = some .alongGradient then
            (problem.stepping .alongGradient).count application
          else 0) := by
  unfold applying
  rw [List.count_append, List.count_append, List.count_flatten, List.map_replicate,
    List.sum_replicate_nat]
  split
  · rfl
  · rfl

private theorem count_weight_weighing :
    problem.weighing.count .weight = if problem.weight?.isSome then 1 else 0 := by
  unfold weighing
  split
  · rfl
  · rfl

private theorem count_weighing {application : Application} (other : application ≠ .weight) :
    problem.weighing.count application = 0 := by
  unfold weighing
  split
  · exact List.count_eq_zero.mpr (by simpa using other)
  · rfl

theorem count_forward_applying :
    (problem.applying count lastStep?).count .forward = count + 1 := by
  rw [count_applying]
  simp [launching, stepping, count_weighing, Nat.add_comm]

theorem count_adjoint_applying :
    (problem.applying count lastStep?).count .adjoint =
      count + 2 + if lastStep? = some .alongGradient then 1 else 0 := by
  rw [count_applying]
  simp [launching, stepping, count_weighing]
  omega

theorem count_weight_applying :
    (problem.applying count lastStep?).count .weight =
      if problem.weight?.isSome then
        2 * count + 2 + if lastStep? = some .alongGradient then 1 else 0
      else 0 := by
  rw [count_applying]
  simp only [launching, stepping, List.count_append, count_weight_weighing]
  split
  · simp
    omega
  · simp

end Problem

section Solves

omit [VectorArithmetic R X] [VectorArithmetic R Y] in
private theorem applications_closed (run : Run J R X Y (Course R)) (opening : Opening R)
    (state : RunState J R X Y) :
    ((run >>= closeCourse problem settings opening) state).2.applications sign =
      (run state).2.applications sign := by
  rw [Run.bind_apply]
  cases ran : run state with
  | mk outcome between =>
      cases outcome with
      | error fault => rfl
      | ok last =>
          dsimp only
          rw [closeCourse_eq]
          rfl

variable {observer : Run J R X Y Bool}

omit [VectorArithmetic R X] [VectorArithmetic R Y] in
/-- All turns but the last one are full steps; the last one may be any. -/
theorem Unfolds.flatMap_taking {threshold : R} {course : Course R} {state : RunState J R X Y}
    {turns : List (Turn J R X Y)} {result : Except (Fault R) (Course R) × RunState J R X Y}
    (unfolds : Unfolds settings observer threshold course state turns result)
    (whole : Turn.Whole turns result.1) :
    problem.launching ++ turns.flatMap problem.taking =
      problem.applying (Turn.consulted turns).length (turns.getLast?.bind Turn.step?) := by
  unfold Problem.applying
  congr 1
  obtain ⟨rfl, _⟩ | ⟨earlier, last, before, between, rfl, passes, _, _, turned⟩ := unfolds.ends
  · rfl
  · rw [List.flatMap_append, Problem.flatMap_taking_of_passes passes, Turn.consulted_concat,
      List.length_append, Turn.length_consulted passes, List.getLast?_concat]
    cases turned with
    | alongGradient => simp [Problem.taking]
    | toSphere => simp [Problem.taking, Problem.stepping]
    | stuck unasked => exact absurd unasked (whole _ rfl last (by simp))
    | asked => simp [Problem.taking, List.replicate_succ']

variable (signs : problem.Signs sign) (idle : Run.Idle sign observer)
include signs idle

variable (settings) in
/-- A solve that returns, or that its observer breaks off, has applied what its turns tell. -/
theorem solve_applies (before : RunState J R X Y)
    (nonzero : isZero (VectorArithmetic.norm problem.rightHandSide : R) = false)
    (whole : ∀ fault, (solve problem settings observer before).1 = .error fault →
      ∃ turn ∈ (solveTurns problem settings observer before).getLast?, turn.asked? ≠ none) :
    (solve problem settings observer before).2.applications sign =
      before.applications sign ++
        problem.applying (consultations problem settings observer before).length
          ((solveTurns problem settings observer before).getLast?.bind Turn.step?) := by
  unfold consultations
  unfold solveTurns at whole ⊢
  cases free : before.workspace.busy with
  | true =>
      rw [free, solve_of_busy free] at whole
      obtain ⟨turn, last, _⟩ := whole .busy rfl
      cases last
  | false =>
      have announced := announce_held problem settings before
      simp only [free, nonzero, Bool.or_self, Bool.false_eq_true, if_false] at whole ⊢
      cases opens : openCourse problem settings (VectorArithmetic.norm problem.rightHandSide)
          (problem.entered settings before) with
      | mk outcome state =>
          rw [opens] at whole
          cases outcome with
          | error fault =>
              rw [solve_of_nonzero free announced nonzero, solveNonzero,
                Run.bind_of_error opens] at whole
              obtain ⟨turn, last, _⟩ := whole fault rfl
              cases last
          | ok opening =>
              have opened :
                  state.applications sign = before.applications sign ++ problem.launching := by
                have applied := openCourse_applies signs _ opens
                exact applied
              rw [solve_of_opened free announced nonzero opens] at whole ⊢
              dsimp only at whole ⊢
              have asked : Turn.Whole
                  (turns problem settings observer opening.threshold settings.budget opening.course
                    state)
                  (iterations problem settings observer opening.threshold settings.budget
                    opening.course state).1 := by
                intro fault failed
                obtain ⟨turn, last, asked⟩ :=
                  whole fault (congrArg Prod.fst (Run.bind_of_error (Prod.ext failed rfl) _))
                intro other same
                rw [Option.mem_def.mp last] at same
                cases same
                exact asked
              have unfolds := iterations_unfold problem settings observer opening.threshold
                settings.budget opening.course state
              rw [← unfolds.flatMap_taking asked, ← List.append_assoc, ← opened,
                ← iterations_apply signs idle settings.budget asked]
              exact applications_closed _ _ _

end Solves

end ConjugateResidual
