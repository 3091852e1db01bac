import ConjugateResidual.Proofs.Course.Upkeep

/-!
The step of an iteration, in any arithmetic: which one the tests choose, and the solution to which
it leads. `attempt_chooses` says that an attempt makes the chosen step.
-/

namespace ConjugateResidual

open Arithmetic

inductive Step where
  | full
  | toSphere
  | alongGradient
  deriving DecidableEq, Repr

variable {J R X Y : Type} [Arithmetic R] [VectorArithmetic R X] [VectorArithmetic R Y]

/-! ### The choice of a step -/

section Choice

variable (settings : Settings R) (threshold : R)

def Workspace.isFlat (workspace : Workspace R X Y) : Except (Fault R) Bool := do
  let normalSquare ← VectorArithmetic.dot workspace.normalImage workspace.normalImage
  if isZero normalSquare then .ok true
  else if isPositive settings.radius then
    let imageSquare ← VectorArithmetic.dot workspace.directionImage workspace.directionImage
    let directionNorm : R := VectorArithmetic.norm workspace.direction
    .ok (le imageSquare (threshold * sqrt normalSquare * directionNorm))
  else .ok false

def Workspace.stepToSphere (workspace : Workspace R X Y) : Except (Fault R) R :=
  let directionNorm : R := VectorArithmetic.norm workspace.direction
  TrustRegion.stepToBoundary workspace.solution workspace.direction settings.radius
    (directionNorm * directionNorm)

def Workspace.reachesSphere (curvature : R) (workspace : Workspace R X Y) :
    Except (Fault R) Bool := do
  let normalSquare ← VectorArithmetic.dot workspace.normalImage workspace.normalImage
  let step ← quotient curvature normalSquare
  if isPositive settings.radius then
    let bound ← workspace.stepToSphere settings
    .ok (le bound step)
  else .ok false

def Course.chooses (course : Course R) (workspace : Workspace R X Y) : Except (Fault R) Step := do
  if ← workspace.isFlat settings threshold then .ok .alongGradient
  else if ← workspace.reachesSphere settings course.curvature then .ok .toSphere
  else .ok .full

def Course.landing (course : Course R) (workspace : Workspace R X Y) : Step → Except (Fault R) X
  | .full => do
      let normalSquare ← VectorArithmetic.dot workspace.normalImage workspace.normalImage
      let step ← quotient course.curvature normalSquare
      VectorArithmetic.addScaled step workspace.direction workspace.solution
  | .toSphere => do
      let bound ← workspace.stepToSphere settings
      VectorArithmetic.addScaled bound workspace.direction workspace.solution
  | .alongGradient => do
      let step ←
        gradientStep settings course.toProgress workspace.solution workspace.gradient
      VectorArithmetic.addScaled step workspace.gradient workspace.solution

variable {settings threshold} {workspace : Workspace R X Y}

theorem Course.chooses_of_isFlat {course : Course R}
    (flat : workspace.isFlat settings threshold = .ok true) :
    course.chooses settings threshold workspace = .ok .alongGradient := by
  unfold chooses
  rw [flat]
  rfl

theorem Course.chooses_of_curved {course : Course R} {reaches : Bool}
    (curved : workspace.isFlat settings threshold = .ok false)
    (reached : workspace.reachesSphere settings course.curvature = .ok reaches) :
    course.chooses settings threshold workspace = .ok (if reaches then .toSphere else .full) := by
  unfold chooses
  rw [curved]
  simp only [bind, Except.bind, Bool.false_eq_true, if_false]
  rw [reached]
  cases reaches with
  | true => rfl
  | false => rfl

theorem isFlat_of_directionIsFlat {state after : RunState J R X Y} {normalSquare : R} {flat : Bool}
    (squared : VectorArithmetic.dot state.workspace.normalImage state.workspace.normalImage =
      .ok normalSquare)
    (tested : directionIsFlat settings threshold normalSquare state = (.ok flat, after)) :
    state.workspace.isFlat settings threshold = .ok flat := by
  unfold Workspace.isFlat
  rw [squared]
  unfold directionIsFlat at tested
  rw [Run.bind_of_ok (Run.workspace_apply state)] at tested
  simp only [bind, Except.bind]
  cases zero : isZero normalSquare with
  | true =>
      simp only [zero, if_true, Run.pure_apply] at tested
      cases tested
      rfl
  | false =>
      simp only [zero, Bool.false_eq_true, if_false] at tested ⊢
      cases bounded : isPositive settings.radius with
      | false =>
          simp only [bounded, Bool.false_eq_true, if_false, Run.pure_apply] at tested
          cases tested
          rfl
      | true =>
          simp only [bounded, if_true] at tested ⊢
          obtain ⟨imageSquare, between, measured, tested⟩ := Run.of_bind_eq_ok tested
          obtain ⟨square, rfl⟩ := Run.of_ofExcept_eq measured
          cases tested
          rw [square]

section Along

variable {course : Course R} {normalSquare step : R} {clipped : Bool}
variable
  (stepped :
    directionStep settings course.curvature normalSquare workspace.solution workspace.direction =
      .ok (step, clipped))
include stepped

omit [VectorArithmetic R Y] in
/-- Along the direction a step is the whole one or, inside a trust region, the shorter one. -/
theorem of_directionStep_eq :
    ∃ whole, quotient course.curvature normalSquare = .ok whole ∧
      (isPositive settings.radius = false ∧ clipped = false ∧ step = whole ∨
        isPositive settings.radius = true ∧ ∃ bound,
          workspace.stepToSphere settings = .ok bound ∧ clipped = le bound whole ∧
            step = if clipped then bound else whole) := by
  unfold directionStep at stepped
  obtain ⟨whole, divided, stepped⟩ := of_bind_eq_ok stepped
  refine ⟨whole, divided, ?_⟩
  cases bounded : isPositive settings.radius with
  | false =>
      rw [bounded, if_neg Bool.false_ne_true] at stepped
      cases stepped
      exact .inl ⟨rfl, rfl, rfl⟩
  | true =>
      rw [bounded, if_pos rfl] at stepped
      obtain ⟨bound, limited, stepped⟩ := of_bind_eq_ok stepped
      refine .inr ⟨rfl, bound, limited, ?_⟩
      cases reaches : le bound whole with
      | true =>
          rw [reaches, if_pos rfl] at stepped
          cases stepped
          exact ⟨rfl, rfl⟩
      | false =>
          rw [reaches, if_neg Bool.false_ne_true] at stepped
          cases stepped
          exact ⟨rfl, rfl⟩

variable
  (squared : VectorArithmetic.dot workspace.normalImage workspace.normalImage = .ok normalSquare)
include squared

omit [VectorArithmetic R Y] in
theorem reachesSphere_of_directionStep :
    workspace.reachesSphere settings course.curvature = .ok clipped := by
  obtain ⟨whole, divided, ⟨unbounded, rfl, rfl⟩ | ⟨bounded, bound, limited, reaches, _⟩⟩ :=
    of_directionStep_eq stepped
  · simp only [Workspace.reachesSphere, squared, divided, unbounded, bind, Except.bind,
      Bool.false_eq_true, if_false]
  · simp only [Workspace.reachesSphere, squared, divided, bounded, limited, reaches, bind,
      Except.bind, if_true]

omit [VectorArithmetic R Y] in
private theorem Course.landing_of_directionStep {landing : X}
    (moved :
      VectorArithmetic.addScaled step workspace.direction workspace.solution = .ok landing) :
    course.landing settings workspace (if clipped then .toSphere else .full) = .ok landing := by
  obtain ⟨whole, divided, ⟨unbounded, rfl, rfl⟩ | ⟨bounded, bound, limited, reaches, length⟩⟩ :=
    of_directionStep_eq stepped
  · simpa only [Course.landing, squared, divided, bind, Except.bind, Bool.false_eq_true,
      if_false] using moved
  · cases clipped with
    | true =>
        rw [if_pos rfl] at length
        subst length
        simpa only [Course.landing, limited, bind, Except.bind, if_true] using moved
    | false =>
        rw [if_neg Bool.false_ne_true] at length
        subst length
        simpa only [Course.landing, squared, divided, bind, Except.bind, Bool.false_eq_true,
          if_false] using moved

end Along

end Choice

/-! ### Where the solution goes -/

section Solution

variable {problem : Problem J R X Y} {settings : Settings R} {solution : X}

omit [Arithmetic R] [VectorArithmetic R X] [VectorArithmetic R Y] in
theorem weigh_keeps_solution (vector : Y) :
    (problem.weigh vector).Keeps (·.solution = solution) fun _ => True := by
  unfold Problem.weigh
  cases problem.weight? with
  | none => exact .pure trivial
  | some weight =>
      refine .bind (.perform fun _ _ => trivial) fun weighted _ => ?_
      exact .bind (.update fun _ kept => kept) fun _ _ => .pure trivial

omit [VectorArithmetic R Y] in
theorem addRidge_keeps_solution (ridge : R) (source target : X) :
    (addRidge (J := J) (Y := Y) ridge source target).Keeps (·.solution = solution)
      fun _ => True := by
  unfold addRidge
  split
  · exact .ofExcept fun _ _ => trivial
  · exact .pure trivial

private theorem residualNorm_keeps_solution (ridge : R) :
    (residualNorm (J := J) (X := X) (Y := Y) ridge).Keeps (·.solution = solution)
      fun _ => True := by
  unfold residualNorm
  refine .bind_workspace fun workspace _ => ?_
  split
  · refine .bind (.ofExcept fun _ _ => trivial) fun _ _ => ?_
    exact .bind (.ofExcept fun _ _ => trivial) fun _ _ => .pure trivial
  · exact .pure trivial

private theorem renewDirection_keeps_solution (step oldCurvature optimality : R) :
    (renewDirection problem settings step oldCurvature optimality).Keeps (·.solution = solution)
      fun _ => True := by
  unfold renewDirection
  refine .bind_workspace fun before _ => ?_
  refine .bind (.ofExcept fun _ _ => trivial) fun _ _ => ?_
  refine .bind (.update fun _ kept => kept) fun _ _ => ?_
  refine .bind (.perform fun _ _ => trivial) fun _ _ => ?_
  refine .bind (.update fun _ kept => kept) fun _ _ => ?_
  refine .bind (weigh_keeps_solution _) fun _ _ => ?_
  refine .bind (.ofExcept fun _ _ => trivial) fun _ _ => ?_
  refine .bind (.ofExcept fun _ _ => trivial) fun _ _ => ?_
  refine .bind (.ofExcept fun _ _ => trivial) fun _ _ => ?_
  refine .bind (.update fun _ kept => kept) fun _ _ => ?_
  refine .bind (.ofExcept fun _ _ => trivial) fun _ _ => ?_
  refine .bind (.update fun _ kept => kept) fun _ _ => ?_
  refine .bind (weigh_keeps_solution _) fun _ _ => ?_
  refine .bind (.perform fun _ _ => trivial) fun _ _ => ?_
  refine .bind (.update fun _ kept => kept) fun _ _ => ?_
  refine .bind (addRidge_keeps_solution _ _ _) fun _ _ => ?_
  refine .bind (.update fun _ kept => kept) fun _ _ => ?_
  exact .bind (residualNorm_keeps_solution _) fun _ _ => .pure trivial

omit [VectorArithmetic R Y] in
theorem moveAlong_lands {step optimality : R} {vector normalImage : X}
    {state after : RunState J R X Y}
    (moved :
      moveAlong (J := J) (Y := Y) step vector normalImage state = (.ok optimality, after)) :
    VectorArithmetic.addScaled step vector state.workspace.solution =
      .ok after.workspace.solution := by
  unfold moveAlong at moved
  rw [Run.bind_of_ok (Run.workspace_apply state)] at moved
  obtain ⟨landing, _, adds, moved⟩ := Run.of_bind_eq_ok moved
  obtain ⟨added, rfl⟩ := Run.of_ofExcept_eq adds
  rw [Run.bind_of_ok (Run.update_apply _ state)] at moved
  obtain ⟨gradient, _, subtracts, moved⟩ := Run.of_bind_eq_ok moved
  obtain ⟨_, rfl⟩ := Run.of_ofExcept_eq subtracts
  cases moved
  exact added

omit [VectorArithmetic R Y] in
private theorem finishAlongGradient_lands {course : Course R} {optimality : R}
    {state after : RunState J R X Y}
    (finished :
      finishAlongGradient problem settings course.toProgress state = (.ok optimality, after)) :
    course.landing settings state.workspace .alongGradient = .ok after.workspace.solution := by
  unfold finishAlongGradient at finished
  rw [Run.bind_of_ok (Run.workspace_apply state)] at finished
  obtain ⟨_, weighed, weighs, finished⟩ := Run.of_bind_eq_ok finished
  obtain ⟨_, applied, applies, finished⟩ := Run.of_bind_eq_ok finished
  rw [Run.bind_of_ok (Run.update_apply _ applied)] at finished
  obtain ⟨_, ridged, ridges, finished⟩ := Run.of_bind_eq_ok finished
  rw [Run.bind_of_ok (Run.update_apply _ ridged)] at finished
  obtain ⟨step, _, steps, finished⟩ := Run.of_bind_eq_ok finished
  obtain ⟨chosen, rfl⟩ := Run.of_ofExcept_eq steps
  have weighed_kept : weighed.workspace.solution = state.workspace.solution :=
    (weigh_keeps_solution _).of_eq weighs rfl
  have applied_kept : weighed.workspace.solution = applied.workspace.solution :=
    congrArg (fun result => result.2.workspace.solution) applies
  have kept : ridged.workspace.solution = state.workspace.solution :=
    (addRidge_keeps_solution _ _ _).of_eq ridges (applied_kept.symm.trans weighed_kept)
  have landed := moveAlong_lands finished
  dsimp only at landed
  rw [kept] at landed
  simpa only [Course.landing, chosen, bind, Except.bind] using landed

/-- An attempt makes the step that its tests have chosen. -/
theorem attempt_chooses {threshold : R} {course : Course R} {tried : Course R ⊕ Progress R}
    {state after : RunState J R X Y}
    (ran : attempt problem settings threshold course state = (.ok tried, after)) :
    ∃ step, course.chooses settings threshold state.workspace = .ok step ∧
      course.landing settings state.workspace step = .ok after.workspace.solution ∧
      match tried with
      | .inl next => ∃ optimality,
          step = .alongGradient ∧ next = { course with optimality, flat := true } ∨
            step = .toSphere ∧ next = { course with optimality, clipped := true }
      | .inr _ => step = .full := by
  unfold attempt at ran
  rw [Run.bind_of_ok (Run.workspace_apply state)] at ran
  obtain ⟨normalSquare, _, squared, ran⟩ := Run.of_bind_eq_ok ran
  obtain ⟨square, rfl⟩ := Run.of_ofExcept_eq squared
  obtain ⟨flat, between, tested, ran⟩ := Run.of_bind_eq_ok ran
  have isFlat := isFlat_of_directionIsFlat square tested
  have unchanged := directionIsFlat_state settings threshold normalSquare state
  rw [tested] at unchanged
  obtain rfl : between = state := unchanged
  cases flat with
  | true =>
      obtain ⟨optimality, _, finished, ran⟩ := Run.of_bind_eq_ok ran
      cases ran
      exact ⟨.alongGradient, Course.chooses_of_isFlat isFlat, finishAlongGradient_lands finished,
        optimality, .inl ⟨rfl, rfl⟩⟩
  | false =>
      obtain ⟨⟨step, clipped⟩, _, stepped, ran⟩ := Run.of_bind_eq_ok ran
      obtain ⟨chosen, rfl⟩ := Run.of_ofExcept_eq stepped
      obtain ⟨optimality, moved, moves, ran⟩ := Run.of_bind_eq_ok ran
      have landed := Course.landing_of_directionStep chosen square (moveAlong_lands moves)
      have chooses :=
        Course.chooses_of_curved isFlat (reachesSphere_of_directionStep chosen square)
      cases clipped with
      | true =>
          cases ran
          exact ⟨.toSphere, chooses, landed, optimality, .inr ⟨rfl, rfl⟩⟩
      | false =>
          obtain ⟨_, _, renews, ran⟩ := Run.of_bind_eq_ok ran
          cases ran
          have kept : after.workspace.solution = moved.workspace.solution :=
            (renewDirection_keeps_solution _ _ _).of_eq renews rfl
          rw [kept]
          exact ⟨.full, chooses, landed, rfl⟩

end Solution

end ConjugateResidual
