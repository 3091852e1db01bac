import ConjugateResidual.Proofs.Course.Watch
import ConjugateResidual.Proofs.Course.Lockstep

/-!
The vector work of a solve apart from its records and from what the observer is asked. An iteration
is an attempt that either ends the course or makes progress, and then is completed; an attempt that
makes progress is an `advance`, in which no setting but the ridge takes part. By the rules of
coupling the work depends on the vectors alone.
-/

namespace ConjugateResidual

open Arithmetic

variable {J R X Y : Type} [Arithmetic R] [VectorArithmetic R X] [VectorArithmetic R Y]
variable (problem : Problem J R X Y) (settings : Settings R)

/-- The launch of a solve before its gradient is recorded. -/
def gather (residual : R) : Run J R X Y (Progress R) := do
  let workspace ← Run.workspace
  let weightedResidual ← problem.weigh workspace.residual
  let gradient ← problem.applyAdjoint weightedResidual
  Run.update ({ · with gradient })
  let gradientImage ← problem.applyForward gradient
  Run.update ({ · with gradientImage })
  let weightedImage ← problem.weigh gradientImage
  Run.update ({ · with direction := gradient, directionImage := gradientImage })
  let plainImage ← problem.applyAdjoint weightedImage
  Run.update ({ · with normalImage := plainImage })
  let normalImage ← addRidge settings.ridge gradient plainImage
  Run.update ({ · with normalImage })
  let curvature ← Run.ofExcept (VectorArithmetic.dot gradientImage weightedImage)
  let optimality := VectorArithmetic.norm gradient
  pure
    { curvature := withRidge settings.ridge curvature optimality
      optimality, residual }

def recordStart (start : Progress R) : Run J R X Y (Progress R) := do
  Run.update fun workspace =>
    { workspace with recorder := workspace.recorder.recordOptimality start.optimality }
  pure start

theorem launch_eq (residual : R) :
    launch problem settings residual = gather problem settings residual >>= recordStart := by
  unfold launch gather recordStart
  simp only [bind_assoc, pure_bind]

theorem openCourse_of_gather_error {norm : R} {fault : Fault R} {entered after : RunState J R X Y}
    (gathered : gather problem settings norm entered = (.error fault, after)) :
    openCourse problem settings norm entered = (.error fault, after) := by
  apply openCourse_of_fault
  rw [launch_eq, Run.bind_of_error gathered]

theorem openCourse_of_gather_ok {norm : R} {progress : Progress R}
    {entered between : RunState J R X Y}
    (gathered : gather problem settings norm entered = (.ok progress, between)) :
    ∃ printed, openCourse problem settings norm entered =
      (.ok (progress.opening settings),
        { between with
          printed
          workspace :=
            { between.workspace with
              recorder := between.workspace.recorder.recordOptimality progress.optimality } }) := by
  have launched : launch problem settings norm entered =
      (.ok progress,
        { between with
          workspace :=
            { between.workspace with
              recorder :=
                between.workspace.recorder.recordOptimality progress.optimality } }) := by
    rw [launch_eq, Run.bind_of_ok gathered]
    rfl
  exact openCourse_of_launch settings launched

/-- A full step along the direction and the next direction. -/
def advance (curvature : R) : Run J R X Y (Progress R) := do
  let before ← Run.workspace
  let normalSquare ←
    Run.ofExcept (VectorArithmetic.dot before.normalImage before.normalImage)
  let step ← Run.ofExcept (quotient curvature normalSquare)
  let optimality ← moveAlong step before.direction before.normalImage
  renewDirection problem settings step curvature optimality

/-- An iteration up to its completion: a course that has ended, or the progress of a full step. -/
def attempt (threshold : R) (course : Course R) : Run J R X Y (Course R ⊕ Progress R) := do
  let before ← Run.workspace
  let normalSquare ←
    Run.ofExcept (VectorArithmetic.dot before.normalImage before.normalImage)
  let flat ← directionIsFlat settings threshold normalSquare
  if flat then
    let optimality ← finishAlongGradient problem settings course.toProgress
    pure (.inl { course with optimality, flat := true })
  else
    let (step, clipped) ←
      Run.ofExcept
        (directionStep settings course.curvature normalSquare before.solution before.direction)
    let optimality ← moveAlong step before.direction before.normalImage
    if clipped then pure (.inl { course with optimality, clipped := true })
    else
      let progress ← renewDirection problem settings step course.curvature optimality
      pure (.inr progress)

def Course.settleAttempt (observer : Run J R X Y Bool) (course : Course R) :
    Course R ⊕ Progress R → Run J R X Y (Course R)
  | .inl next => pure next
  | .inr progress => course.completed settings observer progress

theorem iterate_eq (observer : Run J R X Y Bool) (threshold : R) (course : Course R) :
    iterate problem settings observer threshold course =
      attempt problem settings threshold course >>=
        course.settleAttempt settings observer := by
  unfold iterate attempt
  simp only [bind_assoc]
  congr 1
  funext before
  congr 1
  funext normalSquare
  congr 1
  funext flat
  cases flat with
  | true =>
      simp only [if_true, bind_assoc, pure_bind]
      rfl
  | false =>
      simp only [Bool.false_eq_true, if_false, bind_assoc]
      congr 1
      funext ⟨step, clipped⟩
      cases clipped with
      | true =>
          simp only [if_true, pure_bind]
          rfl
      | false =>
          simp only [Bool.false_eq_true, if_false, bind_assoc, pure_bind]
          rfl

/-! ### What an attempt gives -/

section Inversion

variable {problem settings}

omit [VectorArithmetic R Y] in
private theorem directionStep_full_eq {curvature normalSquare step : R}
    {solution direction : X}
    (stepped :
      directionStep settings curvature normalSquare solution direction = .ok (step, false)) :
    quotient curvature normalSquare = .ok step := by
  unfold directionStep at stepped
  cases divided : quotient curvature normalSquare with
  | error fault =>
      rw [divided] at stepped
      cases stepped
  | ok full =>
      rw [divided] at stepped
      simp only [bind, Except.bind] at stepped
      split at stepped
      · split at stepped
        · cases stepped
        · split at stepped
          · cases stepped
          · cases stepped
            rfl
      · cases stepped
        rfl

variable (settings) in
theorem directionIsFlat_state (threshold normalSquare : R) (state : RunState J R X Y) :
    (directionIsFlat settings threshold normalSquare state).2 = state := by
  unfold directionIsFlat
  rw [Run.bind_of_ok (Run.workspace_apply state)]
  split
  · rfl
  · split
    · cases squared : VectorArithmetic.dot state.workspace.directionImage
          state.workspace.directionImage with
      | error fault => rfl
      | ok square => rfl
    · rfl

theorem attempt_ended {threshold : R} {course next : Course R} {state after : RunState J R X Y}
    (ran : attempt problem settings threshold course state = (.ok (.inl next), after)) :
    next.iterations = course.iterations ∧ next.exited = course.exited ∧ ¬ next.Underway := by
  unfold attempt at ran
  obtain ⟨_, _, _, ran⟩ := Run.of_bind_eq_ok ran
  obtain ⟨_, _, _, ran⟩ := Run.of_bind_eq_ok ran
  obtain ⟨flat, _, _, ran⟩ := Run.of_bind_eq_ok ran
  cases flat with
  | true =>
      obtain ⟨_, _, _, ran⟩ := Run.of_bind_eq_ok ran
      cases ran
      exact ⟨rfl, rfl, fun underway => by cases underway.1⟩
  | false =>
      obtain ⟨⟨step, clipped⟩, _, _, ran⟩ := Run.of_bind_eq_ok ran
      obtain ⟨_, _, _, ran⟩ := Run.of_bind_eq_ok ran
      cases clipped with
      | true =>
          cases ran
          exact ⟨rfl, rfl, fun underway => by cases underway.2⟩
      | false =>
          obtain ⟨_, _, _, ran⟩ := Run.of_bind_eq_ok ran
          cases ran

/-- An attempt makes progress only by an advance. -/
theorem attempt_progressed {threshold : R} {course : Course R} {progress : Progress R}
    {state after : RunState J R X Y}
    (ran : attempt problem settings threshold course state = (.ok (.inr progress), after)) :
    advance problem settings course.curvature state = (.ok progress, after) := by
  unfold attempt at ran
  rw [Run.bind_of_ok (Run.workspace_apply state)] at ran
  obtain ⟨normalSquare, _, squared, ran⟩ := Run.of_bind_eq_ok ran
  obtain ⟨square, rfl⟩ := Run.of_ofExcept_eq squared
  obtain ⟨flat, between, tested, ran⟩ := Run.of_bind_eq_ok ran
  have kept : state = between := by
    have unchanged := directionIsFlat_state settings threshold normalSquare state
    rw [tested] at unchanged
    exact unchanged.symm
  subst kept
  cases flat with
  | true =>
      obtain ⟨_, _, _, ran⟩ := Run.of_bind_eq_ok ran
      cases ran
  | false =>
      obtain ⟨⟨step, clipped⟩, _, stepped, ran⟩ := Run.of_bind_eq_ok ran
      obtain ⟨chosen, rfl⟩ := Run.of_ofExcept_eq stepped
      obtain ⟨optimality, moved, moves, ran⟩ := Run.of_bind_eq_ok ran
      cases clipped with
      | true => cases ran
      | false =>
          obtain ⟨_, _, renews, ran⟩ := Run.of_bind_eq_ok ran
          cases ran
          unfold advance
          rw [Run.bind_of_ok (Run.workspace_apply state), Run.bind_of_ok squared,
            directionStep_full_eq chosen, Run.bind_of_ok (Run.ofExcept_apply _ state),
            Run.bind_of_ok moves]
          exact renews

end Inversion

/-! ### Keeping step -/

variable {bond : Surroundings J R → Surroundings J R → Prop} {copies : Option Y → Option Y → Prop}
variable {space : Y → Prop} {problem} {problem' : Problem J R X Y}

variable (bond copies space problem problem') in
structure Problem.Paired : Prop where
  rightHandSide : problem'.rightHandSide = problem.rightHandSide
  forward : problem'.forward = problem.forward
  adjoint : problem'.adjoint = problem.adjoint
  forwardNotes : ∀ vector, Tolerates bond (problem.forward vector).journal
  adjointNotes : ∀ vector, Tolerates bond (problem.adjoint vector).journal
  weigh : ∀ vector, space vector → ∀ pre,
    Run.Lockstep bond copies pre (problem.weigh vector) (problem'.weigh vector) (fun _ => True) pre
  starts : space problem.rightHandSide
  lands : ∀ vector answer, (problem.forward vector).outcome = .ok answer → space answer
  closed : ∀ {ratio : R} {source target result : Y}, space source → space target →
    VectorArithmetic.combine 1 source ratio target = .ok result → space result

def Vectors.ImagesIn (space : Y → Prop) (vectors : Vectors X Y) : Prop :=
  space vectors.gradientImage ∧ space vectors.directionImage

section Bare

variable {pre : Vectors X Y → Prop}

omit [VectorArithmetic R Y] in
theorem addRidge_lockstep (ridge : R) (source target : X) :
    Run.Lockstep bond copies pre (addRidge (J := J) (Y := Y) ridge source target)
      (addRidge ridge source target) (fun _ => True) pre := by
  unfold addRidge
  split
  · exact .ofExcept fun _ _ => trivial
  · exact .pure trivial

private theorem residualNorm_lockstep (ridge : R) :
    Run.Lockstep bond copies pre (residualNorm (X := X) (Y := Y) ridge) (residualNorm ridge)
      (fun _ => True) pre := by
  unfold residualNorm
  refine .bind_workspace fun workspace workspace' same _ => ?_
  obtain ⟨solution, -, -, -, residual, -, -⟩ := Workspace.parts_eq same
  rw [solution, residual]
  split
  · refine .bind (.ofExcept fun _ _ => trivial) fun _ _ => ?_
    exact .bind (.ofExcept fun _ _ => trivial) fun _ _ => .pure trivial
  · exact .pure trivial

private theorem directionIsFlat_lockstep (threshold normalSquare : R) :
    Run.Lockstep bond copies pre
      (directionIsFlat (J := J) (X := X) (Y := Y) settings threshold normalSquare)
      (directionIsFlat settings threshold normalSquare) (fun _ => True) pre := by
  unfold directionIsFlat
  refine .bind_workspace fun workspace workspace' same _ => ?_
  obtain ⟨-, -, direction, -, -, directionImage, -⟩ := Workspace.parts_eq same
  rw [direction, directionImage]
  split
  · exact .pure trivial
  · split
    · exact .bind (.ofExcept fun _ _ => trivial) fun _ _ => .pure trivial
    · exact .pure trivial

omit [VectorArithmetic R Y] in
theorem moveAlong_lockstep (step : R) (vector normalImage : X) :
    Run.Lockstep bond copies (Vectors.ImagesIn space)
      (moveAlong (J := J) (Y := Y) step vector normalImage) (moveAlong step vector normalImage)
      (fun _ => True) (Vectors.ImagesIn space) := by
  unfold moveAlong
  refine .bind_workspace fun workspace workspace' same _ => ?_
  obtain ⟨solution, gradient, -⟩ := Workspace.parts_eq same
  rw [solution, gradient]
  refine .bind (.ofExcept fun _ _ => trivial) fun solution _ => ?_
  refine .bind (.keep ({ · with solution }) (fun _ => ⟨rfl, rfl, rfl⟩) fun _ images => images)
    fun _ _ => ?_
  refine .bind (.ofExcept fun _ _ => trivial) fun gradient _ => ?_
  refine .bind (.keep ({ · with gradient }) (fun _ => ⟨rfl, rfl, rfl⟩) fun _ images => images)
    fun _ _ => ?_
  exact .pure trivial

end Bare

section Paired

variable (paired : problem.Paired bond copies space problem')
include paired

omit [VectorArithmetic R X] in
theorem applyForward_lockstep {pre : Vectors X Y → Prop} (vector : X) :
    Run.Lockstep bond copies pre (problem.applyForward vector) (problem'.applyForward vector) space
      pre := by
  unfold Problem.applyForward
  rw [paired.forward]
  exact .perform (paired.forwardNotes vector) (paired.lands vector)

omit [VectorArithmetic R X] in
theorem applyAdjoint_lockstep {pre : Vectors X Y → Prop} (vector : Y) :
    Run.Lockstep bond copies pre (problem.applyAdjoint vector) (problem'.applyAdjoint vector)
      (fun _ => True) pre := by
  unfold Problem.applyAdjoint
  rw [paired.adjoint]
  exact .perform (paired.adjointNotes vector) fun _ _ => trivial

private theorem finishAlongGradient_lockstep (progress : Progress R) :
    Run.Lockstep bond copies (Vectors.ImagesIn space)
      (finishAlongGradient problem settings progress)
      (finishAlongGradient problem' settings progress) (fun _ => True)
      (Vectors.ImagesIn space) := by
  unfold finishAlongGradient
  refine .bind_workspace fun workspace workspace' same images => ?_
  obtain ⟨solution, gradient, -, -, -, -, gradientImage⟩ := Workspace.parts_eq same
  rw [solution, gradient, gradientImage]
  refine .bind (paired.weigh _ images.1 _) fun _ _ => ?_
  refine .bind (applyAdjoint_lockstep paired _) fun normalImage _ => ?_
  refine .bind (.keep ({ · with normalImage }) (fun _ => ⟨rfl, rfl, rfl⟩) fun _ images => images)
    fun _ _ => ?_
  refine .bind (addRidge_lockstep _ _ _) fun normalImage _ => ?_
  refine .bind (.keep ({ · with normalImage }) (fun _ => ⟨rfl, rfl, rfl⟩) fun _ images => images)
    fun _ _ => ?_
  exact .bind (.ofExcept fun _ _ => trivial) fun step _ => moveAlong_lockstep _ _ _

theorem renewDirection_lockstep (step oldCurvature optimality : R) :
    Run.Lockstep bond copies (Vectors.ImagesIn space)
      (renewDirection problem settings step oldCurvature optimality)
      (renewDirection problem' settings step oldCurvature optimality) (fun _ => True)
      (Vectors.ImagesIn space) := by
  unfold renewDirection
  refine .bind_workspace fun workspace workspace' same images => ?_
  obtain ⟨-, gradient, direction, -, residual, directionImage, -⟩ := Workspace.parts_eq same
  rw [gradient, direction, residual, directionImage]
  have old : space workspace.directionImage := images.2
  refine .bind (.ofExcept fun _ _ => trivial) fun residual _ => ?_
  refine .bind (.keep ({ · with residual }) (fun _ => ⟨rfl, rfl, rfl⟩) fun _ images => images)
    fun _ _ => ?_
  refine .bind (applyForward_lockstep paired _) fun gradientImage image => ?_
  refine .bind (.keep ({ · with gradientImage }) (fun _ => ⟨rfl, rfl, rfl⟩) fun _ images =>
    ⟨image, images.2⟩) fun _ _ => ?_
  refine .bind (paired.weigh _ image _) fun _ _ => ?_
  refine .bind (.ofExcept fun _ _ => trivial) fun product _ => ?_
  refine .bind (.ofExcept fun _ _ => trivial) fun ratio _ => ?_
  refine .bind (.ofExcept fun _ _ => trivial) fun direction _ => ?_
  refine .bind (.keep ({ · with direction }) (fun _ => ⟨rfl, rfl, rfl⟩) fun _ images => images)
    fun _ _ => ?_
  refine .bind (.ofExcept fun _ combined => paired.closed image old combined)
    fun directionImage combined => ?_
  refine .bind (.keep ({ · with directionImage }) (fun _ => ⟨rfl, rfl, rfl⟩) fun _ images =>
    ⟨images.1, combined⟩) fun _ _ => ?_
  refine .bind (paired.weigh _ combined _) fun _ _ => ?_
  refine .bind (applyAdjoint_lockstep paired _) fun normalImage _ => ?_
  refine .bind (.keep ({ · with normalImage }) (fun _ => ⟨rfl, rfl, rfl⟩) fun _ images => images)
    fun _ _ => ?_
  refine .bind (addRidge_lockstep _ _ _) fun normalImage _ => ?_
  refine .bind (.keep ({ · with normalImage }) (fun _ => ⟨rfl, rfl, rfl⟩) fun _ images => images)
    fun _ _ => ?_
  exact .bind (residualNorm_lockstep _) fun norm _ => .pure trivial

private theorem advance_lockstep (curvature : R) :
    Run.Lockstep bond copies (Vectors.ImagesIn space) (advance problem settings curvature)
      (advance problem' settings curvature) (fun _ => True) (Vectors.ImagesIn space) := by
  unfold advance
  refine .bind_workspace fun workspace workspace' same _ => ?_
  obtain ⟨-, -, direction, normalImage, -⟩ := Workspace.parts_eq same
  rw [direction, normalImage]
  refine .bind (.ofExcept fun _ _ => trivial) fun normalSquare _ => ?_
  refine .bind (.ofExcept fun _ _ => trivial) fun step _ => ?_
  exact .bind (moveAlong_lockstep _ _ _) fun optimality _ =>
    renewDirection_lockstep settings paired _ _ _

theorem attempt_lockstep (threshold : R) (course : Course R) :
    Run.Lockstep bond copies (Vectors.ImagesIn space) (attempt problem settings threshold course)
      (attempt problem' settings threshold course) (fun _ => True) (Vectors.ImagesIn space) := by
  unfold attempt
  refine .bind_workspace fun workspace workspace' same _ => ?_
  obtain ⟨solution, -, direction, normalImage, -⟩ := Workspace.parts_eq same
  rw [solution, direction, normalImage]
  refine .bind (.ofExcept fun _ _ => trivial) fun normalSquare _ => ?_
  refine .bind (directionIsFlat_lockstep settings _ _) fun flat _ => ?_
  split
  · exact .bind (finishAlongGradient_lockstep settings paired _) fun _ _ => .pure trivial
  · refine .bind (.ofExcept fun _ _ => trivial) fun (step, clipped) _ => ?_
    refine .bind (moveAlong_lockstep _ _ _) fun optimality _ => ?_
    cases clipped with
    | true => exact .pure trivial
    | false =>
        exact .bind (renewDirection_lockstep settings paired _ _ _) fun _ _ => .pure trivial

/-- From a residual in the space, the launch makes the first two images. -/
theorem gather_lockstep (residual : R) :
    Run.Lockstep bond copies (fun vectors => space vectors.residual)
      (gather problem settings residual) (gather problem' settings residual) (fun _ => True)
      (Vectors.ImagesIn space) := by
  unfold gather
  refine .bind_workspace fun workspace workspace' same starts => ?_
  rw [(Workspace.parts_eq same).2.2.2.2.1]
  refine .bind (paired.weigh _ starts _) fun _ _ => ?_
  refine .bind (applyAdjoint_lockstep paired _) fun gradient _ => ?_
  refine .bind (.keep ({ · with gradient }) (fun _ => ⟨rfl, rfl, rfl⟩) fun _ starts => starts)
    fun _ _ => ?_
  refine .bind (applyForward_lockstep paired _) fun gradientImage image => ?_
  have first : Run.Lockstep bond copies (fun vectors : Vectors X Y => space vectors.residual)
      (Run.update ({ · with gradientImage })) (Run.update ({ · with gradientImage }))
      (fun _ => True) fun vectors => space vectors.gradientImage :=
    .set ({ · with gradientImage }) (fun _ => ⟨rfl, rfl, rfl⟩) fun _ _ => image
  refine .bind first fun _ _ => ?_
  refine .bind (paired.weigh _ image _) fun weightedImage _ => ?_
  have second : Run.Lockstep bond copies
      (fun vectors : Vectors X Y => space vectors.gradientImage)
      (Run.update ({ · with direction := gradient, directionImage := gradientImage }))
      (Run.update ({ · with direction := gradient, directionImage := gradientImage }))
      (fun _ => True) (Vectors.ImagesIn space) :=
    .set ({ · with direction := gradient, directionImage := gradientImage })
      (fun _ => ⟨rfl, rfl, rfl⟩) fun _ first => ⟨first, image⟩
  refine .bind second fun _ _ => ?_
  refine .bind (applyAdjoint_lockstep paired _) fun normalImage _ => ?_
  refine .bind (.keep ({ · with normalImage }) (fun _ => ⟨rfl, rfl, rfl⟩) fun _ images => images)
    fun _ _ => ?_
  refine .bind (addRidge_lockstep _ _ _) fun normalImage _ => ?_
  refine .bind (.keep ({ · with normalImage }) (fun _ => ⟨rfl, rfl, rfl⟩) fun _ images => images)
    fun _ _ => ?_
  exact .bind (.ofExcept fun _ _ => trivial) fun _ _ => .pure trivial

end Paired

/-! ### Couplings -/

variable {related : Vectors X Y → Vectors X Y → Prop}

section Tolerated

omit [Arithmetic R] [VectorArithmetic R X] [VectorArithmetic R Y]

variable (tolerated : problem.Tolerated bond)
include tolerated

private theorem weigh_coupled (vector : Y) :
    Run.Coupled bond related (problem.weigh vector) (problem.weigh vector) related := by
  unfold Problem.weigh
  cases present : problem.weight? with
  | none => exact .pure _
  | some weight =>
      refine .bind (.perform (tolerated.weight weight present vector)) fun weighted => ?_
      refine .bind (.update (fun _ => rfl) fun _ _ starts => starts) fun _ => ?_
      exact .pure _

private theorem applyForward_coupled (vector : X) :
    Run.Coupled bond related (problem.applyForward vector) (problem.applyForward vector) related :=
  .perform (tolerated.forward vector)

private theorem applyAdjoint_coupled (vector : Y) :
    Run.Coupled bond related (problem.applyAdjoint vector) (problem.applyAdjoint vector) related :=
  .perform (tolerated.adjoint vector)

end Tolerated

omit [VectorArithmetic R Y] in
private theorem addRidge_coupled (ridge : R) (source target : X) :
    Run.Coupled bond related (addRidge (J := J) (Y := Y) ridge source target)
      (addRidge ridge source target) related := by
  unfold addRidge
  split
  · exact .ofExcept _
  · exact .pure _

omit [VectorArithmetic R X] in
theorem Problem.Tolerated.paired (tolerated : problem.Tolerated bond)
    (same : ∀ weighted, copies (some weighted) (some weighted)) :
    problem.Paired bond copies (fun _ => True) problem := by
  refine
    { rightHandSide := rfl, forward := rfl, adjoint := rfl, forwardNotes := tolerated.forward
      adjointNotes := tolerated.adjoint, weigh := ?_, starts := trivial
      lands := fun _ _ _ => trivial, closed := fun _ _ _ => trivial }
  intro vector _ pre
  unfold Problem.weigh
  cases present : problem.weight? with
  | none => exact .pure trivial
  | some weight =>
      refine .bind (.perform (tolerated.weight weight present vector) fun _ _ => trivial)
        fun weighted _ => ?_
      exact .bind (.copy (same weighted)) fun _ _ => .pure trivial

variable (tolerated : problem.Tolerated bond)
include tolerated

theorem advance_coupled (curvature : R) :
    Run.Coupled bond Eq (advance problem settings curvature) (advance problem settings curvature)
      Eq :=
  (advance_lockstep settings (tolerated.paired fun _ => trivial) curvature).coupled
    fun _ => ⟨trivial, trivial⟩

theorem attempt_coupled (threshold : R) (course : Course R) :
    Run.Coupled bond Eq (attempt problem settings threshold course)
      (attempt problem settings threshold course) Eq :=
  (attempt_lockstep settings (tolerated.paired fun _ => trivial) threshold course).coupled
    fun _ => ⟨trivial, trivial⟩

/-- The launch overwrites every vector but the solution and the residual before it reads it. -/
theorem gather_coupled (residual : R) :
    Run.Coupled bond Vectors.Start (gather problem settings residual)
      (gather problem settings residual) Eq := by
  unfold gather
  refine .bind_workspace fun workspace workspace' start => ?_
  rw [show workspace'.residual = workspace.residual from start.residual]
  refine .bind (weigh_coupled tolerated _) fun _ => ?_
  refine .bind (applyAdjoint_coupled tolerated _) fun gradient => ?_
  -- What agrees grows with each vector that is set.
  have gradients : Run.Coupled bond Vectors.Start (Run.update ({ · with gradient }))
      (Run.update ({ · with gradient })) fun vectors vectors' : Vectors X Y =>
        vectors.Start vectors' ∧ vectors'.gradient = vectors.gradient :=
    .update (fun _ => rfl) fun _ _ start => ⟨{ start with }, rfl⟩
  refine .bind gradients fun _ => ?_
  refine .bind (applyForward_coupled tolerated _) fun gradientImage => ?_
  have images : Run.Coupled bond
      (fun vectors vectors' : Vectors X Y =>
        vectors.Start vectors' ∧ vectors'.gradient = vectors.gradient)
      (Run.update ({ · with gradientImage })) (Run.update ({ · with gradientImage }))
      fun vectors vectors' => vectors.Start vectors' ∧
        vectors'.gradient = vectors.gradient ∧ vectors'.gradientImage = vectors.gradientImage :=
    .update (fun _ => rfl) fun _ _ related => ⟨{ related.1 with }, related.2, rfl⟩
  refine .bind images fun _ => ?_
  refine .bind (weigh_coupled tolerated _) fun weightedImage => ?_
  have directions : Run.Coupled bond
      (fun vectors vectors' : Vectors X Y => vectors.Start vectors' ∧
        vectors'.gradient = vectors.gradient ∧ vectors'.gradientImage = vectors.gradientImage)
      (Run.update ({ · with direction := gradient, directionImage := gradientImage }))
      (Run.update ({ · with direction := gradient, directionImage := gradientImage }))
      fun vectors vectors' => vectors' = { vectors with normalImage := vectors'.normalImage } := by
    refine .update (fun _ => rfl) fun _ _ ⟨⟨solution, residual⟩, sameGradient, sameImage⟩ => ?_
    simp only [Workspace.vectors] at solution residual sameGradient sameImage ⊢
    rw [solution, residual, sameGradient, sameImage]
  refine .bind directions fun _ => ?_
  refine .bind (applyAdjoint_coupled tolerated _) fun plainImage => ?_
  have normalImages : Run.Coupled bond
      (fun vectors vectors' : Vectors X Y =>
        vectors' = { vectors with normalImage := vectors'.normalImage })
      (Run.update ({ · with normalImage := plainImage }))
      (Run.update ({ · with normalImage := plainImage })) Eq :=
    .update (fun _ => rfl) fun _ _ same =>
      congrArg (fun vectors : Vectors X Y => { vectors with normalImage := plainImage }) same.symm
  refine .bind normalImages fun _ => ?_
  refine .bind (addRidge_coupled _ _ _) fun normalImage => ?_
  refine .bind (.set ({ · with normalImage }) fun _ => ⟨rfl, rfl⟩) fun _ => ?_
  exact .bind (.ofExcept _) fun curvature => .pure _

/-! ### What stays -/

section Untouched

omit tolerated
variable (holds : Surroundings J R → Prop) {settings}
variable (noted : ∀ notes around, holds around → holds (around.noted notes))
include noted

/-- What surrounds the vectors changes in the journal only. -/
theorem attempt_stays (threshold : R) (course : Course R) {state : RunState J R X Y}
    (held : holds state.surroundings) :
    holds (attempt problem settings threshold course state).2.surroundings := by
  have tolerated : problem.Tolerated fun around _ : Surroundings J R => holds around :=
    { forward := fun _ around _ => noted _ around
      adjoint := fun _ around _ => noted _ around
      weight := fun _ _ _ around _ => noted _ around }
  have twins := attempt_coupled settings tolerated threshold course state state held rfl
  generalize attempt problem settings threshold course state = result at twins ⊢
  cases twins with
  | failed held => exact held
  | returned held related => exact held

theorem gather_stays (residual : R) {state : RunState J R X Y}
    (held : holds state.surroundings) :
    holds (gather problem settings residual state).2.surroundings := by
  have tolerated : problem.Tolerated fun around _ : Surroundings J R => holds around :=
    { forward := fun _ around _ => noted _ around
      adjoint := fun _ around _ => noted _ around
      weight := fun _ _ _ around _ => noted _ around }
  have twins := gather_coupled settings tolerated residual state state held ⟨rfl, rfl⟩
  generalize gather problem settings residual state = result at twins ⊢
  cases twins with
  | failed held => exact held
  | returned held related => exact held

end Untouched

end ConjugateResidual
