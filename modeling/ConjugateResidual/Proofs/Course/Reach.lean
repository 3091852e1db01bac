import ConjugateResidual.Proofs.Course.Parts

/-!
The course of a solve as a transition system, in any arithmetic. `Reaches` holds of the states in
which the iterations of a solve come to their test; each follows from the one before by one
iteration. Every solve ends in one of five ways, and those of a solve that iterated are told in
terms of the last state that it reached.
-/

namespace ConjugateResidual

open Arithmetic

variable {J R X Y : Type}

namespace RunState

def held (state : RunState J R X Y) : RunState J R X Y :=
  { state with workspace := { state.workspace with busy := true } }

def released (state : RunState J R X Y) : RunState J R X Y :=
  { state with workspace := { state.workspace with busy := false } }

def ofWorkspace (workspace : Workspace R X Y) : RunState J R X Y :=
  { printed := [], journal := [], workspace }

end RunState

theorem Run.holding_of_free {A : Type} {body : Run J R X Y A} {state : RunState J R X Y}
    (free : state.workspace.busy = false) :
    Run.holding body state = ((body state.held).1, (body state.held).2.released) := by
  unfold Run.holding Workspace.acquire
  rw [free]
  rfl

section Announced

variable [VectorArithmetic R X] [VectorArithmetic R Y]

def Problem.entered (problem : Problem J R X Y) (settings : Settings R)
    (state : RunState J R X Y) : RunState J R X Y :=
  { state.held with
    printed :=
      state.printed ++
        if 0 < settings.interval then [.banner problem.rows problem.columns] else []
    workspace := problem.prepared settings state.held.workspace }

theorem announce_held (problem : Problem J R X Y) (settings : Settings R)
    (state : RunState J R X Y) :
    announce problem settings state.held =
      (.ok (VectorArithmetic.norm problem.rightHandSide), problem.entered settings state) :=
  announce_eq problem settings state.held

end Announced

/-- Every step so far was a full one along the direction. -/
def Course.Underway (course : Course R) : Prop :=
  course.flat = false ∧ course.clipped = false

variable [Arithmetic R]

theorem Course.underway_of_open {threshold : R} {course : Course R}
    (iterating : course.isOver threshold = false) : course.Underway := by
  unfold Course.isOver at iterating
  simp only [Bool.or_eq_false_iff] at iterating
  exact ⟨iterating.1.1.2, iterating.1.2⟩

theorem Course.running_of_open {threshold : R} {course : Course R}
    (iterating : course.isOver threshold = false) : course.exited = false := by
  unfold Course.isOver at iterating
  simp only [Bool.or_eq_false_iff] at iterating
  exact iterating.2

/-- Where a course is not judged by its last step, that step was a full one. -/
theorem Course.underway_of_status {settings : Settings R} {threshold : R} {course : Course R}
    (exits : course.exited = true → course.Underway)
    (inside : course.status settings threshold ≠ .onBoundary)
    (curved : course.status settings threshold ≠ .zeroCurvature) : course.Underway := by
  cases exited : course.exited with
  | true => exact exits exited
  | false =>
      unfold Course.status at inside curved
      simp only [exited, Bool.false_eq_true, if_false] at inside curved
      cases clipped : course.clipped with
      | true => exact absurd (if_pos clipped) inside
      | false =>
          cases flat : course.flat with
          | true => simp [clipped, flat] at curved
          | false => exact ⟨flat, clipped⟩

variable [VectorArithmetic R X] [VectorArithmetic R Y]
variable (problem : Problem J R X Y) (settings : Settings R) (observer : Run J R X Y Bool)

/-- The iterations of a solve that starts in a given state come to their test. -/
inductive Reaches (before : RunState J R X Y) (opening : Opening R) :
    Course R → RunState J R X Y → Prop where
  | opened {norm : R} {entered state : RunState J R X Y}
      (free : before.workspace.busy = false)
      (announced : announce problem settings before.held = (.ok norm, entered))
      (nonzero : isZero norm = false)
      (opens : openCourse problem settings norm entered = (.ok opening, state)) :
      Reaches before opening opening.course state
  | iterated {course next : Course R} {state after : RunState J R X Y}
      (reached : Reaches before opening course state)
      (iterating : course.isOver opening.threshold = false)
      (budget : course.iterations < settings.budget)
      (ran : iterate problem settings observer opening.threshold course state = (.ok next, after)) :
      Reaches before opening next after

inductive Ending (before : RunState J R X Y) :
    Except (Fault R) (Report R) × RunState J R X Y → Prop where
  | refused (busy : before.workspace.busy = true) : Ending before (.error .busy, before)
  | zero {norm : R} {entered final : RunState J R X Y} {outcome : Except (Fault R) (Report R)}
      (announced : announce problem settings before.held = (.ok norm, entered))
      (zero : isZero norm = true)
      (answered : solveZero problem settings entered = (outcome, final)) :
      Ending before (outcome, final.released)
  | unopened {norm : R} {entered after : RunState J R X Y} {fault : Fault R}
      (announced : announce problem settings before.held = (.ok norm, entered))
      (nonzero : isZero norm = false)
      (failed : openCourse problem settings norm entered = (.error fault, after)) :
      Ending before (.error fault, after.released)
  | interrupted {opening : Opening R} {course : Course R} {state after : RunState J R X Y}
      {fault : Fault R}
      (reached : Reaches problem settings observer before opening course state)
      (iterating : course.isOver opening.threshold = false)
      (budget : course.iterations < settings.budget)
      (failed :
        iterate problem settings observer opening.threshold course state = (.error fault, after)) :
      Ending before (.error fault, after.released)
  | finished {opening : Opening R} {course : Course R} {state final : RunState J R X Y}
      {outcome : Except (Fault R) (Report R)}
      (reached : Reaches problem settings observer before opening course state)
      (ended : course.isOver opening.threshold = true ∨ course.iterations = settings.budget)
      (closed : closeCourse problem settings opening course state = (outcome, final)) :
      Ending before (outcome, final.released)

variable {problem settings observer}

theorem Reaches.nonzero {before state : RunState J R X Y} {opening : Opening R} {course : Course R}
    (reached : Reaches problem settings observer before opening course state) :
    isZero (VectorArithmetic.norm problem.rightHandSide : R) = false := by
  induction reached with
  | opened free announced nonzero opens =>
      obtain ⟨rfl, printed, rfl⟩ := of_announce_eq announced
      exact nonzero
  | iterated reached iterating budget ran ih => exact ih

/-- A report tells what the recorder holds at the end. -/
theorem Ending.stats_eq {before : RunState J R X Y}
    {result : Except (Fault R) (Report R) × RunState J R X Y}
    (ending : Ending problem settings observer before result) {report : Report R}
    (returned : result.1 = .ok report) : report.stats = result.2.workspace.stats := by
  cases ending with
  | refused busy => cases returned
  | zero announced zero answered =>
      rw [solveZero_apply] at answered
      cases answered
      cases returned
      rfl
  | unopened announced nonzero failed => cases returned
  | interrupted reached iterating budget failed => cases returned
  | finished reached ended closed =>
      obtain ⟨printed, figures, rfl, rfl⟩ := of_closeCourse_eq closed
      cases returned
      rfl

/-- A report tells the mode of the preconditioner, if there is one. -/
theorem Ending.mode_eq {before : RunState J R X Y}
    {result : Except (Fault R) (Report R) × RunState J R X Y}
    (ending : Ending problem settings observer before result) {report : Report R}
    (returned : result.1 = .ok report) : report.mode? = problem.weight?.map Weight.mode := by
  cases ending with
  | refused busy => cases returned
  | zero announced zero answered =>
      rw [solveZero_apply] at answered
      cases answered
      cases returned
      rfl
  | unopened announced nonzero failed => cases returned
  | interrupted reached iterating budget failed => cases returned
  | finished reached ended closed =>
      obtain ⟨printed, figures, rfl, rfl⟩ := of_closeCourse_eq closed
      cases returned
      rfl

/-- A step along the gradient or to the sphere ends the course; any other counts. -/
theorem iterate_counts {threshold : R} {course next : Course R} {state after : RunState J R X Y}
    (ran : iterate problem settings observer threshold course state = (.ok next, after)) :
    next.isOver threshold = true ∧ next.iterations = course.iterations ∨
      next.iterations = course.iterations + 1 := by
  unfold iterate at ran
  obtain ⟨_, _, _, ran⟩ := Run.of_bind_eq_ok ran
  obtain ⟨_, _, _, ran⟩ := Run.of_bind_eq_ok ran
  obtain ⟨flat, between, _, ran⟩ := Run.of_bind_eq_ok ran
  cases flat with
  | true =>
      obtain ⟨_, _, _, ran⟩ := Run.of_bind_eq_ok ran
      rw [Run.pure_apply] at ran
      cases ran
      exact .inl ⟨by simp [Course.isOver], rfl⟩
  | false =>
      obtain ⟨⟨step, clipped⟩, _, _, ran⟩ := Run.of_bind_eq_ok ran
      obtain ⟨_, _, _, ran⟩ := Run.of_bind_eq_ok ran
      cases clipped with
      | true =>
          cases ran
          exact .inl ⟨by simp [Course.isOver], rfl⟩
      | false =>
          obtain ⟨_, _, _, ran⟩ := Run.of_bind_eq_ok ran
          obtain ⟨_, _, _, ran⟩ := Run.of_bind_eq_ok ran
          cases ran
          exact .inr rfl

theorem opening_of_openCourse {norm : R} {opening : Opening R} {entered state : RunState J R X Y}
    (opens : openCourse problem settings norm entered = (.ok opening, state)) :
    ∃ start : Progress R, opening = start.opening settings := by
  cases launches : launch problem settings norm entered with
  | mk outcome after =>
      cases outcome with
      | error fault =>
          rw [openCourse_of_fault settings launches] at opens
          cases opens
      | ok start =>
          obtain ⟨printed, opened⟩ := openCourse_of_launch settings launches
          rw [opened] at opens
          cases opens
          exact ⟨start, rfl⟩

theorem iterations_of_isOver {threshold : R} {course : Course R}
    (ended : course.isOver threshold = true) (remaining : Nat) (state : RunState J R X Y) :
    iterations problem settings observer threshold remaining course state =
      (.ok course, state) := by
  cases remaining with
  | zero => rfl
  | succ remaining =>
      unfold iterations
      rw [if_pos ended]
      rfl

theorem iterations_counts {threshold : R} (remaining : Nat) {course last : Course R}
    {state after : RunState J R X Y}
    (ran : iterations problem settings observer threshold remaining course state =
      (.ok last, after)) :
    course.iterations ≤ last.iterations := by
  induction remaining generalizing course state with
  | zero =>
      cases ran
      exact Nat.le_refl _
  | succ remaining ih =>
      unfold iterations at ran
      split at ran
      · cases ran
        exact Nat.le_refl _
      · obtain ⟨next, between, iterated, ran⟩ := Run.of_bind_eq_ok ran
        have later := ih ran
        rcases iterate_counts iterated with ⟨_, counted⟩ | counted
        · omega
        · omega

/-- From a reached state the iterations lead to the last reached state, or to an iteration that
fails. -/
private theorem iterations_reach {before : RunState J R X Y} {opening : Opening R}
    (remaining : Nat) {course : Course R} {state : RunState J R X Y}
    (reached : Reaches problem settings observer before opening course state)
    (within : course.isOver opening.threshold = true ∨
      course.iterations + remaining = settings.budget) :
    (∃ last final,
      iterations problem settings observer opening.threshold remaining course state =
          (.ok last, final) ∧
        Reaches problem settings observer before opening last final ∧
        (last.isOver opening.threshold = true ∨ last.iterations = settings.budget)) ∨
    ∃ fault last state' after,
      iterations problem settings observer opening.threshold remaining course state =
          (.error fault, after) ∧
        Reaches problem settings observer before opening last state' ∧
        last.isOver opening.threshold = false ∧ last.iterations < settings.budget ∧
        iterate problem settings observer opening.threshold last state' =
          (.error fault, after) := by
  -- What is left of the budget shrinks as the count grows, so both run out together.
  induction remaining generalizing course state with
  | zero =>
      exact .inl ⟨course, state, rfl, reached, within⟩
  | succ remaining ih =>
      unfold iterations
      cases ended : course.isOver opening.threshold with
      | true => exact .inl ⟨course, state, rfl, reached, .inl ended⟩
      | false =>
          have count : course.iterations + (remaining + 1) = settings.budget :=
            within.resolve_left (by simp [ended])
          have budget : course.iterations < settings.budget := by omega
          simp only [Bool.false_eq_true, if_false]
          cases ran : iterate problem settings observer opening.threshold course state with
          | mk outcome after =>
              cases outcome with
              | error fault =>
                  rw [Run.bind_of_error ran]
                  exact .inr ⟨fault, course, state, after, rfl, reached, ended, budget, ran⟩
              | ok next =>
                  rw [Run.bind_of_ok ran]
                  apply ih (.iterated reached ended budget ran)
                  rcases iterate_counts ran with ⟨last, _⟩ | counted
                  · exact .inl last
                  · exact .inr (by omega)

theorem solve_of_zero {before entered : RunState J R X Y} {norm : R}
    (free : before.workspace.busy = false)
    (announced : announce problem settings before.held = (.ok norm, entered))
    (zero : isZero norm = true) :
    solve problem settings observer before =
      ((solveZero problem settings entered).1,
        (solveZero problem settings entered).2.released) := by
  rw [solve_eq, Run.holding_of_free free, Run.bind_of_ok announced, zero]
  rfl

theorem solve_of_nonzero {before entered : RunState J R X Y} {norm : R}
    (free : before.workspace.busy = false)
    (announced : announce problem settings before.held = (.ok norm, entered))
    (nonzero : isZero norm = false) :
    solve problem settings observer before =
      let result := solveNonzero problem settings observer norm entered
      (result.1, result.2.released) := by
  rw [solve_eq, Run.holding_of_free free, Run.bind_of_ok announced, nonzero]
  rfl

theorem solve_of_opened {before entered state : RunState J R X Y} {norm : R} {opening : Opening R}
    (free : before.workspace.busy = false)
    (announced : announce problem settings before.held = (.ok norm, entered))
    (nonzero : isZero norm = false)
    (opens : openCourse problem settings norm entered = (.ok opening, state)) :
    solve problem settings observer before =
      let result :=
        (iterations problem settings observer opening.threshold settings.budget opening.course >>=
          closeCourse problem settings opening) state
      (result.1, result.2.released) := by
  rw [solve_of_nonzero free announced nonzero, solveNonzero, Run.bind_of_ok opens]

private theorem ending_of_opened {before entered state : RunState J R X Y} {norm : R}
    {opening : Opening R}
    (reached : Reaches problem settings observer before opening opening.course state)
    (opens : openCourse problem settings norm entered = (.ok opening, state)) :
    Ending problem settings observer before
      (let result :=
        (iterations problem settings observer opening.threshold settings.budget opening.course >>=
          closeCourse problem settings opening) state
      (result.1, result.2.released)) := by
  obtain ⟨start, starts⟩ := opening_of_openCourse opens
  have budget : opening.course.iterations + settings.budget = settings.budget := by
    rw [starts]
    exact Nat.zero_add _
  rcases iterations_reach settings.budget reached (.inr budget) with
    ⟨last, final, ran, last_reached, ended⟩ |
    ⟨fault, last, state', after, failed, last_reached, iterating, spare, ran⟩
  · rw [Run.bind_of_ok ran]
    exact .finished last_reached ended rfl
  · rw [Run.bind_of_error failed]
    exact .interrupted last_reached iterating spare ran

/-- From a reached state the rest of the solve goes on as if it had begun there. -/
theorem Reaches.continues {before state : RunState J R X Y} {opening : Opening R}
    {course : Course R}
    (reached : Reaches problem settings observer before opening course state) :
    ∃ remaining,
      (course.isOver opening.threshold = true ∨
        course.iterations + remaining = settings.budget) ∧
      solve problem settings observer before =
        let result :=
          (iterations problem settings observer opening.threshold remaining course >>=
            closeCourse problem settings opening) state
        (result.1, result.2.released) := by
  induction reached with
  | opened free announced nonzero opens =>
      obtain ⟨start, starts⟩ := opening_of_openCourse opens
      refine ⟨settings.budget, .inr ?_, solve_of_opened free announced nonzero opens⟩
      rw [starts]
      exact Nat.zero_add _
  | @iterated course next state after reached iterating budget ran ih =>
      obtain ⟨remaining, within, solves⟩ := ih
      have count : course.iterations + remaining = settings.budget :=
        within.resolve_left (by simp [iterating])
      obtain ⟨left, rfl⟩ : ∃ left, remaining = left + 1 :=
        Nat.exists_eq_succ_of_ne_zero (by omega)
      refine ⟨left, ?_, ?_⟩
      · rcases iterate_counts ran with ⟨last, _⟩ | counted
        · exact .inl last
        · exact .inr (by omega)
      · have unfolds :
            iterations problem settings observer opening.threshold (left + 1) course state =
              iterations problem settings observer opening.threshold left next after := by
          rw [iterations, if_neg (by simp [iterating]), Run.bind_of_ok ran]
        rw [solves, Run.bind_apply, Run.bind_apply, unfolds]

/-- A solve ends in the first reached state from which no further iteration is due. -/
theorem Reaches.ends {before state : RunState J R X Y} {opening : Opening R} {course : Course R}
    (reached : Reaches problem settings observer before opening course state)
    (ended : course.isOver opening.threshold = true ∨ course.iterations = settings.budget) :
    ∃ printed figures, solve problem settings observer before =
      let settled := course.settle settings opening.threshold state.workspace
      (.ok
        (problem.reported settings (some figures) (course.warnings settings opening.threshold)
          settled.stats),
        ({ state with printed, workspace := settled } : RunState J R X Y).released) := by
  obtain ⟨remaining, within, solves⟩ := reached.continues
  have stays : iterations problem settings observer opening.threshold remaining course state =
      (.ok course, state) := by
    cases due : course.isOver opening.threshold with
    | true => exact iterations_of_isOver due remaining state
    | false =>
        have spent := ended.resolve_left (by simp [due])
        have count := within.resolve_left (by simp [due])
        have exhausted : remaining = 0 := by omega
        rw [exhausted]
        rfl
  rw [solves, Run.bind_of_ok stays, closeCourse_eq]
  exact ⟨_, _, rfl⟩

/-- A solve fails as soon as an iteration that is due does. -/
theorem Reaches.fails {before state after : RunState J R X Y} {opening : Opening R}
    {course : Course R} {fault : Fault R}
    (reached : Reaches problem settings observer before opening course state)
    (iterating : course.isOver opening.threshold = false)
    (budget : course.iterations < settings.budget)
    (failed :
      iterate problem settings observer opening.threshold course state = (.error fault, after)) :
    solve problem settings observer before = (.error fault, after.released) := by
  obtain ⟨remaining, within, solves⟩ := reached.continues
  have count : course.iterations + remaining = settings.budget :=
    within.resolve_left (by simp [iterating])
  obtain ⟨left, rfl⟩ : ∃ left, remaining = left + 1 := Nat.exists_eq_succ_of_ne_zero (by omega)
  have stops :
      iterations problem settings observer opening.threshold (left + 1) course state =
        (.error fault, after) := by
    rw [iterations, if_neg (by simp [iterating]), Run.bind_of_error failed]
  rw [solves, Run.bind_of_error stops]

theorem solve_of_busy {before : RunState J R X Y} (busy : before.workspace.busy = true) :
    solve problem settings observer before = (.error .busy, before) := by
  rw [solve_eq]
  exact Run.holding_of_busy busy

variable (problem settings observer) in
theorem solve_ends (before : RunState J R X Y) :
    Ending problem settings observer before (solve problem settings observer before) := by
  cases free : before.workspace.busy with
  | true =>
      rw [solve_of_busy free]
      exact .refused free
  | false =>
      have announced := announce_held problem settings before
      cases zero : isZero (VectorArithmetic.norm problem.rightHandSide : R) with
      | true =>
          rw [solve_of_zero free announced zero]
          exact .zero announced zero rfl
      | false =>
          cases opens : openCourse problem settings (VectorArithmetic.norm problem.rightHandSide)
              (problem.entered settings before) with
          | mk outcome state =>
              cases outcome with
              | error fault =>
                  rw [solve_of_nonzero free announced zero, solveNonzero, Run.bind_of_error opens]
                  exact .unopened announced zero opens
              | ok opening =>
                  rw [solve_of_opened free announced zero opens]
                  exact ending_of_opened (.opened free announced zero opens) opens

end ConjugateResidual
