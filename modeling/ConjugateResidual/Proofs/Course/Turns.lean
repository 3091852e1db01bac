import ConjugateResidual.Proofs.Course.Choice

/-!
The turns of a solve, in any arithmetic. In each turn the tests of an iteration choose a step, and
after a full step the observer is asked. `turns` lists them along the iterations; `Turned` says all
that a turn can come to, `Unfolds` what a row of turns does, and `Account` how a solve goes with its
turns.
-/

namespace ConjugateResidual

open Arithmetic

structure Turn (J R X Y : Type) where
  /-- The step that is chosen, if the tests come to a choice. -/
  step? : Option Step
  /-- The solution to which this step leads. -/
  landing? : Option X
  /-- The state in which the observer is asked, if the turn comes to that. -/
  asked? : Option (RunState J R X Y)

variable {J R X Y : Type}

variable [Arithmetic R] [VectorArithmetic R X] [VectorArithmetic R Y]

/-! ### One turn -/

variable (problem : Problem J R X Y) (settings : Settings R) (observer : Run J R X Y Bool)

def Course.turn (threshold : R) (course : Course R) (state : RunState J R X Y) : Turn J R X Y :=
  let choice := course.chooses settings threshold state.workspace
  { step? := choice.toOption
    landing? := (choice >>= course.landing settings state.workspace).toOption
    asked? :=
      match attempt problem settings threshold course state with
      | (.ok (.inr progress), between) =>
          some (between.consulted settings (course.iterations + 1) progress)
      | _ => none }

variable {problem settings}

/-- Nothing but the vectors and the preconditioned copy changes in an attempt. -/
theorem frame_attempt (threshold : R) (course : Course R) (state : RunState J R X Y) :
    (attempt problem settings threshold course state).2.workspace.frame =
      state.workspace.frame :=
  attempt_stays (fun around => around.toFrame = state.workspace.frame)
    (fun _ _ same => same) threshold course rfl

theorem frame_gather (norm : R) (state : RunState J R X Y) :
    (gather problem settings norm state).2.workspace.frame = state.workspace.frame :=
  gather_stays (fun around => around.toFrame = state.workspace.frame)
    (fun _ _ same => same) norm rfl

variable (settings) in
inductive Turned (course : Course R) (state : RunState J R X Y) :
    Turn J R X Y → Except (Fault R) (Course R) × RunState J R X Y → Prop where
  | alongGradient {optimality : R} {after : RunState J R X Y}
      (frame : after.workspace.frame = state.workspace.frame) :
      Turned course state
        { step? := some .alongGradient, landing? := some after.workspace.solution, asked? := none }
        (.ok { course with optimality, flat := true }, after)
  | toSphere {optimality : R} {after : RunState J R X Y}
      (frame : after.workspace.frame = state.workspace.frame) :
      Turned course state
        { step? := some .toSphere, landing? := some after.workspace.solution, asked? := none }
        (.ok { course with optimality, clipped := true }, after)
  | stuck {turn : Turn J R X Y} {fault : Fault R} {after : RunState J R X Y}
      (unasked : turn.asked? = none) (frame : after.workspace.frame = state.workspace.frame) :
      Turned course state turn (.error fault, after)
  | asked {progress : Progress R} {between asked : RunState J R X Y}
      (frame : between.workspace.frame = state.workspace.frame)
      (shown : asked = between.consulted settings (course.iterations + 1) progress) :
      Turned course state
        { step? := some .full, landing? := some asked.workspace.solution, asked? := some asked }
        ((observer asked).1.map fun exited =>
          { course with toProgress := progress, iterations := course.iterations + 1, exited },
          (observer asked).2)

theorem iterate_turned (threshold : R) (course : Course R) (state : RunState J R X Y) :
    Turned settings observer course state (course.turn problem settings threshold state)
      (iterate problem settings observer threshold course state) := by
  have frame :
      (attempt problem settings threshold course state).2.workspace.frame =
        state.workspace.frame :=
    frame_attempt threshold course state
  rw [iterate_eq, Run.bind_apply]
  unfold Course.turn
  cases ran : attempt problem settings threshold course state with
  | mk outcome after =>
      rw [ran] at frame
      cases outcome with
      | error fault => exact .stuck rfl frame
      | ok tried =>
          obtain ⟨step, chosen, landed, ended⟩ := attempt_chooses ran
          simp only [chosen, bind, Except.bind, landed]
          cases tried with
          | inl next =>
              obtain ⟨optimality, ⟨rfl, rfl⟩ | ⟨rfl, rfl⟩⟩ := ended
              · exact .alongGradient frame
              · exact .toSphere frame
          | inr progress =>
              obtain rfl : step = .full := ended
              show Turned settings observer course state _
                (course.completed settings observer progress after)
              rw [Course.completed_eq]
              exact .asked frame rfl

/-! ### All turns -/

variable (problem settings)

def turns (threshold : R) : Nat → Course R → RunState J R X Y → List (Turn J R X Y)
  | 0, _, _ => []
  | remaining + 1, course, state =>
      if course.isOver threshold then []
      else
        course.turn problem settings threshold state ::
          match iterate problem settings observer threshold course state with
          | (.error _, _) => []
          | (.ok next, after) => turns threshold remaining next after

variable {problem} in
inductive Unfolds (threshold : R) : Course R → RunState J R X Y → List (Turn J R X Y) →
    Except (Fault R) (Course R) × RunState J R X Y → Prop where
  | done {course : Course R} {state : RunState J R X Y} :
      Unfolds threshold course state [] (.ok course, state)
  | broken {course : Course R} {state after : RunState J R X Y} {turn : Turn J R X Y}
      {fault : Fault R} (iterating : course.isOver threshold = false)
      (turned : Turned settings observer course state turn (.error fault, after)) :
      Unfolds threshold course state [turn] (.error fault, after)
  | further {course next : Course R} {state after : RunState J R X Y} {turn : Turn J R X Y}
      {later : List (Turn J R X Y)} {result : Except (Fault R) (Course R) × RunState J R X Y}
      (iterating : course.isOver threshold = false)
      (turned : Turned settings observer course state turn (.ok next, after))
      (rest : Unfolds threshold next after later result) :
      Unfolds threshold course state (turn :: later) result

theorem iterations_unfold (threshold : R) (remaining : Nat) (course : Course R)
    (state : RunState J R X Y) :
    Unfolds settings observer threshold course state
      (turns problem settings observer threshold remaining course state)
      (iterations problem settings observer threshold remaining course state) := by
  induction remaining generalizing course state with
  | zero => exact .done
  | succ remaining ih =>
      unfold iterations turns
      cases ended : course.isOver threshold with
      | true => exact .done
      | false =>
          simp only [Bool.false_eq_true, if_false]
          have turned :
              Turned settings observer course state (course.turn problem settings threshold state)
                (iterate problem settings observer threshold course state) :=
            iterate_turned observer threshold course state
          rw [Run.bind_apply]
          cases ran : iterate problem settings observer threshold course state with
          | mk outcome after =>
              rw [ran] at turned
              cases outcome with
              | error fault => exact .broken ended turned
              | ok next => exact .further ended turned (ih next after)

def Turn.consulted (turns : List (Turn J R X Y)) : List (RunState J R X Y) :=
  turns.filterMap Turn.asked?

def Turn.Passes (observer : Run J R X Y Bool) (turn : Turn J R X Y) : Prop :=
  turn.step? = some .full ∧ ∃ asked, turn.asked? = some asked ∧ (observer asked).1 = .ok false

omit [Arithmetic R] [VectorArithmetic R X] [VectorArithmetic R Y] in
theorem Turn.consulted_concat (turns : List (Turn J R X Y)) (turn : Turn J R X Y) :
    consulted (turns ++ [turn]) = consulted turns ++ turn.asked?.toList := by
  unfold consulted
  rw [List.filterMap_append]
  cases asked : turn.asked? with
  | none => simp [asked]
  | some state => simp [asked]

omit [Arithmetic R] [VectorArithmetic R X] [VectorArithmetic R Y] in
theorem Turn.length_consulted {observer : Run J R X Y Bool} {turns : List (Turn J R X Y)}
    (passes : ∀ turn ∈ turns, turn.Passes observer) : (consulted turns).length = turns.length := by
  induction turns with
  | nil => rfl
  | cons turn later ih =>
      obtain ⟨_, asked, shown, _⟩ := passes turn (List.mem_cons_self ..)
      unfold consulted at ih ⊢
      rw [List.filterMap_cons_some shown, List.length_cons, List.length_cons,
        ih fun turn member => passes turn (List.mem_cons_of_mem _ member)]

omit [Arithmetic R] [VectorArithmetic R X] [VectorArithmetic R Y] in
theorem Turn.answers_of_passes {observer : Run J R X Y Bool} {turns : List (Turn J R X Y)}
    (passes : ∀ turn ∈ turns, turn.Passes observer) {state : RunState J R X Y}
    (member : state ∈ consulted turns) : (observer state).1 = .ok false := by
  obtain ⟨turn, earlier, shown⟩ := List.mem_filterMap.mp member
  obtain ⟨_, asked, same, answer⟩ := passes turn earlier
  rw [shown] at same
  cases same
  exact answer

section Ends

variable {problem settings observer} {threshold : R} {course : Course R}
variable {state : RunState J R X Y} {turns : List (Turn J R X Y)}
variable {result : Except (Fault R) (Course R) × RunState J R X Y}

omit [VectorArithmetic R X] [VectorArithmetic R Y] in
/-- After a turn from which the course goes on, the observer has been asked in vain. -/
theorem Turned.passes {next : Course R} {after : RunState J R X Y} {turn : Turn J R X Y}
    (turned : Turned settings observer course state turn result)
    (returned : result = (.ok next, after)) (iterating : next.isOver threshold = false) :
    turn.Passes observer ∧ next.iterations = course.iterations + 1 := by
  have underway := Course.underway_of_open iterating
  cases turned with
  | alongGradient frame =>
      cases returned
      cases underway.1
  | toSphere frame =>
      cases returned
      cases underway.2
  | stuck unasked frame => cases returned
  | @asked progress between asked frame shown =>
      have answered := congrArg Prod.fst returned
      dsimp only at answered
      cases answer : (observer asked).1 with
      | error fault =>
          rw [answer] at answered
          cases answered
      | ok exited =>
          rw [answer] at answered
          cases answered
          have running : exited = false := Course.running_of_open iterating
          rw [running] at answer
          exact ⟨⟨rfl, asked, rfl, answer⟩, rfl⟩

omit [VectorArithmetic R X] [VectorArithmetic R Y] in
private theorem Unfolds.isOver_eq_false
    (unfolds : Unfolds settings observer threshold course state turns result) (taken : turns ≠ []) :
    course.isOver threshold = false := by
  cases unfolds with
  | done => exact absurd rfl taken
  | broken iterating _ => exact iterating
  | further iterating _ _ => exact iterating

omit [VectorArithmetic R X] [VectorArithmetic R Y] in
/-- All turns but the last one are full steps at which the observer does not exit. -/
theorem Unfolds.ends (unfolds : Unfolds settings observer threshold course state turns result) :
    turns = [] ∧ result = (.ok course, state) ∨
      ∃ earlier last before between,
        turns = earlier ++ [last] ∧ (∀ turn ∈ earlier, turn.Passes observer) ∧
          before.isOver threshold = false ∧
          before.iterations = course.iterations + earlier.length ∧
          Turned settings observer before between last result := by
  induction unfolds with
  | done => exact .inl ⟨rfl, rfl⟩
  | @broken course state after turn fault iterating turned =>
      exact .inr ⟨[], turn, course, state, rfl, by simp, iterating, rfl, turned⟩
  | @further course next state after turn later result iterating turned rest ih =>
      right
      obtain ⟨rfl, rfl⟩ | ⟨earlier, last, before, between, rfl, passes, pending, count, ends⟩ := ih
      · exact ⟨[], turn, course, state, rfl, by simp, iterating, rfl, turned⟩
      · obtain ⟨passed, counted⟩ := turned.passes rfl (rest.isOver_eq_false (by simp))
        refine ⟨turn :: earlier, last, before, between, rfl, ?_, pending, ?_, ends⟩
        · intro other member
          rcases List.mem_cons.mp member with rfl | member
          · exact passed
          · exact passes other member
        · rw [count, counted, List.length_cons]
          omega

end Ends

variable {problem settings observer} in
/-- The iterations stop where no further one is due or where the budget is used up. -/
theorem iterations_ended {threshold : R} (remaining : Nat) {course last : Course R}
    {state after : RunState J R X Y}
    (ran : iterations problem settings observer threshold remaining course state =
      (.ok last, after)) :
    last.iterations ≤ course.iterations + remaining ∧
      (last.isOver threshold = true ∨ last.iterations = course.iterations + remaining) := by
  induction remaining generalizing course state with
  | zero =>
      cases ran
      exact ⟨Nat.le_refl _, .inr rfl⟩
  | succ remaining ih =>
      unfold iterations at ran
      cases ended : course.isOver threshold with
      | true =>
          rw [ended, if_pos rfl] at ran
          cases ran
          exact ⟨Nat.le_add_right .., .inl ended⟩
      | false =>
          rw [ended, if_neg Bool.false_ne_true] at ran
          obtain ⟨next, between, iterated, ran⟩ := Run.of_bind_eq_ok ran
          rcases iterate_counts iterated with ⟨stopped, counted⟩ | counted
          · rw [iterations_of_isOver stopped] at ran
            cases ran
            exact ⟨by omega, .inl stopped⟩
          · obtain ⟨within, ended⟩ := ih ran
            refine ⟨by omega, ?_⟩
            rcases ended with stopped | spent
            · exact .inl stopped
            · exact .inr (by omega)

/-! ### Whole solves -/

/-- The turns of a whole solve. A solve that is refused, that has nothing to do or that fails before
its first iteration takes none. -/
def solveTurns (before : RunState J R X Y) : List (Turn J R X Y) :=
  let norm : R := VectorArithmetic.norm problem.rightHandSide
  if before.workspace.busy || isZero norm then []
  else
    match openCourse problem settings norm (problem.entered settings before) with
    | (.error _, _) => []
    | (.ok opening, state) =>
        turns problem settings observer opening.threshold settings.budget opening.course state

/-- The states in which the observer is asked, one after another. -/
def consultations (before : RunState J R X Y) : List (RunState J R X Y) :=
  Turn.consulted (solveTurns problem settings observer before)

inductive Account (before : RunState J R X Y) :
    List (Turn J R X Y) → Except (Fault R) (Report R) × RunState J R X Y → Prop where
  | refused (busy : before.workspace.busy = true) : Account before [] (.error .busy, before)
  | zero {final : RunState J R X Y} {outcome : Except (Fault R) (Report R)}
      (zero : isZero (VectorArithmetic.norm problem.rightHandSide : R) = true)
      (answered : solveZero problem settings (problem.entered settings before) = (outcome, final)) :
      Account before [] (outcome, final.released)
  | unopened {after : RunState J R X Y} {fault : Fault R}
      (nonzero : isZero (VectorArithmetic.norm problem.rightHandSide : R) = false)
      (failed :
        openCourse problem settings (VectorArithmetic.norm problem.rightHandSide)
          (problem.entered settings before) = (.error fault, after)) :
      Account before [] (.error fault, after.released)
  | broken {opening : Opening R} {state after : RunState J R X Y} {turns : List (Turn J R X Y)}
      {fault : Fault R}
      (nonzero : isZero (VectorArithmetic.norm problem.rightHandSide : R) = false)
      (opens :
        openCourse problem settings (VectorArithmetic.norm problem.rightHandSide)
          (problem.entered settings before) = (.ok opening, state))
      (unfolds :
        Unfolds settings observer opening.threshold opening.course state turns
          (.error fault, after)) :
      Account before turns (.error fault, after.released)
  | judged {opening : Opening R} {state between final : RunState J R X Y}
      {turns : List (Turn J R X Y)} {last : Course R} {outcome : Except (Fault R) (Report R)}
      (nonzero : isZero (VectorArithmetic.norm problem.rightHandSide : R) = false)
      (opens :
        openCourse problem settings (VectorArithmetic.norm problem.rightHandSide)
          (problem.entered settings before) = (.ok opening, state))
      (unfolds :
        Unfolds settings observer opening.threshold opening.course state turns
          (.ok last, between))
      (within : last.iterations ≤ settings.budget)
      (ended : last.isOver opening.threshold = true ∨ last.iterations = settings.budget)
      (closed : closeCourse problem settings opening last between = (outcome, final)) :
      Account before turns (outcome, final.released)

theorem solve_account (before : RunState J R X Y) :
    Account problem settings observer before (solveTurns problem settings observer before)
      (solve problem settings observer before) := by
  unfold solveTurns
  cases free : before.workspace.busy with
  | true =>
      rw [solve_of_busy free]
      exact .refused free
  | false =>
      have announced := announce_held problem settings before
      cases zero : isZero (VectorArithmetic.norm problem.rightHandSide : R) with
      | true =>
          rw [solve_of_zero free announced zero]
          simp only [zero, Bool.or_true, if_true]
          exact .zero zero rfl
      | false =>
          simp only [zero, Bool.or_self, Bool.false_eq_true, if_false]
          cases opens : openCourse problem settings (VectorArithmetic.norm problem.rightHandSide)
              (problem.entered settings before) with
          | mk outcome state =>
              cases outcome with
              | error fault =>
                  rw [solve_of_nonzero free announced zero, solveNonzero, Run.bind_of_error opens]
                  exact .unopened zero opens
              | ok opening =>
                  have unfolds := iterations_unfold problem settings observer opening.threshold
                    settings.budget opening.course state
                  rw [solve_of_opened free announced zero opens, Run.bind_apply]
                  cases ran : iterations problem settings observer opening.threshold
                      settings.budget opening.course state with
                  | mk outcome between =>
                      rw [ran] at unfolds
                      cases outcome with
                      | error fault => exact .broken zero opens unfolds
                      | ok last =>
                          obtain ⟨within, ended⟩ := iterations_ended settings.budget ran
                          obtain ⟨start, rfl⟩ := opening_of_openCourse opens
                          have unbegun : (start.opening settings).course.iterations = 0 := rfl
                          rw [unbegun, Nat.zero_add] at within ended
                          exact .judged zero opens unfolds within ended rfl

/-! ### Other observers -/

section Agreement

variable {problem settings observer} {observer' : Run J R X Y Bool}

private theorem iterate_congr {threshold : R} {course : Course R} {state : RunState J R X Y}
    (same : ∀ asked ∈ (course.turn problem settings threshold state).asked?,
      observer' asked = observer asked) :
    iterate problem settings observer' threshold course state =
      iterate problem settings observer threshold course state := by
  rw [iterate_eq, iterate_eq, Run.bind_apply, Run.bind_apply]
  unfold Course.turn at same
  cases ran : attempt problem settings threshold course state with
  | mk outcome between =>
      rw [ran] at same
      cases outcome with
      | error fault => rfl
      | ok tried =>
          cases tried with
          | inl next => rfl
          | inr progress =>
              show course.completed settings observer' progress between =
                course.completed settings observer progress between
              rw [Course.completed_eq, Course.completed_eq, same _ rfl]

private theorem iterations_congr {threshold : R} (remaining : Nat) {course : Course R}
    {state : RunState J R X Y}
    (same : ∀ asked ∈
      Turn.consulted (turns problem settings observer threshold remaining course state),
      observer' asked = observer asked) :
    iterations problem settings observer' threshold remaining course state =
      iterations problem settings observer threshold remaining course state := by
  induction remaining generalizing course state with
  | zero => rfl
  | succ remaining ih =>
      unfold turns at same
      unfold iterations
      cases ended : course.isOver threshold with
      | true => simp only [if_true]
      | false =>
          simp only [ended, Bool.false_eq_true, if_false] at same ⊢
          have now : ∀ asked ∈ (course.turn problem settings threshold state).asked?,
              observer' asked = observer asked := fun asked shown =>
            same asked (List.mem_filterMap.mpr ⟨_, List.mem_cons_self .., shown⟩)
          rw [Run.bind_apply, Run.bind_apply, iterate_congr now]
          cases ran : iterate problem settings observer threshold course state with
          | mk outcome after =>
              rw [ran] at same
              cases outcome with
              | error fault => rfl
              | ok next =>
                  apply ih
                  intro asked member
                  obtain ⟨turn, later, shown⟩ := List.mem_filterMap.mp member
                  exact same asked
                    (List.mem_filterMap.mpr ⟨turn, List.mem_cons_of_mem _ later, shown⟩)

/-- An observer is asked nowhere but in its consultations. -/
theorem solve_congr {before : RunState J R X Y}
    (same : ∀ asked ∈ consultations problem settings observer before,
      observer' asked = observer asked) :
    solve problem settings observer' before = solve problem settings observer before := by
  unfold consultations solveTurns at same
  cases free : before.workspace.busy with
  | true => rw [solve_of_busy free, solve_of_busy free]
  | false =>
      have announced := announce_held problem settings before
      cases zero : isZero (VectorArithmetic.norm problem.rightHandSide : R) with
      | true => rw [solve_of_zero free announced zero, solve_of_zero free announced zero]
      | false =>
          simp only [free, zero, Bool.or_self, Bool.false_eq_true, if_false] at same
          rw [solve_of_nonzero free announced zero, solve_of_nonzero free announced zero]
          unfold solveNonzero
          rw [Run.bind_apply, Run.bind_apply]
          cases opens : openCourse problem settings (VectorArithmetic.norm problem.rightHandSide)
              (problem.entered settings before) with
          | mk outcome state =>
              rw [opens] at same
              cases outcome with
              | error fault => rfl
              | ok opening =>
                  dsimp only
                  rw [Run.bind_apply, Run.bind_apply, iterations_congr settings.budget same]

end Agreement

end ConjugateResidual
