import ConjugateResidual.Proofs.Chronicle
import ConjugateResidual.Proofs.Course.Tagged

/-!
The applications of a whole solve, in any arithmetic. They depend on nothing but the number of
completed iterations, whether a step along the gradient came last, and whether there is a
preconditioner; options, printing, histories and the observer have no other part in them.
-/

namespace ConjugateResidual

open Arithmetic

variable {J R X Y : Type} [Arithmetic R]
variable {settings : Settings R} {observer : Run J R X Y Bool}

section Rows

variable {threshold : R} {course : Course R} {state : RunState J R X Y}
variable {turns : List (Turn J R X Y)}
variable {result : Except (Fault R) (Course R) × RunState J R X Y}
variable (unfolds : Unfolds settings observer threshold course state turns result)
include unfolds

/-- Ahead of a step along the gradient the observer has not asked for the end. -/
theorem Unfolds.lastAnswer?_of_alongGradient
    (straight : turns.getLast?.bind Turn.step? = some .alongGradient) :
    Run.lastAnswer? observer (Turn.consulted turns) ≠ some (.ok true) := by
  obtain ⟨rfl, _⟩ | ⟨earlier, last, before, between, rfl, passes, _, _, turned⟩ := unfolds.ends
  · cases straight
  · have unanswered := Turn.lastAnswer?_ne_of_passes passes
    rw [List.getLast?_concat, Option.bind_some] at straight
    rw [Turn.consulted_concat]
    cases turned with
    | alongGradient => simpa using unanswered
    | toSphere => cases straight
    | stuck unasked => simpa [unasked] using unanswered
    | asked => cases straight

/-- The turn in which the observer raises something is a full step and the last turn. -/
theorem Unfolds.last_of_raised {index : Nat} {asked : RunState J R X Y} {fault : Fault R}
    (found : (Turn.consulted turns)[index]? = some asked)
    (raised : (observer asked).1 = .error fault) :
    (Turn.consulted turns).length = index + 1 ∧
      ∃ turn ∈ turns.getLast?, turn.asked? ≠ none ∧ turn.step? = some .full := by
  constructor
  · obtain ⟨short, _⟩ := List.getElem?_eq_some_iff.mp found
    rcases Nat.lt_or_ge (index + 1) (Turn.consulted turns).length with early | late
    · rw [unfolds.answers found early] at raised
      cases raised
    · omega
  · have member := List.mem_of_getElem? found
    obtain ⟨rfl, _⟩ | ⟨earlier, last, before, between, rfl, passes, _, _, turned⟩ := unfolds.ends
    · cases found
    · rw [Turn.consulted_concat, List.mem_append] at member
      rcases member with member | member
      · rw [Turn.answers_of_passes passes member] at raised
        cases raised
      · rw [List.getLast?_concat]
        cases turned with
        | alongGradient => cases member
        | toSphere => cases member
        | stuck unasked =>
            rw [unasked] at member
            cases member
        | asked => exact ⟨_, rfl, by simp, rfl⟩

end Rows

variable [VectorArithmetic R X] [VectorArithmetic R Y]
variable {problem : Problem J R X Y} {before final : RunState J R X Y} {turns : List (Turn J R X Y)}

theorem Account.zeroCurvature_iff {report : Report R}
    (account : Account problem settings observer before turns (.ok report, final))
    (nonzero : isZero (VectorArithmetic.norm problem.rightHandSide : R) = false) :
    turns.getLast?.bind Turn.step? = some .alongGradient ↔
      report.stats.status = .zeroCurvature := by
  obtain ⟨figures, _, tells, _⟩ := account.tells_nonzero nonzero
  constructor
  · intro straight
    have unanswered : Run.lastAnswer? observer (Turn.consulted turns) ≠ some (.ok true) := by
      cases account with
      | zero zero =>
          rw [zero] at nonzero
          cases nonzero
      | judged _ _ unfolds => exact unfolds.lastAnswer?_of_alongGradient straight
    have going : report.stats.status ≠ .userExit := mt tells.userExit.mp unanswered
    have inside : report.stats.status ≠ .onBoundary := by
      intro outside
      have clipped := (tells.onBoundary going).mp outside
      rw [straight] at clipped
      cases clipped
    exact (tells.zeroCurvature (by simp [going, inside])).mpr straight
  · intro status
    exact (tells.zeroCurvature (by simp [status])).mp status

/-- The observer breaks a solve off in its last turn. -/
theorem Account.last_of_raised {result : Except (Fault R) (Report R) × RunState J R X Y}
    (account : Account problem settings observer before turns result) {index : Nat}
    {asked : RunState J R X Y} {fault : Fault R}
    (found : (Turn.consulted turns)[index]? = some asked)
    (raised : (observer asked).1 = .error fault) :
    result.1 = .error fault ∧ (Turn.consulted turns).length = index + 1 ∧
      ∃ turn ∈ turns.getLast?, turn.asked? ≠ none ∧ turn.step? = some .full := by
  cases account with
  | refused busy => cases found
  | zero zero answered => cases found
  | unopened nonzero failed => cases found
  | broken nonzero opens unfolds =>
      have same := unfolds.raises (List.mem_of_getElem? found) raised
      cases same
      exact ⟨rfl, unfolds.last_of_raised found raised⟩
  | judged nonzero opens unfolds within ended closed =>
      have same := unfolds.raises (List.mem_of_getElem? found) raised
      cases same

theorem Account.applications_of_zero {sign : J → Option Application}
    {result : Except (Fault R) (Report R) × RunState J R X Y}
    (account : Account problem settings observer before turns result)
    (zero : isZero (VectorArithmetic.norm problem.rightHandSide : R) = true) :
    result.2.applications sign = before.applications sign := by
  cases account with
  | refused busy => rfl
  | zero _ answered =>
      rw [solveZero_apply] at answered
      cases answered
      rfl
  | unopened nonzero =>
      rw [zero] at nonzero
      cases nonzero
  | broken nonzero =>
      rw [zero] at nonzero
      cases nonzero
  | judged nonzero =>
      rw [zero] at nonzero
      cases nonzero

/-- The applications of a whole solve, whatever its options are and whatever the observer does. The
solve is followed in its tagged form, which differs from it by the notes of the applications alone.
A solve for a right-hand side of norm zero applies nothing. One that returns has applied what
launches it, the same again for each completed iteration, and something more exactly for a step
along the gradient. One that the observer breaks off has applied what its completed iterations
take. -/
theorem applications_of_solve (problem : Problem J R X Y) (settings : Settings R)
    (observer : Run J R X Y Bool) (before : RunState (Tagged J) R X Y) :
    let ran := solve problem.tagged settings observer.tagged before
    let start := before.applications Tagged.application?
    let made := ran.2.applications Tagged.application?
    let turns := solveTurns problem.tagged settings observer.tagged before
    let lastStep? := turns.getLast?.bind Turn.step?
    solve problem settings observer before.untagged = (ran.1, ran.2.untagged) ∧
    (isZero (VectorArithmetic.norm problem.rightHandSide : R) = true → made = start) ∧
    (isZero (VectorArithmetic.norm problem.rightHandSide : R) = false →
      (∀ report, ran.1 = .ok report → ∃ count : Nat, report.stats.iterations = count ∧
        let applied := problem.applying count lastStep?
        let further := if report.stats.status = .zeroCurvature then 1 else 0
        made = start ++ applied ∧
          (lastStep? = some .alongGradient ↔ report.stats.status = .zeroCurvature) ∧
          applied.count .forward = count + 1 ∧ applied.count .adjoint = count + 2 + further ∧
          applied.count .weight =
            if problem.weight?.isSome then 2 * count + 2 + further else 0) ∧
      ∀ index asked fault, (Turn.consulted turns)[index]? = some asked →
        (observer asked.untagged).1 = .error fault →
        ran.1 = .error fault ∧ made = start ++ problem.applying (index + 1) none) := by
  intro ran start made turns lastStep?
  have account := solve_account problem.tagged settings observer.tagged before
  refine ⟨solve_erases problem settings observer before, account.applications_of_zero, ?_⟩
  intro nonzero
  have applies :=
    solve_applies settings problem.signs_tagged (Run.idle_tagged observer) before nonzero
  rw [Problem.applying_tagged] at applies
  constructor
  · intro report returned
    have judged : solve problem.tagged settings observer.tagged before = (.ok report, ran.2) :=
      Prod.ext returned rfl
    rw [judged] at account
    have straight := account.zeroCurvature_iff nonzero
    obtain ⟨_, _, _, count, _⟩ := account.tells_nonzero nonzero
    refine ⟨_, count, ?_, straight, Problem.count_forward_applying .., ?_, ?_⟩
    · refine applies fun fault failed => ?_
      rw [judged] at failed
      cases failed
    · rw [Problem.count_adjoint_applying]
      simp only [← straight]
      rfl
    · rw [Problem.count_weight_applying]
      simp only [← straight]
      rfl
  · intro index asked fault found raised
    have raised' : (observer.tagged asked).1 = .error fault := raised
    obtain ⟨failed, length, turn, last, shown, full⟩ := account.last_of_raised found raised'
    refine ⟨failed, ?_⟩
    have applied := applies fun _ _ => ⟨turn, last, shown⟩
    have step : lastStep? = some .full := by
      change turns.getLast?.bind Turn.step? = some .full
      rw [Option.mem_def.mp last]
      exact full
    change made = start ++ problem.applying (Turn.consulted turns).length lastStep? at applied
    rw [applied, length, step]
    rfl

/-- One iteration on three equations in two unknowns. -/
example :
    Request.tall.prepare.outcome.toOption.map (fun (options, problem) =>
      let settings := options.resolve problem.rows problem.columns problem.tolerance
      let ran := solve problem.tagged settings neverExit.tagged (.ofWorkspace .tall)
      ran.2.applications Tagged.application?) =
      some [.adjoint, .forward, .adjoint, .forward, .adjoint] := by
  decide +kernel

end ConjugateResidual
