import ConjugateResidual.Proofs.Course.Spoken

/-!
Runs to which the printed lines are write-only: they go the same way whatever has been printed
before, and what they print comes after that. A solve is such a run if its observer is.
-/

namespace ConjugateResidual

open Arithmetic

variable {J R X Y A B : Type}

namespace Run.Appends

theorem pure (value : A) : Appends (pure value : Run J R X Y A) := by
  intro state
  show (Except.ok value, state) = (Except.ok value, { state with printed := state.printed ++ [] })
  rw [List.append_nil]

theorem ofExcept (outcome : Except (Fault R) A) : Appends (ofExcept outcome : Run J R X Y A) := by
  intro state
  show (outcome, state) = (outcome, { state with printed := state.printed ++ [] })
  rw [List.append_nil]

theorem throw (fault : Fault R) : Appends (throw fault : Run J R X Y A) :=
  ofExcept (.error fault)

theorem perform (reply : Reply J R A) : Appends (perform reply : Run J R X Y A) := by
  intro state
  unfold Run.perform
  dsimp only
  rw [List.append_nil]

theorem bind_workspace {next : Workspace R X Y → Run J R X Y A}
    (rest : ∀ workspace, Appends (next workspace)) : Appends (workspace >>= next) :=
  fun state => rest state.workspace state

theorem bind {run : Run J R X Y A} {next : A → Run J R X Y B} (first : Appends run)
    (rest : ∀ value, Appends (next value)) : Appends (run >>= next) := by
  intro state
  rw [bind_apply, bind_apply, first state]
  generalize run { state with printed := [] } = spoken
  obtain ⟨outcome, after⟩ := spoken
  cases outcome with
  | error fault => rfl
  | ok value =>
      dsimp only
      rw [rest value after, rest value { after with printed := state.printed ++ after.printed }]
      dsimp only
      rw [List.append_assoc]

theorem onTrail {body : Trail J R → Except (Fault R) A × Trail J R}
    (appends : ∀ trail, body trail =
      let spoken := body { trail with printed := [] }
      (spoken.1, { spoken.2 with printed := trail.printed ++ spoken.2.printed })) :
    Appends (onTrail body : Run J R X Y A) := by
  intro state
  unfold Run.onTrail
  rw [appends state.toTrail]

end Run.Appends

/-! ### Solves -/

structure Surroundings.Behind (said : List (Line R)) (around around' : Surroundings J R) :
    Prop where
  same : around' = { around with printed := said ++ around.printed }
  busy : around.busy = true

private theorem recordsAlike_behind (said : List (Line R)) :
    RecordsAlike (Surroundings.Behind (J := J) said) := by
  refine { recorder := ?_, print := ?_, record := ?_ }
  · rintro around _ ⟨rfl, busy⟩
    rfl
  · rintro line around _ ⟨rfl, busy⟩
    refine ⟨?_, busy⟩
    dsimp only
    rw [List.append_assoc]
  · rintro change around _ ⟨rfl, busy⟩
    exact ⟨rfl, busy⟩

private theorem Problem.tolerated_behind (problem : Problem J R X Y) (said : List (Line R)) :
    problem.Tolerated (Surroundings.Behind said) := by
  have tolerates (notes : List J) : Tolerates (Surroundings.Behind said) notes := by
    rintro around _ ⟨rfl, busy⟩
    exact ⟨rfl, busy⟩
  exact
    { forward := fun _ => tolerates _
      adjoint := fun _ => tolerates _
      weight := fun _ _ _ => tolerates _ }

theorem RunState.eq_of_behind {said : List (Line R)} {state state' : RunState J R X Y}
    (together : state.Together (Surroundings.Behind said) Eq state') :
    state' = { state with printed := said ++ state.printed } := by
  have around := together.bonded.same
  have trail : state'.toTrail = { state.toTrail with printed := said ++ state.printed } :=
    congrArg Surroundings.toTrail around
  have workspace : state'.workspace = state.workspace :=
    Workspace.eq_of_parts (congrArg Surroundings.toFrame around) together.vectors together.copies
  rw [← workspace, ← trail]

variable {observer : Run J R X Y Bool}

private theorem Run.Appends.behind (appends : Appends observer) (keeps : KeepsFrame observer)
    (said : List (Line R)) {pre : Vectors X Y → Prop} (always : ∀ vectors, pre vectors) :
    Lockstep (Surroundings.Behind said) Eq pre observer observer (fun _ => True) pre := by
  intro state state' together _
  have held := congrArg Frame.busy (keeps state together.bonded.busy)
  rw [RunState.eq_of_behind together]
  rw [appends state] at held ⊢
  rw [appends { state with printed := said ++ state.printed }]
  refine { outcome := rfl, together := ?_, given := fun _ _ => ⟨trivial, always _⟩ }
  refine { bonded := ⟨?_, held.trans together.bonded.busy⟩, vectors := rfl, copies := rfl }
  dsimp only [RunState.surroundings]
  rw [List.append_assoc]

variable [Arithmetic R] [VectorArithmetic R X] [VectorArithmetic R Y]
variable {problem : Problem J R X Y} {settings : Settings R} {trail : Trail J R}

variable (problem settings) in
theorem solve_appends (keeps : Run.KeepsFrame observer) (appends : Run.Appends observer) :
    Run.Appends (solve problem settings observer) := by
  intro state
  cases busy : state.workspace.busy with
  | true =>
      have busy' : ({ state with printed := [] } : RunState J R X Y).workspace.busy = true := busy
      rw [solve_of_busy busy, solve_of_busy busy']
      dsimp only
      rw [List.append_nil]
  | false =>
      let blank : RunState J R X Y := { state with printed := [] }
      have free : blank.workspace.busy = false := busy
      have ends := solve_ends problem settings observer blank
      have entered : (problem.entered settings blank).Together
          (Surroundings.Behind state.printed) Eq (problem.entered settings state) :=
        { bonded := ⟨rfl, rfl⟩, vectors := rfl, copies := rfl }
      obtain ⟨ended, ended', solves, solves', outcome, together⟩ :=
        solve_solvedAlike settings (recordsAlike_behind state.printed)
          ((problem.tolerated_behind state.printed).paired fun _ => rfl)
          (appends.behind keeps state.printed fun _ => ⟨trivial, trivial⟩) free busy entered
      rw [solves] at ends
      rw [show solve problem settings observer { state with printed := [] } = _ from solves,
        solves', RunState.eq_of_behind together, outcome]
      -- the pair may differ in the mode that is reported, but here it is one problem
      refine Prod.ext ?_ rfl
      dsimp only
      cases answer : ended.1 with
      | error fault => rfl
      | ok report =>
          show Except.ok { report with mode? := problem.weight?.map Weight.mode } = .ok report
          rw [← ends.mode_eq answer]

theorem solveInPlace_appends (prepared : Reply J R (Options R × Problem J R X Y))
    (keeps : Run.KeepsFrame observer) (appends : Run.Appends observer) :
    Run.Appends (solveInPlace prepared observer) := by
  unfold solveInPlace
  refine .bind (.perform prepared) fun (options, problem) => ?_
  refine .bind_workspace fun workspace => .bind (.ofExcept _) fun _ => ?_
  exact solve_appends problem _ keeps appends

theorem solveFresh_appends (prepared : Reply J R (Options R × Problem J R X Y))
    (keeps : Run.KeepsFrame observer) (appends : Run.Appends observer) :
    solveFresh prepared observer trail =
      let spoken := solveFresh prepared observer { trail with printed := [] }
      (spoken.1, { spoken.2 with printed := trail.printed ++ spoken.2.printed }) := by
  cases ready : prepared.outcome with
  | error fault =>
      unfold solveFresh
      simp [ready]
  | ok posed =>
      rw [solveFresh_eq ready, solveFresh_eq ready, solveInPlace_appends prepared keeps appends]
      rfl

end ConjugateResidual
