import ConjugateResidual.Proofs.Course.Turns

/-!
What a solve on a given workspace meets before it starts, in any arithmetic: a problem that cannot
be posed, one that does not fit, a workspace that is held. A solve that is refused leaves nothing
but what was noted while its problem was prepared, and does not ask its observer.
-/

namespace ConjugateResidual

variable {J R X Y : Type}

/-- The first cause, if there is one, for which a solve on the workspace is refused. -/
def Workspace.refusal? (workspace : Workspace R X Y)
    (prepared : Reply J R (Options R × Problem J R X Y)) : Option (Fault R) :=
  match prepared.outcome with
  | .error fault => some fault
  | .ok (_, problem) =>
      match workspace.checkFits problem.rows problem.columns problem.field with
      | .error fault => some fault
      | .ok () => if workspace.busy then some .busy else none

theorem Workspace.refusal?_of_busy {workspace : Workspace R X Y} (busy : workspace.busy = true)
    (prepared : Reply J R (Options R × Problem J R X Y)) :
    workspace.refusal? prepared = some ((workspace.refusal? prepared).getD .busy) := by
  unfold Workspace.refusal?
  rw [busy]
  split
  · rfl
  · split
    · rfl
    · rfl

theorem Workspace.refusal?_of_valid {workspace : Workspace R X Y} (busy : workspace.busy = true)
    {prepared : Reply J R (Options R × Problem J R X Y)} {options : Options R}
    {problem : Problem J R X Y} (ready : prepared.outcome = .ok (options, problem))
    (fits : workspace.checkFits (R := R) problem.rows problem.columns problem.field = .ok ()) :
    workspace.refusal? prepared = some .busy := by
  unfold Workspace.refusal?
  rw [ready]
  dsimp only
  rw [fits, busy]
  rfl

def RunState.noted (notes : List J) (state : RunState J R X Y) : RunState J R X Y :=
  { state with journal := state.journal ++ notes }

variable [Arithmetic R] [VectorArithmetic R X] [VectorArithmetic R Y]
variable {prepared : Reply J R (Options R × Problem J R X Y)} {observer : Run J R X Y Bool}
variable {state : RunState J R X Y}

theorem solveInPlace_of_refused {fault : Fault R}
    (refused : state.workspace.refusal? prepared = some fault) :
    solveInPlace prepared observer state = (.error fault, state.noted prepared.journal) := by
  unfold Workspace.refusal? at refused
  cases ready : prepared.outcome with
  | error cause =>
      rw [ready] at refused
      cases refused
      exact solveInPlace_of_error ready
  | ok posed =>
      obtain ⟨options, problem⟩ := posed
      simp only [ready] at refused
      rw [solveInPlace_eq ready]
      dsimp only
      cases fits : state.workspace.checkFits (R := R) problem.rows problem.columns
          problem.field with
      | error cause =>
          simp only [fits] at refused
          cases refused
          rfl
      | ok =>
          simp only [fits] at refused
          cases busy : state.workspace.busy with
          | false =>
              rw [busy, if_neg Bool.false_ne_true] at refused
              cases refused
          | true =>
              rw [busy, if_pos rfl] at refused
              cases refused
              exact solve_of_busy busy

theorem solveInPlace_of_admitted (admitted : state.workspace.refusal? prepared = none) :
    ∃ options problem, prepared.outcome = .ok (options, problem) ∧
      state.workspace.busy = false ∧
      ∀ observer, solveInPlace prepared observer state =
        solveWith options problem observer (state.noted prepared.journal) := by
  unfold Workspace.refusal? at admitted
  cases ready : prepared.outcome with
  | error cause =>
      rw [ready] at admitted
      cases admitted
  | ok posed =>
      obtain ⟨options, problem⟩ := posed
      simp only [ready] at admitted
      cases fits : state.workspace.checkFits (R := R) problem.rows problem.columns
          problem.field with
      | error cause =>
          simp only [fits] at admitted
          cases admitted
      | ok =>
          simp only [fits] at admitted
          cases busy : state.workspace.busy with
          | true =>
              rw [busy, if_pos rfl] at admitted
              cases admitted
          | false =>
              refine ⟨options, problem, rfl, rfl, fun observer => ?_⟩
              rw [solveInPlace_eq ready]
              dsimp only
              rw [fits]
              rfl

def consultationsInPlace (prepared : Reply J R (Options R × Problem J R X Y))
    (observer : Run J R X Y Bool) (state : RunState J R X Y) : List (RunState J R X Y) :=
  match state.workspace.refusal? prepared, prepared.outcome with
  | none, .ok (options, problem) =>
      consultations problem (options.resolve problem.rows problem.columns problem.tolerance)
        observer (state.noted prepared.journal)
  | _, _ => []

theorem of_mem_consultationsInPlace {asked : RunState J R X Y}
    (member : asked ∈ consultationsInPlace prepared observer state) :
    state.workspace.refusal? prepared = none ∧
      ∃ (problem : Problem J R X Y) (settings : Settings R),
        asked ∈ consultations problem settings observer (state.noted prepared.journal) := by
  unfold consultationsInPlace at member
  split at member
  · exact ⟨‹_›, _, _, member⟩
  · cases member

theorem solveInPlace_congr {observer' : Run J R X Y Bool}
    (same : ∀ asked ∈ consultationsInPlace prepared observer state,
      observer' asked = observer asked) :
    solveInPlace prepared observer' state = solveInPlace prepared observer state := by
  cases refused : state.workspace.refusal? prepared with
  | some fault => rw [solveInPlace_of_refused refused, solveInPlace_of_refused refused]
  | none =>
      obtain ⟨options, problem, ready, _, goes⟩ := solveInPlace_of_admitted refused
      unfold consultationsInPlace at same
      rw [refused, ready] at same
      rw [goes, goes]
      exact solve_congr same

theorem solveFresh_of_error {fault : Fault R} (unready : prepared.outcome = .error fault)
    (trail : Trail J R) :
    solveFresh prepared observer trail =
      (.error fault, { trail with journal := trail.journal ++ prepared.journal }) := by
  unfold solveFresh
  simp only [unready]

end ConjugateResidual
