import ConjugateResidual.Proofs.Course.Reach

/-!
What an observer gets to see. A workspace is shown read-only, so an observer leaves it as it finds
it; the one that writes down everything it is shown stands for all of them.
-/

namespace ConjugateResidual

variable {J R X Y : Type}

def Run.Looks (observer : Run J R X Y Bool) : Prop :=
  ∀ state, (observer state).2.workspace = state.workspace

theorem Course.workspace_completed (settings : Settings R) {observer : Run J R X Y Bool}
    (looks : Run.Looks observer) (course : Course R) (progress : Progress R)
    (state : RunState J R X Y) :
    (course.completed settings observer progress state).2.workspace =
      state.workspace.completed (course.iterations + 1) progress := by
  obtain ⟨printed, asks⟩ := course.completed_apply settings observer progress state
  rw [asks]
  exact looks _

/-- The observer that keeps every workspace it is shown and answers by what it has seen so far. -/
def watch (answer : List (Workspace R X Y) → Except (Fault R) Bool) :
    Run (Workspace R X Y) R X Y Bool :=
  fun state =>
    let seen := state.journal ++ [state.workspace]
    (answer seen, { state with journal := seen })

/-- Notes what is to be seen of the workspace before the observer is asked. -/
def Run.noting (view : Workspace R X Y → List J) (observer : Run J R X Y Bool) :
    Run J R X Y Bool := do
  let workspace ← Run.workspace
  Run.perform { journal := view workspace, outcome := .ok () }
  observer

theorem Run.noting_apply (view : Workspace R X Y → List J) (observer : Run J R X Y Bool)
    (state : RunState J R X Y) :
    Run.noting view observer state =
      observer { state with journal := state.journal ++ view state.workspace } :=
  rfl

theorem looks_neverExit : Run.Looks (neverExit : Run J R X Y Bool) :=
  fun _ => rfl

theorem looks_watch (answer : List (Workspace R X Y) → Except (Fault R) Bool) :
    Run.Looks (watch answer) :=
  fun _ => rfl

def Seen (Fits : Nat → Workspace R X Y → Prop) (journal : List (Workspace R X Y)) : Prop :=
  ∀ index shown, journal[index]? = some shown → Fits (index + 1) shown

variable {Fits : Nat → Workspace R X Y → Prop} {journal : List (Workspace R X Y)}

theorem seen_nil : Seen Fits [] := by
  intro index shown found
  cases found

theorem Seen.snoc (seen : Seen Fits journal) {shown : Workspace R X Y}
    (fits : Fits (journal.length + 1) shown) : Seen Fits (journal ++ [shown]) := by
  intro index other found
  rcases Nat.lt_trichotomy index journal.length with before | last | after
  · rw [List.getElem?_append_left before] at found
    exact seen index other found
  · rw [last, List.getElem?_concat_length] at found
    cases found
    rw [last]
    exact fits
  · rw [List.getElem?_eq_none (by rw [List.length_append, List.length_singleton]; omega)] at found
    cases found

end ConjugateResidual
