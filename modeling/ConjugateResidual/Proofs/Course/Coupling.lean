import ConjugateResidual.Proofs.Course.Reach

/-!
Two runs of the same computation from states that need not be equal, in any arithmetic. A `bond`
relates what surrounds the vectors in the two states: the trail, the records and the sizes. The
preconditioned copy of a vector is related by nothing, and nothing reads it. The rules follow the
monad; with them every part of an iteration is seen to depend on the vectors alone, and the launch
on no more of them than the solution and the residual.
-/

namespace ConjugateResidual

open Arithmetic

variable {J R X Y A B : Type}

structure Vectors (X Y : Type) where
  solution : X
  gradient : X
  direction : X
  normalImage : X
  residual : Y
  directionImage : Y
  gradientImage : Y

structure Frame (R : Type) where
  rows : Nat
  columns : Nat
  field : ElementType
  recorder : Recorder R
  busy : Bool

namespace Workspace

variable (workspace : Workspace R X Y)

def vectors : Vectors X Y :=
  { solution := workspace.solution, gradient := workspace.gradient
    direction := workspace.direction, normalImage := workspace.normalImage
    residual := workspace.residual, directionImage := workspace.directionImage
    gradientImage := workspace.gradientImage }

def frame : Frame R :=
  { rows := workspace.rows, columns := workspace.columns, field := workspace.field
    recorder := workspace.recorder, busy := workspace.busy }

variable {workspace} in
theorem parts_eq {workspace' : Workspace R X Y} (same : workspace.vectors = workspace'.vectors) :
    workspace'.solution = workspace.solution ∧ workspace'.gradient = workspace.gradient ∧
      workspace'.direction = workspace.direction ∧
      workspace'.normalImage = workspace.normalImage ∧
      workspace'.residual = workspace.residual ∧
      workspace'.directionImage = workspace.directionImage ∧
      workspace'.gradientImage = workspace.gradientImage := by
  simp only [vectors, Vectors.mk.injEq] at same
  simp only [same, and_self]

end Workspace

structure Surroundings (J R : Type) extends Trail J R, Frame R

def Surroundings.noted (notes : List J) (around : Surroundings J R) : Surroundings J R :=
  { around with journal := around.journal ++ notes }

namespace RunState

variable (state : RunState J R X Y)

def vectors : Vectors X Y :=
  state.workspace.vectors

def surroundings : Surroundings J R :=
  { toTrail := state.toTrail, toFrame := state.workspace.frame }

end RunState

structure Vectors.Start (vectors vectors' : Vectors X Y) : Prop where
  solution : vectors'.solution = vectors.solution
  residual : vectors'.residual = vectors.residual

section Rules

variable (bond : Surroundings J R → Surroundings J R → Prop)

def Tolerates (notes : List J) : Prop :=
  ∀ around around', bond around around' → bond (around.noted notes) (around'.noted notes)

structure Problem.Tolerated (problem : Problem J R X Y) : Prop where
  forward : ∀ vector, Tolerates bond (problem.forward vector).journal
  adjoint : ∀ vector, Tolerates bond (problem.adjoint vector).journal
  weight : ∀ weight ∈ problem.weight?, ∀ vector, Tolerates bond (weight.apply vector).journal

structure RecordsAlike : Prop where
  recorder : ∀ {around around'}, bond around around' → around'.recorder = around.recorder
  print : ∀ (line : Line R) {around around'}, bond around around' →
    bond { around with printed := around.printed ++ [line] }
      { around' with printed := around'.printed ++ [line] }
  record : ∀ (change : Recorder R → Recorder R) {around around'}, bond around around' →
    bond { around with recorder := change around.recorder }
      { around' with recorder := change around'.recorder }

namespace Run

inductive Twins (post : Vectors X Y → Vectors X Y → Prop) :
    Except (Fault R) A × RunState J R X Y → Except (Fault R) A × RunState J R X Y → Prop where
  | failed {fault : Fault R} {after after' : RunState J R X Y}
      (bonded : bond after.surroundings after'.surroundings) :
      Twins post (.error fault, after) (.error fault, after')
  | returned {value : A} {after after' : RunState J R X Y}
      (bonded : bond after.surroundings after'.surroundings)
      (related : post after.vectors after'.vectors) :
      Twins post (.ok value, after) (.ok value, after')

def Coupled (pre : Vectors X Y → Vectors X Y → Prop) (run run' : Run J R X Y A)
    (post : Vectors X Y → Vectors X Y → Prop) : Prop :=
  ∀ state state', bond state.surroundings state'.surroundings →
    pre state.vectors state'.vectors → Twins bond post (run state) (run' state')

variable {bond} {pre mid post related : Vectors X Y → Vectors X Y → Prop}

namespace Coupled

theorem bind {run run' : Run J R X Y A} {next next' : A → Run J R X Y B}
    (first : Coupled bond pre run run' mid)
    (rest : ∀ value, Coupled bond mid (next value) (next' value) post) :
    Coupled bond pre (run >>= next) (run' >>= next') post := by
  intro state state' bonded starts
  have ran := first state state' bonded starts
  rw [Run.bind_apply, Run.bind_apply]
  generalize run state = result at ran ⊢
  generalize run' state' = result' at ran ⊢
  cases ran with
  | failed bonded => exact .failed bonded
  | returned bonded between => exact rest _ _ _ bonded between

theorem pure (value : A) : Coupled bond related (pure value) (pure value) related :=
  fun _ _ bonded starts => .returned bonded starts

theorem ofExcept (outcome : Except (Fault R) A) :
    Coupled bond related (ofExcept outcome) (ofExcept outcome) related := by
  intro state state' bonded starts
  cases outcome with
  | error fault => exact .failed bonded
  | ok value => exact .returned bonded starts

theorem perform {reply : Reply J R A} (tolerated : Tolerates bond reply.journal) :
    Coupled bond related (perform reply) (perform reply) related := by
  intro state state' bonded starts
  obtain ⟨journal, outcome⟩ := reply
  have noted := tolerated _ _ bonded
  cases outcome with
  | error fault => exact .failed noted
  | ok value => exact .returned noted starts

theorem bind_workspace {next next' : Workspace R X Y → Run J R X Y B}
    (rest : ∀ workspace workspace', pre workspace.vectors workspace'.vectors →
      Coupled bond pre (next workspace) (next' workspace') post) :
    Coupled bond pre (Run.workspace >>= next) (Run.workspace >>= next') post :=
  fun state state' bonded starts =>
    rest state.workspace state'.workspace starts state state' bonded starts

theorem update {change : Workspace R X Y → Workspace R X Y}
    (frame : ∀ workspace, (change workspace).frame = workspace.frame)
    (vectors : ∀ workspace workspace', pre workspace.vectors workspace'.vectors →
      post (change workspace).vectors (change workspace').vectors) :
    Coupled bond pre (Run.update change) (Run.update change) post := by
  intro state state' bonded starts
  refine .returned ?_ (vectors _ _ starts)
  unfold RunState.surroundings
  dsimp only
  rw [frame, frame]
  exact bonded

/-- A change of a vector to a value that both runs have computed. -/
theorem set {change : Workspace R X Y → Workspace R X Y} (act : Vectors X Y → Vectors X Y)
    (acts : ∀ workspace, (change workspace).vectors = act workspace.vectors ∧
      (change workspace).frame = workspace.frame) :
    Coupled bond Eq (Run.update change) (Run.update change) Eq := by
  apply update fun workspace => (acts workspace).2
  intro workspace workspace' same
  rw [(acts workspace).1, (acts workspace').1, same]

theorem print (alike : RecordsAlike bond) (line : Line R) :
    Coupled (J := J) bond related (Run.print line) (Run.print line) related :=
  fun _ _ bonded starts => .returned (alike.print line bonded) starts

theorem record (alike : RecordsAlike bond) (change : Recorder R → Recorder R) :
    Coupled (J := J) bond related
      (Run.update fun workspace => { workspace with recorder := change workspace.recorder })
      (Run.update fun workspace => { workspace with recorder := change workspace.recorder })
      related :=
  fun _ _ bonded starts => .returned (alike.record change bonded) starts

end Coupled

end Run

end Rules

end ConjugateResidual
