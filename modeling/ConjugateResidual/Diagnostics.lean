import ConjugateResidual.Fault
import ConjugateResidual.Status

/-!
What is recorded during a solve: the completed iterations, how the solve stands, and, when a
history is asked for, the norms after every iteration. Records that are kept in a list are looked
up by `itemAt`.
-/

namespace ConjugateResidual

/-- An item by its place; negative places count from the end. -/
def itemAt {R A : Type} (items : List A) (index : Int) : Except (Fault R) A :=
  let place := if index < 0 then index + items.length else index
  if place < 0 then .error .indexOutOfRange
  else
    match items[place.toNat]? with
    | some item => .ok item
    | none => .error .indexOutOfRange

structure Snapshot (R : Type) where
  iterations : Int
  solved : Bool
  inconsistent : Bool
  status : Status
  residuals : List R
  optimalities : List R

structure Recorder (R : Type) extends Snapshot R where
  keepsHistory : Bool

namespace Recorder

variable {R : Type}

def cleared (keepsHistory : Bool) : Recorder R :=
  { iterations := 0, solved := false, inconsistent := false, status := .unknown
    residuals := [], optimalities := [], keepsHistory }

def recordResidual (recorder : Recorder R) (norm : R) : Recorder R :=
  if recorder.keepsHistory then { recorder with residuals := recorder.residuals ++ [norm] }
  else recorder

def recordOptimality (recorder : Recorder R) (norm : R) : Recorder R :=
  if recorder.keepsHistory then { recorder with optimalities := recorder.optimalities ++ [norm] }
  else recorder

theorem optimalities_recordOptimality (recorder : Recorder R) (norm : R) :
    (recorder.recordOptimality norm).optimalities =
      recorder.optimalities ++ if recorder.keepsHistory then [norm] else [] := by
  unfold recordOptimality
  split <;> simp

theorem keepsHistory_recordResidual (recorder : Recorder R) (norm : R) :
    (recorder.recordResidual norm).keepsHistory = recorder.keepsHistory := by
  unfold recordResidual
  split <;> rfl

theorem keepsHistory_recordOptimality (recorder : Recorder R) (norm : R) :
    (recorder.recordOptimality norm).keepsHistory = recorder.keepsHistory := by
  unfold recordOptimality
  split <;> rfl

def snapshot (recorder : Recorder R) : Snapshot R := recorder.toSnapshot

end Recorder

end ConjugateResidual
