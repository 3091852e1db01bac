import ConjugateResidual.Diagnostics.Sheet

/-!
A recorder with the snapshots taken of it, and with the values that were assigned over its records.
Two snapshots share their records when no reset lies between them.
-/

namespace ConjugateResidual

structure Archive where
  recorder : Recorder Float := .cleared false
  assigned : List (String × Value) := []
  resets : Nat := 0
  /-- Each snapshot with the number of resets before it. -/
  snapshots : List (Nat × Sheet) := []

namespace Archive

inductive Step where
  | reset (keepsHistory : Bool)
  | residual (norm : Value)
  | optimality (norm : Value)
  | assign (name : String) (value : Value)
  | keep
  | showKept (index : Int)
  | compare (left right : Int)
  | assignKept (index : Int) (field : String)
  | display

inductive Reading where
  | records (sheet : Sheet)
  | kept (index : Nat)
  | same (answer : Bool)
  | display (text : String)

def sheet (archive : Archive) : Sheet :=
  (Sheet.ofSnapshot archive.recorder.snapshot).withAssigned archive.assigned

def reset (archive : Archive) (keepsHistory : Bool) : Archive :=
  { archive with
    recorder := .cleared keepsHistory
    assigned := []
    resets := archive.resets + 1 }

/-- A value is read as a number only while a history is kept. -/
def record (archive : Archive) (value : Value)
    (add : Recorder Float → Float → Recorder Float) : Except (Fault Float) Archive :=
  if archive.recorder.keepsHistory then do
    let norm ← value.toFloat
    .ok { archive with recorder := add archive.recorder norm }
  else .ok archive

/-- The histories cannot be assigned, and whether one is kept is told by the truth of the value. -/
def assign (archive : Archive) (name : String) (value : Value) : Except (Fault Float) Archive :=
  if name = "residuals" ∨ name = "aresiduals" then .error .readOnlyProperty
  else if name = "history" then
    .ok { archive with recorder := { archive.recorder with keepsHistory := value.isTrue } }
  else .ok { archive with assigned := (name, value) :: archive.assigned }

def keep (archive : Archive) : Archive :=
  { archive with snapshots := archive.snapshots ++ [(archive.resets, archive.sheet)] }

def snapshot (archive : Archive) (index : Int) : Except (Fault Float) Sheet :=
  (itemAt archive.snapshots index).map Prod.snd

def same (archive : Archive) (left right : Int) : Except (Fault Float) Bool := do
  let (leftResets, leftSheet) ← itemAt archive.snapshots left
  let (rightResets, rightSheet) ← itemAt archive.snapshots right
  .ok (leftSheet.same (leftResets == rightResets) rightSheet)

def withRecords (archive : Archive) : Archive × Reading :=
  (archive, .records archive.sheet)

def perform (archive : Archive) : Step → Except (Fault Float) (Archive × Reading)
  | .reset keepsHistory => .ok (archive.reset keepsHistory).withRecords
  | .residual norm => withRecords <$> archive.record norm Recorder.recordResidual
  | .optimality norm => withRecords <$> archive.record norm Recorder.recordOptimality
  | .assign name value => withRecords <$> archive.assign name value
  | .keep => .ok (archive.keep, .kept archive.snapshots.length)
  | .showKept index => do
      let shown ← archive.snapshot index
      .ok (archive, .records shown)
  | .compare left right => do
      let answer ← archive.same left right
      .ok (archive, .same answer)
  | .assignKept index field => do
      let _ ← archive.snapshot index
      .error (.frozenField field)
  | .display => .ok (archive, .display archive.sheet.display)

/-- The answers of a script, step by step; a step that fails changes nothing. -/
def script : List Step → Archive → List (Except (Fault Float) Reading)
  | [], _ => []
  | step :: rest, archive =>
      match archive.perform step with
      | .ok (next, reading) => .ok reading :: script rest next
      | .error fault => .error fault :: script rest archive

end Archive

end ConjugateResidual
