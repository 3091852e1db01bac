import ConjugateResidual.Diagnostics
import ConjugateResidual.Value.Calculation

/-!
Records as they are told. Any value may be assigned in the place of the count, of a verdict or of
the status; it stands there as it was given.
-/

namespace ConjugateResidual

structure Sheet where
  iterations : Value
  solved : Value
  inconsistent : Value
  status : Value
  residuals : List Float
  optimalities : List Float

namespace Sheet

def ofSnapshot (snapshot : Snapshot Float) : Sheet :=
  { iterations := .integer snapshot.iterations
    solved := .truth snapshot.solved
    inconsistent := .truth snapshot.inconsistent
    status := .text snapshot.status.text
    residuals := snapshot.residuals
    optimalities := snapshot.optimalities }

def withAssigned (assigned : List (String × Value)) (sheet : Sheet) : Sheet :=
  let shown (name : String) (own : Value) : Value := (assigned.lookup name).getD own
  { sheet with
    iterations := shown "niter" sheet.iterations
    solved := shown "solved" sheet.solved
    inconsistent := shown "inconsistent" sheet.inconsistent
    status := shown "status" sheet.status }

/-- Histories are equal entry by entry. Where two entries are the same record, they are equal even
if they are not numbers. -/
def sameHistory (sameRecords : Bool) (left right : List Float) : Bool :=
  let sameEntry (first second : Float) : Bool :=
    first == second || (sameRecords && first.isNaN && second.isNaN)
  left.length == right.length && (List.zipWith sameEntry left right).all id

def same (sameRecords : Bool) (left right : Sheet) : Bool :=
  left.iterations.equals right.iterations && left.solved.equals right.solved &&
    left.inconsistent.equals right.inconsistent && left.status.equals right.status &&
    sameHistory sameRecords left.residuals right.residuals &&
    sameHistory sameRecords left.optimalities right.optimalities

def display (sheet : Sheet) : String :=
  "DiagnosticsRecorder(niter=" ++ sheet.iterations.display ++ ", solved=" ++
    sheet.solved.display ++ ", status=" ++ sheet.status.literal ++ ")"

end Sheet

end ConjugateResidual
