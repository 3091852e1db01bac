import ConjugateResidual.Decimal.Scientific
import ConjugateResidual.Diagnostics.Sheet
import ConjugateResidual.Solve

/-!
How a solve is told: the progress lines, the warnings, and the summary of its statistics.
-/

namespace ConjugateResidual

def shortNorm (value : Float) : String :=
  Decimal.scientific 2 value

def summaryNorm (value : Float) : String :=
  Decimal.scientific 3 value

def optimalityLabel : String := "‖Aᴴr‖"

def residualLabel : String := "‖r‖"

/-- The progress table has a column of five for the iteration and two of eight for the norms. -/
def tableRow (iteration optimality residual : String) : String :=
  Decimal.padLeft 5 iteration ++ "  " ++ Decimal.padLeft 8 optimality ++ "  " ++
    Decimal.padLeft 8 residual

def Line.text : Line Float → String
  | .banner rows columns =>
      "CRLS: system of " ++ toString rows ++ " equations in " ++ toString columns ++ " variables"
  | .header => tableRow "k" optimalityLabel residualLabel
  | .progress iterations optimality residual =>
      tableRow (toString iterations) (shortNorm optimality) (shortNorm residual)
  | .blank => ""

def Line.output (lines : List (Line Float)) : String :=
  String.join (lines.map fun line => line.text ++ "\n")

def Shortfall.text (shortfall : Shortfall Float) : String :=
  "CRLS did not converge after " ++ toString shortfall.iterations ++ " iterations (final " ++
    optimalityLabel ++ ": " ++ shortNorm shortfall.optimality ++ ", threshold: " ++
    shortNorm shortfall.threshold ++ ")"

def Report.sections (report : Report Float) : List String :=
  "initialization" :: if report.figures?.isSome then ["iterations"] else []

def totalKey : String := "total_seconds"

structure Statistics where
  stats : Sheet
  threshold? : Option Float
  backend : String
  timing? : Option (List (String × Float))
  warnings : List String

namespace Statistics

def backendName : String := "cpu_crls"

def methodName : String := "crls"

def version : String := "0.1.0"

def provenanceKeys : List String :=
  ["krylovls_version", "numpy_version", "scipy_version"]

/-- Whether a name stands for something computed from the result, which cannot be assigned. -/
def isComputed (name : String) : Bool :=
  ["niter", "solved", "inconsistent", "status", "residuals", "aresiduals", "info", "timing",
    "backend_name", "warnings", "result"].contains name

def ofReport (report : Report Float) (total : Float) (sectionTime : String → Float) :
    Statistics :=
  { stats := .ofSnapshot report.stats
    threshold? := report.figures?.map Figures.threshold
    backend := backendName
    timing? :=
      some ((totalKey, total) :: report.sections.map fun name => (name, sectionTime name))
    warnings := report.warnings.map Shortfall.text }

def totalSeconds? (statistics : Statistics) : Option Float :=
  statistics.timing?.bind fun timing => timing.lookup totalKey

def occurs (part : List Char) : List Char → Bool
  | [] => part.isEmpty
  | first :: rest => part.isPrefixOf (first :: rest) || occurs part rest

def hasWarning (statistics : Statistics) (part : String) : Bool :=
  statistics.warnings.any fun warning => occurs part.toList warning.toList

def historyLine (label : String) (history : List Float) : List String :=
  match history with
  | [] => []
  | first :: rest =>
      [label ++ ": " ++ summaryNorm first ++ " -> " ++ summaryNorm (rest.getLastD first)]

def rule (char : Char) : String :=
  String.ofList (List.replicate 50 char)

def thresholdLine (threshold? : Option Float) : List String :=
  match threshold? with
  | some threshold => ["Stopping threshold: " ++ summaryNorm threshold]
  | none => []

/-- An empty timing is as good as none. -/
def timeLine (timing? : Option (List (String × Float))) : List String :=
  match timing? with
  | none | some [] => []
  | some timing => ["Time: " ++ Decimal.fixed 4 ((timing.lookup totalKey).getD 0.0) ++ "s"]

def summary (statistics : Statistics) : String :=
  let stats := statistics.stats
  String.intercalate "\n"
    (["CRLS Statistics",
        rule '=',
        "Status: " ++ stats.status.display,
        "Iterations: " ++ stats.iterations.display,
        "Solved: " ++ stats.solved.display,
        "Inconsistent: " ++ stats.inconsistent.display] ++
      thresholdLine statistics.threshold? ++
      historyLine optimalityLabel stats.optimalities ++
      historyLine residualLabel stats.residuals ++
      [rule '-', "Backend: " ++ statistics.backend] ++
      timeLine statistics.timing? ++
      statistics.warnings.map fun warning => "Warning: " ++ warning)

def display (statistics : Statistics) : String :=
  let stats := statistics.stats
  "CRLSStats(niter=" ++ stats.iterations.display ++ ", solved=" ++ stats.solved.display ++
    ", inconsistent=" ++ stats.inconsistent.display ++ ", status=" ++ stats.status.literal ++ ")"

end Statistics

end ConjugateResidual
