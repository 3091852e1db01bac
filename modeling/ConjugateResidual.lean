import ConjugateResidual.Decimal.Shortest
import ConjugateResidual.Decimal.Numeral
import ConjugateResidual.Text.Quoted
import ConjugateResidual.ElementType
import ConjugateResidual.Value
import ConjugateResidual.Fault
import ConjugateResidual.Tensor
import ConjugateResidual.Arithmetic
import ConjugateResidual.Tensor.Nested
import ConjugateResidual.Tensor.Routines
import ConjugateResidual.Diagnostics
import ConjugateResidual.Quadratic
import ConjugateResidual.TrustRegion
import ConjugateResidual.Diagnostics.Archive
import ConjugateResidual.View
import ConjugateResidual.Iteration
import ConjugateResidual.Solve
import ConjugateResidual.Check
import ConjugateResidual.Keywords
import ConjugateResidual.Event
import ConjugateResidual.Operator.Elimination
import ConjugateResidual.Design
import ConjugateResidual.Observer
import ConjugateResidual.Session
import ConjugateResidual.Stopwatch
import ConjugateResidual.Tolerance
import ConjugateResidual.Tensor.Typed
import ConjugateResidual.Extended
import ConjugateResidual.Rectangular
import ConjugateResidual.Data.Routines
import ConjugateResidual.Proofs.Method.Conjugacy
import ConjugateResidual.Proofs.Method.Dimension
import ConjugateResidual.Proofs.Course.Reach
import ConjugateResidual.Proofs.Exact.Arithmetic
import ConjugateResidual.Proofs.Exact.Quadratic
import ConjugateResidual.Proofs.Exact.Boundary
import ConjugateResidual.Proofs.Exact.Problem
import ConjugateResidual.Proofs.Exact.Steps
import ConjugateResidual.Proofs.Course.Watch
import ConjugateResidual.Proofs.Exact.Moves
import ConjugateResidual.Proofs.Exact.Simulation
import ConjugateResidual.Proofs.Exact.Reached
import ConjugateResidual.Proofs.Exact.FullSteps
import ConjugateResidual.Proofs.Exact.Coherence
import ConjugateResidual.Proofs.Exact.Termination
import ConjugateResidual.Proofs.Exact.Ball
import ConjugateResidual.Proofs.Exact.Unbounded
import ConjugateResidual.Proofs.Exact.Agreement
import ConjugateResidual.Proofs.Method.Descent
import ConjugateResidual.Proofs.Method.Outward
import ConjugateResidual.Proofs.Exact.Landing
import ConjugateResidual.Proofs.Exact.Outward
import ConjugateResidual.Proofs.Exact.Monotone
import ConjugateResidual.Proofs.Course.Coupling
import ConjugateResidual.Proofs.Course.Attempt
import ConjugateResidual.Proofs.Course.Trajectory
import ConjugateResidual.Proofs.Stopping
import ConjugateResidual.Proofs.Course.Upkeep
import ConjugateResidual.Proofs.Course.Alike
import ConjugateResidual.Proofs.Machine.Sizes
import ConjugateResidual.Proofs.Course.Views
import ConjugateResidual.Proofs.Reuse
import ConjugateResidual.Proofs.Exact.Outcomes
import ConjugateResidual.Proofs.Method.Scaling
import ConjugateResidual.Proofs.Exact.Scaling
import ConjugateResidual.Proofs.Exact.Homogeneity
import ConjugateResidual.Proofs.Exact.Degeneracy
import ConjugateResidual.Proofs.Exact.Certificate
import ConjugateResidual.Proofs.Exact.Aftermath
import ConjugateResidual.Proofs.Method.Pseudoinverse
import ConjugateResidual.Proofs.Exact.Shortest
import ConjugateResidual.Proofs.Exact.GradientStep
import ConjugateResidual.Proofs.Exact.Ridge
import ConjugateResidual.Proofs.Course.Records
import ConjugateResidual.Proofs.Machine.Stored
import ConjugateResidual.Proofs.Neutral
import ConjugateResidual.Proofs.Course.Choice
import ConjugateResidual.Proofs.Course.Turns
import ConjugateResidual.Proofs.Verdict
import ConjugateResidual.Proofs.Chronicle
import ConjugateResidual.Proofs.Course.Refusal
import ConjugateResidual.Proofs.Machine.Probes
import ConjugateResidual.Proofs.Configuration
import ConjugateResidual.Proofs.Holders
import ConjugateResidual.Proofs.Applications
import ConjugateResidual.Proofs.Machine.Solvers
import ConjugateResidual.Proofs.Machine.Acceptance
import ConjugateResidual.Proofs.Machine.WellFormed
import ConjugateResidual.Proofs.Exact.Chord
import ConjugateResidual.Proofs.Exact.Clamped
import ConjugateResidual.Proofs.Exact.Roots
import ConjugateResidual.Proofs.Machine.Nonnegative
import ConjugateResidual.Proofs.Machine.Columnless
import ConjugateResidual.Proofs.Stopwatch.Accounting
import ConjugateResidual.Proofs.Transcript
