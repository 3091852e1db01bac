/-!
The words in which a solve reports how it ended.
-/

namespace ConjugateResidual

inductive Status where
  | unknown
  | zeroRightHandSide
  | solved
  | zeroCurvature
  | onBoundary
  | budgetExhausted
  | userExit
  deriving DecidableEq, Repr

namespace Status

def text : Status → String
  | .unknown => "unknown"
  | .zeroRightHandSide => "x = 0 is a zero-residual solution"
  | .solved => "solution good enough given atol and rtol"
  | .zeroCurvature => "zero-curvature encountered"
  | .onBoundary => "on trust-region boundary"
  | .budgetExhausted => "maximum number of iterations exceeded"
  | .userExit => "user-requested exit"

def terminal : List Status :=
  [.zeroRightHandSide, .solved, .zeroCurvature, .onBoundary, .budgetExhausted, .userExit]

end Status

end ConjugateResidual
