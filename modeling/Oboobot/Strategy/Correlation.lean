import Oboobot.Domain.Types

/-! The rolling correlation of a pair-set. Sums and products are exact; the
square root is a parameter, because a rational number need not have one. -/

namespace Oboobot.Strategy

open Domain

def maxSamples : Nat := 500

structure CorrelationState where
  samples : List (Decimal × Decimal)
  baselineCoefficient : Option ℚ
  lastUpdated : Option Instant
  deriving DecidableEq

/-- `CorrelationState::default()`. -/
def CorrelationState.default : CorrelationState where
  samples := []
  baselineCoefficient := none
  lastUpdated := none

structure RegimeShift where
  baseline : ℚ
  current : ℚ
  deviation : ℚ
  deriving DecidableEq

/-- Add a sample, dropping the oldest once the window is full. -/
def recordSample (state : CorrelationState) (primary secondary : Decimal) (now : Instant) :
    CorrelationState :=
  let samples := state.samples ++ [(primary, secondary)]
  { state with
    samples := if samples.length > maxSamples then samples.drop 1 else samples
    lastUpdated := some now }

/-- The accumulators of `compute_coefficient`. -/
structure Sums where
  x : ℚ
  y : ℚ
  xy : ℚ
  x2 : ℚ
  y2 : ℚ

def Sums.zero : Sums := ⟨0, 0, 0, 0, 0⟩

def Sums.add (sums : Sums) (sample : Decimal × Decimal) : Sums where
  x := sums.x + sample.1
  y := sums.y + sample.2
  xy := sums.xy + sample.1 * sample.2
  x2 := sums.x2 + sample.1 * sample.1
  y2 := sums.y2 + sample.2 * sample.2

variable (sqrt : ℚ → ℚ)

/-- The Pearson coefficient over the window. -/
def computeCoefficient (state : CorrelationState) : Option ℚ :=
  let n := state.samples.length
  if n < 2 then none
  else
    let sums := state.samples.foldl Sums.add .zero
    let numerator := n * sums.xy - sums.x * sums.y
    let denominator := sqrt ((n * sums.x2 - sums.x * sums.x) * (n * sums.y2 - sums.y * sums.y))
    if denominator = 0 then none else some (numerator / denominator)

def detectRegimeShift (state : CorrelationState) (threshold : F64) : Option RegimeShift := do
  let baseline ← state.baselineCoefficient
  let current ← computeCoefficient sqrt state
  let deviation := |current - baseline|
  if threshold.lt (.finite deviation) then some { baseline, current, deviation } else none

end Oboobot.Strategy
