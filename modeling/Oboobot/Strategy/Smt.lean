import Oboobot.SessionTime.TrueOpen

/-! SMT divergence: one asset takes out a level that its counterpart holds. -/

namespace Oboobot.Strategy

open Domain SessionTime

structure BufferLevels where
  high : Decimal
  low : Decimal
  deriving DecidableEq

/-- The asset that held its level, which is the one to trade. -/
inductive TradeTarget where
  | primary
  | secondary
  deriving DecidableEq

def detectDivergence (primaryPrice : Decimal) (primaryBuffer : BufferLevels)
    (secondaryPrice : Decimal) (secondaryBuffer : BufferLevels) :
    Option (TradeTarget × Direction) :=
  let primarySweptLow := decide (primaryPrice < primaryBuffer.low)
  let secondarySweptLow := decide (secondaryPrice < secondaryBuffer.low)
  let primarySweptHigh := decide (primaryPrice > primaryBuffer.high)
  let secondarySweptHigh := decide (secondaryPrice > secondaryBuffer.high)
  if primarySweptLow && !secondarySweptLow then some (.secondary, .buy)
  else if secondarySweptLow && !primarySweptLow then some (.primary, .buy)
  else if primarySweptHigh && !secondarySweptHigh then some (.secondary, .sell)
  else if secondarySweptHigh && !primarySweptHigh then some (.primary, .sell)
  else none

/-- Neither side of the range was taken out by one asset alone. -/
def Confirmed (primaryPrice : Decimal) (primaryBuffer : BufferLevels)
    (secondaryPrice : Decimal) (secondaryBuffer : BufferLevels) : Prop :=
  (primaryPrice < primaryBuffer.low ↔ secondaryPrice < secondaryBuffer.low) ∧
    (primaryPrice > primaryBuffer.high ↔ secondaryPrice > secondaryBuffer.high)

theorem detectDivergence_eq_none_iff (primaryPrice : Decimal) (primaryBuffer : BufferLevels)
    (secondaryPrice : Decimal) (secondaryBuffer : BufferLevels) :
    detectDivergence primaryPrice primaryBuffer secondaryPrice secondaryBuffer = none ↔
      Confirmed primaryPrice primaryBuffer secondaryPrice secondaryBuffer := by
  unfold detectDivergence Confirmed
  by_cases primaryLow : primaryPrice < primaryBuffer.low <;>
    by_cases secondaryLow : secondaryPrice < secondaryBuffer.low <;>
    by_cases primaryHigh : primaryPrice > primaryBuffer.high <;>
    by_cases secondaryHigh : secondaryPrice > secondaryBuffer.high <;>
    simp [primaryLow, secondaryLow, primaryHigh, secondaryHigh]

def BufferLevels.Contains (levels : BufferLevels) (price : Decimal) : Prop :=
  levels.low ≤ price ∧ price ≤ levels.high

/-- A price inside its own range sweeps nothing. -/
theorem detectDivergence_inside {primaryPrice secondaryPrice : Decimal}
    {primaryBuffer secondaryBuffer : BufferLevels}
    (primary : primaryBuffer.Contains primaryPrice)
    (secondary : secondaryBuffer.Contains secondaryPrice) :
    detectDivergence primaryPrice primaryBuffer secondaryPrice secondaryBuffer = none := by
  rw [detectDivergence_eq_none_iff]
  exact ⟨iff_of_false (not_lt.mpr primary.1) (not_lt.mpr secondary.1),
    iff_of_false (not_lt.mpr primary.2) (not_lt.mpr secondary.2)⟩

structure DivergenceInputs where
  primaryPrice : Decimal
  secondaryPrice : Decimal
  dailyPrimaryBuffer : BufferLevels
  dailySecondaryBuffer : BufferLevels
  sessionPrimaryBuffer : BufferLevels
  sessionSecondaryBuffer : BufferLevels
  deriving DecidableEq

def DivergenceInputs.daily (inputs : DivergenceInputs) : Option (TradeTarget × Direction) :=
  detectDivergence inputs.primaryPrice inputs.dailyPrimaryBuffer
    inputs.secondaryPrice inputs.dailySecondaryBuffer

def DivergenceInputs.session (inputs : DivergenceInputs) : Option (TradeTarget × Direction) :=
  detectDivergence inputs.primaryPrice inputs.sessionPrimaryBuffer
    inputs.secondaryPrice inputs.sessionSecondaryBuffer

/-- Two readings that agree make a `Double`; otherwise the daily reading wins. -/
def evaluateSmt (inputs : DivergenceInputs) : Option (TradeTarget × Direction × Tier) :=
  match inputs.daily, inputs.session with
  | some (target1, d1), some (target2, d2) =>
    if target1 = target2 ∧ d1 = d2 then some (target1, d1, .double) else some (target1, d1, .tier1)
  | some (target1, d1), none => some (target1, d1, .tier1)
  | none, some (target2, d2) => some (target2, d2, .tier2)
  | none, none => none

theorem evaluateSmt_eq_none_iff (inputs : DivergenceInputs) :
    evaluateSmt inputs = none ↔ inputs.daily = none ∧ inputs.session = none := by
  unfold evaluateSmt
  cases inputs.daily with
  | none => cases inputs.session <;> simp
  | some daily =>
    cases inputs.session with
    | none => simp
    | some session =>
      simp only [reduceCtorEq, and_self, iff_false]
      split <;> simp

/-- Each price lies inside both of its own ranges. -/
structure DivergenceInputs.Inside (inputs : DivergenceInputs) : Prop where
  dailyPrimary : inputs.dailyPrimaryBuffer.Contains inputs.primaryPrice
  dailySecondary : inputs.dailySecondaryBuffer.Contains inputs.secondaryPrice
  sessionPrimary : inputs.sessionPrimaryBuffer.Contains inputs.primaryPrice
  sessionSecondary : inputs.sessionSecondaryBuffer.Contains inputs.secondaryPrice

theorem evaluateSmt_inside {inputs : DivergenceInputs} (inside : inputs.Inside) :
    evaluateSmt inputs = none := by
  rw [evaluateSmt_eq_none_iff]
  constructor
  · exact detectDivergence_inside inside.dailyPrimary inside.dailySecondary
  · exact detectDivergence_inside inside.sessionPrimary inside.sessionSecondary

inductive SignalOutcome where
  | noDivergence
  | signal (signal : TradeSignal)
  | rejected (invalidated : SignalInvalidated)
  deriving DecidableEq

def TradeTarget.pair (target : TradeTarget) (primaryPair secondaryPair : String) : String :=
  match target with
  | .primary => primaryPair
  | .secondary => secondaryPair

theorem TradeTarget.pair_eq_or (target : TradeTarget) (primaryPair secondaryPair : String) :
    target.pair primaryPair secondaryPair = primaryPair ∨
      target.pair primaryPair secondaryPair = secondaryPair := by
  cases target with
  | primary => exact .inl rfl
  | secondary => exact .inr rfl

/-- The fresh ids and the wall-clock reading are drawn by the caller. -/
def generateSignal (inputs : DivergenceInputs) (weeklyBias dailyBias : Bias)
    (primaryPair secondaryPair : String) (originatingSnapshotId : Uuid)
    (strength confidence : Decimal) (validUntil : Instant)
    (traceId signalId : Uuid) (timestamp : Instant) : SignalOutcome :=
  match evaluateSmt inputs with
  | none => .noDivergence
  | some (target, direction, tier) =>
    let pair := target.pair primaryPair secondaryPair
    match trueOpenGate weeklyBias dailyBias direction with
    | .ok () => .signal {
        signalId, traceId, timestamp, pair, direction, tier, strength, confidence, validUntil
        originatingSnapshotId }
    | .error rejectionReason => .rejected {
        traceId, signalId, rejectionReason, weeklyBias, dailyBias, smtDirection := direction }

theorem evaluateSmt_of_noDivergence {inputs : DivergenceInputs} {weeklyBias dailyBias : Bias}
    {primaryPair secondaryPair : String} {originatingSnapshotId : Uuid}
    {strength confidence : Decimal} {validUntil : Instant} {traceId signalId : Uuid}
    {timestamp : Instant}
    (generated : generateSignal inputs weeklyBias dailyBias primaryPair secondaryPair
      originatingSnapshotId strength confidence validUntil traceId signalId timestamp =
        .noDivergence) :
    evaluateSmt inputs = none := by
  unfold generateSignal at generated
  split at generated
  · assumption
  · split at generated <;> cases generated

/-- A rejection comes from a divergence whose direction the gate refused. -/
theorem generateSignal_rejected {inputs : DivergenceInputs} {weeklyBias dailyBias : Bias}
    {primaryPair secondaryPair : String} {originatingSnapshotId : Uuid}
    {strength confidence : Decimal} {validUntil : Instant} {traceId signalId : Uuid}
    {timestamp : Instant} {invalidated : SignalInvalidated}
    (generated : generateSignal inputs weeklyBias dailyBias primaryPair secondaryPair
      originatingSnapshotId strength confidence validUntil traceId signalId timestamp =
        .rejected invalidated) :
    ∃ target tier, evaluateSmt inputs = some (target, invalidated.smtDirection, tier) ∧
      trueOpenGate weeklyBias dailyBias invalidated.smtDirection =
        .error invalidated.rejectionReason := by
  unfold generateSignal at generated
  split at generated
  · cases generated
  · rename_i target direction tier found
    split at generated
    · cases generated
    · rename_i reason refused
      cases generated
      exact ⟨target, tier, found, refused⟩

/-- A signal names the divergence it came from, and the gate accepted its direction. -/
theorem generateSignal_signal {inputs : DivergenceInputs} {weeklyBias dailyBias : Bias}
    {primaryPair secondaryPair : String} {originatingSnapshotId : Uuid}
    {strength confidence : Decimal} {validUntil : Instant} {traceId signalId : Uuid}
    {timestamp : Instant} {signal : TradeSignal}
    (generated : generateSignal inputs weeklyBias dailyBias primaryPair secondaryPair
      originatingSnapshotId strength confidence validUntil traceId signalId timestamp =
        .signal signal) :
    trueOpenGate weeklyBias dailyBias signal.direction = .ok () ∧
      ∃ target, evaluateSmt inputs = some (target, signal.direction, signal.tier) ∧
        signal.pair = target.pair primaryPair secondaryPair := by
  unfold generateSignal at generated
  split at generated
  · cases generated
  · rename_i target direction tier found
    split at generated
    · rename_i accepted
      cases generated
      exact ⟨accepted, target, found, rfl⟩
    · cases generated

end Oboobot.Strategy
