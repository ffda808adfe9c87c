import Oboobot.Domain.Types

/-! Position sizing: six gates in a fixed order, then a size that puts the
capped risk at the stop. -/

namespace Oboobot.Risk

open Domain

inductive RiskError where
  | domain (failure : DomainError)
  deriving DecidableEq

inductive RiskRejection where
  | dailyLossLimitReached
  | weeklyLossLimitReached
  | maxOpenPositionsReached
  | invalidStopDistance
  | maxCurrencyExposureReached
  | maxCorrelationExposureReached
  deriving DecidableEq

def RiskRejection.asStr : RiskRejection → String
  | .dailyLossLimitReached => "daily loss limit reached"
  | .weeklyLossLimitReached => "weekly loss limit reached"
  | .maxOpenPositionsReached => "max open positions reached"
  | .invalidStopDistance => "stop distance is zero, cannot size a position"
  | .maxCurrencyExposureReached =>
    "opening this position would push net exposure to one of its currencies past the configured cap"
  | .maxCorrelationExposureReached =>
    "opening this position would push exposure to an already-open, highly correlated pair past the configured cap"

structure RiskConfig where
  baseRiskPercent : Percent
  maxRiskPercent : Percent
  maxOpenPositions : Nat
  dailyLossLimitPercent : Percent
  weeklyLossLimitPercent : Percent
  maxExposurePerCurrencyPercent : Percent
  maxCorrelationExposurePercent : Percent
  correlationExposureThreshold : F64
  deriving DecidableEq

structure RiskContext where
  equity : Usd
  openPositionCount : Nat
  isTuesday : Bool
  isDoubleSmt : Bool
  entryPrice : Decimal
  stopLossPrice : Decimal
  takeProfitPrice : Decimal
  realizedPnlToday : Usd
  realizedPnlThisWeek : Usd
  currencyExposure : BTreeMap Decimal
  correlatedExposure : Decimal

/-- `"EURUSD"` splits into `("EUR", "USD")`; anything but six ASCII characters does not split. -/
def currencyPair (pair : String) : Option (String × String) :=
  if pair.utf8ByteSize = 6 ∧ pair.toList.all (fun char => char.val < 128) then
    some (String.ofList (pair.toList.take 3), String.ofList (pair.toList.drop 3))
  else none

/-- Buying is long the base currency and short the quote; selling is the reverse. -/
def baseAndQuoteDirection : Direction → Decimal × Decimal
  | .buy => (1, -1)
  | .sell => (-1, 1)

namespace DefaultRiskEngine

def effectiveCoefficient (isTuesday isDoubleSmt : Bool) : Coefficient :=
  if isTuesday || isDoubleSmt then ⟨.finite 2⟩ else ⟨.finite 1⟩

def rejected (signal : TradeSignal) (reason : RiskRejection) (decisionId : Uuid) : RiskDecision where
  decisionId := decisionId
  traceId := signal.traceId
  signalId := signal.signalId
  approved := false
  rejectionReason := some reason.asStr
  positionSize := 0
  stopLoss := 0
  takeProfit := 0
  riskPercent := .fromRatio 0
  riskCurrency := .zero

/-- Whether this trade would push one of its two currencies past the cap. -/
def currencyCapExceeded (signal : TradeSignal) (config : RiskConfig) (context : RiskContext)
    (riskCurrency : Usd) : Bool :=
  match currencyPair signal.pair with
  | none => false
  | some (base, quote) =>
    let (baseDirection, quoteDirection) := baseAndQuoteDirection signal.direction
    let maxCurrencyExposure :=
      Usd.fromPercentOf context.equity config.maxExposurePerCurrencyPercent
    [(base, baseDirection), (quote, quoteDirection)].any fun (currency, direction) =>
      let existing := (context.currencyExposure currency).getD 0
      let projected := |existing + direction * riskCurrency.asDecimal|
      projected > maxCurrencyExposure.asDecimal

def correlationCapExceeded (config : RiskConfig) (context : RiskContext) (riskCurrency : Usd) :
    Bool :=
  let maxCorrelationExposure :=
    Usd.fromPercentOf context.equity config.maxCorrelationExposurePercent
  context.correlatedExposure + riskCurrency.asDecimal > maxCorrelationExposure.asDecimal

/-- The fresh decision id is drawn by the caller. -/
def evaluate (conversion : FloatConversion) (signal : TradeSignal) (config : RiskConfig)
    (context : RiskContext) (decisionId : Uuid) : Except RiskError RiskDecision :=
  let dailyLimit := Usd.fromPercentOf context.equity config.dailyLossLimitPercent
  if context.realizedPnlToday.asDecimal ≤ -dailyLimit.asDecimal then
    .ok (rejected signal .dailyLossLimitReached decisionId)
  else
    let weeklyLimit := Usd.fromPercentOf context.equity config.weeklyLossLimitPercent
    if context.realizedPnlThisWeek.asDecimal ≤ -weeklyLimit.asDecimal then
      .ok (rejected signal .weeklyLossLimitReached decisionId)
    else if context.openPositionCount ≥ config.maxOpenPositions then
      .ok (rejected signal .maxOpenPositionsReached decisionId)
    else
      let stopDistance := |context.entryPrice - context.stopLossPrice|
      if stopDistance = 0 then
        .ok (rejected signal .invalidStopDistance decisionId)
      else
        let coefficient := effectiveCoefficient context.isTuesday context.isDoubleSmt
        match applyMultiplier conversion config.baseRiskPercent coefficient
          config.maxRiskPercent with
        | .error failure => .error (.domain failure)
        | .ok riskPercent =>
          let riskCurrency := Usd.fromPercentOf context.equity riskPercent
          if currencyCapExceeded signal config context riskCurrency then
            .ok (rejected signal .maxCurrencyExposureReached decisionId)
          else if correlationCapExceeded config context riskCurrency then
            .ok (rejected signal .maxCorrelationExposureReached decisionId)
          else
            .ok {
              decisionId
              traceId := signal.traceId
              signalId := signal.signalId
              approved := true
              rejectionReason := none
              positionSize := riskCurrency.asDecimal / stopDistance
              stopLoss := context.stopLossPrice
              takeProfit := context.takeProfitPrice
              riskPercent
              riskCurrency }

end DefaultRiskEngine

open DefaultRiskEngine

namespace RiskContext

def stopDistance (context : RiskContext) : Decimal := |context.entryPrice - context.stopLossPrice|

/-- The configured base risk, doubled at most once and then capped. -/
def cappedRisk (context : RiskContext) (config : RiskConfig) : Percent :=
  (Percent.fromRatio (config.baseRiskPercent.asRatio *
    if context.isTuesday || context.isDoubleSmt then 2 else 1)).min config.maxRiskPercent

def riskCurrency (context : RiskContext) (config : RiskConfig) : Usd :=
  Usd.fromPercentOf context.equity (context.cappedRisk config)

end RiskContext

theorem applyMultiplier_effective (conversion : FloatConversion) (context : RiskContext)
    (config : RiskConfig) :
    applyMultiplier conversion config.baseRiskPercent
        (effectiveCoefficient context.isTuesday context.isDoubleSmt) config.maxRiskPercent =
      .ok (context.cappedRisk config) := by
  unfold effectiveCoefficient RiskContext.cappedRisk
  split
  · exact_mod_cast applyMultiplier_natCast conversion _ _ (by decide : 2 ≤ 100)
  · exact_mod_cast applyMultiplier_natCast conversion _ _ (by decide : 1 ≤ 100)

/-- The two gates that read the realised profit and loss. -/
structure LossGatesPass (config : RiskConfig) (context : RiskContext) : Prop where
  daily : -(context.equity.asDecimal * config.dailyLossLimitPercent.asRatio) <
    context.realizedPnlToday.asDecimal
  weekly : -(context.equity.asDecimal * config.weeklyLossLimitPercent.asRatio) <
    context.realizedPnlThisWeek.asDecimal

/-- The four gates that read the open book and the candidate's own prices. -/
structure BookGatesPass (signal : TradeSignal) (config : RiskConfig) (context : RiskContext) :
    Prop where
  openPositions : context.openPositionCount < config.maxOpenPositions
  stopDistance : context.stopDistance ≠ 0
  currency : currencyCapExceeded signal config context (context.riskCurrency config) = false
  correlation : correlationCapExceeded config context (context.riskCurrency config) = false

instance (signal : TradeSignal) (config : RiskConfig) (context : RiskContext) :
    Decidable (BookGatesPass signal config context) :=
  decidable_of_iff
    (context.openPositionCount < config.maxOpenPositions ∧ context.stopDistance ≠ 0 ∧
      currencyCapExceeded signal config context (context.riskCurrency config) = false ∧
      correlationCapExceeded config context (context.riskCurrency config) = false)
    ⟨fun ⟨openPositions, stopDistance, currency, correlation⟩ =>
      ⟨openPositions, stopDistance, currency, correlation⟩,
      fun gates => ⟨gates.openPositions, gates.stopDistance, gates.currency, gates.correlation⟩⟩

/-- The decision on a signal that passes every gate. -/
def approval (signal : TradeSignal) (config : RiskConfig) (context : RiskContext)
    (decisionId : Uuid) : RiskDecision where
  decisionId := decisionId
  traceId := signal.traceId
  signalId := signal.signalId
  approved := true
  rejectionReason := none
  positionSize := (context.riskCurrency config).asDecimal / context.stopDistance
  stopLoss := context.stopLossPrice
  takeProfit := context.takeProfitPrice
  riskPercent := context.cappedRisk config
  riskCurrency := context.riskCurrency config

end Oboobot.Risk
