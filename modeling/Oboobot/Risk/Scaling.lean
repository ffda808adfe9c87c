import Oboobot.Risk.Sizing
import Mathlib.Tactic.Positivity
import Mathlib.Algebra.Order.Field.Basic

/-! The risk engine on an account of another size: its gates compare amounts of money
with each other, and only its sizes are such amounts. -/

namespace Oboobot.Risk

open Domain DefaultRiskEngine

def scaledUsd (factor : Decimal) (usd : Usd) : Usd := .fromDecimal (factor * usd.asDecimal)

def scaledMap (factor : Decimal) (map : BTreeMap Decimal) : BTreeMap Decimal :=
  fun key => (map key).map (factor * ·)

namespace RiskContext

/-- The same prices on an account that is `factor` times as large, with `factor` times
the profits, losses and exposures. -/
def scaled (factor : Decimal) (context : RiskContext) : RiskContext :=
  { context with
    equity := scaledUsd factor context.equity
    realizedPnlToday := scaledUsd factor context.realizedPnlToday
    realizedPnlThisWeek := scaledUsd factor context.realizedPnlThisWeek
    currencyExposure := scaledMap factor context.currencyExposure
    correlatedExposure := factor * context.correlatedExposure }

end RiskContext

def scaledDecision (factor : Decimal) (decision : RiskDecision) : RiskDecision :=
  { decision with
    positionSize := factor * decision.positionSize
    riskCurrency := scaledUsd factor decision.riskCurrency }

section scaling
variable {factor : Decimal} (signal : TradeSignal) (config : RiskConfig) (context : RiskContext)

@[simp] theorem asDecimal_scaledUsd (usd : Usd) :
    (scaledUsd factor usd).asDecimal = factor * usd.asDecimal := rfl

theorem fromPercentOf_scaledUsd (equity : Usd) (percent : Percent) :
    Usd.fromPercentOf (scaledUsd factor equity) percent =
      scaledUsd factor (Usd.fromPercentOf equity percent) := by
  simp only [Usd.fromPercentOf, scaledUsd, Usd.fromDecimal, Usd.asDecimal, mul_assoc]

theorem scaledMap_getD (map : BTreeMap Decimal) (key : String) :
    (scaledMap factor map key).getD 0 = factor * (map key).getD 0 := by
  unfold scaledMap
  cases map key <;> simp

variable (positive : 0 < factor)
include positive

theorem currencyCapExceeded_scaled (riskCurrency : Usd) :
    currencyCapExceeded signal config (context.scaled factor) (scaledUsd factor riskCurrency) =
      currencyCapExceeded signal config context riskCurrency := by
  unfold currencyCapExceeded
  cases currencyPair signal.pair with
  | none => rfl
  | some symbols =>
    have exceeds (currency : String) (direction : Decimal) :
        decide (|((context.scaled factor).currencyExposure currency).getD 0 +
            direction * (scaledUsd factor riskCurrency).asDecimal| >
          (Usd.fromPercentOf (context.scaled factor).equity
            config.maxExposurePerCurrencyPercent).asDecimal) =
        decide (|(context.currencyExposure currency).getD 0 +
            direction * riskCurrency.asDecimal| >
          (Usd.fromPercentOf context.equity config.maxExposurePerCurrencyPercent).asDecimal) := by
      have projected : ((context.scaled factor).currencyExposure currency).getD 0 +
          direction * (scaledUsd factor riskCurrency).asDecimal =
            factor * ((context.currencyExposure currency).getD 0 +
              direction * riskCurrency.asDecimal) := by
        simp only [RiskContext.scaled, scaledMap_getD, asDecimal_scaledUsd]
        ring
      rw [projected, abs_mul, abs_of_pos positive]
      simp only [RiskContext.scaled, fromPercentOf_scaledUsd, asDecimal_scaledUsd, gt_iff_lt,
        mul_lt_mul_iff_right₀ positive]
    simp only [List.any_cons, List.any_nil, exceeds]

theorem correlationCapExceeded_scaled (riskCurrency : Usd) :
    correlationCapExceeded config (context.scaled factor) (scaledUsd factor riskCurrency) =
      correlationCapExceeded config context riskCurrency := by
  simp only [correlationCapExceeded, RiskContext.scaled, fromPercentOf_scaledUsd,
    asDecimal_scaledUsd, ← mul_add, gt_iff_lt, mul_lt_mul_iff_right₀ positive]

omit positive in
theorem rejected_scaled (reason : RiskRejection) (decisionId : Uuid) :
    scaledDecision factor (rejected signal reason decisionId) = rejected signal reason decisionId := by
  simp [scaledDecision, rejected, scaledUsd, Usd.zero, Usd.fromDecimal, Usd.asDecimal]

/-- On a scaled account the engine comes to the same decision, with the size scaled. -/
theorem evaluate_scaled (conversion : FloatConversion) (decisionId : Uuid) :
    evaluate conversion signal config (context.scaled factor) decisionId =
      (evaluate conversion signal config context decisionId).map (scaledDecision factor) := by
  have limit (pnl : Usd) (percent : Percent) :
      (scaledUsd factor pnl).asDecimal ≤
          -(Usd.fromPercentOf (scaledUsd factor context.equity) percent).asDecimal ↔
        pnl.asDecimal ≤ -(Usd.fromPercentOf context.equity percent).asDecimal := by
    rw [fromPercentOf_scaledUsd, asDecimal_scaledUsd, asDecimal_scaledUsd, ← mul_neg,
      mul_le_mul_iff_right₀ positive]
  have turnedAway (reason : RiskRejection) :
      (Except.ok (rejected signal reason decisionId) : Except RiskError RiskDecision) =
        Except.map (scaledDecision factor) (.ok (rejected signal reason decisionId)) :=
    congrArg Except.ok (rejected_scaled signal reason decisionId).symm
  have equity : (context.scaled factor).equity = scaledUsd factor context.equity := rfl
  have today : (context.scaled factor).realizedPnlToday =
      scaledUsd factor context.realizedPnlToday := rfl
  have week : (context.scaled factor).realizedPnlThisWeek =
      scaledUsd factor context.realizedPnlThisWeek := rfl
  have count : (context.scaled factor).openPositionCount = context.openPositionCount := rfl
  have entry : (context.scaled factor).entryPrice = context.entryPrice := rfl
  have stop : (context.scaled factor).stopLossPrice = context.stopLossPrice := rfl
  have target : (context.scaled factor).takeProfitPrice = context.takeProfitPrice := rfl
  have tuesday : (context.scaled factor).isTuesday = context.isTuesday := rfl
  have double : (context.scaled factor).isDoubleSmt = context.isDoubleSmt := rfl
  simp only [evaluate, equity, today, week, count, entry, stop, target, tuesday, double, limit]
  split_ifs
  · exact turnedAway _
  · exact turnedAway _
  · exact turnedAway _
  · exact turnedAway _
  · cases applyMultiplier conversion config.baseRiskPercent
      (effectiveCoefficient context.isTuesday context.isDoubleSmt) config.maxRiskPercent with
    | error failure => rfl
    | ok riskPercent =>
      simp only [fromPercentOf_scaledUsd, currencyCapExceeded_scaled signal config context positive,
        correlationCapExceeded_scaled config context positive]
      split_ifs
      · exact turnedAway _
      · exact turnedAway _
      · simp only [Except.map, scaledDecision, asDecimal_scaledUsd, mul_div_assoc]

end scaling

end Oboobot.Risk
