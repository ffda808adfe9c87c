import Oboobot.Risk.Sizing

/-! The six gates of the risk engine one by one: which of them a rejection names,
and what an approval risks. -/

namespace Oboobot.Risk

open Domain DefaultRiskEngine

section currencies

theorem utf8ByteSize_ofList_ascii {chars : List Char} (ascii : ∀ char ∈ chars, char.val < 128) :
    (String.ofList chars).utf8ByteSize = chars.length := by
  induction chars with
  | nil => rfl
  | cons char rest ih =>
    have single : char.utf8Size = 1 := by
      rw [Char.utf8Size_eq_one_iff]
      exact UInt32.le_iff_toNat_le.mpr
        (Nat.le_of_lt_succ (UInt32.lt_iff_toNat_lt.mp (ascii char List.mem_cons_self)))
    rw [String.ofList_cons, String.utf8ByteSize_append, String.utf8ByteSize_singleton,
      ih fun other member => ascii other (List.mem_cons_of_mem _ member), single, List.length_cons,
      Nat.add_comm]

def SixAscii (pair : String) : Prop :=
  pair.toList.length = 6 ∧ ∀ char ∈ pair.toList, char.val < 128

def baseCurrency (pair : String) : String := .ofList (pair.toList.take 3)

def quoteCurrency (pair : String) : String := .ofList (pair.toList.drop 3)

theorem currencyPair_of_sixAscii {pair : String} (shape : SixAscii pair) :
    currencyPair pair = some (baseCurrency pair, quoteCurrency pair) := by
  have size : pair.utf8ByteSize = 6 := by
    rw [← shape.1, ← utf8ByteSize_ofList_ascii shape.2, String.ofList_toList]
  have ascii : pair.toList.all (fun char => char.val < 128) = true := by
    simpa using shape.2
  rw [currencyPair, if_pos ⟨size, ascii⟩]
  rfl

theorem sixAscii_of_currencyPair {pair : String} {currencies : String × String}
    (splits : currencyPair pair = some currencies) : SixAscii pair := by
  unfold currencyPair at splits
  split at splits
  · rename_i shape
    have ascii : ∀ char ∈ pair.toList, char.val < 128 := by simpa using shape.2
    refine ⟨?_, ascii⟩
    rw [← shape.1, ← utf8ByteSize_ofList_ascii ascii, String.ofList_toList]
  · cases splits

end currencies

variable (signal : TradeSignal) (config : RiskConfig) (context : RiskContext)

/-- The risk of the trade, as it adds to the exposure in the base currency. -/
def signedRisk : Decimal :=
  match signal.direction with
  | .buy => (context.riskCurrency config).asDecimal
  | .sell => -(context.riskCurrency config).asDecimal

/-- What the account may hold of one currency. -/
def currencyCap : Decimal :=
  context.equity.asDecimal * config.maxExposurePerCurrencyPercent.asRatio

/-- The gate that this rejection belongs to lets the trade through. -/
def Passes : RiskRejection → Prop
  | .dailyLossLimitReached =>
    -(context.equity.asDecimal * config.dailyLossLimitPercent.asRatio) <
      context.realizedPnlToday.asDecimal
  | .weeklyLossLimitReached =>
    -(context.equity.asDecimal * config.weeklyLossLimitPercent.asRatio) <
      context.realizedPnlThisWeek.asDecimal
  | .maxOpenPositionsReached => context.openPositionCount < config.maxOpenPositions
  | .invalidStopDistance => context.entryPrice ≠ context.stopLossPrice
  | .maxCurrencyExposureReached => SixAscii signal.pair →
    |(context.currencyExposure (baseCurrency signal.pair)).getD 0 + signedRisk signal config context| ≤
        currencyCap config context ∧
      |(context.currencyExposure (quoteCurrency signal.pair)).getD 0 -
          signedRisk signal config context| ≤ currencyCap config context
  | .maxCorrelationExposureReached =>
    context.correlatedExposure + (context.riskCurrency config).asDecimal ≤
      context.equity.asDecimal * config.maxCorrelationExposurePercent.asRatio

/-- The gates in the order in which they are asked. -/
def gateOrder : List RiskRejection :=
  [.dailyLossLimitReached, .weeklyLossLimitReached, .maxOpenPositionsReached, .invalidStopDistance,
    .maxCurrencyExposureReached, .maxCorrelationExposureReached]

/-- The gates before this one let the trade through, and this one does not. -/
def FirstToRefuse (reason : RiskRejection) : Prop :=
  ∃ earlier later, gateOrder = earlier ++ reason :: later ∧
    (∀ gate ∈ earlier, Passes signal config context gate) ∧ ¬Passes signal config context reason

variable {signal config context}

theorem passes_currency_iff :
    Passes signal config context .maxCurrencyExposureReached ↔
      currencyCapExceeded signal config context (context.riskCurrency config) = false := by
  unfold currencyCapExceeded
  cases splits : currencyPair signal.pair with
  | none =>
    refine iff_of_true ?_ rfl
    intro shape
    rw [currencyPair_of_sixAscii shape] at splits
    cases splits
  | some currencies =>
    have shape := sixAscii_of_currencyPair splits
    rw [currencyPair_of_sixAscii shape] at splits
    cases splits
    cases direction : signal.direction <;>
      simp [Passes, shape, signedRisk, direction, baseAndQuoteDirection, currencyCap,
        sub_eq_add_neg]

theorem passes_correlation_iff :
    Passes signal config context .maxCorrelationExposureReached ↔
      correlationCapExceeded config context (context.riskCurrency config) = false := by
  simp [Passes, correlationCapExceeded]

/-- Either every gate lets the trade through and the approval is as `approval` says,
or the first gate to refuse it is named. -/
theorem evaluate_gates (conversion : FloatConversion) (signal : TradeSignal) (config : RiskConfig)
    (context : RiskContext) (decisionId : Uuid) :
    ((∀ gate, Passes signal config context gate) ∧
        evaluate conversion signal config context decisionId =
          .ok (approval signal config context decisionId)) ∨
      ∃ reason, FirstToRefuse signal config context reason ∧
        evaluate conversion signal config context decisionId = .ok (rejected signal reason decisionId) := by
  unfold evaluate
  simp only [applyMultiplier_effective, Usd.asDecimal_fromPercentOf]
  split
  · rename_i reached
    refine .inr ⟨_, ⟨[], _, rfl, ?_, not_lt.mpr reached⟩, rfl⟩
    exact List.forall_mem_nil _
  · rename_i notReached
    have daily : Passes signal config context .dailyLossLimitReached := not_le.mp notReached
    split
    · rename_i reached
      refine .inr ⟨_, ⟨[.dailyLossLimitReached], _, rfl, ?_, not_lt.mpr reached⟩, rfl⟩
      simpa using daily
    · rename_i notReached
      have weekly : Passes signal config context .weeklyLossLimitReached := not_le.mp notReached
      split
      · rename_i full
        refine .inr ⟨_, ⟨[.dailyLossLimitReached, .weeklyLossLimitReached], _, rfl, ?_,
          not_lt.mpr full⟩, rfl⟩
        simpa using ⟨daily, weekly⟩
      · rename_i notFull
        have room : Passes signal config context .maxOpenPositionsReached := not_le.mp notFull
        split
        · rename_i zero
          refine .inr ⟨_, ⟨[.dailyLossLimitReached, .weeklyLossLimitReached,
            .maxOpenPositionsReached], _, rfl, ?_, not_not.mpr ?_⟩, rfl⟩
          · simpa using ⟨daily, weekly, room⟩
          · exact sub_eq_zero.mp (abs_eq_zero.mp zero)
        · rename_i distance
          have apart : Passes signal config context .invalidStopDistance := by
            intro same
            exact distance (abs_eq_zero.mpr (sub_eq_zero.mpr same))
          split
          · rename_i exceeded
            refine .inr ⟨_, ⟨[.dailyLossLimitReached, .weeklyLossLimitReached,
              .maxOpenPositionsReached, .invalidStopDistance], _, rfl, ?_, ?_⟩, rfl⟩
            · simpa using ⟨daily, weekly, room, apart⟩
            · rw [passes_currency_iff]
              exact fun within => Bool.false_ne_true (within.symm.trans exceeded)
          · rename_i notExceeded
            have currency : Passes signal config context .maxCurrencyExposureReached :=
              passes_currency_iff.mpr (Bool.eq_false_of_not_eq_true notExceeded)
            split
            · rename_i exceeded
              refine .inr ⟨_, ⟨[.dailyLossLimitReached, .weeklyLossLimitReached,
                .maxOpenPositionsReached, .invalidStopDistance, .maxCurrencyExposureReached], _, rfl,
                ?_, ?_⟩, rfl⟩
              · simpa using ⟨daily, weekly, room, apart, currency⟩
              · rw [passes_correlation_iff]
                exact fun within => Bool.false_ne_true (within.symm.trans exceeded)
            · rename_i notExceeded
              have correlation : Passes signal config context .maxCorrelationExposureReached :=
                passes_correlation_iff.mpr (Bool.eq_false_of_not_eq_true notExceeded)
              refine .inl ⟨?_, rfl⟩
              intro gate
              cases gate <;> assumption

theorem FirstToRefuse.refuses {reason : RiskRejection}
    (first : FirstToRefuse signal config context reason) : ¬Passes signal config context reason := by
  obtain ⟨_, _, _, _, refuses⟩ := first
  exact refuses

theorem passes_iff : (∀ gate, Passes signal config context gate) ↔
    LossGatesPass config context ∧ BookGatesPass signal config context := by
  have distance : context.stopDistance = 0 ↔ context.entryPrice = context.stopLossPrice :=
    abs_eq_zero.trans sub_eq_zero
  constructor
  · intro passes
    refine ⟨⟨passes .dailyLossLimitReached, passes .weeklyLossLimitReached⟩,
      passes .maxOpenPositionsReached, ?_, passes_currency_iff.mp (passes _),
      passes_correlation_iff.mp (passes _)⟩
    exact mt distance.mp (passes .invalidStopDistance)
  · rintro ⟨losses, book⟩ gate
    cases gate with
    | dailyLossLimitReached => exact losses.daily
    | weeklyLossLimitReached => exact losses.weekly
    | maxOpenPositionsReached => exact book.openPositions
    | invalidStopDistance => exact mt distance.mpr book.stopDistance
    | maxCurrencyExposureReached => exact passes_currency_iff.mpr book.currency
    | maxCorrelationExposureReached => exact passes_correlation_iff.mpr book.correlation

/-- `evaluate` never fails, and either approves as `approval` says or rejects. -/
theorem evaluate_cases (conversion : FloatConversion) (signal : TradeSignal) (config : RiskConfig)
    (context : RiskContext) (decisionId : Uuid) :
    (LossGatesPass config context ∧ BookGatesPass signal config context ∧
        evaluate conversion signal config context decisionId =
          .ok (approval signal config context decisionId)) ∨
      (¬(LossGatesPass config context ∧ BookGatesPass signal config context) ∧
        ∃ reason, evaluate conversion signal config context decisionId =
          .ok (rejected signal reason decisionId)) := by
  rcases evaluate_gates conversion signal config context decisionId with
    ⟨passes, evaluated⟩ | ⟨reason, first, evaluated⟩
  · obtain ⟨losses, book⟩ := passes_iff.mp passes
    exact .inl ⟨losses, book, evaluated⟩
  · refine .inr ⟨fun gates => ?_, reason, evaluated⟩
    exact first.refuses (passes_iff.mpr gates reason)

theorem evaluate_decides (conversion : FloatConversion) (signal : TradeSignal)
    (config : RiskConfig) (context : RiskContext) (decisionId : Uuid) :
    ∃ decision, evaluate conversion signal config context decisionId = .ok decision := by
  rcases evaluate_cases conversion signal config context decisionId with
    ⟨_, _, evaluated⟩ | ⟨_, reason, evaluated⟩
  · exact ⟨_, evaluated⟩
  · exact ⟨_, evaluated⟩

theorem evaluate_approved {conversion : FloatConversion} {signal : TradeSignal}
    {config : RiskConfig} {context : RiskContext} {decisionId : Uuid} {decision : RiskDecision}
    (evaluated : evaluate conversion signal config context decisionId = .ok decision)
    (approved : decision.approved = true) :
    LossGatesPass config context ∧ BookGatesPass signal config context ∧
      decision = approval signal config context decisionId := by
  rcases evaluate_cases conversion signal config context decisionId with ⟨loss, book, same⟩ | ⟨_, reason, same⟩
  · exact ⟨loss, book, Except.ok.inj (evaluated.symm.trans same)⟩
  · cases Except.ok.inj (evaluated.symm.trans same)
    cases approved

/-- Approval, rejection and size: what a decision says of the gates, and what it risks. -/
theorem evaluate_settles (conversion : FloatConversion) (signal : TradeSignal)
    (config : RiskConfig) (context : RiskContext) (decisionId : Uuid) :
    ∃ decision, evaluate conversion signal config context decisionId = .ok decision ∧
      (decision.approved = true ↔ ∀ gate, Passes signal config context gate) ∧
      (decision.approved = false → decision.positionSize = 0 ∧ ∃ reason,
        FirstToRefuse signal config context reason ∧
          decision.rejectionReason = some reason.asStr) ∧
      (decision.approved = true →
        decision.riskPercent.asRatio =
            min ((if context.isTuesday ∨ context.isDoubleSmt then 2 else 1) *
              config.baseRiskPercent.asRatio) config.maxRiskPercent.asRatio ∧
          decision.riskCurrency.asDecimal =
            context.equity.asDecimal * decision.riskPercent.asRatio ∧
          decision.positionSize * |context.entryPrice - context.stopLossPrice| =
            decision.riskCurrency.asDecimal ∧
          (0 ≤ context.equity.asDecimal → decision.riskCurrency.asDecimal ≤
            context.equity.asDecimal * config.maxRiskPercent.asRatio)) := by
  rcases evaluate_gates conversion signal config context decisionId with
    ⟨passes, evaluated⟩ | ⟨reason, first, evaluated⟩
  · refine ⟨_, evaluated, iff_of_true rfl passes, fun rejects => (by cases rejects),
      fun _ => ?_⟩
    have distance : |context.entryPrice - context.stopLossPrice| ≠ 0 :=
      abs_ne_zero.mpr (sub_ne_zero.mpr (passes .invalidStopDistance))
    have percent : (context.cappedRisk config).asRatio =
        min ((if context.isTuesday ∨ context.isDoubleSmt then 2 else 1) *
          config.baseRiskPercent.asRatio) config.maxRiskPercent.asRatio := by
      simp [RiskContext.cappedRisk, mul_comm]
    refine ⟨percent, rfl, div_mul_cancel₀ _ distance, fun equity => ?_⟩
    have capped : (context.cappedRisk config).asRatio ≤ config.maxRiskPercent.asRatio :=
      percent ▸ min_le_right _ _
    exact mul_le_mul_of_nonneg_left capped equity
  · refine ⟨_, evaluated, iff_of_false Bool.false_ne_true fun passes => ?_, fun _ => ?_,
      fun approves => (by cases approves)⟩
    · exact first.refuses (passes reason)
    · exact ⟨rfl, reason, first, rfl⟩

end Oboobot.Risk
