import Oboobot.Daemon.Cycle

/-! The floating-point fields of an accepted configuration, and the values the entry
loop sizes with. -/

namespace Oboobot.Daemon

open Domain Risk

theorem within_iff {low high : ℚ} {value : F64} :
    F64.within (.finite low) (.finite high) value = true ↔
      ∃ number, value = .finite number ∧ low ≤ number ∧ number ≤ high := by
  cases value with
  | nan => simp [F64.within, F64.le, F64.lt]
  | infinite negative => cases negative <;> simp [F64.within, F64.le, F64.lt]
  | finite number => simp [F64.within, F64.le, F64.lt, ← le_iff_lt_or_eq]

theorem le_finite_iff {bound : ℚ} {value : F64} :
    value.le (.finite bound) = true ↔
      value = .infinite true ∨ ∃ number, value = .finite number ∧ number ≤ bound := by
  cases value with
  | nan => simp [F64.le]
  | infinite negative => cases negative <;> simp [F64.le, F64.lt]
  | finite number => simp [F64.le, F64.lt, ← le_iff_lt_or_eq]

namespace RiskSection

/-- The fields that a TOML file may also set to `nan` or `inf`. -/
def floats (risk : RiskSection) : List F64 :=
  [risk.baseRiskPercent, risk.maxRiskPercent, risk.dailyLossLimitPercent,
    risk.weeklyLossLimitPercent, risk.spreadMultiplier, risk.regimeShiftThreshold,
    risk.maxExposurePerCurrencyPercent, risk.maxCorrelationExposurePercent,
    risk.correlationExposureThreshold]

/-- The fields that the entry loop converts to decimals. -/
def converted (risk : RiskSection) : List F64 :=
  [risk.baseRiskPercent, risk.maxRiskPercent, risk.dailyLossLimitPercent,
    risk.weeklyLossLimitPercent, risk.spreadMultiplier, risk.maxExposurePerCurrencyPercent,
    risk.maxCorrelationExposurePercent]

end RiskSection

variable {conversion : FloatConversion}

/-- The field is a number, and the decimal library takes it as this decimal. -/
def ConvertsTo (conversion : FloatConversion) (field : F64) (decimal : Decimal) : Prop :=
  ∃ number, field = .finite number ∧ conversion.tryFrom number = some decimal

theorem convertsTo_iff {field : F64} {decimal : Decimal} :
    ConvertsTo conversion field decimal ↔ field.toDecimal conversion = some decimal := by
  cases field <;> simp [ConvertsTo, F64.toDecimal]

def Converts (conversion : FloatConversion) (field : F64) : Prop :=
  ∃ decimal, ConvertsTo conversion field decimal

theorem Converts.finite {field : F64} (converts : Converts conversion field) :
    ∃ number, field = .finite number := by
  obtain ⟨_, number, isNumber, _⟩ := converts
  exact ⟨number, isNumber⟩

/-- The sizing parameters that the file gives, with none replaced. -/
structure ConfiguredRisk (conversion : FloatConversion) (risk : RiskSection)
    (sized : RiskConfig) : Prop where
  base : ∃ decimal, ConvertsTo conversion risk.baseRiskPercent decimal ∧
    sized.baseRiskPercent = .fromPercentage decimal
  maxRisk : ∃ decimal, ConvertsTo conversion risk.maxRiskPercent decimal ∧
    sized.maxRiskPercent = .fromPercentage decimal
  daily : ∃ decimal, ConvertsTo conversion risk.dailyLossLimitPercent decimal ∧
    sized.dailyLossLimitPercent = .fromPercentage decimal
  weekly : ∃ decimal, ConvertsTo conversion risk.weeklyLossLimitPercent decimal ∧
    sized.weeklyLossLimitPercent = .fromPercentage decimal
  exposure : ∃ decimal, ConvertsTo conversion risk.maxExposurePerCurrencyPercent decimal ∧
    sized.maxExposurePerCurrencyPercent = .fromPercentage decimal
  correlation : ∃ decimal, ConvertsTo conversion risk.maxCorrelationExposurePercent decimal ∧
    sized.maxCorrelationExposurePercent = .fromPercentage decimal
  openPositions : sized.maxOpenPositions = risk.maxOpenPositions
  threshold : sized.correlationExposureThreshold = risk.correlationExposureThreshold

/-- The ranges that `validate` asks for, of the fields and of the decimals they become. -/
structure InRange (conversion : FloatConversion) (risk : RiskSection) : Prop where
  maxRisk : ∃ number, risk.maxRiskPercent = .finite number ∧ 0 ≤ number ∧ number ≤ 100
  baseRisk : (F64.finite 0).lt risk.baseRiskPercent = true
  spread : (F64.finite 1).lt risk.spreadMultiplier = true
  regime : ∃ number, risk.regimeShiftThreshold = .finite number ∧ 0 ≤ number ∧ number ≤ 1
  maxRiskDecimal : ∃ decimal, ConvertsTo conversion risk.maxRiskPercent decimal ∧
    0 ≤ decimal ∧ decimal ≤ 100
  baseRiskDecimal : ∃ decimal, ConvertsTo conversion risk.baseRiskPercent decimal ∧ 0 < decimal
  spreadDecimal : ∃ decimal, ConvertsTo conversion risk.spreadMultiplier decimal ∧ 1 < decimal

/-- All fields are numbers in their ranges, and the entry loop sizes with them. -/
structure UsedAsConfigured (conversion : FloatConversion) (config : Config) : Prop where
  finite : ∀ field ∈ config.risk.floats, ∃ number, field = .finite number
  inRange : InRange conversion config.risk
  converted : ∀ field ∈ config.risk.converted, (field.toDecimal conversion).isSome = true
  sized : ConfiguredRisk conversion config.risk (riskConfig conversion config)
  spread : ConvertsTo conversion config.risk.spreadMultiplier
    ((config.risk.spreadMultiplier.toDecimal conversion).getD (3 / 2))

/-- What `validate` lets through unchecked, or checks by a comparison that `nan` passes and
before any rounding. -/
structure PlainNumbers (conversion : FloatConversion) (risk : RiskSection) : Prop where
  base : ∃ decimal, ConvertsTo conversion risk.baseRiskPercent decimal ∧ decimal ≠ 0
  daily : Converts conversion risk.dailyLossLimitPercent
  weekly : Converts conversion risk.weeklyLossLimitPercent
  spread : ∃ decimal, ConvertsTo conversion risk.spreadMultiplier decimal ∧ decimal ≠ 1
  exposure : Converts conversion risk.maxExposurePerCurrencyPercent
  correlation : Converts conversion risk.maxCorrelationExposurePercent
  threshold : ∃ number, risk.correlationExposureThreshold = .finite number

/-- What an accepted configuration is known to satisfy. -/
theorem checked_of_validate {config : Config} (valid : config.validate = .ok ()) :
    F64.within (.finite 0) (.finite 100) config.risk.maxRiskPercent = true ∧
    config.risk.baseRiskPercent.le (.finite 0) = false ∧
    config.risk.spreadMultiplier.le (.finite 1) = false ∧
    F64.within (.finite 0) (.finite 1) config.risk.regimeShiftThreshold = true := by
  unfold Config.validate at valid
  split at valid
  · cases valid
  split at valid
  · cases valid
  split at valid
  · cases valid
  split at valid
  · cases valid
  split at valid
  · cases valid
  rename_i maxRisk baseRisk spread regime
  exact ⟨by simpa using maxRisk, by simpa using baseRisk, by simpa using spread,
    by simpa using regime⟩

theorem lt_of_not_le {bound number : ℚ} (unchecked : (F64.finite number).le (.finite bound) = false) :
    bound < number := by
  rw [← Bool.not_eq_true, le_finite_iff] at unchecked
  exact not_le.mp fun below => unchecked (.inr ⟨number, rfl, below⟩)

/-- A field above a whole number becomes a decimal above it, unless it is rounded to it. -/
theorem lt_decimal {field : F64} {decimal : Decimal} {bound : ℕ} (small : bound ≤ 100)
    (unchecked : field.le (.finite bound) = false) (converts : ConvertsTo conversion field decimal)
    (apart : decimal ≠ bound) :
    (F64.finite bound).lt field = true ∧ (bound : ℚ) < decimal := by
  obtain ⟨number, rfl, taken⟩ := converts
  have above := lt_of_not_le unchecked
  have atLeast := conversion.atLeast number bound decimal small above.le taken
  exact ⟨decide_eq_true above, lt_of_le_of_ne atLeast apart.symm⟩

/-- A percentage stays one. -/
theorem converts_within {field : F64}
    (within : ∃ number, field = .finite number ∧ 0 ≤ number ∧ number ≤ 100) :
    ∃ decimal, ConvertsTo conversion field decimal ∧ 0 ≤ decimal ∧ decimal ≤ 100 := by
  obtain ⟨number, isNumber, nonneg, atMost⟩ := within
  obtain ⟨decimal, taken⟩ := Option.isSome_iff_exists.mp (conversion.accepts number nonneg atMost)
  have low := conversion.atLeast number 0 decimal (by decide) (by exact_mod_cast nonneg) taken
  have high := conversion.atMost number 100 decimal le_rfl (by exact_mod_cast atMost) taken
  exact ⟨decimal, ⟨number, isNumber, taken⟩, by exact_mod_cast low, by exact_mod_cast high⟩

theorem PlainNumbers.inRange {config : Config} (valid : config.validate = .ok ())
    (plain : PlainNumbers conversion config.risk) : InRange conversion config.risk := by
  obtain ⟨maxRisk, baseRisk, spread, regime⟩ := checked_of_validate valid
  obtain ⟨base, isBase, nonzero⟩ := plain.base
  obtain ⟨multiplier, isMultiplier, notOne⟩ := plain.spread
  have aboveZero := lt_decimal (by decide : 0 ≤ 100) (by exact_mod_cast baseRisk) isBase
    (by exact_mod_cast nonzero)
  have aboveOne := lt_decimal (by decide : 1 ≤ 100) (by exact_mod_cast spread) isMultiplier
    (by exact_mod_cast notOne)
  exact {
    maxRisk := within_iff.mp maxRisk
    baseRisk := by exact_mod_cast aboveZero.1
    spread := by exact_mod_cast aboveOne.1
    regime := within_iff.mp regime
    maxRiskDecimal := converts_within (within_iff.mp maxRisk)
    baseRiskDecimal := ⟨base, isBase, by exact_mod_cast aboveZero.2⟩
    spreadDecimal := ⟨multiplier, isMultiplier, by exact_mod_cast aboveOne.2⟩ }

theorem ConvertsTo.percentOr {field : F64} {decimal : Decimal}
    (converts : ConvertsTo conversion field decimal) (fallback : Decimal) :
    percentOr conversion field fallback = .fromPercentage decimal := by
  rw [Daemon.percentOr, convertsTo_iff.mp converts]
  rfl

theorem Converts.percentOr {field : F64} (converts : Converts conversion field)
    (fallback : Decimal) : ∃ decimal, ConvertsTo conversion field decimal ∧
      percentOr conversion field fallback = .fromPercentage decimal :=
  converts.imp fun _ converts => ⟨converts, converts.percentOr fallback⟩

theorem PlainNumbers.usedAsConfigured {config : Config} (valid : config.validate = .ok ())
    (plain : PlainNumbers conversion config.risk) : UsedAsConfigured conversion config := by
  have inRange := plain.inRange valid
  have base : Converts conversion config.risk.baseRiskPercent := plain.base.imp fun _ holds => holds.1
  have spread : Converts conversion config.risk.spreadMultiplier :=
    plain.spread.imp fun _ holds => holds.1
  have maxRisk : Converts conversion config.risk.maxRiskPercent :=
    inRange.maxRiskDecimal.imp fun _ holds => holds.1
  refine ⟨?_, inRange, ?_, ?_, ?_⟩
  · simp only [RiskSection.floats, List.forall_mem_cons]
    exact ⟨base.finite, maxRisk.finite, plain.daily.finite, plain.weekly.finite, spread.finite,
      inRange.regime.imp fun _ holds => holds.1, plain.exposure.finite, plain.correlation.finite,
      plain.threshold, List.forall_mem_nil _⟩
  · have all : ∀ field ∈ config.risk.converted, Converts conversion field := by
      simp only [RiskSection.converted, List.forall_mem_cons]
      exact ⟨base, maxRisk, plain.daily, plain.weekly, spread, plain.exposure, plain.correlation,
        List.forall_mem_nil _⟩
    intro field member
    obtain ⟨decimal, converts⟩ := all field member
    rw [convertsTo_iff.mp converts]
    rfl
  · exact {
      base := base.percentOr _
      maxRisk := maxRisk.percentOr _
      daily := plain.daily.percentOr _
      weekly := plain.weekly.percentOr _
      exposure := plain.exposure.percentOr _
      correlation := plain.correlation.percentOr _
      openPositions := rfl
      threshold := rfl }
  · obtain ⟨decimal, converts⟩ := spread
    rw [convertsTo_iff.mp converts]
    exact converts

theorem UsedAsConfigured.plainNumbers {config : Config}
    (used : UsedAsConfigured conversion config) : PlainNumbers conversion config.risk := by
  obtain ⟨base, isBase, positive⟩ := used.inRange.baseRiskDecimal
  obtain ⟨multiplier, isMultiplier, enlarges⟩ := used.inRange.spreadDecimal
  exact {
    base := ⟨base, isBase, positive.ne'⟩
    daily := used.sized.daily.imp fun _ holds => holds.1
    weekly := used.sized.weekly.imp fun _ holds => holds.1
    spread := ⟨multiplier, isMultiplier, enlarges.ne'⟩
    exposure := used.sized.exposure.imp fun _ holds => holds.1
    correlation := used.sized.correlation.imp fun _ holds => holds.1
    threshold := used.finite _ (by simp [RiskSection.floats]) }

/-- The entry loop sizes by an accepted configuration exactly where what `validate` does
not check are numbers that the decimal library takes, and takes for what was checked. -/
theorem usedAsConfigured_iff {config : Config} (valid : config.validate = .ok ()) :
    UsedAsConfigured conversion config ↔ PlainNumbers conversion config.risk :=
  ⟨UsedAsConfigured.plainNumbers, PlainNumbers.usedAsConfigured valid⟩

theorem default_usedAsConfigured : UsedAsConfigured .exact Config.default := by
  refine (usedAsConfigured_iff (by decide +kernel)).mpr ?_
  constructor
  case threshold => exact ⟨7 / 10, rfl⟩
  case base => exact ⟨1, ⟨1, rfl, by decide +kernel⟩, one_ne_zero⟩
  case spread => exact ⟨3 / 2, ⟨3 / 2, rfl, by decide +kernel⟩, by norm_num⟩
  case daily => exact ⟨5, 5, rfl, by decide +kernel⟩
  case exposure => exact ⟨15, 15, rfl, by decide +kernel⟩
  all_goals exact ⟨10, 10, rfl, by decide +kernel⟩

/-- A multiplier that is not a number passes its check, and is replaced. -/
def nanMultiplier : Config :=
  { Config.default with risk := { Config.default.risk with spreadMultiplier := .nan } }

theorem nanMultiplier_replaced : nanMultiplier.validate = .ok () ∧
    ∀ conversion : FloatConversion, ¬UsedAsConfigured conversion nanMultiplier := by
  refine ⟨by decide +kernel, fun conversion used => ?_⟩
  have taken := used.converted .nan (by simp [nanMultiplier, RiskSection.converted])
  cases taken

end Oboobot.Daemon
