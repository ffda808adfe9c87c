import Oboobot.Daemon.Cycle
import Oboobot.Strategy.Symmetry

/-! The stop and the target of an order, against the price it enters at and the
range that made its signal. -/

namespace Oboobot.Daemon

open Domain SessionTime Strategy Risk

section divergence

/-- The way from `start` to `finish` is the way a trade in `direction` wants the price to go. -/
def Ahead (direction : Direction) (start finish : Decimal) : Prop :=
  match direction with
  | .buy => start < finish
  | .sell => finish < start

/-- The side of a range that stops a trade in `direction`. -/
def stopSide (levels : BufferLevels) : Direction → Decimal
  | .buy => levels.low
  | .sell => levels.high

/-- The price has not gone beyond the side of the range that a trade in `direction` relies on. -/
def Held (direction : Direction) (price : Decimal) (levels : BufferLevels) : Prop :=
  ¬Ahead direction price (stopSide levels direction)

/-- The price of the asset to trade. -/
def ownPrice (inputs : DivergenceInputs) : TradeTarget → Decimal
  | .primary => inputs.primaryPrice
  | .secondary => inputs.secondaryPrice

/-- The range of the asset to trade, in the timeframe that makes the tier. -/
def ownBuffer (inputs : DivergenceInputs) : TradeTarget → Tier → BufferLevels
  | .primary, .tier2 => inputs.sessionPrimaryBuffer
  | .secondary, .tier2 => inputs.sessionSecondaryBuffer
  | .primary, _ => inputs.dailyPrimaryBuffer
  | .secondary, _ => inputs.dailySecondaryBuffer

/-- In the timeframe of the tier, the asset to trade has held the level that its
counterpart has taken out. -/
theorem evaluateSmt_heldAlone {inputs : DivergenceInputs} {target : TradeTarget}
    {direction : Direction} {tier : Tier}
    (found : evaluateSmt inputs = some (target, direction, tier)) :
    HeldAlone inputs.primaryPrice (ownBuffer inputs .primary tier) inputs.secondaryPrice
      (ownBuffer inputs .secondary tier) direction target := by
  have daily {target : TradeTarget} {direction : Direction} {tier : Tier}
      (reading : inputs.daily = some (target, direction)) (notSession : tier ≠ .tier2) :
      HeldAlone inputs.primaryPrice (ownBuffer inputs .primary tier) inputs.secondaryPrice
        (ownBuffer inputs .secondary tier) direction target := by
    have alone := ((detectDivergence_eq_some_iff target direction).mp reading).1
    cases tier <;> first | exact alone | exact absurd rfl notSession
  unfold evaluateSmt at found
  split at found
  · rename_i reading _
    split at found <;> cases found <;> exact daily reading (by decide)
  · rename_i reading _
    cases found
    exact daily reading (by decide)
  · rename_i _ reading
    cases found
    exact ((detectDivergence_eq_some_iff target direction).mp reading).1
  · cases found

theorem evaluateSmt_held {inputs : DivergenceInputs} {target : TradeTarget} {direction : Direction}
    {tier : Tier} (found : evaluateSmt inputs = some (target, direction, tier)) :
    Held direction (ownPrice inputs target) (ownBuffer inputs target tier) := by
  have alone := evaluateSmt_heldAlone found
  cases target <;> cases direction <;> exact alone.1

end divergence

/-- The pair-set's prices, and those its divergence is read from, are the snapshot's bids. -/
structure PricedAtBids (snapshot : BrokerSnapshot) (state : PairCycleState) : Prop where
  primaryPrice : state.primaryPrice = bidOrZero snapshot state.pairConfig.primary
  secondaryPrice : state.secondaryPrice = bidOrZero snapshot state.pairConfig.secondary
  primaryInput : state.divergenceInputs.primaryPrice = state.primaryPrice
  secondaryInput : state.divergenceInputs.secondaryPrice = state.secondaryPrice

def AskAtOrAboveBid (snapshot : BrokerSnapshot) : Prop :=
  ∀ pair, ∀ quote ∈ snapshot.prices pair, quote.bid ≤ quote.ask

/-- The stop comes from the traded asset's own range, unless that is the primary of
a pair-set that names one symbol twice. -/
theorem stopLossLevel_eq {pairConfig : PairConfig} (inputs : DivergenceInputs) {signal : TradeSignal}
    {target : TradeTarget} (own : target = .primary → pairConfig.primary ≠ pairConfig.secondary)
    (names : signal.pair = target.pair pairConfig.primary pairConfig.secondary) :
    stopLossLevel inputs signal pairConfig.secondary =
      stopSide (ownBuffer inputs target signal.tier) signal.direction := by
  cases target with
  | primary =>
    have other : (signal.pair == pairConfig.secondary) = false := by
      simpa [names, TradeTarget.pair] using own rfl
    cases tier : signal.tier <;> cases direction : signal.direction <;>
      simp [stopLossLevel, other, tier, direction, ownBuffer, stopSide]
  | secondary =>
    have same : (signal.pair == pairConfig.secondary) = true := by
      simp [names, TradeTarget.pair]
    cases tier : signal.tier <;> cases direction : signal.direction <;>
      simp [stopLossLevel, same, tier, direction, ownBuffer, stopSide]

/-- The bid of the traded asset, as the divergence saw it. -/
theorem ownPrice_eq {snapshot : BrokerSnapshot} {state : PairCycleState} {signal : TradeSignal}
    {target : TradeTarget} (priced : PricedAtBids snapshot state)
    (names : signal.pair = target.pair state.pairConfig.primary state.pairConfig.secondary) :
    ownPrice state.divergenceInputs target = bidOrZero snapshot signal.pair := by
  rw [names]
  cases target with
  | primary => exact priced.primaryInput.trans priced.primaryPrice
  | secondary => exact priced.secondaryInput.trans priced.secondaryPrice

/-- A trade never enters behind the bid: a sell enters at it, a buy at the ask. -/
theorem entryPrice_notBehind {snapshot : BrokerSnapshot} {state : PairCycleState}
    {signal : TradeSignal} {target : TradeTarget} (priced : PricedAtBids snapshot state)
    (spread : AskAtOrAboveBid snapshot)
    (distinct : state.pairConfig.primary ≠ state.pairConfig.secondary)
    (names : signal.pair = target.pair state.pairConfig.primary state.pairConfig.secondary) :
    ¬Ahead signal.direction (entryPrice snapshot state signal) (bidOrZero snapshot signal.pair) := by
  have fallback : (if signal.pair = state.pairConfig.secondary then state.secondaryPrice
      else state.primaryPrice) = bidOrZero snapshot signal.pair := by
    cases target with
    | primary =>
      rw [names, TradeTarget.pair, if_neg distinct]
      exact priced.primaryPrice
    | secondary =>
      rw [names, TradeTarget.pair, if_pos rfl]
      exact priced.secondaryPrice
  unfold entryPrice Ahead
  cases quoted : snapshot.prices signal.pair with
  | none => cases signal.direction <;> simp [fallback]
  | some quote =>
    have ordered := spread signal.pair quote quoted
    cases signal.direction <;> simp [bidOrZero, quoted, ordered]

/-- The stop lies behind the entry, the target ahead of it at three times the
distance, and the stop is the held side of the traded pair's own range. -/
structure LevelsHold (inputs : DivergenceInputs) (pairConfig : PairConfig) (signal : TradeSignal)
    (entry stopLoss takeProfit : Decimal) : Prop where
  stopBehind : Ahead signal.direction stopLoss entry
  targetAhead : Ahead signal.direction entry takeProfit
  threeToOne : |takeProfit - entry| = 3 * |entry - stopLoss|
  ownLevel : ∃ target, signal.pair = target.pair pairConfig.primary pairConfig.secondary ∧
    stopLoss = stopSide (ownBuffer inputs target signal.tier) signal.direction ∧
    Held signal.direction (ownPrice inputs target) (ownBuffer inputs target signal.tier)

theorem Ahead.of_notAhead {direction : Direction} {start between finish : Decimal}
    (first : ¬Ahead direction between start) (second : ¬Ahead direction finish between)
    (apart : start ≠ finish) : Ahead direction start finish := by
  cases direction with
  | buy => exact lt_of_le_of_ne ((not_lt.mp first).trans (not_lt.mp second)) apart
  | sell => exact lt_of_le_of_ne ((not_lt.mp second).trans (not_lt.mp first)) apart.symm

/-- Three stop distances ahead of the entry. -/
theorem target_ahead (direction : Direction) {entry stop : Decimal} (apart : stop ≠ entry) :
    let target := match direction with
      | .buy => entry + |entry - stop| * 3
      | .sell => entry - |entry - stop| * 3
    Ahead direction entry target ∧ |target - entry| = 3 * |entry - stop| := by
  have distance : 0 < |entry - stop| := abs_pos.mpr (sub_ne_zero.mpr apart.symm)
  generalize |entry - stop| = step at distance
  cases direction with
  | buy =>
    refine ⟨show entry < entry + step * 3 by linarith, ?_⟩
    rw [add_sub_cancel_left, mul_comm]
    exact abs_of_pos (by linarith)
  | sell =>
    refine ⟨show entry - step * 3 < entry by linarith, ?_⟩
    rw [sub_sub_cancel_left, abs_neg, mul_comm]
    exact abs_of_pos (by linarith)

variable {snapshot : BrokerSnapshot} {state : PairCycleState} {signal : TradeSignal}
  {decision : RiskDecision} {limits : RiskConfig} {decisionId : Uuid} {conversion : FloatConversion}

/-- Whatever the risk engine approves is sent with its stop and its target in place. -/
theorem orderRequest_levelsHold {weeklyBias dailyBias : Bias} {originatingSnapshotId : Uuid}
    {strength confidence : Decimal} {validUntil : Instant} {traceId signalId : Uuid}
    {timestamp : Instant} (distinct : state.pairConfig.primary ≠ state.pairConfig.secondary)
    (priced : PricedAtBids snapshot state) (spread : AskAtOrAboveBid snapshot)
    (generated : generateSignal state.divergenceInputs weeklyBias dailyBias state.pairConfig.primary
      state.pairConfig.secondary originatingSnapshotId strength confidence validUntil traceId signalId
      timestamp = .signal signal)
    (config : Config) (isTuesday : Bool) (openPositions : List Position) (equity : Usd)
    (evaluated : DefaultRiskEngine.evaluate conversion signal limits
      (riskContext config snapshot isTuesday state openPositions signal equity) decisionId =
        .ok decision)
    (approved : decision.approved = true) (orderId : Uuid) :
    ∃ stopLoss takeProfit,
      (orderRequest orderId snapshot signal decision).stopLoss = some stopLoss ∧
      (orderRequest orderId snapshot signal decision).takeProfit = some takeProfit ∧
      LevelsHold state.divergenceInputs state.pairConfig signal (entryPrice snapshot state signal)
        stopLoss takeProfit := by
  obtain ⟨_, target, found, names⟩ := generateSignal_signal generated
  obtain ⟨_, gates, rfl⟩ := evaluate_approved evaluated approved
  have held := evaluateSmt_held found
  have entered := entryPrice_notBehind priced spread distinct names
  have apart : stopLossLevel state.divergenceInputs signal state.pairConfig.secondary ≠
      entryPrice snapshot state signal := by
    intro same
    exact gates.stopDistance (abs_eq_zero.mpr (sub_eq_zero.mpr same.symm))
  have stop := stopLossLevel_eq state.divergenceInputs (fun _ => distinct) names
  have behind : Ahead signal.direction
      (stopLossLevel state.divergenceInputs signal state.pairConfig.secondary)
      (entryPrice snapshot state signal) := by
    rw [← ownPrice_eq priced names] at entered
    refine Ahead.of_notAhead ?_ entered apart
    rw [stop]
    exact held
  obtain ⟨targetAhead, threeToOne⟩ := target_ahead signal.direction apart
  exact ⟨_, _, rfl, rfl, behind, targetAhead, threeToOne, target, names, stop, held⟩

/-- GBPUSD has fallen below its ranges while EURUSD has held its own. -/
def sweptSecondary : PairCycleState where
  pairConfig := ⟨"EURUSD", "GBPUSD"⟩
  primaryPrice := 1.10
  secondaryPrice := 1.20
  divergenceInputs := {
    primaryPrice := 1.10
    secondaryPrice := 1.20
    dailyPrimaryBuffer := { high := 1.12, low := 1.09 }
    dailySecondaryBuffer := { high := 1.25, low := 1.21 }
    sessionPrimaryBuffer := { high := 1.11, low := 1.095 }
    sessionSecondaryBuffer := { high := 1.24, low := 1.22 } }
  resolvedDivergence := some ("EURUSD", .buy, .double)
  spreadHistory := .default
  currentSpread := 0.0002
  correlationCoefficient := none

def sweptSnapshot : BrokerSnapshot where
  snapshotId := 3
  timestamp := 0
  prices := .ofPairs [
    ("EURUSD", { bid := 1.10, ask := 1.1002 }), ("GBPUSD", { bid := 1.20, ask := 1.2002 })]
  spreads := .ofPairs [("EURUSD", 0.0002), ("GBPUSD", 0.0002)]

theorem sweptSnapshot_spread : AskAtOrAboveBid sweptSnapshot := by
  intro pair quote quoted
  simp only [sweptSnapshot, BTreeMap.ofPairs, List.foldl_cons, List.foldl_nil, BTreeMap.insert,
    BTreeMap.empty] at quoted
  split at quoted
  · cases quoted
    norm_num
  · split at quoted
    · cases quoted
      norm_num
    · cases quoted

def sweptSignal : TradeSignal where
  signalId := 1
  traceId := 2
  timestamp := 0
  pair := "EURUSD"
  direction := .buy
  tier := .double
  strength := 4 / 5
  confidence := 4 / 5
  validUntil := 0
  originatingSnapshotId := 3

theorem sweptSignal_generated :
    generateSignal sweptSecondary.divergenceInputs .neutral .neutral "EURUSD" "GBPUSD" 3 (4 / 5)
      (4 / 5) 0 2 1 0 = .signal sweptSignal := by
  decide +kernel

theorem sweptSecondary_priced : PricedAtBids sweptSnapshot sweptSecondary := by
  constructor <;> decide +kernel

theorem sweptSignal_evaluated :
    let context := riskContext .default sweptSnapshot false sweptSecondary [] sweptSignal
      (.fromDecimal 10000)
    DefaultRiskEngine.evaluate .exact sweptSignal (riskConfig .exact .default) context 4 =
      .ok (approval sweptSignal (riskConfig .exact .default) context 4) := by
  decide +kernel

/-- The order of that signal buys EURUSD with the stop at its daily low. -/
theorem sweptSignal_levelsHold : ∃ decision stopLoss takeProfit,
    (orderRequest 5 sweptSnapshot sweptSignal decision).stopLoss = some stopLoss ∧
    (orderRequest 5 sweptSnapshot sweptSignal decision).takeProfit = some takeProfit ∧
    LevelsHold sweptSecondary.divergenceInputs sweptSecondary.pairConfig sweptSignal
      (entryPrice sweptSnapshot sweptSecondary sweptSignal) stopLoss takeProfit := by
  exact ⟨_, orderRequest_levelsHold (by decide +kernel) sweptSecondary_priced sweptSnapshot_spread
    sweptSignal_generated .default false [] (.fromDecimal 10000) sweptSignal_evaluated rfl 5⟩

end Oboobot.Daemon
