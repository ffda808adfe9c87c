import Oboobot.Daemon.Interface

/-! One invocation of the daemon: kill switch, reconciliation, market state,
exit sweep, then the entry gates and the entry loop. -/

namespace Oboobot.Daemon

open Domain SessionTime Strategy Risk Broker Interaction Daemon.Cycle

def killSwitchEngaged : Cycle Bool := do
  match ← perform .pausedFileExists with
  | .ok exists' => return exists'
  | .error _ => return false

/-- A failed write is logged, not propagated. -/
def writeStatus (openPositions : List Position) (health : HealthMonitor)
    (lastDecision : Option String) (paused : Bool) : Cycle Unit := do
  let lastRun ← perform .utcNow
  let _ ← perform (.writeStatus {
    lastRun := some lastRun
    openPositionCount := openPositions.length
    healthState := health.currentState.debug
    lastDecision
    paused })

/-- Ask the broker what is open, report a mismatch, and return the list to trust. -/
def reconcileAndNotify (locallyKnownPositions : List Position) : Cycle (List Position) := do
  let brokerPositions ← brokered (← perform .listOpenPositions)
  let report := reconcile brokerPositions locallyKnownPositions
  if report.isClean then pure ()
  else notify (.reconciliationMismatch report.orphanedLocally.length report.unknownToLocal.length)
  let openPositions := applyReconciliation report
  observe (.reconciled openPositions)
  return openPositions

def appendPositions (openPositions : List Position) : Cycle Unit :=
  openPositions.foldlM (fun _ position => do persisted (← perform (.appendPosition position))) ()

def appendDecision (pair outcome : String) (detail : Option String) : Cycle Unit := do
  let timestamp ← perform .utcNow
  let record := DecisionRecord.new timestamp pair outcome
  let record := match detail with
    | some text => record.withDetail text
    | none => record
  persisted (← perform (.appendDecision record))

/-- The union of every pair-set's symbols, each requested once. -/
def allSymbols (pairs : List PairConfig) : List String :=
  pairs.foldl (fun symbols pairConfig =>
    let symbols := if symbols.contains pairConfig.primary then symbols
      else symbols ++ [pairConfig.primary]
    if symbols.contains pairConfig.secondary then symbols
    else symbols ++ [pairConfig.secondary]) []

theorem mem_requested (symbols : List String) (symbol other : String) :
    other ∈ (if symbols.contains symbol then symbols else symbols ++ [symbol]) ↔
      other ∈ symbols ∨ other = symbol := by
  split
  · rename_i requested
    have member : symbol ∈ symbols := by simpa using requested
    refine ⟨.inl, ?_⟩
    intro known
    rcases known with old | same
    · exact old
    · exact same ▸ member
  · simp

/-- The symbols of a snapshot request are those of the configured pair-sets. -/
theorem mem_allSymbols_iff (pairs : List PairConfig) (symbol : String) :
    symbol ∈ allSymbols pairs ↔
      ∃ pairConfig ∈ pairs, symbol = pairConfig.primary ∨ symbol = pairConfig.secondary := by
  induction pairs using List.reverseRecOn with
  | nil => simp [allSymbols]
  | append_singleton earlier pairConfig ih =>
    have last : symbol ∈ allSymbols (earlier ++ [pairConfig]) ↔
        (symbol ∈ allSymbols earlier ∨ symbol = pairConfig.primary) ∨
          symbol = pairConfig.secondary := by
      rw [allSymbols, List.foldl_append, List.foldl_cons, List.foldl_nil, mem_requested,
        mem_requested]
      rfl
    rw [last, ih]
    simp [or_and_right, exists_or, or_assoc]

def heartbeatTimeout : Duration := Duration.seconds 15

/-- The disk, memory, latency and news checks of a cycle. -/
def hostHealth (config : Config) (snapshot : BrokerSnapshot) (now : Instant)
    (health : HealthMonitor) : Cycle HealthMonitor := do
  let health := match ← perform .availableDiskMb with
    | some mb => health.record .diskUsageCritical (mb < 500)
    | none => health
  let health := match ← perform .residentMemoryMb with
    | some mb => health.record .memoryUsageCritical (mb > 512)
    | none => health
  let snapshotLatency : Duration := now - snapshot.timestamp
  let health := health.record .snapshotLatencyExceeded
    (Duration.numSeconds snapshotLatency > config.risk.snapshotLatencyThresholdSeconds)
  return health.record .newsApiDown (!NoNewsProvider.isFresh now)

/-- Both staleness limits become durations, which panics for one that is out of range. -/
def convertStalenessLimits (risk : RiskSection) : Cycle Unit := do
  observe (.stalenessLimits risk)
  Program.ofExcept id (if risk.stalenessLimitsFit then .ok () else .error .panicked)

def backfillDays : Nat := 90

/-- Two daily-close histories paired up by index, as far as the shorter one reaches. -/
def backfillCorrelation (primary secondary : String) :
    Cycle (Except BrokerError (List (Decimal × Decimal))) := do
  match ← perform (.fetchHistoricalPrices primary backfillDays) with
  | .error failure => return .error failure
  | .ok primaryHistory =>
    match ← perform (.fetchHistoricalPrices secondary backfillDays) with
    | .error failure => return .error failure
    | .ok secondaryHistory => return .ok (primaryHistory.zip secondaryHistory)

/-- Read a range, fold in this cycle's price and write it back. -/
def refreshBuffer (file : String)
    (update : Option RollingBuffer → Decimal → Instant → RollingBuffer) (price : Decimal)
    (now : Instant) : Cycle RollingBuffer := do
  let current ← persisted (← perform (.readBuffer file))
  let buffer := update current price now
  persisted (← perform (.writeBuffer file buffer))
  return buffer

/-- A fresh window is seeded from history before the live sample joins it. -/
def seedCorrelation (primary secondary : String) (now : Instant) (state : CorrelationState) :
    Cycle CorrelationState :=
  if state.samples.isEmpty then do
    match ← backfillCorrelation primary secondary with
    | .ok samples =>
      return samples.foldl (fun state sample => recordSample state sample.1 sample.2 now) state
    | .error _ => return state
  else pure state

/-- Whether `last` lies further back than `limit`; never recorded is not stale. -/
def isStale (now : Instant) (limit : Duration) (last : Option Instant) : Bool :=
  last.any fun time => now - time > limit

/-- Record this cycle's spread. Also returns when one was last recorded before. -/
def recordSpread (primary : String) (currentSpread : Decimal) (now : Instant) :
    Cycle (SpreadHistory × Option Instant) := do
  let stored ← persisted (← perform (.readSpreadHistory (spreadHistoryFile primary)))
  let before := stored.getD .default
  let spreadHistory := before.record currentSpread now
  persisted (← perform (.writeSpreadHistory (spreadHistoryFile primary) spreadHistory))
  return (spreadHistory, before.lastUpdated)

/-- A pair-set's state, with whether its correlation and its spreads were stale. -/
structure PairReading where
  state : PairCycleState
  correlationStale : Bool
  spreadStale : Bool

/-- `snapshot.prices.get(symbol).map(|q| q.bid).unwrap_or(ZERO)`. -/
def bidOrZero (snapshot : BrokerSnapshot) (symbol : String) : Decimal :=
  ((snapshot.prices symbol).map PriceQuote.bid).getD 0

variable (platform : Platform) (divergence : DivergenceSource)

/-- Record this cycle's price pair, seeding a fresh window first, and report a
regime shift. Also returns when a sample was last recorded before. -/
def recordCorrelation (config : Config) (primary secondary : String)
    (primaryPrice secondaryPrice : Decimal) (now : Instant) :
    Cycle (CorrelationState × Option Instant) := do
  let stored ← persisted (← perform (.readCorrelation (correlationFile primary secondary)))
  let seeded ← seedCorrelation primary secondary now (stored.getD .default)
  let correlationState := recordSample seeded primaryPrice secondaryPrice now
  persisted (← perform (.writeCorrelation (correlationFile primary secondary) correlationState))
  match detectRegimeShift platform.sqrt correlationState config.risk.regimeShiftThreshold with
  | some shift => notify (.correlationRegimeShift primary secondary shift)
  | none => pure ()
  return (correlationState, seeded.lastUpdated)

/-- A divergence with the pair to trade spelled out. -/
def namedDivergence (pairConfig : PairConfig) (found : Option (TradeTarget × Direction × Tier)) :
    Option (String × Direction × Tier) :=
  found.map fun (target, direction, tier) =>
    (target.pair pairConfig.primary pairConfig.secondary, direction, tier)

/-- The state of a pair-set, from its refreshed ranges and histories. -/
def pairCycleState (snapshot : BrokerSnapshot) (pairConfig : PairConfig)
    (dailyPrimary dailySecondary sessionPrimary sessionSecondary : RollingBuffer)
    (correlationState : CorrelationState) (spreadHistory : SpreadHistory) : PairCycleState :=
  let primaryPrice := bidOrZero snapshot pairConfig.primary
  let secondaryPrice := bidOrZero snapshot pairConfig.secondary
  let divergenceInputs := divergence pairConfig {
    primaryPrice, secondaryPrice
    dailyPrimaryBuffer := dailyPrimary.asBufferLevels
    dailySecondaryBuffer := dailySecondary.asBufferLevels
    sessionPrimaryBuffer := sessionPrimary.asBufferLevels
    sessionSecondaryBuffer := sessionSecondary.asBufferLevels }
  let resolvedDivergence := namedDivergence pairConfig (evaluateSmt divergenceInputs)
  { pairConfig, primaryPrice, secondaryPrice, divergenceInputs, resolvedDivergence, spreadHistory
    currentSpread := (snapshot.spreads pairConfig.primary).getD 0
    correlationCoefficient := computeCoefficient platform.sqrt correlationState }

/-- One round of the market-state loop. -/
def readPairSet (config : Config) (snapshot : BrokerSnapshot) (now : Instant)
    (pairConfig : PairConfig) : Cycle PairReading := do
  let primary := pairConfig.primary
  let secondary := pairConfig.secondary
  let primaryPrice := bidOrZero snapshot primary
  let secondaryPrice := bidOrZero snapshot secondary
  let dailyPrimary ← refreshBuffer (bufferDailyFile primary)
    (updateDailyBuffer platform.newYork) primaryPrice now
  let dailySecondary ← refreshBuffer (bufferDailyFile secondary)
    (updateDailyBuffer platform.newYork) secondaryPrice now
  let sessionPrimary ← refreshBuffer (bufferSessionFile primary)
    (updateSessionBuffer platform.newYork) primaryPrice now
  let sessionSecondary ← refreshBuffer (bufferSessionFile secondary)
    (updateSessionBuffer platform.newYork) secondaryPrice now
  let (correlationState, correlationLastUpdated) ←
    recordCorrelation platform config primary secondary primaryPrice secondaryPrice now
  let (spreadHistory, spreadLastUpdated) ←
    recordSpread primary ((snapshot.spreads primary).getD 0) now
  let state := pairCycleState platform divergence snapshot pairConfig dailyPrimary dailySecondary
    sessionPrimary sessionSecondary correlationState spreadHistory
  observe (.marketStateUpdated now state)
  return {
    state
    correlationStale := isStale now (Duration.minutes config.risk.correlationStalenessMinutes)
      correlationLastUpdated
    spreadStale := isStale now (Duration.minutes config.risk.spreadStalenessMinutes)
      spreadLastUpdated }

/-- The market-state loop over every configured pair-set. -/
def readPairSets (config : Config) (snapshot : BrokerSnapshot) (now : Instant) :
    Cycle (List PairReading) :=
  config.pairs.foldlM (fun readings pairConfig => do
    let reading ← readPairSet platform divergence config snapshot now pairConfig
    return readings ++ [reading]) []

/-- Close one flagged position; a refused close is logged and the sweep goes on. -/
def closeFlagged (config : Config) (openPositions : List Position) (exit : ExitDecision) :
    Cycle Unit := do
  match ← perform (.closePosition exit.positionId) with
  | .ok _ =>
    notify (.closedPosition exit.positionId exit.reason)
    let closed := openPositions.find? fun position => position.positionId = exit.positionId
    let firstPrimary := (config.pairs.head?.map PairConfig.primary).getD ""
    appendDecision ((closed.map Position.pair).getD firstPrimary) "position_closed"
      (some exit.reason.debug)
  | .error _ => pure ()

def currentDivergences (states : List PairCycleState) : BTreeMap (Direction × Tier) :=
  .ofPairs (states.filterMap PairCycleState.resolvedDivergence)

def newsLeadTime : Duration := Duration.minutes 15

/-- The exits flagged against this cycle's snapshot. -/
def flaggedExits (snapshot : BrokerSnapshot) (now : Instant) (states : List PairCycleState)
    (openPositions : List Position) : List ExitDecision :=
  evaluateExits openPositions (fun pair => (snapshot.prices pair).map PriceQuote.bid)
    (NoNewsProvider.upcomingEvents now newsLeadTime) now newsLeadTime (currentDivergences states)

def exitSweep (config : Config) (snapshot : BrokerSnapshot) (now : Instant)
    (states : List PairCycleState) (openPositions : List Position) : Cycle (List Position) := do
  let exits := flaggedExits snapshot now states openPositions
  exits.foldlM (fun _ exit => closeFlagged config openPositions exit) ()
  if exits.isEmpty then return openPositions
  else
    let openPositions ← reconcileAndNotify openPositions
    appendPositions openPositions
    return openPositions

def addExposure (exposure : BTreeMap Decimal) (position : Position) : BTreeMap Decimal :=
  match currencyPair position.pair with
  | none => exposure
  | some (base, quote) =>
    let (baseDirection, quoteDirection) := baseAndQuoteDirection position.direction
    (exposure.addAt base (baseDirection * position.size)).addAt quote
      (quoteDirection * position.size)

/-- Net exposure per currency over the open positions, in leg sizes. -/
def currencyExposureSnapshot (positions : List Position) : BTreeMap Decimal :=
  positions.foldl addExposure .empty

/-- The level on file, or a fresh one if it is missing or expired. -/
def loadOrCaptureLevel (timeframe : Timeframe) (symbol : String) (price : Decimal) (now : Instant)
    (holidays : HolidayProvider) : Cycle (Option TrueOpenLevel) := do
  let onFile ← persisted (← perform (.readTrueOpen (trueOpenFile timeframe)))
  if needsCapture now onFile then
    match captureLevel platform.newYork timeframe symbol price now holidays with
    | some fresh =>
      persisted (← perform (.writeTrueOpen (trueOpenFile timeframe) fresh))
      return some fresh
    | none => return none
  else return onFile

/-- A missing level, for a partial week, implies no bias. -/
def impliedBias (price : Decimal) (level : Option TrueOpenLevel) : Bias :=
  match level with
  | some level => biasFromPrice price level.level
  | none => .neutral

def loadOrCaptureBias (timeframe : Timeframe) (symbol : String) (price : Decimal) (now : Instant)
    (holidays : HolidayProvider) : Cycle Bias := do
  let level ← loadOrCaptureLevel platform timeframe symbol price now holidays
  let bias := impliedBias price level
  observe (.trueOpenBias timeframe symbol price level bias)
  return bias

/-- The stop goes at the held level of the traded asset, in the buffer that made the tier. -/
def stopLossLevel (divergenceInputs : DivergenceInputs) (signal : TradeSignal)
    (secondaryPair : String) : Decimal :=
  let isSecondary := signal.pair == secondaryPair
  let buffer := match signal.tier, isSecondary with
    | .tier2, false => divergenceInputs.sessionPrimaryBuffer
    | .tier2, true => divergenceInputs.sessionSecondaryBuffer
    | _, false => divergenceInputs.dailyPrimaryBuffer
    | _, true => divergenceInputs.dailySecondaryBuffer
  match signal.direction with
  | .buy => buffer.low
  | .sell => buffer.high

/-- `Percent::from_percentage(Decimal::try_from(value).unwrap_or(fallback))`. -/
def percentOr (conversion : FloatConversion) (value : F64) (fallback : Decimal) : Percent :=
  .fromPercentage ((value.toDecimal conversion).getD fallback)

def riskConfig (conversion : FloatConversion) (config : Config) : RiskConfig where
  baseRiskPercent := percentOr conversion config.risk.baseRiskPercent 1
  maxRiskPercent := percentOr conversion config.risk.maxRiskPercent 5
  maxOpenPositions := config.risk.maxOpenPositions
  dailyLossLimitPercent := percentOr conversion config.risk.dailyLossLimitPercent 5
  weeklyLossLimitPercent := percentOr conversion config.risk.weeklyLossLimitPercent 10
  maxExposurePerCurrencyPercent := percentOr conversion config.risk.maxExposurePerCurrencyPercent 15
  maxCorrelationExposurePercent := percentOr conversion config.risk.maxCorrelationExposurePercent 10
  correlationExposureThreshold := config.risk.correlationExposureThreshold

def entryPrice (snapshot : BrokerSnapshot) (state : PairCycleState) (signal : TradeSignal) :
    Decimal :=
  let fallbackPrice := if signal.pair = state.pairConfig.secondary then state.secondaryPrice
    else state.primaryPrice
  match signal.direction with
  | .buy => ((snapshot.prices signal.pair).map PriceQuote.ask).getD fallbackPrice
  | .sell => ((snapshot.prices signal.pair).map PriceQuote.bid).getD fallbackPrice

/-- The counterpart of the signal's pair in its pair-set. -/
def otherPair (state : PairCycleState) (signal : TradeSignal) : String :=
  if signal.pair = state.pairConfig.primary then state.pairConfig.secondary
  else state.pairConfig.primary

/-- `Some(coefficient) if coefficient.abs() >= threshold`. -/
def isCorrelated (config : Config) (state : PairCycleState) : Bool :=
  state.correlationCoefficient.any fun coefficient =>
    config.risk.correlationExposureThreshold.le (.finite |coefficient|)

/-- Leg sizes open on the other pair of the pair-set, if the correlation is strong enough. -/
def correlatedExposure (config : Config) (state : PairCycleState) (openPositions : List Position)
    (signal : TradeSignal) : Decimal :=
  if isCorrelated config state then
    ((openPositions.filter fun position => position.pair = otherPair state signal).map
      Position.size).sum
  else 0

def riskContext (config : Config) (snapshot : BrokerSnapshot) (isTuesday : Bool)
    (state : PairCycleState) (openPositions : List Position) (signal : TradeSignal)
    (equity : Usd) : RiskContext :=
  let entryPrice := entryPrice snapshot state signal
  let stopLossPrice := stopLossLevel state.divergenceInputs signal state.pairConfig.secondary
  let stopDistance := |entryPrice - stopLossPrice|
  { equity
    openPositionCount := openPositions.length
    isTuesday
    isDoubleSmt := signal.tier == .double
    entryPrice
    stopLossPrice
    takeProfitPrice := match signal.direction with
      | .buy => entryPrice + stopDistance * 3
      | .sell => entryPrice - stopDistance * 3
    realizedPnlToday := .zero
    realizedPnlThisWeek := .zero
    currencyExposure := currencyExposureSnapshot openPositions
    correlatedExposure := correlatedExposure config state openPositions signal }

def orderRequest (orderId : Uuid) (snapshot : BrokerSnapshot) (signal : TradeSignal)
    (decision : RiskDecision) : OrderRequest where
  orderId := orderId
  traceId := signal.traceId
  signalId := signal.signalId
  pair := signal.pair
  side := signal.direction
  size := decision.positionSize
  orderType := .market
  price := none
  stopLoss := some decision.stopLoss
  takeProfit := some decision.takeProfit
  confirmingSnapshotId := snapshot.snapshotId

/-- Send the order of an approved decision and list what is open now. -/
def submitApproved (snapshot : BrokerSnapshot) (openPositions : List Position)
    (signal : TradeSignal) (decision : RiskDecision) : Cycle (List Position × String) := do
  let orderId ← perform .newUuid
  let _ ← brokered (← perform (.submitOrder (orderRequest orderId snapshot signal decision)))
  notify (.openedPosition signal.direction signal.pair decision.positionSize)
  let openPositions ← reconcileAndNotify openPositions
  appendPositions openPositions
  appendDecision signal.pair "order_submitted" none
  return (openPositions, "order_submitted")

/-- Size a signal and, if the risk engine approves, send the order. Returns the
open positions and the decision label. -/
def sizeAndSubmit (config : Config) (snapshot : BrokerSnapshot) (isTuesday : Bool)
    (state : PairCycleState) (openPositions : List Position) (signal : TradeSignal) :
    Cycle (List Position × String) := do
  let equity ← brokered (← perform .getAccountEquity)
  let context := riskContext config snapshot isTuesday state openPositions signal equity
  let decisionId ← perform .newUuid
  let decision ← Program.ofExcept .risk
    (DefaultRiskEngine.evaluate platform.conversion signal (riskConfig platform.conversion config)
      context decisionId)
  observe (.riskDecision signal (riskConfig platform.conversion config) context decision)
  if decision.approved then submitApproved snapshot openPositions signal decision
  else
    appendDecision signal.pair "risk_rejected" (some (decision.rejectionReason.getD ""))
    return (openPositions, "risk_rejected")

/-- One round of the entry loop, up to the signal. -/
def evaluatePairSet (config : Config) (snapshot : BrokerSnapshot) (now : Instant)
    (isTuesday : Bool) (holidays : HolidayProvider) (openPositions : List Position)
    (state : PairCycleState) : Cycle (List Position × String) := do
  let primary := state.pairConfig.primary
  let secondary := state.pairConfig.secondary
  observe (.evaluating state)
  let spreadMultiplier := (config.risk.spreadMultiplier.toDecimal platform.conversion).getD (3 / 2)
  if state.spreadHistory.passesFilter state.currentSpread spreadMultiplier then
    let weeklyBias ← loadOrCaptureBias platform .weekly primary state.primaryPrice now holidays
    let dailyBias ← loadOrCaptureBias platform .daily primary state.primaryPrice now holidays
    let traceId ← perform .newUuid
    let signalId ← perform .newUuid
    let timestamp ← perform .utcNow
    match generateSignal state.divergenceInputs weeklyBias dailyBias primary secondary
      snapshot.snapshotId (4 / 5) (4 / 5) (now + Duration.minutes 20) traceId signalId timestamp with
    | .noDivergence =>
      appendDecision primary "no_divergence" none
      return (openPositions, "no_divergence")
    | .rejected invalidated =>
      appendDecision primary "gate_rejected" (some invalidated.rejectionReason.debug)
      return (openPositions, "gate_rejected")
    | .signal signal =>
      if alreadyEnteredThisCycle signal.pair openPositions now then
        appendDecision signal.pair "collision_skip" none
        return (openPositions, "collision_skip")
      else sizeAndSubmit platform config snapshot isTuesday state openPositions signal
  else
    appendDecision primary "spread_rejected" none
    return (openPositions, "spread_rejected")

/-- The entry loop, which carries the open positions from one pair-set to the next. -/
def entryLoop (config : Config) (snapshot : BrokerSnapshot) (now : Instant) (isTuesday : Bool)
    (holidays : HolidayProvider) (openPositions : List Position) (states : List PairCycleState) :
    Cycle (List Position × List String) :=
  states.foldlM (fun progress state => do
    let (openPositions, decisionLabel) ←
      evaluatePairSet platform config snapshot now isTuesday holidays progress.1 state
    let label := state.pairConfig.primary ++ "/" ++ state.pairConfig.secondary
    return (openPositions, progress.2 ++ [label ++ ": " ++ decisionLabel])) (openPositions, [])

/-- The three account-wide gates, then the entry loop. -/
def considerEntries (cli : Cli) (config : Config) (snapshot : BrokerSnapshot) (now : Instant)
    (isTuesday : Bool) (holidays : HolidayProvider) (health : HealthMonitor)
    (states : List PairCycleState) (openPositions : List Position) : Cycle Unit := do
  if !cli.force && !isWithinMacroCycle platform.newYork now then
    writeStatus openPositions health (some "outside_window") false
  else
    observe (.consideringEntries now health)
    if !allowsNewEntries health.currentState then
      writeStatus openPositions health (some "health_blocked") false
    else if holidays.isLowLiquidity (utcDateNaive now) then
      writeStatus openPositions health (some "holiday_skip") false
    else
      let (openPositions, decisionSummaries) ←
        entryLoop platform config snapshot now isTuesday holidays openPositions states
      writeStatus openPositions health (some (String.intercalate "; " decisionSummaries)) false

/-- The cycle from the snapshot on. -/
def tradeOnSnapshot (cli : Cli) (config : Config) (snapshot : BrokerSnapshot)
    (health : HealthMonitor) (openPositions : List Position) : Cycle Unit := do
  let now ← perform .clockNow
  let isTuesday := (toNy platform.newYork now).weekday == .tue
  let health ← hostHealth config snapshot now health
  convertStalenessLimits config.risk
  let readings ← readPairSets platform divergence config snapshot now
  let health := health.record .correlationStale (readings.any PairReading.correlationStale)
  let health := health.record .spreadHistoryStale (readings.any PairReading.spreadStale)
  let states := readings.map PairReading.state
  let openPositions ← exitSweep config snapshot now states openPositions
  considerEntries platform cli config snapshot now isTuesday staticHolidayProvider health states
    openPositions

/-- The cycle of a configured daemon, from the startup reconciliation on. -/
def configuredCycle (cli : Cli) (config : Config) : Cycle Unit := do
  let locallyKnownPositions ← persisted (← perform .readPositions)
  let openPositions ← reconcileAndNotify locallyKnownPositions
  let outcome ← perform (.getSnapshot (allSymbols config.pairs))
  match checkBrokerHeartbeat .new heartbeatTimeout outcome with
  | (.ok snapshot, health) =>
    tradeOnSnapshot platform divergence cli config snapshot health openPositions
  | (.error failure, health) =>
    notify (.heartbeatFailed failure)
    writeStatus openPositions health (some "heartbeat_failed") false

/-- The real, deployable path. -/
def runRealCycle (cli : Cli) : Cycle Unit := do
  persisted (← perform .createStateDir)
  if ← killSwitchEngaged then
    writeStatus [] .new (some "paused") true
  else
    let config ← Program.ofExcept .config (Config.load (← perform .readConfigFile))
    if config.pairs.isEmpty then Program.fail .noPairsConfigured
    else configuredCycle platform divergence cli config

section rule
variable {platform divergence} {cli : Cli} {World : Type} {contract : Contract Call Reply World}
  {post : Unit → World → Prop} {failed : CycleError → World → Prop} {world : World}

/-- What holds at the start holds up to the pause or the configuration, as long as the
calls in between keep it. -/
theorem runRealCycle_meets_of (starting : World → Prop) (start : starting world)
    (opening : ∀ world call,
      call = .createStateDir ∨ call = .pausedFileExists ∨ call = .readConfigFile →
      starting world → contract.promise world call ∧
        ∀ reply after, contract.step world ⟨call, reply⟩ after → starting after)
    (gaveUp : ∀ world failure, starting world → failed failure world)
    (paused : ∀ world, starting world →
      (writeStatus [] .new (some "paused") true).Meets contract post failed world)
    (configured : ∀ world file after config, contract.step world ⟨.readConfigFile, file⟩ after →
      Config.load file = .ok config → starting after →
      (configuredCycle platform divergence cli config).Meets contract post failed after) :
    (runRealCycle platform divergence cli).Meets contract post failed world := by
  have running (world : World) (start : starting world) : Program.Meets contract (do
      let config ← Program.ofExcept .config (Config.load (← perform .readConfigFile))
      if config.pairs.isEmpty then Program.fail .noPairsConfigured
      else configuredCycle platform divergence cli config) post failed world := by
    obtain ⟨reads, kept⟩ := opening world .readConfigFile (.inr (.inr rfl)) start
    rw [meets_bind, meets_perform]
    refine ⟨reads, fun file after step => ?_⟩
    have start := kept file after step
    rw [meets_bind, meets_ofExcept]
    refine ⟨fun config loaded => ?_, fun _ _ => gaveUp after _ start⟩
    split
    · exact gaveUp after _ start
    · exact configured world file after config step loaded start
  obtain ⟨creates, created⟩ := opening world .createStateDir (.inl rfl) start
  unfold runRealCycle killSwitchEngaged
  rw [meets_bind, meets_perform]
  refine ⟨creates, fun reply after step => ?_⟩
  have start := created reply after step
  rw [meets_bind, meets_ofExcept]
  refine ⟨fun _ _ => ?_, fun _ _ => gaveUp after _ start⟩
  obtain ⟨asks, asked⟩ := opening after .pausedFileExists (.inr (.inl rfl)) start
  rw [meets_bind, meets_bind, meets_perform]
  refine ⟨asks, fun reply later step => ?_⟩
  have start := asked reply later step
  rcases reply with failure | _ | _
  · exact running later start
  · exact running later start
  · exact paused later start

end rule

end Oboobot.Daemon
