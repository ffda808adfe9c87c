import Oboobot.Daemon.Host

/-! Replay: the cycle run against historical daily closes, one simulated day
after the other, and the report of what it would have decided. -/

namespace Oboobot.Daemon

open Domain SessionTime Strategy Risk Broker Interaction

/-- `Decimal::from_parts(5, 0, 0, false, 5)`. -/
def syntheticSpread : Decimal := 5 / 100000

/-- The hyphenated form that an id is printed in. -/
def uuidText (id : Uuid) : String :=
  let digits := (Nat.toDigits 16 id.toNat).leftpad 32 '0'
  String.intercalate "-" ([(0, 8), (8, 4), (12, 4), (16, 4), (20, 12)].map fun (start, length) =>
    String.ofList ((digits.drop start).take length))

/-- The part of the broker that is kept on file. -/
structure ReplayState where
  positions : List Position
  realizedPnlTotal : Decimal

/-- A broker that serves daily closes. Every pair has one series. -/
structure ReplayBroker where
  state : ReplayState
  bars : List (String × List Decimal)
  currentIndex : Nat
  startingEquity : Usd

/-- `bars.insert(pair, series)`. -/
def insertSeries (bars : List (String × List Decimal)) (pair : String) (series : List Decimal) :
    List (String × List Decimal) :=
  bars.filter (fun entry => entry.1 ≠ pair) ++ [(pair, series)]

/-- The bars that every pair has data for. -/
def commonBars (bars : List (String × List Decimal)) : Nat :=
  ((bars.map fun entry => entry.2.length).min?).getD 0

theorem commonBars_le {bars : List (String × List Decimal)} {pair : String} {series : List Decimal}
    (kept : (pair, series) ∈ bars) : commonBars bars ≤ series.length := by
  have length : series.length ∈ bars.map fun entry => entry.2.length :=
    List.mem_map.mpr ⟨_, kept, rfl⟩
  unfold commonBars
  cases least : (bars.map fun entry => entry.2.length).min? with
  | none => exact Nat.zero_le _
  | some count => exact (List.min?_eq_some_iff.mp least).2 _ length

namespace ReplayBroker

def new (bars : List (String × List Decimal)) (startingEquity : Usd) : ReplayBroker where
  state := { positions := [], realizedPnlTotal := 0 }
  bars := bars
  currentIndex := 0
  startingEquity := startingEquity

def barCount (broker : ReplayBroker) : Nat := commonBars broker.bars

def advance (broker : ReplayBroker) : ReplayBroker :=
  { broker with currentIndex := broker.currentIndex + 1 }

def currentPrice (broker : ReplayBroker) (pair : String) : Option Decimal :=
  (broker.bars.lookup pair).bind fun series => series[broker.currentIndex]?

/-- The current close, or the error for a pair that has none at this bar. -/
def closeOf (broker : ReplayBroker) (pair : String) : Except BrokerError Decimal :=
  match broker.currentPrice pair with
  | some close => .ok close
  | none => .error (.malformedResponse ("no replay data for " ++ pair ++ " at this bar"))

/-- The closes of a request, up to the first pair that has none. -/
def closes (broker : ReplayBroker) (pairs : List String) :
    Except BrokerError (List (String × Decimal)) :=
  pairs.mapM fun pair => return (pair, ← broker.closeOf pair)

def getSnapshot (broker : ReplayBroker) (snapshotId : Uuid) (timestamp : Instant)
    (pairs : List String) : Except BrokerError BrokerSnapshot := do
  let halfSpread := syntheticSpread / 2
  let closes ← broker.closes pairs
  return {
    snapshotId, timestamp
    prices := .ofPairs (closes.map fun (pair, close) =>
      (pair, { bid := close - halfSpread, ask := close + halfSpread }))
    spreads := .ofPairs (closes.map fun (pair, _) => (pair, syntheticSpread)) }

def submitOrder (broker : ReplayBroker) (positionId : Uuid) (now : Instant)
    (request : OrderRequest) : Except BrokerError (Order × ReplayBroker) := do
  let fillPrice ← broker.closeOf request.pair
  let position : Position := {
    positionId
    traceId := request.traceId
    signalId := request.signalId
    pair := request.pair
    direction := request.side
    legs := [{ price := fillPrice, size := request.size, filledAt := now }]
    entryPrice := fillPrice
    currentPrice := fillPrice
    unrealizedPnl := 0
    realizedPnl := 0
    entryTime := now
    lastUpdate := now
    status := .filled
    exitReason := none
    stopLoss := request.stopLoss
    takeProfit := request.takeProfit }
  let order : Order := {
    orderId := request.orderId
    traceId := request.traceId
    signalId := request.signalId
    positionId := some positionId
    pair := request.pair
    side := request.side
    size := request.size
    filledSize := request.size
    price := fillPrice
    status := .filled
    timestamp := now
    lastUpdate := now }
  return (order, { broker with
    state := { broker.state with positions := broker.state.positions ++ [position] } })

/-- Close at the current price, or at the position's own where there is none. -/
def closePosition (broker : ReplayBroker) (orderId : Uuid) (now : Instant) (positionId : Uuid) :
    Except BrokerError (Order × ReplayBroker) :=
  match broker.state.positions.find? fun position => position.positionId = positionId with
  | none => .error (.rejected ("no open replay position with id " ++ uuidText positionId))
  | some position =>
    let closePrice := (broker.currentPrice position.pair).getD position.currentPrice
    let directionMultiplier : Decimal := match position.direction with
      | .buy => 1
      | .sell => -1
    let realizedPnl := (closePrice - position.entryPrice) * position.size * directionMultiplier
    let order : Order := {
      orderId
      traceId := position.traceId
      signalId := position.signalId
      positionId := some positionId
      pair := position.pair
      side := match position.direction with
        | .buy => .sell
        | .sell => .buy
      size := position.size
      filledSize := position.size
      price := closePrice
      status := .filled
      timestamp := now
      lastUpdate := now }
    .ok (order, { broker with state := {
      positions := broker.state.positions.eraseP fun position => position.positionId = positionId
      realizedPnlTotal := broker.state.realizedPnlTotal + realizedPnl } })

/-- Realized profit and loss only. -/
def getAccountEquity (broker : ReplayBroker) : Usd :=
  .fromDecimal (broker.startingEquity.asDecimal + broker.state.realizedPnlTotal)

def symbols (broker : ReplayBroker) : List String := broker.bars.map Prod.fst

/-- Within the common bars, exactly the pairs with a series have a price. -/
theorem currentPrice_isSome_iff (broker : ReplayBroker) (within : broker.currentIndex < broker.barCount)
    (pair : String) : (broker.currentPrice pair).isSome = true ↔ pair ∈ broker.symbols := by
  unfold currentPrice symbols
  cases found : broker.bars.lookup pair with
  | none =>
    have absent := List.lookup_eq_none_iff.mp found
    simp only [Option.bind_none, Option.isSome_none, Bool.false_eq_true, List.mem_map, false_iff]
    rintro ⟨entry, kept, rfl⟩
    simpa using absent entry kept
  | some series =>
    obtain ⟨before, after, split, _⟩ := List.lookup_eq_some_iff.mp found
    have kept : (pair, series) ∈ broker.bars := by simp [split]
    have reaches := within.trans_le (commonBars_le kept)
    simp only [Option.bind_some, List.getElem?_eq_getElem reaches, Option.isSome_some, true_iff]
    exact List.mem_map.mpr ⟨_, kept, rfl⟩

end ReplayBroker

/-- What a replay draws from outside its simulation: ids and wall-clock times, one
after the other, and what the host has free on a simulated day. -/
structure Outside where
  newUuid : Nat → Uuid
  utcNow : Nat → Instant
  availableDiskMb : Nat → Option Nat
  residentMemoryMb : Nat → Option Nat
  /-- The time library's calendar has every date that a cycle at this time works with. -/
  calendarHolds : Instant → Bool

structure ReplayHost where
  /-- The configuration and the state directory; the broker in it is never asked. -/
  directory : Host
  /-- The records of `decisions.cursor`. -/
  decisions : List DecisionRecord
  broker : ReplayBroker
  clock : Instant
  outside : Outside
  draws : Nat

namespace ReplayHost

def start (configFile : ConfigFile) (broker : ReplayBroker) (clock : Instant) (outside : Outside) :
    ReplayHost where
  directory := { Host.fresh .default .empty with configFile := configFile }
  decisions := []
  broker := broker
  clock := clock
  outside := outside
  draws := 0

def takeId (host : ReplayHost) : Uuid × ReplayHost :=
  (host.outside.newUuid host.draws, { host with draws := host.draws + 1 })

def takeTime (host : ReplayHost) : Instant × ReplayHost :=
  (host.outside.utcNow host.draws, { host with draws := host.draws + 1 })

/-- Keep what the broker came to, if it did what it was asked. -/
def settle (host : ReplayHost) : Except BrokerError (Order × ReplayBroker) →
    Except BrokerError Order × ReplayHost
  | .ok (order, broker) => (.ok order, { host with broker := broker })
  | .error failure => (.error failure, host)

/-- The reply to a call, and the host after it. -/
def answer (host : ReplayHost) : (call : Call) → Reply call × ReplayHost
  | .appendDecision record => (.ok (), { host with decisions := host.decisions ++ [record] })
  | .getSnapshot pairs =>
    let (id, host) := host.takeId
    let (timestamp, host) := host.takeTime
    (some (host.broker.getSnapshot id timestamp pairs), host)
  | .listOpenPositions => (.ok host.broker.state.positions, host)
  | .closePosition id =>
    let (orderId, host) := host.takeId
    let (now, host) := host.takeTime
    host.settle (host.broker.closePosition orderId now id)
  | .submitOrder request =>
    let (id, host) := host.takeId
    let (now, host) := host.takeTime
    host.settle (host.broker.submitOrder id now request)
  | .getAccountEquity => (.ok host.broker.getAccountEquity, host)
  | .fetchHistoricalPrices _ _ =>
    (.error (.notImplemented "fetch_historical_prices is not implemented for this broker"), host)
  | .clockNow => (host.clock, host)
  | .utcNow => host.takeTime
  | .newUuid => host.takeId
  | .availableDiskMb => (host.outside.availableDiskMb host.broker.currentIndex, host)
  | .residentMemoryMb => (host.outside.residentMemoryMb host.broker.currentIndex, host)
  | call =>
    let (reply, directory) := host.directory.answer call
    (reply, { host with directory := directory })

/-- The next simulated day. -/
def advance (host : ReplayHost) : ReplayHost :=
  { host with broker := host.broker.advance, clock := host.clock + Duration.days 1 }

end ReplayHost

structure ReplayReport where
  pairSet : String × String
  barsReplayed : Nat
  startingEquity : Decimal
  endingEquity : Decimal
  tradesOpened : Nat
  tradesClosed : Nat
  decisionCounts : BTreeMap Nat

/-- `*decision_counts.entry(outcome).or_insert(0) += 1`, for every record. -/
def decisionCounts (decisions : List DecisionRecord) : BTreeMap Nat :=
  decisions.foldl (fun counts decision =>
    counts.insert decision.outcome ((counts decision.outcome).getD 0 + 1)) .empty

def ReplayHost.report (host : ReplayHost) (pairConfig : PairConfig) (barCount : Nat) :
    ReplayReport :=
  let decisionCounts := decisionCounts host.decisions
  { pairSet := (pairConfig.primary, pairConfig.secondary)
    barsReplayed := barCount
    startingEquity := host.broker.startingEquity.asDecimal
    endingEquity := host.broker.getAccountEquity.asDecimal
    tradesOpened := (decisionCounts "order_submitted").getD 0
    tradesClosed := (decisionCounts "position_closed").getD 0
    decisionCounts }

inductive ReplayError where
  | config (failure : ConfigError)
  | noPairs
  | noHistory (primary secondary : String)
  | cycle (failure : CycleError)

variable (platform : Platform) (divergence : DivergenceSource)

/-- Run one forced cycle a day. Returns the events of each day begun, and the host
after the last one unless a cycle gave up. A time that is out of the calendar's
range is a panic, and its day counts as not begun. -/
def replayDays : Nat → ReplayHost → List (List CycleEvent) × Except CycleError ReplayHost
  | 0, host => ([], .ok host)
  | remaining + 1, host =>
    if host.outside.calendarHolds host.clock then
      match (runRealCycle platform divergence ⟨true⟩).play ReplayHost.answer host with
      | (events, .failed failure, _) => ([events], .error failure)
      | (events, _, after) =>
        if remaining = 0 then ([events], .ok after)
        else
          let (later, result) := replayDays remaining after.advance
          (events :: later, result)
    else ([], .error .panicked)

/-- The closes to replay: one series, if both symbols are the same. -/
def replayBars (pairConfig : PairConfig) (primaryHistory secondaryHistory : List Decimal) :
    List (String × List Decimal) :=
  insertSeries (insertSeries [] pairConfig.primary primaryHistory) pairConfig.secondary
    secondaryHistory

/-- What a replay is started with. The histories are those that the source broker
returned for the two symbols of the first pair-set. -/
structure ReplayInputs where
  configFile : ConfigFile
  primaryHistory : List Decimal
  secondaryHistory : List Decimal
  today : Instant
  days : Nat
  outside : Outside

def ReplayInputs.bars (inputs : ReplayInputs) (pairConfig : PairConfig) :
    List (String × List Decimal) :=
  replayBars pairConfig inputs.primaryHistory inputs.secondaryHistory

/-- The first simulated day. -/
def ReplayInputs.start (inputs : ReplayInputs) : Instant :=
  inputs.today - Duration.days inputs.days

/-- Replay the first pair-set. Returns the events of each simulated day, besides the report. -/
def runReplay (inputs : ReplayInputs) :
    List (List CycleEvent) × Except ReplayError ReplayReport :=
  match Config.load inputs.configFile with
  | .error failure => ([], .error (.config failure))
  | .ok config => match config.pairs with
    | [] => ([], .error .noPairs)
    | pairConfig :: _ =>
      let broker := ReplayBroker.new (inputs.bars pairConfig) (.fromDecimal 10000)
      let barCount := broker.barCount
      if barCount = 0 then ([], .error (.noHistory pairConfig.primary pairConfig.secondary))
      else
        let host := ReplayHost.start inputs.configFile broker inputs.start inputs.outside
        match replayDays platform divergence barCount host with
        | (events, .error failure) => (events, .error (.cycle failure))
        | (events, .ok final) => (events, .ok (final.report pairConfig barCount))

end Oboobot.Daemon
