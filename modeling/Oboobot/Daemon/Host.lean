import Oboobot.Daemon.Cycle

/-! Surroundings that can be run: a state directory that keeps what is written
to it, and a broker that fills every order at its quote. -/

namespace Oboobot.Daemon

open Domain SessionTime Strategy Risk Broker Interaction

/-- A platform for instants outside daylight time. The root is exact on squares. -/
def Platform.winter : Platform where
  newYork := .standardTime
  sqrt := fun value => (Nat.sqrt value.num.toNat : ℚ) / Nat.sqrt value.den
  conversion := .exact

structure Host where
  configFile : ConfigFile
  /-- The records of `positions.cursor`. -/
  cursor : List Position
  buffers : BTreeMap RollingBuffer
  correlations : BTreeMap CorrelationState
  spreadHistories : BTreeMap SpreadHistory
  trueOpens : BTreeMap TrueOpenLevel
  /-- The positions open at the broker. -/
  book : List Position
  quotes : BTreeMap PriceQuote
  equity : Usd
  clock : Instant
  nextId : Nat

/-- A Wednesday at 03:00 in New York, outside daylight time. -/
def wednesdayMorning : Instant := Duration.days 19732 + Duration.hours 8

/-- Quotes without a spread. -/
def quotedAt (prices : List (String × Decimal)) : BTreeMap PriceQuote :=
  .ofPairs (prices.map fun (symbol, price) => (symbol, { bid := price, ask := price }))

/-- A filled buy of `size` at `price`, without a target. -/
def boughtPosition (id : Uuid) (pair : String) (price size : Decimal) (entryTime : Instant)
    (stopLoss : Option Decimal) : Position where
  positionId := id
  traceId := 0
  signalId := 0
  pair := pair
  direction := .buy
  legs := [{ price, size, filledAt := entryTime }]
  entryPrice := price
  currentPrice := price
  unrealizedPnl := 0
  realizedPnl := 0
  entryTime := entryTime
  lastUpdate := entryTime
  status := .filled
  exitReason := none
  stopLoss := stopLoss
  takeProfit := none

namespace Host

/-- An empty state directory, an empty book and 10000 dollars, on that morning. -/
def fresh (config : Config) (quotes : BTreeMap PriceQuote) : Host where
  configFile := .parsed config
  cursor := []
  buffers := .empty
  correlations := .empty
  spreadHistories := .empty
  trueOpens := .empty
  book := []
  quotes := quotes
  equity := .fromDecimal 10000
  clock := wednesdayMorning
  nextId := 0

def takeId (host : Host) : Uuid × Host :=
  (BitVec.ofNat 128 host.nextId, { host with nextId := host.nextId + 1 })

/-- The quote an order of this side is filled at. -/
def fillPrice (host : Host) (pair : String) (side : Direction) : Decimal :=
  match host.quotes pair, side with
  | some quote, .buy => quote.ask
  | some quote, .sell => quote.bid
  | none, _ => 0

def filledPosition (host : Host) (id : Uuid) (request : OrderRequest) : Position :=
  let price := host.fillPrice request.pair request.side
  { positionId := id
    traceId := request.traceId
    signalId := request.signalId
    pair := request.pair
    direction := request.side
    legs := [{ price, size := request.size, filledAt := host.clock }]
    entryPrice := price
    currentPrice := price
    unrealizedPnl := 0
    realizedPnl := 0
    entryTime := host.clock
    lastUpdate := host.clock
    status := .filled
    exitReason := none
    stopLoss := request.stopLoss
    takeProfit := request.takeProfit }

/-- The order that reports a fill of the whole of `size`. -/
def filledOrder (host : Host) (orderId traceId signalId positionId : Uuid) (pair : String)
    (side : Direction) (size : Decimal) : Order where
  orderId := orderId
  traceId := traceId
  signalId := signalId
  positionId := some positionId
  pair := pair
  side := side
  size := size
  filledSize := size
  price := host.fillPrice pair side
  status := .filled
  timestamp := host.clock
  lastUpdate := host.clock

def submitOrder (host : Host) (request : OrderRequest) : Order × Host :=
  let (id, host) := host.takeId
  (host.filledOrder request.orderId request.traceId request.signalId id request.pair request.side
      request.size,
    { host with book := host.book ++ [host.filledPosition id request] })

def closePosition (host : Host) (id : Uuid) : Except BrokerError Order × Host :=
  match host.book.find? fun position => position.positionId = id with
  | none => (.error (.notFound id), host)
  | some position =>
    let (orderId, host) := host.takeId
    let side := match position.direction with
      | .buy => .sell
      | .sell => .buy
    (.ok (host.filledOrder orderId position.traceId position.signalId id position.pair side
        position.size),
      { host with book := host.book.filter fun position => position.positionId ≠ id })

def snapshot (host : Host) (id : Uuid) (symbols : List String) : BrokerSnapshot where
  snapshotId := id
  timestamp := host.clock
  prices := fun symbol => if symbols.contains symbol then host.quotes symbol else none
  spreads := fun symbol => if symbols.contains symbol then
    (host.quotes symbol).map fun quote => quote.ask - quote.bid else none

/-- The reply to a call, and the host after it. -/
def answer (host : Host) : (call : Call) → Reply call × Host
  | .createStateDir => (.ok (), host)
  | .pausedFileExists => (.ok false, host)
  | .readConfigFile => (host.configFile, host)
  | .readPositions => (.ok host.cursor, host)
  | .appendPosition position => (.ok (), { host with cursor := host.cursor ++ [position] })
  | .appendDecision _ => (.ok (), host)
  | .readBuffer file => (.ok (host.buffers file), host)
  | .writeBuffer file buffer => (.ok (), { host with buffers := host.buffers.insert file buffer })
  | .readCorrelation file => (.ok (host.correlations file), host)
  | .writeCorrelation file state =>
    (.ok (), { host with correlations := host.correlations.insert file state })
  | .readSpreadHistory file => (.ok (host.spreadHistories file), host)
  | .writeSpreadHistory file history =>
    (.ok (), { host with spreadHistories := host.spreadHistories.insert file history })
  | .readTrueOpen file => (.ok (host.trueOpens file), host)
  | .writeTrueOpen file level =>
    (.ok (), { host with trueOpens := host.trueOpens.insert file level })
  | .writeStatus _ => (.ok (), host)
  | .getSnapshot symbols =>
    let (id, host) := host.takeId
    (some (.ok (host.snapshot id symbols)), host)
  | .listOpenPositions => (.ok host.book, host)
  | .closePosition id => host.closePosition id
  | .submitOrder request =>
    let (order, host) := host.submitOrder request
    (.ok order, host)
  | .getAccountEquity => (.ok host.equity, host)
  | .fetchHistoricalPrices _ _ => (.error (.notImplemented "fetch_historical_prices"), host)
  | .clockNow => (host.clock, host)
  | .utcNow => (host.clock, host)
  | .newUuid => host.takeId
  | .availableDiskMb => (none, host)
  | .residentMemoryMb => (none, host)
  | .notify _ => ((), host)
  | .observe _ => ((), host)

end Host

/-- Of every pair-set, the secondary has fallen below its daily low and the
primary has held its own. -/
def secondarySwept : DivergenceSource := fun _ inputs => { inputs with
  dailyPrimaryBuffer := { high := inputs.primaryPrice + 0.01, low := inputs.primaryPrice - 0.01 }
  dailySecondaryBuffer := {
    high := inputs.secondaryPrice + 0.03, low := inputs.secondaryPrice + 0.01 } }

end Oboobot.Daemon
