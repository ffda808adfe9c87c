import Oboobot.Daemon.Cycle

/-! What the events of a cycle so far say, and what every later call of the
cycle promises in those terms. -/

namespace Oboobot.Daemon

open Domain SessionTime Strategy Risk Broker Interaction Daemon.Cycle

/-- One evaluation of the risk engine. -/
structure Sizing where
  signal : TradeSignal
  config : RiskConfig
  context : RiskContext
  decision : RiskDecision

/-- The latest value of everything a gate reads, and the running lists of one invocation. -/
structure Ledger where
  paused : Bool
  config : Option Config
  /-- The records of `positions.cursor` at startup. -/
  records : List Position
  /-- The open positions the daemon goes by. -/
  known : List Position
  reconciliations : Nat
  listing : Option (List Position)
  /-- No order has been sent since the latest listing. -/
  settled : Bool
  snapshot : Option BrokerSnapshot
  now : Option Instant
  closing : List Uuid
  health : Option HealthMonitor
  evaluated : List PairConfig
  evaluating : Option PairCycleState
  trueOpenRead : Option (String × Option TrueOpenLevel)
  weeklyBias : Option Bias
  dailyBias : Option Bias
  equity : Option Usd
  /-- The evaluation that no order has answered yet. -/
  sizing : Option Sizing
  /-- The pair-sets an order has been sent for. -/
  ordered : List PairConfig

namespace Ledger

def empty : Ledger where
  paused := false
  config := none
  records := []
  known := []
  reconciliations := 0
  listing := none
  settled := false
  snapshot := none
  now := none
  closing := []
  health := none
  evaluated := []
  evaluating := none
  trueOpenRead := none
  weeklyBias := none
  dailyBias := none
  equity := none
  sizing := none
  ordered := []

def recordBias (ledger : Ledger) (bias : Bias) : Timeframe → Ledger
  | .weekly => { ledger with weeklyBias := some bias }
  | .daily => { ledger with dailyBias := some bias }

def afterObservation (ledger : Ledger) : Observation → Ledger
  | .reconciled openPositions => { ledger with
      known := openPositions
      reconciliations := ledger.reconciliations + 1 }
  | .stalenessLimits _ | .marketStateUpdated _ _ => ledger
  | .consideringEntries _ health => { ledger with health := some health }
  | .evaluating state => { ledger with
      evaluated := ledger.evaluated ++ [state.pairConfig]
      evaluating := some state
      weeklyBias := none
      dailyBias := none
      sizing := none }
  | .trueOpenBias timeframe _ _ _ bias => ledger.recordBias bias timeframe
  | .riskDecision signal config context decision => { ledger with
      sizing := some { signal, config, context, decision } }

/-- The ledger after one more event. -/
def after (ledger : Ledger) (event : CycleEvent) : Ledger :=
  match event with
  | ⟨.pausedFileExists, .ok exists'⟩ => { ledger with paused := exists' }
  | ⟨.readConfigFile, file⟩ => { ledger with config := (Config.load file).toOption }
  | ⟨.readPositions, .ok records⟩ => { ledger with records, known := records }
  | ⟨.listOpenPositions, .ok listing⟩ => { ledger with listing := some listing, settled := true }
  | ⟨.getSnapshot _, some (.ok snapshot)⟩ => { ledger with snapshot := some snapshot }
  | ⟨.clockNow, now⟩ => { ledger with now := some now }
  | ⟨.closePosition id, _⟩ => { ledger with closing := ledger.closing ++ [id] }
  | ⟨.readTrueOpen file, .ok level⟩ => { ledger with trueOpenRead := some (file, level) }
  | ⟨.getAccountEquity, .ok equity⟩ => { ledger with equity := some equity }
  | ⟨.submitOrder _, _⟩ => { ledger with
      settled := false
      sizing := none
      ordered := ledger.ordered ++ (ledger.evaluating.map PairCycleState.pairConfig).toList }
  | ⟨.observe observation, _⟩ => ledger.afterObservation observation
  | _ => ledger

/-- The ledger of a list of events. -/
def ofEvents (events : List CycleEvent) : Ledger := events.foldl after empty

theorem ofEvents_append_singleton (before : List CycleEvent) (event : CycleEvent) :
    ofEvents (before ++ [event]) = (ofEvents before).after event := by
  simp [ofEvents]

end Ledger

/-- Calls that no gate reads and that leave the ledger as it is. -/
def Call.isRoutine : Call → Bool
  | .createStateDir | .appendPosition _ | .appendDecision _ => true
  | .readBuffer _ | .writeBuffer _ _ => true
  | .readCorrelation _ | .writeCorrelation _ _ => true
  | .readSpreadHistory _ | .writeSpreadHistory _ _ => true
  | .writeTrueOpen _ _ | .writeStatus _ => true
  | .fetchHistoricalPrices _ _ => true
  | .utcNow | .newUuid | .availableDiskMb | .residentMemoryMb | .notify _ => true
  | _ => false

theorem Ledger.after_routine (ledger : Ledger) {call : Call} (routine : call.isRoutine)
    (reply : Reply call) : ledger.after ⟨call, reply⟩ = ledger := by
  cases call <;> first | rfl | cases routine

/-- The order request that an event sends. -/
def orderOf : CycleEvent → Option OrderRequest
  | ⟨.submitOrder request, _⟩ => some request
  | _ => none

theorem eq_of_orderOf {event : CycleEvent} {request : OrderRequest}
    (sends : orderOf event = some request) :
    ∃ reply, event = ⟨.submitOrder request, reply⟩ := by
  unfold orderOf at sends
  split at sends
  · cases sends
    exact ⟨_, rfl⟩
  · cases sends

/-- The broker's book, as an event lists it. -/
def listingOf : CycleEvent → Option (List Position)
  | ⟨.listOpenPositions, .ok listing⟩ => some listing
  | _ => none

/-- What the daemon goes by when it counts positions. -/
def Ledger.positions (ledger : Ledger) : Option Config × List Position × List Position × Nat ×
    Option (List Position) × Bool :=
  (ledger.config, ledger.records, ledger.known, ledger.reconciliations, ledger.listing,
    ledger.settled)

/-- Only five kinds of event bear on the positions. -/
theorem Ledger.after_positions (ledger : Ledger) (event : CycleEvent) :
    (∃ file, event = ⟨.readConfigFile, file⟩) ∨
    (∃ records, event = ⟨.readPositions, .ok records⟩) ∨
    (∃ listing, event = ⟨.listOpenPositions, .ok listing⟩) ∨
    (∃ request reply, event = ⟨.submitOrder request, reply⟩) ∨
    (∃ positions reply, event = ⟨.observe (.reconciled positions), reply⟩) ∨
    (ledger.after event).positions = ledger.positions := by
  obtain ⟨call, reply⟩ := event
  cases call with
  | readConfigFile => exact .inl ⟨reply, rfl⟩
  | readPositions =>
    cases reply with
    | error failure => simp [Ledger.after]
    | ok records => exact .inr (.inl ⟨records, rfl⟩)
  | listOpenPositions =>
    cases reply with
    | error failure => simp [Ledger.after]
    | ok listing => exact .inr (.inr (.inl ⟨listing, rfl⟩))
  | submitOrder request => exact .inr (.inr (.inr (.inl ⟨request, reply, rfl⟩)))
  | observe observation =>
    iterate 4 apply Or.inr
    cases observation with
    | reconciled positions => exact .inl ⟨positions, reply, rfl⟩
    | trueOpenBias timeframe _ _ _ _ => cases timeframe <;> exact .inr rfl
    | _ => exact .inr rfl
  | getSnapshot _ =>
    iterate 5 apply Or.inr
    rcases reply with _ | _ | _ <;> rfl
  | pausedFileExists | readTrueOpen _ | getAccountEquity =>
    iterate 5 apply Or.inr
    cases reply <;> rfl
  | _ =>
    iterate 5 apply Or.inr
    rfl

/-- Only three kinds of event bear on the time, the quotes and the orders. -/
theorem Ledger.after_trade (ledger : Ledger) (event : CycleEvent) :
    (∃ now, event = ⟨.clockNow, now⟩) ∨
    (∃ symbols snapshot, event = ⟨.getSnapshot symbols, some (.ok snapshot)⟩) ∨
    (∃ request reply, event = ⟨.submitOrder request, reply⟩) ∨
    (orderOf event = none ∧ (ledger.after event).now = ledger.now ∧
      (ledger.after event).snapshot = ledger.snapshot ∧
      (ledger.after event).ordered = ledger.ordered) := by
  obtain ⟨call, reply⟩ := event
  cases call with
  | clockNow => exact .inl ⟨reply, rfl⟩
  | submitOrder request => exact .inr (.inr (.inl ⟨request, reply, rfl⟩))
  | getSnapshot symbols =>
    rcases reply with _ | _ | snapshot
    · exact .inr (.inr (.inr ⟨rfl, rfl, rfl, rfl⟩))
    · exact .inr (.inr (.inr ⟨rfl, rfl, rfl, rfl⟩))
    · exact .inr (.inl ⟨symbols, snapshot, rfl⟩)
  | observe observation =>
    iterate 3 apply Or.inr
    cases observation with
    | trueOpenBias timeframe _ _ _ _ => cases timeframe <;> exact ⟨rfl, rfl, rfl, rfl⟩
    | _ => exact ⟨rfl, rfl, rfl, rfl⟩
  | pausedFileExists | readPositions | listOpenPositions | readTrueOpen _ | getAccountEquity =>
    iterate 3 apply Or.inr
    cases reply <;> exact ⟨rfl, rfl, rfl, rfl⟩
  | _ =>
    iterate 3 apply Or.inr
    exact ⟨rfl, rfl, rfl, rfl⟩

/-- Only a reading of the clock moves the cycle's time. -/
theorem Ledger.after_now (ledger : Ledger) (event : CycleEvent) :
    (∃ now, event = ⟨.clockNow, now⟩) ∨ (ledger.after event).now = ledger.now := by
  rcases ledger.after_trade event with clock | ⟨_, _, rfl⟩ | ⟨_, _, rfl⟩ | ⟨_, same, _⟩
  · exact .inl clock
  · exact .inr rfl
  · exact .inr rfl
  · exact .inr same

/-- Only a snapshot that arrives becomes the cycle's. -/
theorem Ledger.after_snapshot (ledger : Ledger) (event : CycleEvent) :
    (∃ symbols snapshot, event = ⟨.getSnapshot symbols, some (.ok snapshot)⟩) ∨
      (ledger.after event).snapshot = ledger.snapshot := by
  rcases ledger.after_trade event with ⟨_, rfl⟩ | arrived | ⟨_, _, rfl⟩ | ⟨_, _, same, _⟩
  · exact .inr rfl
  · exact .inl arrived
  · exact .inr rfl
  · exact .inr same

/-- What a cycle has established once it holds a snapshot. -/
structure Established (ledger : Ledger) (config : Config) (snapshot : BrokerSnapshot)
    (now : Instant) : Prop where
  notPaused : ledger.paused = false
  configured : ledger.config = some config
  heartbeat : ledger.snapshot = some snapshot
  clock : ledger.now = some now

/-- Besides, the open positions are those of the latest listing, and no order
has been sent since. -/
structure Trading (ledger : Ledger) (config : Config) (snapshot : BrokerSnapshot)
    (now : Instant) : Prop extends Established ledger config snapshot now where
  settled : ledger.settled = true
  covers : ∃ listing, ledger.listing = some listing ∧
    ∀ id, id ∈ positionIds ledger.known ↔ id ∈ positionIds listing
  reconciled : 0 < ledger.reconciliations

/-- The part of the ledger that trading depends on. -/
def Ledger.core (ledger : Ledger) : Bool × Option Config × Option BrokerSnapshot × Option Instant ×
    Option (List Position) × Bool × List Position × Nat :=
  (ledger.paused, ledger.config, ledger.snapshot, ledger.now, ledger.listing, ledger.settled,
    ledger.known, ledger.reconciliations)

theorem Trading.keep {ledger after : Ledger} {config : Config} {snapshot : BrokerSnapshot}
    {now : Instant} (trading : Trading ledger config snapshot now) (same : after.core = ledger.core) :
    Trading after config snapshot now := by
  simp only [Ledger.core, Prod.mk.injEq] at same
  obtain ⟨paused, configured, heartbeat, clock, listing, settled, known, reconciled⟩ := same
  constructor
  · exact ⟨paused ▸ trading.notPaused, configured ▸ trading.configured,
      heartbeat ▸ trading.heartbeat, clock ▸ trading.clock⟩
  · exact settled ▸ trading.settled
  · rw [listing, known]
    exact trading.covers
  · exact reconciled ▸ trading.reconciled

theorem Established.trading_reconciled {ledger : Ledger} {config : Config}
    {snapshot : BrokerSnapshot} {now : Instant} (established : Established ledger config snapshot now)
    (listing openPositions : List Position) :
    Trading { ledger with
      listing := some listing
      settled := true
      known := reconciled listing openPositions
      reconciliations := ledger.reconciliations + 1 } config snapshot now where
  notPaused := established.notPaused
  configured := established.configured
  heartbeat := established.heartbeat
  clock := established.clock
  settled := rfl
  covers := ⟨listing, rfl, mem_positionIds_reconciled listing openPositions⟩
  reconciled := Nat.succ_pos _

/-- The three account-wide gates. -/
structure EntriesOpen (platform : Platform) (cli : Cli) (ledger : Ledger) (now : Instant) :
    Prop where
  window : cli.force = true ∨ isWithinMacroCycle platform.newYork now = true
  health : ∃ health, ledger.health = some health ∧ allowsNewEntries health.currentState = true
  liquidity : staticHolidayProvider.isLowLiquidity (utcDateNaive now) = false

/-- The spread filter, the True Open gate and the collision check of one pair-set. -/
structure PairGates (platform : Platform) (ledger : Ledger) (config : Config) (now : Instant)
    (state : PairCycleState) (signal : TradeSignal) : Prop where
  evaluating : ledger.evaluating = some state
  spread : state.spreadHistory.passesFilter state.currentSpread
    ((config.risk.spreadMultiplier.toDecimal platform.conversion).getD (3 / 2)) = true
  trueOpen : ∃ weeklyBias dailyBias, ledger.weeklyBias = some weeklyBias ∧
    ledger.dailyBias = some dailyBias ∧ trueOpenGate weeklyBias dailyBias signal.direction = .ok ()
  divergence : ∃ target, evaluateSmt state.divergenceInputs =
      some (target, signal.direction, signal.tier) ∧
    signal.pair = target.pair state.pairConfig.primary state.pairConfig.secondary
  collision : alreadyEnteredThisCycle signal.pair ledger.known now = false

/-- The pair-sets evaluated so far are the first ones of the configuration, and
orders went out only for earlier ones. -/
structure InTurn (ledger : Ledger) (config : Config) (state : PairCycleState) : Prop where
  evaluated : ∃ earlier, ledger.evaluated = earlier ++ [state.pairConfig] ∧
    ledger.ordered.Sublist earlier
  configured : ledger.evaluated <+: config.pairs

/-- An evaluation of the risk engine that every gate before it let through. -/
structure Sized (platform : Platform) (cli : Cli) (ledger : Ledger) (config : Config)
    (snapshot : BrokerSnapshot) (now : Instant) (state : PairCycleState) (sizing : Sizing) :
    Prop where
  trading : Trading ledger config snapshot now
  entries : EntriesOpen platform cli ledger now
  inTurn : InTurn ledger config state
  gates : PairGates platform ledger config now state sizing.signal
  config_eq : sizing.config = riskConfig platform.conversion config
  context : ∃ equity, ledger.equity = some equity ∧
    sizing.context = riskContext config snapshot ((toNy platform.newYork now).weekday == .tue)
      state ledger.known sizing.signal equity
  decision : ∃ decisionId,
    DefaultRiskEngine.evaluate platform.conversion sizing.signal sizing.config sizing.context
      decisionId = .ok sizing.decision

/-- How a pair-set's state comes out of a snapshot, whatever the state files held. -/
structure ReadFrom (divergence : DivergenceSource) (snapshot : BrokerSnapshot)
    (state : PairCycleState) : Prop where
  primaryPrice : state.primaryPrice = bidOrZero snapshot state.pairConfig.primary
  secondaryPrice : state.secondaryPrice = bidOrZero snapshot state.pairConfig.secondary
  inputs : ∃ inputs : DivergenceInputs, inputs.Inside ∧
    inputs.primaryPrice = state.primaryPrice ∧ inputs.secondaryPrice = state.secondaryPrice ∧
    state.divergenceInputs = divergence state.pairConfig inputs
  resolved : state.resolvedDivergence =
    namedDivergence state.pairConfig (evaluateSmt state.divergenceInputs)

/-- How a bias comes out of the level last read. -/
def BiasLoaded (platform : Platform) (ledger : Ledger) (timeframe : Timeframe) (symbol : String)
    (price : Decimal) (level : Option TrueOpenLevel) (bias : Bias) : Prop :=
  ∃ now onFile, ledger.now = some now ∧
    ledger.trueOpenRead = some (trueOpenFile timeframe, onFile) ∧
    level = (if needsCapture now onFile then
      captureLevel platform.newYork timeframe symbol price now staticHolidayProvider else onFile) ∧
    bias = impliedBias price level

/-- What a cycle promises of a call, in terms of the events before it. -/
def Promised (platform : Platform) (divergence : DivergenceSource) (cli : Cli) (ledger : Ledger) :
    Call → Prop
  | .readPositions => ledger.reconciliations = 0
  | .closePosition id => 0 < ledger.reconciliations ∧
      (ledger.closing ++ [id]).Sublist (positionIds ledger.known)
  | .submitOrder request => ∃ config snapshot now state sizing orderId,
      Sized platform cli ledger config snapshot now state sizing ∧ ledger.sizing = some sizing ∧
      sizing.decision.approved = true ∧
      request = orderRequest orderId snapshot sizing.signal sizing.decision
  | .observe (.reconciled positions) => ∃ listing, ledger.listing = some listing ∧
      positions = reconciled listing ledger.known
  | .observe (.stalenessLimits risk) => ∃ config, ledger.config = some config ∧ risk = config.risk
  | .observe (.marketStateUpdated now state) => ledger.now = some now ∧
      ∃ snapshot, ledger.snapshot = some snapshot ∧ ReadFrom divergence snapshot state
  | .observe (.trueOpenBias timeframe symbol price level bias) =>
      BiasLoaded platform ledger timeframe symbol price level bias
  | .observe (.riskDecision signal riskConfig context decision) => ∃ config snapshot now state,
      Sized platform cli ledger config snapshot now state
        { signal, config := riskConfig, context, decision }
  | _ => True

theorem promised_of_routine {platform : Platform} {divergence : DivergenceSource} {cli : Cli}
    (ledger : Ledger) {call : Call} (routine : call.isRoutine) :
    Promised platform divergence cli ledger call := by
  cases call <;> trivial

/-- The contract that every cycle meets. -/
def cycleContract (platform : Platform) (divergence : DivergenceSource) (cli : Cli) :
    Contract Call Reply Ledger :=
  monitor Ledger.after (Promised platform divergence cli)

end Oboobot.Daemon
