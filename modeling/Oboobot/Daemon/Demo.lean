import Oboobot.Broker.Mock
import Oboobot.Daemon.Cycle
import Oboobot.Domain.Events

/-! The scripted walkthrough against the broker double, up to its simulated restart. -/

namespace Oboobot.Daemon

open Domain Domain.Events SessionTime Strategy Risk Broker Interaction
open Persistence (PersistenceError)

inductive Severity where
  | info
  | warning
  | critical
  deriving DecidableEq

/-- A proposed change, described only as data. -/
structure ConfigChangeSuggestion where
  field : String
  suggestedValue : String
  rationale : String

structure Recommendation where
  severity : Severity
  message : String
  suggestedChange : Option ConfigChangeSuggestion

/-- `analyze_event`: all an assistant can do is recommend. -/
abbrev AssistantEngine := EventEnvelope → List Recommendation

def loggingAssistant : AssistantEngine := fun _ => []

structure RecommendationRecord where
  timestamp : Instant
  severity : String
  message : String
  suggestedField : Option String
  suggestedValue : Option String
  suggestedRationale : Option String

def RecommendationRecord.fromRecommendation (timestamp : Instant)
    (recommendation : Recommendation) : RecommendationRecord where
  timestamp := timestamp
  severity := match recommendation.severity with
    | .info => "info"
    | .warning => "warning"
    | .critical => "critical"
  message := recommendation.message
  suggestedField := recommendation.suggestedChange.map ConfigChangeSuggestion.field
  suggestedValue := recommendation.suggestedChange.map ConfigChangeSuggestion.suggestedValue
  suggestedRationale := recommendation.suggestedChange.map ConfigChangeSuggestion.rationale

inductive DemoError where
  | persistence (failure : PersistenceError)
  | broker (failure : BrokerError)
  | risk (failure : RiskError)

inductive DemoCall where
  | createStateDir
  | removePositions
  | readPositions
  | appendPosition (position : Position)
  | appendRecommendation (record : RecommendationRecord)
  | broker (call : MockCall)
  | newUuid
  | utcNow

@[reducible] def DemoReply : DemoCall → Type
  | .createStateDir => Except PersistenceError Unit
  | .removePositions => Except PersistenceError Unit
  | .readPositions => Except PersistenceError (List Position)
  | .appendPosition _ => Except PersistenceError Unit
  | .appendRecommendation _ => Except PersistenceError Unit
  | .broker call => MockReply call
  | .newUuid => Uuid
  | .utcNow => Instant

abbrev Demo := Program DemoCall DemoReply DemoError

abbrev DemoEvent := Event DemoCall DemoReply

namespace Demo

abbrev perform (call : DemoCall) : Demo (DemoReply call) := Program.perform call

abbrev persisted {α : Type} : Except PersistenceError α → Demo α := Program.ofExcept .persistence

abbrev brokered {α : Type} : Except BrokerError α → Demo α := Program.ofExcept .broker

/-- Write a recommendation down; nothing else is ever done with one. -/
def recordRecommendation (recommendation : Recommendation) : Demo Unit := do
  let timestamp ← perform .utcNow
  persisted (← perform (.appendRecommendation
    (RecommendationRecord.fromRecommendation timestamp recommendation)))

/-- The arguments of one `run_cycle`. -/
structure ScriptedCycle where
  health : HealthMonitor
  primaryPair : String
  secondaryPair : String
  inputs : DivergenceInputs
  weeklyBias : Bias
  dailyBias : Bias

def demoRiskConfig : RiskConfig where
  baseRiskPercent := .fromPercentage 1
  maxRiskPercent := .fromPercentage 5
  maxOpenPositions := 5
  dailyLossLimitPercent := .fromPercentage 5
  weeklyLossLimitPercent := .fromPercentage 10
  maxExposurePerCurrencyPercent := .fromPercentage 15
  maxCorrelationExposurePercent := .fromPercentage 10
  correlationExposureThreshold := .finite (7 / 10)

def entryPrice (snapshot : BrokerSnapshot) (signal : TradeSignal) : Decimal :=
  match signal.direction with
  | .buy => ((snapshot.prices signal.pair).map PriceQuote.ask).getD 1.1
  | .sell => ((snapshot.prices signal.pair).map PriceQuote.bid).getD 1.1

def riskContext (isTuesday : Bool) (cycle : ScriptedCycle) (snapshot : BrokerSnapshot)
    (openPositions : List Position) (signal : TradeSignal) (equity : Usd) : RiskContext :=
  let entryPrice := entryPrice snapshot signal
  let stopLossPrice := stopLossLevel cycle.inputs signal cycle.secondaryPair
  let stopDistance := |entryPrice - stopLossPrice|
  { equity
    openPositionCount := openPositions.length
    isTuesday
    isDoubleSmt := signal.tier == .double
    entryPrice
    stopLossPrice
    takeProfitPrice := match signal.direction with
      | .buy => entryPrice + stopDistance * 3
      | .sell => entryPrice - stopDistance * 3
    realizedPnlToday := .zero
    realizedPnlThisWeek := .zero
    currencyExposure := .empty
    correlatedExposure := 0 }

def appendPositions (openPositions : List Position) : Demo Unit :=
  openPositions.foldlM (fun _ position => do persisted (← perform (.appendPosition position))) ()

/-- Send the order, and put on file all that is open now. -/
def submitApproved (snapshot : BrokerSnapshot) (signal : TradeSignal) (decision : RiskDecision) :
    Demo (List Position) := do
  let orderId ← perform .newUuid
  let _ ← brokered (← perform (.broker (.submitOrder
    (orderRequest orderId snapshot signal decision))))
  let openPositions ← brokered (← perform (.broker .listOpenPositions))
  appendPositions openPositions
  return openPositions

variable (platform : Platform) (assistant : AssistantEngine)

/-- The cycle from a signal on. -/
def sizeAndSubmit (cycle : ScriptedCycle) (snapshot : BrokerSnapshot)
    (openPositions : List Position) (signal : TradeSignal) : Demo (List Position) := do
  let equity ← brokered (← perform (.broker .getAccountEquity))
  let isTuesday := (toNy platform.newYork snapshot.timestamp).weekday == .tue
  let context := riskContext isTuesday cycle snapshot openPositions signal equity
  let decisionId ← perform .newUuid
  let decision ← Program.ofExcept .risk
    (DefaultRiskEngine.evaluate platform.conversion signal demoRiskConfig context decisionId)
  if decision.approved then submitApproved snapshot signal decision
  else return openPositions

/-- One scripted cycle. Returns what the caller's list of open positions has become. -/
def runCycle (openPositions : List Position) (cycle : ScriptedCycle) : Demo (List Position) := do
  if !allowsNewEntries cycle.health.currentState then return openPositions
  else
    let snapshot ← brokered (← perform (.broker
      (.getSnapshot [cycle.primaryPair, cycle.secondaryPair])))
    let eventId ← perform .newUuid
    let macroCycleEvent : EventEnvelope :=
      { eventId, timestamp := snapshot.timestamp, payload := .macroCycleStarted }
    (assistant macroCycleEvent).foldlM (fun _ recommendation =>
      recordRecommendation recommendation) ()
    let traceId ← perform .newUuid
    let signalId ← perform .newUuid
    let timestamp ← perform .utcNow
    match generateSignal cycle.inputs cycle.weeklyBias cycle.dailyBias cycle.primaryPair
      cycle.secondaryPair snapshot.snapshotId (4 / 5) (4 / 5)
      (snapshot.timestamp + Duration.minutes 20) traceId signalId timestamp with
    | .noDivergence => return openPositions
    | .rejected _ => return openPositions
    | .signal signal => sizeAndSubmit platform cycle snapshot openPositions signal

/-- What the walkthrough reports in the end. -/
structure RestartReport where
  openBeforeRestart : Nat
  recoveredFromDisk : Nat
  reconciledAfterRestart : Nat
  clean : Bool
  deriving DecidableEq

/-- The walkthrough with any script of cycles. -/
def walkthrough (cycles : List ScriptedCycle) : Demo RestartReport := do
  persisted (← perform .createStateDir)
  let _ ← perform .removePositions
  let locallyKnownPositions ← persisted (← perform .readPositions)
  let brokerPositions ← brokered (← perform (.broker .listOpenPositions))
  let openPositions := applyReconciliation (reconcile brokerPositions locallyKnownPositions)
  let openPositions ← cycles.foldlM (runCycle platform assistant) openPositions
  let recoveredPositions ← persisted (← perform .readPositions)
  let brokerPositions ← brokered (← perform (.broker .listOpenPositions))
  let restartReport := reconcile brokerPositions recoveredPositions
  return {
    openBeforeRestart := openPositions.length
    recoveredFromDisk := recoveredPositions.length
    reconciledAfterRestart := (applyReconciliation restartReport).length
    clean := restartReport.isClean }

def dailyRange : BufferLevels where
  low := 1.1
  high := 1.105

def sessionRange : BufferLevels where
  low := 1.09
  high := 1.11

/-- GBPUSD has swept its daily low and EURUSD has held its own. -/
def divergingCycle (weeklyBias dailyBias : Bias) : ScriptedCycle where
  health := .new
  primaryPair := "GBPUSD"
  secondaryPair := "EURUSD"
  inputs := {
    primaryPrice := 1.099
    secondaryPrice := 1.101
    dailyPrimaryBuffer := dailyRange
    dailySecondaryBuffer := dailyRange
    sessionPrimaryBuffer := sessionRange
    sessionSecondaryBuffer := sessionRange }
  weeklyBias := weeklyBias
  dailyBias := dailyBias

/-- Both prices move together. -/
def togetherCycle : ScriptedCycle where
  health := .new
  primaryPair := "GBPUSD"
  secondaryPair := "EURUSD"
  inputs := {
    primaryPrice := 1.1005
    secondaryPrice := 1.1005
    dailyPrimaryBuffer := dailyRange
    dailySecondaryBuffer := dailyRange
    sessionPrimaryBuffer := dailyRange
    sessionSecondaryBuffer := dailyRange }
  weeklyBias := .buy
  dailyBias := .sell

/-- The clean pass, the cycle without a divergence, and the one that the weekly True Open
contradicts. The health of all three is that of the fresh monitor. -/
def scriptedCycles : List ScriptedCycle :=
  [divergingCycle .buy .sell, togetherCycle, divergingCycle .sell .sell]

def runDemo : Demo RestartReport := walkthrough platform loggingAssistant scriptedCycles

end Demo

end Oboobot.Daemon
