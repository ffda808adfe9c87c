import Oboobot.Interaction.Runs
import Oboobot.Persistence.Cursor
import Oboobot.SessionTime.MacroCycle
import Oboobot.Strategy.Buffers
import Oboobot.Strategy.Correlation
import Oboobot.Risk.Gates
import Oboobot.Daemon.Monitor
import Oboobot.Daemon.Operations
import Oboobot.Daemon.Health
import Oboobot.Daemon.Config

/-! Everything one cycle asks of its surroundings: the state directory, the
broker and the host. -/

namespace Oboobot.Daemon

open Domain SessionTime Strategy Risk Broker Interaction
open Persistence (PersistenceError)

/-- What ends a cycle early: an error that `?` carries out of it, or a panic. -/
inductive CycleError where
  | persistence (failure : PersistenceError)
  | config (failure : ConfigError)
  | noPairsConfigured
  | broker (failure : BrokerError)
  | risk (failure : RiskError)
  | panicked
  deriving DecidableEq

def bufferDailyFile (symbol : String) : String := "buffer_daily_" ++ symbol ++ ".json"

def bufferSessionFile (symbol : String) : String := "buffer_session_" ++ symbol ++ ".json"

def correlationFile (primary secondary : String) : String :=
  "correlation_" ++ primary ++ "_" ++ secondary ++ ".json"

def spreadHistoryFile (primary : String) : String := "spread_history_" ++ primary ++ ".json"

def trueOpenFile : Timeframe → String
  | .weekly => "true_open_weekly.json"
  | .daily => "true_open_daily.json"

/-- One pair-set's market state for a single cycle. -/
structure PairCycleState where
  pairConfig : PairConfig
  primaryPrice : Decimal
  secondaryPrice : Decimal
  divergenceInputs : DivergenceInputs
  resolvedDivergence : Option (String × Direction × Tier)
  spreadHistory : SpreadHistory
  currentSpread : Decimal
  correlationCoefficient : Option ℚ
  deriving DecidableEq

/-- The messages of the notifier, by what they report. -/
inductive Notification where
  | heartbeatFailed (failure : HeartbeatError)
  | reconciliationMismatch (orphaned adopted : Nat)
  | correlationRegimeShift (primary secondary : String) (shift : RegimeShift)
  | closedPosition (id : Uuid) (reason : ExitReason)
  | openedPosition (direction : Direction) (pair : String) (size : Decimal)
  deriving DecidableEq

/-- Points of a cycle at which its local values are made visible. They have no
effect; most sit where the source writes a log line. -/
inductive Observation where
  | reconciled (openPositions : List Position)
  | stalenessLimits (risk : RiskSection)
  | marketStateUpdated (now : Instant) (state : PairCycleState)
  | consideringEntries (now : Instant) (health : HealthMonitor)
  | evaluating (state : PairCycleState)
  | trueOpenBias (timeframe : Timeframe) (symbol : String) (price : Decimal)
      (level : Option TrueOpenLevel) (bias : Bias)
  | riskDecision (signal : TradeSignal) (config : RiskConfig) (context : RiskContext)
      (decision : RiskDecision)

inductive Call where
  | createStateDir
  | pausedFileExists
  | readConfigFile
  | readPositions
  | appendPosition (position : Position)
  | appendDecision (record : DecisionRecord)
  | readBuffer (file : String)
  | writeBuffer (file : String) (buffer : RollingBuffer)
  | readCorrelation (file : String)
  | writeCorrelation (file : String) (state : CorrelationState)
  | readSpreadHistory (file : String)
  | writeSpreadHistory (file : String) (history : SpreadHistory)
  | readTrueOpen (file : String)
  | writeTrueOpen (file : String) (level : TrueOpenLevel)
  | writeStatus (snapshot : StatusSnapshot)
  | getSnapshot (symbols : List String)
  | listOpenPositions
  | closePosition (id : Uuid)
  | submitOrder (request : OrderRequest)
  | getAccountEquity
  | fetchHistoricalPrices (pair : String) (days : Nat)
  | clockNow
  | utcNow
  | newUuid
  | availableDiskMb
  | residentMemoryMb
  | notify (message : Notification)
  | observe (observation : Observation)

/-- A snapshot is `none` when it does not arrive within the heartbeat timeout. -/
@[reducible] def Reply : Call → Type
  | .createStateDir => Except PersistenceError Unit
  | .pausedFileExists => Except PersistenceError Bool
  | .readConfigFile => ConfigFile
  | .readPositions => Except PersistenceError (List Position)
  | .appendPosition _ => Except PersistenceError Unit
  | .appendDecision _ => Except PersistenceError Unit
  | .readBuffer _ => Except PersistenceError (Option RollingBuffer)
  | .writeBuffer _ _ => Except PersistenceError Unit
  | .readCorrelation _ => Except PersistenceError (Option CorrelationState)
  | .writeCorrelation _ _ => Except PersistenceError Unit
  | .readSpreadHistory _ => Except PersistenceError (Option SpreadHistory)
  | .writeSpreadHistory _ _ => Except PersistenceError Unit
  | .readTrueOpen _ => Except PersistenceError (Option TrueOpenLevel)
  | .writeTrueOpen _ _ => Except PersistenceError Unit
  | .writeStatus _ => Except PersistenceError Unit
  | .getSnapshot _ => Option (Except BrokerError BrokerSnapshot)
  | .listOpenPositions => Except BrokerError (List Position)
  | .closePosition _ => Except BrokerError Order
  | .submitOrder _ => Except BrokerError Order
  | .getAccountEquity => Except BrokerError Usd
  | .fetchHistoricalPrices _ _ => Except BrokerError (List Decimal)
  | .clockNow => Instant
  | .utcNow => Instant
  | .newUuid => Uuid
  | .availableDiskMb => Option Nat
  | .residentMemoryMb => Option Nat
  | .notify _ => Unit
  | .observe _ => Unit

abbrev Cycle := Program Call Reply CycleError

abbrev CycleEvent := Event Call Reply

/-- The parts of the platform whose code is not in the repository: the
time-zone database, the floating-point square root and the decimal library's
conversion. -/
structure Platform where
  newYork : NewYork
  sqrt : ℚ → ℚ
  conversion : FloatConversion

/-- The flags of an invocation that a real cycle reads. -/
structure Cli where
  force : Bool
  deriving DecidableEq

/-- What a pair-set's divergence is read from, given the inputs the cycle has
computed. Results about entries hold for arbitrary divergence inputs. -/
abbrev DivergenceSource := PairConfig → DivergenceInputs → DivergenceInputs

/-- The source uses the inputs it has computed. -/
def asComputed : DivergenceSource := fun _ inputs => inputs

namespace Cycle

abbrev perform (call : Call) : Cycle (Reply call) := Program.perform call

abbrev persisted {α : Type} : Except PersistenceError α → Cycle α := Program.ofExcept .persistence

abbrev brokered {α : Type} : Except BrokerError α → Cycle α := Program.ofExcept .broker

abbrev notify (message : Notification) : Cycle Unit := perform (.notify message)

abbrev observe (observation : Observation) : Cycle Unit := perform (.observe observation)

end Cycle

end Oboobot.Daemon
