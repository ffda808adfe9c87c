import Oboobot.Domain.Types

/-! The events of the bus and the envelope they travel in. -/

namespace Oboobot.Domain.Events

inductive ComponentStatus where
  | healthy
  | degraded
  | failing
  deriving DecidableEq

structure SpreadCheck where
  pair : String
  spread : Decimal
  mean72h : Decimal
  accepted : Bool
  threshold : Decimal

structure HealthStatus where
  component : String
  status : ComponentStatus
  error : Option String
  timestamp : Instant

structure RecoveryState where
  stateId : Uuid
  lastSnapshot : Instant
  lastCursorOffset : Nat
  retryCount : Nat
  backoffSeconds : Nat
  lastAttempt : Instant

inductive Event where
  | macroCycleStarted
  | snapshot (snapshot : BrokerSnapshot)
  | spread (check : SpreadCheck)
  | smtSignal (signal : TradeSignal)
  | signalInvalidated (invalidated : SignalInvalidated)
  | risk (decision : RiskDecision)
  | order (order : Order)
  | position (position : Position)
  | news (event : NewsEvent)
  | recovery (state : RecoveryState)
  | health (status : HealthStatus)
  | shutdown (reason : String)

/-- Whether the event jumps the queue ahead of ordinary events. -/
def Event.isPriority : Event → Bool
  | .order _ | .shutdown _ | .health _ => true
  | _ => false

structure EventEnvelope where
  eventId : Uuid
  timestamp : Instant
  payload : Event

end Oboobot.Domain.Events
