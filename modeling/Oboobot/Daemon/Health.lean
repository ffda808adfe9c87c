import Oboobot.Broker.Adapter

/-! The daemon's own health: the worst of the failures that are active. -/

namespace Oboobot.Daemon

open Domain Broker

inductive HealthCheckFailure where
  | brokerHeartbeatFailure
  | diskUsageCritical
  | memoryUsageCritical
  | newsApiDown
  | correlationStale
  | spreadHistoryStale
  | snapshotLatencyExceeded
  | queueBackpressure
  deriving DecidableEq

def severityFor : HealthCheckFailure → SystemState
  | .brokerHeartbeatFailure => .readOnly
  | .newsApiDown => .readOnly
  | .diskUsageCritical => .emergencyShutdown
  | .memoryUsageCritical => .emergencyShutdown
  | .correlationStale => .degraded
  | .spreadHistoryStale => .degraded
  | .snapshotLatencyExceeded => .degraded
  | .queueBackpressure => .degraded

def allowsNewEntries : SystemState → Bool
  | .healthy => true
  | .degraded => true
  | .readOnly => false
  | .emergencyShutdown => false

def severityRank : SystemState → Nat
  | .healthy => 0
  | .degraded => 1
  | .readOnly => 2
  | .emergencyShutdown => 3

/-- The set of active failures. -/
structure HealthMonitor where
  activeFailures : List HealthCheckFailure
  deriving DecidableEq

namespace HealthMonitor

def new : HealthMonitor := ⟨[]⟩

def reportFailure (monitor : HealthMonitor) (failure : HealthCheckFailure) : HealthMonitor :=
  ⟨monitor.activeFailures.insert failure⟩

def clearFailure (monitor : HealthMonitor) (failure : HealthCheckFailure) : HealthMonitor :=
  ⟨monitor.activeFailures.filter fun active => active != failure⟩

/-- Report the failure or clear it, as its check turned out. -/
def record (monitor : HealthMonitor) (failure : HealthCheckFailure) (failing : Bool) :
    HealthMonitor :=
  if failing then monitor.reportFailure failure else monitor.clearFailure failure

def currentState (monitor : HealthMonitor) : SystemState :=
  (monitor.activeFailures.map severityFor).foldl
    (fun worst state => if severityRank worst ≤ severityRank state then state else worst) .healthy

end HealthMonitor

inductive HeartbeatError where
  | callFailed (failure : BrokerError)
  | timedOut (timeout : Duration)
  deriving DecidableEq

/-- `outcome` is what became of the broker call; `none` is a call that did not
return within `timeout`. -/
def checkBrokerHeartbeat {α : Type} (monitor : HealthMonitor) (timeout : Duration)
    (outcome : Option (Except BrokerError α)) : Except HeartbeatError α × HealthMonitor :=
  match outcome with
  | some (.ok value) => (.ok value, monitor.clearFailure .brokerHeartbeatFailure)
  | some (.error failure) =>
    (.error (.callFailed failure), monitor.reportFailure .brokerHeartbeatFailure)
  | none => (.error (.timedOut timeout), monitor.reportFailure .brokerHeartbeatFailure)

end Oboobot.Daemon
