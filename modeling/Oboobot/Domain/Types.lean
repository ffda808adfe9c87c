import Oboobot.Domain.Newtypes
import Mathlib.Data.List.Induction

/-! The vocabulary the other layers share. -/

namespace Oboobot.Domain

/-- A point of UTC time, in nanoseconds since the Unix epoch. -/
abbrev Instant := Int

/-- A signed time span in nanoseconds. -/
abbrev Duration := Int

namespace Duration

def seconds (count : Int) : Duration := count * 1000000000
def minutes (count : Int) : Duration := seconds (count * 60)
def hours (count : Int) : Duration := minutes (count * 60)
def days (count : Int) : Duration := hours (count * 24)
def weeks (count : Int) : Duration := days (count * 7)

/-- Whether `minutes` takes the number. Beyond it the milliseconds do not fit into 64 bits,
and the source panics. -/
def minutesFit (count : Int) : Bool := (count * 60000).natAbs ≤ 2 ^ 63 - 1

/-- Whole seconds, rounded towards zero. -/
def numSeconds (duration : Duration) : Int := duration.tdiv (seconds 1)

/-- Whole minutes, rounded towards zero. -/
def numMinutes (duration : Duration) : Int := duration.tdiv (minutes 1)

end Duration

abbrev Uuid := BitVec 128

/-- A string-keyed map, as far as lookups can tell. -/
abbrev BTreeMap (Value : Type) := String → Option Value

namespace BTreeMap

def empty {Value : Type} : BTreeMap Value := fun _ => none

def insert {Value : Type} (map : BTreeMap Value) (key : String) (value : Value) : BTreeMap Value :=
  fun other => if other = key then some value else map other

/-- Later pairs overwrite earlier ones, as `collect` does. -/
def ofPairs {Value : Type} (pairs : List (String × Value)) : BTreeMap Value :=
  pairs.foldl (fun map pair => map.insert pair.1 pair.2) empty

/-- `*map.entry(key).or_insert(ZERO) += amount`. -/
def addAt (map : BTreeMap Decimal) (key : String) (amount : Decimal) : BTreeMap Decimal :=
  map.insert key ((map key).getD 0 + amount)

theorem ofPairs_append_singleton {Value : Type} (pairs : List (String × Value))
    (pair : String × Value) : ofPairs (pairs ++ [pair]) = (ofPairs pairs).insert pair.1 pair.2 := by
  simp [ofPairs]

theorem mem_of_ofPairs {Value : Type} {pairs : List (String × Value)} {key : String} {value : Value}
    (found : ofPairs pairs key = some value) : (key, value) ∈ pairs := by
  induction pairs using List.reverseRecOn with
  | nil => cases found
  | append_singleton earlier last ih =>
    rw [ofPairs_append_singleton, insert] at found
    by_cases same : key = last.1
    · rw [if_pos same] at found
      cases found
      exact List.mem_append_right _ (List.mem_singleton.mpr (Prod.ext same rfl))
    · rw [if_neg same] at found
      exact List.mem_append_left _ (ih found)

theorem exists_ofPairs {Value : Type} {pairs : List (String × Value)} {key : String} {value : Value}
    (present : (key, value) ∈ pairs) : ∃ last, ofPairs pairs key = some last := by
  induction pairs using List.reverseRecOn with
  | nil => cases present
  | append_singleton earlier last ih =>
    rw [ofPairs_append_singleton, insert]
    by_cases same : key = last.1
    · exact ⟨last.2, if_pos same⟩
    · rw [if_neg same]
      rcases List.mem_append.mp present with before | there
      · exact ih before
      · exact absurd (congrArg Prod.fst (List.mem_singleton.mp there)) same

theorem addAt_getD (map : BTreeMap Decimal) (key other : String) (amount : Decimal) :
    (map.addAt key amount other).getD 0 =
      (map other).getD 0 + if other = key then amount else 0 := by
  by_cases same : other = key <;> simp [addAt, insert, same]

end BTreeMap

inductive Direction where
  | buy
  | sell
  deriving DecidableEq

/-- `Double` means the daily and the session reading agree. -/
inductive Tier where
  | tier1
  | tier2
  | double
  deriving DecidableEq

inductive OrderType where
  | market
  | limit
  | ioc
  | fok
  deriving DecidableEq

inductive OrderStatus where
  | pending
  | submitted
  | accepted
  | partiallyFilled
  | filled
  | rejected
  | cancelled
  | expired
  deriving DecidableEq

inductive PositionStatus where
  | pendingSubmission
  | submitted
  | accepted
  | partiallyFilled
  | filled
  | closing
  | closed
  | rejected
  | expired
  | cancelled
  deriving DecidableEq

inductive ExitReason where
  | takeProfit
  | stopLoss
  | news
  | contradiction
  | dailyClose
  | weeklyClose
  | manual
  | reconciliationOrphan
  deriving DecidableEq

/-- The `Debug` text, which the decisions log carries as its detail. -/
def ExitReason.debug : ExitReason → String
  | .takeProfit => "TakeProfit"
  | .stopLoss => "StopLoss"
  | .news => "News"
  | .contradiction => "Contradiction"
  | .dailyClose => "DailyClose"
  | .weeklyClose => "WeeklyClose"
  | .manual => "Manual"
  | .reconciliationOrphan => "ReconciliationOrphan"

inductive NewsImpact where
  | high
  | medium
  | low
  deriving DecidableEq

inductive SystemState where
  | healthy
  | degraded
  | readOnly
  | emergencyShutdown
  deriving DecidableEq

def SystemState.debug : SystemState → String
  | .healthy => "Healthy"
  | .degraded => "Degraded"
  | .readOnly => "ReadOnly"
  | .emergencyShutdown => "EmergencyShutdown"

inductive RejectionReason where
  | trueOpenGateConflict
  | spreadGate
  | collisionGate
  deriving DecidableEq

def RejectionReason.debug : RejectionReason → String
  | .trueOpenGateConflict => "TrueOpenGateConflict"
  | .spreadGate => "SpreadGate"
  | .collisionGate => "CollisionGate"

inductive Bias where
  | buy
  | sell
  | neutral
  deriving DecidableEq

structure PriceQuote where
  bid : Decimal
  ask : Decimal
  deriving DecidableEq

structure BrokerSnapshot where
  snapshotId : Uuid
  timestamp : Instant
  prices : BTreeMap PriceQuote
  spreads : BTreeMap Decimal

structure TradeSignal where
  signalId : Uuid
  traceId : Uuid
  timestamp : Instant
  pair : String
  direction : Direction
  tier : Tier
  strength : Decimal
  confidence : Decimal
  validUntil : Instant
  originatingSnapshotId : Uuid
  deriving DecidableEq

structure SignalInvalidated where
  traceId : Uuid
  signalId : Uuid
  rejectionReason : RejectionReason
  weeklyBias : Bias
  dailyBias : Bias
  smtDirection : Direction
  deriving DecidableEq

structure OrderRequest where
  orderId : Uuid
  traceId : Uuid
  signalId : Uuid
  pair : String
  side : Direction
  size : Decimal
  orderType : OrderType
  price : Option Decimal
  stopLoss : Option Decimal
  takeProfit : Option Decimal
  confirmingSnapshotId : Uuid
  deriving DecidableEq

structure Order where
  orderId : Uuid
  traceId : Uuid
  signalId : Uuid
  positionId : Option Uuid
  pair : String
  side : Direction
  size : Decimal
  filledSize : Decimal
  price : Decimal
  status : OrderStatus
  timestamp : Instant
  lastUpdate : Instant
  deriving DecidableEq

structure FillLeg where
  price : Decimal
  size : Decimal
  filledAt : Instant
  deriving DecidableEq

structure Position where
  positionId : Uuid
  traceId : Uuid
  signalId : Uuid
  pair : String
  direction : Direction
  legs : List FillLeg
  entryPrice : Decimal
  currentPrice : Decimal
  unrealizedPnl : Decimal
  realizedPnl : Decimal
  entryTime : Instant
  lastUpdate : Instant
  status : PositionStatus
  exitReason : Option ExitReason
  stopLoss : Option Decimal
  takeProfit : Option Decimal
  deriving DecidableEq

/-- `position.legs.iter().map(|leg| leg.size).sum()`. -/
def Position.size (position : Position) : Decimal :=
  (position.legs.map FillLeg.size).sum

structure RiskDecision where
  decisionId : Uuid
  traceId : Uuid
  signalId : Uuid
  approved : Bool
  rejectionReason : Option String
  positionSize : Decimal
  stopLoss : Decimal
  takeProfit : Decimal
  riskPercent : Percent
  riskCurrency : Usd
  deriving DecidableEq

structure NewsEvent where
  timestamp : Instant
  impact : NewsImpact
  deriving DecidableEq

end Oboobot.Domain
