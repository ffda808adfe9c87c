import Oboobot.Domain.Types

/-! The collision guard, the decisions log and the status snapshot. -/

namespace Oboobot.Daemon

open Domain

def minMinutesBetweenEntriesSamePair : Int := 170

/-- Whether a known position on `pair` was entered too recently. -/
def alreadyEnteredThisCycle (pair : String) (knownPositions : List Position) (now : Instant) :
    Bool :=
  knownPositions.any fun position =>
    position.pair == pair &&
      decide (now - position.entryTime < Duration.minutes minMinutesBetweenEntriesSamePair)

theorem alreadyEnteredThisCycle_of_mem {pair : String} {knownPositions : List Position}
    {now : Instant} {position : Position} (known : position ∈ knownPositions)
    (samePair : position.pair = pair)
    (recent : now - position.entryTime < Duration.minutes minMinutesBetweenEntriesSamePair) :
    alreadyEnteredThisCycle pair knownPositions now = true :=
  List.any_eq_true.mpr ⟨position, known, by simp [samePair, recent]⟩

structure DecisionRecord where
  timestamp : Instant
  pair : String
  outcome : String
  detail : Option String
  deriving DecidableEq

def DecisionRecord.new (timestamp : Instant) (pair outcome : String) : DecisionRecord where
  timestamp := timestamp
  pair := pair
  outcome := outcome
  detail := none

def DecisionRecord.withDetail (record : DecisionRecord) (detail : String) : DecisionRecord :=
  { record with detail := some detail }

structure StatusSnapshot where
  lastRun : Option Instant
  openPositionCount : Nat
  healthState : String
  lastDecision : Option String
  paused : Bool
  deriving DecidableEq

end Oboobot.Daemon
