import Oboobot.Daemon.Recovery

/-! The exit sweep's decisions, and the news provider it consults. -/

namespace Oboobot.Daemon

open Domain

namespace NoNewsProvider

/-- No news source is wired in: nothing is ever scheduled. -/
def upcomingEvents (_now : Instant) (_window : Duration) : List NewsEvent := []

def isFresh (_now : Instant) : Bool := true

end NoNewsProvider

def shouldExitForNews (events : List NewsEvent) (now : Instant) (leadTime : Duration) : Bool :=
  events.any fun event =>
    event.impact == .high && decide (event.timestamp > now) &&
      decide (event.timestamp - now ≤ leadTime)

structure ExitDecision where
  positionId : Uuid
  reason : ExitReason
  deriving DecidableEq

/-- Whether the position's stop or target has been reached; the stop comes first. -/
def riskRewardExit (position : Position) (currentPrice : Decimal) : Option ExitReason :=
  let hitStop := position.stopLoss.any fun stop => match position.direction with
    | .buy => decide (currentPrice ≤ stop)
    | .sell => decide (currentPrice ≥ stop)
  let hitTarget := position.takeProfit.any fun target => match position.direction with
    | .buy => decide (currentPrice ≥ target)
    | .sell => decide (currentPrice ≤ target)
  if hitStop then some .stopLoss
  else if hitTarget then some .takeProfit
  else none

def smtContradictionExit (position : Position)
    (currentDivergences : BTreeMap (Direction × Tier)) : Option ExitReason :=
  match currentDivergences position.pair with
  | some (direction, _) => if direction ≠ position.direction then some .contradiction else none
  | none => none

def exitDecision (currentPrices : BTreeMap Decimal) (newsExitActive : Bool)
    (currentDivergences : BTreeMap (Direction × Tier)) (position : Position) :
    Option ExitDecision :=
  let rrExit := (currentPrices position.pair).bind (riskRewardExit position)
  let reason := match rrExit with
    | some reason => some reason
    | none => if newsExitActive then some .news else smtContradictionExit position currentDivergences
  reason.map fun reason => { positionId := position.positionId, reason }

def evaluateExits (positions : List Position) (currentPrices : BTreeMap Decimal)
    (newsEvents : List NewsEvent) (now : Instant) (newsLeadTime : Duration)
    (currentDivergences : BTreeMap (Direction × Tier)) : List ExitDecision :=
  let newsExitActive := shouldExitForNews newsEvents now newsLeadTime
  positions.filterMap (exitDecision currentPrices newsExitActive currentDivergences)

theorem positionId_of_exitDecision {currentPrices : BTreeMap Decimal} {newsExitActive : Bool}
    {currentDivergences : BTreeMap (Direction × Tier)} {position : Position} {exit : ExitDecision}
    (flagged : exitDecision currentPrices newsExitActive currentDivergences position = some exit) :
    exit.positionId = position.positionId := by
  obtain ⟨reason, _, same⟩ := Option.map_eq_some_iff.mp flagged
  rw [← same]

/-- The positions for which a sweep comes to a decision. -/
def flaggedPositions (positions : List Position) (currentPrices : BTreeMap Decimal)
    (newsEvents : List NewsEvent) (now : Instant) (newsLeadTime : Duration)
    (currentDivergences : BTreeMap (Direction × Tier)) : List Position :=
  let newsExitActive := shouldExitForNews newsEvents now newsLeadTime
  positions.filter fun position =>
    (exitDecision currentPrices newsExitActive currentDivergences position).isSome

theorem evaluateExits_ids (positions : List Position) (currentPrices : BTreeMap Decimal)
    (newsEvents : List NewsEvent) (now : Instant) (newsLeadTime : Duration)
    (currentDivergences : BTreeMap (Direction × Tier)) :
    (evaluateExits positions currentPrices newsEvents now newsLeadTime currentDivergences).map
        ExitDecision.positionId =
      positionIds (flaggedPositions positions currentPrices newsEvents now newsLeadTime
        currentDivergences) := by
  unfold evaluateExits flaggedPositions positionIds
  rw [List.map_filterMap, ← List.filterMap_eq_map, List.filterMap_filter]
  refine List.filterMap_congr fun position _ => ?_
  cases flagged : exitDecision currentPrices (shouldExitForNews newsEvents now newsLeadTime)
      currentDivergences position with
  | none => rfl
  | some exit => simp [positionId_of_exitDecision flagged]

/-- The flagged ids are open ids, in order and at most as often as they are open. -/
theorem evaluateExits_sublist (positions : List Position) (currentPrices : BTreeMap Decimal)
    (newsEvents : List NewsEvent) (now : Instant) (newsLeadTime : Duration)
    (currentDivergences : BTreeMap (Direction × Tier)) :
    ((evaluateExits positions currentPrices newsEvents now newsLeadTime currentDivergences).map
      ExitDecision.positionId).Sublist (positionIds positions) := by
  rw [evaluateExits_ids]
  exact List.filter_sublist.map _

end Oboobot.Daemon
