import Oboobot.Broker.Deriv
import Oboobot.Daemon.Cycle
import Mathlib.Algebra.BigOperators.Group.List.Basic
import Mathlib.Data.List.Induction

/-! Where dollars at risk and position sizes meet: the stake sent to the broker
and the exposure reported to the risk engine. -/

namespace Oboobot.Daemon

open Domain SessionTime Strategy Risk Broker DefaultRiskEngine

variable {conversion : FloatConversion} {signal : TradeSignal} {config : RiskConfig}
  {context : RiskContext} {decisionId : Uuid}
  {decision : RiskDecision}

/-- An approved size is the dollars at risk only at a stop distance of one, or at no risk. -/
theorem positionSize_eq_riskCurrency_iff
    (evaluated : evaluate conversion signal config context decisionId = .ok decision)
    (approved : decision.approved = true) :
    decision.positionSize = decision.riskCurrency.asDecimal ↔
      context.stopDistance = 1 ∨ (context.riskCurrency config).asDecimal = 0 := by
  obtain ⟨_, gates, rfl⟩ := evaluate_approved evaluated approved
  simp only [approval]
  rw [div_eq_iff gates.stopDistance]
  constructor
  · intro same
    by_cases risk : (context.riskCurrency config).asDecimal = 0
    · exact .inr risk
    · exact .inl (mul_left_cancel₀ risk (by rw [← same, mul_one]))
  · rintro (unit | riskless)
    · rw [unit, mul_one]
    · rw [riskless, zero_mul]

theorem riskCurrency_le_cap (context : RiskContext) (config : RiskConfig)
    (funded : 0 ≤ context.equity.asDecimal) :
    (context.riskCurrency config).asDecimal ≤
      context.equity.asDecimal * config.maxRiskPercent.asRatio := by
  have capped : (context.cappedRisk config).asRatio ≤ config.maxRiskPercent.asRatio := by
    rw [RiskContext.cappedRisk, Percent.asRatio_min]
    exact min_le_right _ _
  exact mul_le_mul_of_nonneg_left capped funded

/-- The proposal for a decision stakes its dollars at risk, and so at most the cap. -/
def StakesRisk (config : RiskConfig) (context : RiskContext) (decision : RiskDecision)
    (proposal : ProposalParams) : Prop :=
  proposal.basis = "stake" ∧ proposal.amount = decision.riskCurrency.asDecimal ∧
    proposal.amount ≤ context.equity.asDecimal * config.maxRiskPercent.asRatio

instance (config : RiskConfig) (context : RiskContext) (decision : RiskDecision)
    (proposal : ProposalParams) : Decidable (StakesRisk config context decision proposal) :=
  inferInstanceAs (Decidable (_ ∧ _))

/-- The stake is the risk exactly at a stop distance of one, or if the risk percent is zero. -/
theorem stakesRisk_iff
    (evaluated : evaluate conversion signal config context decisionId = .ok decision)
    (approved : decision.approved = true) (funded : 0 < context.equity.asDecimal)
    (orderId : Uuid) (snapshot : BrokerSnapshot) :
    StakesRisk config context decision
        (proposalParams (orderRequest orderId snapshot signal decision)) ↔
      context.stopDistance = 1 ∨ (context.cappedRisk config).asRatio = 0 := by
  have riskless : (context.riskCurrency config).asDecimal = 0 ↔
      (context.cappedRisk config).asRatio = 0 := by
    simp [RiskContext.riskCurrency, ne_of_gt funded]
  rw [← riskless, ← positionSize_eq_riskCurrency_iff evaluated approved]
  constructor
  · exact fun stakes => stakes.2.1
  · intro same
    refine ⟨rfl, same, ?_⟩
    obtain ⟨_, _, rfl⟩ := evaluate_approved evaluated approved
    exact same.trans_le (riskCurrency_le_cap context config (le_of_lt funded))

/-- A buy of `pair` with 10000 dollars in the account and one percent at risk. -/
def buySignal (pair : String) : TradeSignal where
  signalId := 1
  traceId := 2
  timestamp := 0
  pair := pair
  direction := .buy
  tier := .tier1
  strength := 4 / 5
  confidence := 4 / 5
  validUntil := 0
  originatingSnapshotId := 3

def buyContext (entryPrice stopLossPrice : Decimal) : RiskContext where
  equity := .fromDecimal 10000
  openPositionCount := 0
  isTuesday := false
  isDoubleSmt := false
  entryPrice := entryPrice
  stopLossPrice := stopLossPrice
  takeProfitPrice := entryPrice + (entryPrice - stopLossPrice) * 3
  realizedPnlToday := .zero
  realizedPnlThisWeek := .zero
  currencyExposure := .empty
  correlatedExposure := 0

def emptySnapshot : BrokerSnapshot where
  snapshotId := 3
  timestamp := 0
  prices := .empty
  spreads := .empty

/-- A stop one yen away stakes the 100 dollars at risk. -/
theorem yenStop_stakesRisk :
    StakesRisk (riskConfig .exact .default) (buyContext 150 149)
      (approval (buySignal "USDJPY") (riskConfig .exact .default) (buyContext 150 149) 4)
      (proposalParams (orderRequest 5 emptySnapshot (buySignal "USDJPY")
        (approval (buySignal "USDJPY") (riskConfig .exact .default) (buyContext 150 149) 4))) := by
  have evaluated : evaluate .exact (buySignal "USDJPY") (riskConfig .exact .default)
      (buyContext 150 149) 4 =
      .ok (approval (buySignal "USDJPY") (riskConfig .exact .default) (buyContext 150 149) 4) := by
    decide +kernel
  rw [stakesRisk_iff evaluated rfl (by decide +kernel)]
  exact .inl (by decide +kernel)

/-- A stop one cent away stakes the whole account. -/
theorem centStop_not_stakesRisk :
    ¬∀ (signal : TradeSignal) (config : RiskConfig) (context : RiskContext) (decisionId : Uuid)
      (decision : RiskDecision) (orderId : Uuid) (snapshot : BrokerSnapshot)
      (conversion : FloatConversion),
      evaluate conversion signal config context decisionId = .ok decision →
      decision.approved = true →
      0 < context.equity.asDecimal →
      StakesRisk config context decision
        (proposalParams (orderRequest orderId snapshot signal decision)) := by
  intro claimed
  have stakes := claimed (buySignal "EURUSD") (riskConfig .exact .default) (buyContext 1.10 1.09) 4
    (approval (buySignal "EURUSD") (riskConfig .exact .default) (buyContext 1.10 1.09) 4) 5 emptySnapshot
    .exact (by decide +kernel) rfl (by decide +kernel)
  exact absurd stakes (by decide +kernel)

/-- How much of `amount` a position on `pair` adds to the exposure in `currency`. -/
def exposureIn (currency pair : String) (direction : Direction) (amount : Decimal) : Decimal :=
  match currencyPair pair with
  | none => 0
  | some (base, quote) =>
    (if currency = base then (baseAndQuoteDirection direction).1 * amount else 0) +
      if currency = quote then (baseAndQuoteDirection direction).2 * amount else 0

theorem addExposure_getD (exposure : BTreeMap Decimal) (position : Position) (currency : String) :
    (addExposure exposure position currency).getD 0 = (exposure currency).getD 0 +
      exposureIn currency position.pair position.direction position.size := by
  unfold addExposure exposureIn
  cases currencyPair position.pair with
  | none => simp
  | some legs => simp only [BTreeMap.addAt_getD, add_assoc]

theorem currencyExposureSnapshot_getD (positions : List Position) (currency : String) :
    (currencyExposureSnapshot positions currency).getD 0 =
      (positions.map fun position =>
        exposureIn currency position.pair position.direction position.size).sum := by
  suffices from' : ∀ exposure : BTreeMap Decimal,
      ((positions.foldl addExposure exposure) currency).getD 0 =
        (exposure currency).getD 0 + (positions.map fun position =>
          exposureIn currency position.pair position.direction position.size).sum by
    simpa [BTreeMap.empty, currencyExposureSnapshot] using from' .empty
  induction positions with
  | nil => simp
  | cons position rest ih =>
    intro exposure
    rw [List.foldl_cons, ih, addExposure_getD, List.map_cons, List.sum_cons, add_assoc]

/-- An approved order that was filled whole, and the position it opened. -/
structure ApprovedFill where
  signal : TradeSignal
  config : RiskConfig
  context : RiskContext
  decisionId : Uuid
  decision : RiskDecision
  conversion : FloatConversion
  evaluated : evaluate conversion signal config context decisionId = .ok decision
  approved : decision.approved = true
  request : OrderRequest
  requested : ∃ orderId snapshot, request = orderRequest orderId snapshot signal decision
  position : Position
  pair : position.pair = request.pair
  direction : position.direction = request.side
  size : position.size = request.size

namespace ApprovedFill

def risk (fill : ApprovedFill) : Decimal := fill.decision.riskCurrency.asDecimal

theorem size_eq (fill : ApprovedFill) : fill.position.size = fill.decision.positionSize := by
  obtain ⟨orderId, snapshot, same⟩ := fill.requested
  rw [fill.size, same]
  rfl

/-- It was sized at a stop distance of one, or with no dollars at risk. -/
def UnitOrRiskless (fill : ApprovedFill) : Prop :=
  fill.context.stopDistance = 1 ∨ (fill.context.riskCurrency fill.config).asDecimal = 0

theorem size_eq_risk_iff (fill : ApprovedFill) :
    fill.position.size = fill.risk ↔ fill.UnitOrRiskless := by
  rw [fill.size_eq]
  exact positionSize_eq_riskCurrency_iff fill.evaluated fill.approved

end ApprovedFill

/-- What happens to the book between two evaluations. -/
inductive BookMove where
  | fill (opened : ApprovedFill)
  | close (id : Uuid)

def BookMove.apply (book : List ApprovedFill) : BookMove → List ApprovedFill
  | .fill opened => book ++ [opened]
  | .close id => book.filter fun opened => opened.position.positionId ≠ id

/-- The fills that are still open after a sequence of moves. -/
def bookAfter (moves : List BookMove) : List ApprovedFill := moves.foldl BookMove.apply []

/-- Whatever the entry loop evaluates against this book, it reports the dollars at risk. -/
def ReportsRisk (book : List ApprovedFill) : Prop :=
  ∀ (openPositions : List Position) (config : Config) (snapshot : BrokerSnapshot)
    (isTuesday : Bool) (state : PairCycleState) (signal : TradeSignal) (equity : Usd),
    openPositions.Perm (book.map ApprovedFill.position) →
    let context := riskContext config snapshot isTuesday state openPositions signal equity
    (∀ currency, (context.currencyExposure currency).getD 0 =
      (book.map fun fill =>
        exposureIn currency fill.signal.pair fill.signal.direction fill.risk).sum) ∧
    context.correlatedExposure = if isCorrelated config state then
        ((book.filter fun fill => fill.signal.pair = otherPair state signal).map
          ApprovedFill.risk).sum
      else 0

namespace ApprovedFill

theorem position_pair (fill : ApprovedFill) : fill.position.pair = fill.signal.pair := by
  obtain ⟨orderId, snapshot, same⟩ := fill.requested
  rw [fill.pair, same]
  rfl

theorem position_direction (fill : ApprovedFill) :
    fill.position.direction = fill.signal.direction := by
  obtain ⟨orderId, snapshot, same⟩ := fill.requested
  rw [fill.direction, same]
  rfl

end ApprovedFill

theorem pairSize_listed {openPositions : List Position} {book : List ApprovedFill}
    (listed : openPositions.Perm (book.map ApprovedFill.position)) (pair : String) :
    ((openPositions.filter fun position => position.pair = pair).map Position.size).sum =
      ((book.filter fun fill => fill.signal.pair = pair).map
        fun fill => fill.position.size).sum := by
  rw [((listed.filter _).map _).sum_eq, List.filter_map, List.map_map]
  congr 2
  apply List.filter_congr
  intro fill _
  simp [fill.position_pair]

/-- Leg sizes and dollars at risk agree on a book of unit stops. -/
theorem reportsRisk_of_unitOrRiskless {book : List ApprovedFill}
    (units : ∀ fill ∈ book, fill.UnitOrRiskless) : ReportsRisk book := by
  intro openPositions config snapshot isTuesday state signal equity listed
  have sizes : ∀ fill ∈ book, fill.position.size = fill.risk :=
    fun fill member => fill.size_eq_risk_iff.mpr (units fill member)
  constructor
  · intro currency
    refine (currencyExposureSnapshot_getD openPositions currency).trans ?_
    rw [(listed.map _).sum_eq, List.map_map]
    congr 1
    apply List.map_congr_left
    intro fill member
    simp only [Function.comp_apply, fill.position_pair, fill.position_direction, sizes fill member]
  · simp only [riskContext, correlatedExposure, pairSize_listed listed]
    congr 2
    apply List.map_congr_left
    intro fill member
    exact sizes fill (List.mem_of_mem_filter member)

/-- What a state must look like for every counterpart position to count. -/
def fullyCorrelated (pair : String) : PairCycleState where
  pairConfig := { primary := "", secondary := pair }
  primaryPrice := 0
  secondaryPrice := 0
  divergenceInputs := ⟨0, 0, ⟨0, 0⟩, ⟨0, 0⟩, ⟨0, 0⟩, ⟨0, 0⟩⟩
  resolvedDivergence := none
  spreadHistory := .default
  currentSpread := 0
  correlationCoefficient := some 1

theorem isCorrelated_fullyCorrelated (pair : String) :
    isCorrelated .default (fullyCorrelated pair) = true := by
  norm_num [isCorrelated, fullyCorrelated, Config.default, F64.le, F64.lt]

theorem pairSize_eq_pairRisk {book : List ApprovedFill} (reports : ReportsRisk book)
    (pair : String) :
    ((book.filter fun fill => fill.signal.pair = pair).map fun fill => fill.position.size).sum =
      ((book.filter fun fill => fill.signal.pair = pair).map ApprovedFill.risk).sum := by
  have counterpart : otherPair (fullyCorrelated pair) (buySignal "") = pair := by
    simp [otherPair, fullyCorrelated, buySignal]
  have reported := (reports _ .default emptySnapshot false (fullyCorrelated pair) (buySignal "")
    .zero (.refl _)).2
  simpa only [riskContext, correlatedExposure, isCorrelated_fullyCorrelated, if_true, counterpart,
    pairSize_listed (.refl _)] using reported

/-- A fill that keeps the report right adds as much size as risk. -/
theorem unitOrRiskless_of_reportsRisk {book : List ApprovedFill} {opened : ApprovedFill}
    (before : ReportsRisk book) (after : ReportsRisk (book ++ [opened])) :
    opened.UnitOrRiskless := by
  rw [← opened.size_eq_risk_iff]
  have old := pairSize_eq_pairRisk before opened.signal.pair
  have new := pairSize_eq_pairRisk after opened.signal.pair
  simpa [old] using new

theorem mem_bookAfter {moves : List BookMove} {opened : ApprovedFill}
    (member : opened ∈ bookAfter moves) : BookMove.fill opened ∈ moves := by
  induction moves using List.reverseRecOn with
  | nil => cases member
  | append_singleton moves move ih =>
    rw [bookAfter, List.foldl_append, List.foldl_cons, List.foldl_nil] at member
    cases move with
    | fill other =>
      rcases List.mem_append.mp member with old | new
      · exact List.mem_append_left _ (ih old)
      · rw [List.mem_singleton.mp new]
        simp
    | close id => exact List.mem_append_left _ (ih (List.mem_of_mem_filter member))

/-- Along a run of fills and closes the reported exposure is the dollars at risk
throughout exactly when every fill was sized at a unit stop or without risk. -/
theorem reportsRisk_throughout_iff (moves : List BookMove) :
    (∀ earlier later, moves = earlier ++ later → ReportsRisk (bookAfter earlier)) ↔
      ∀ opened, BookMove.fill opened ∈ moves → opened.UnitOrRiskless := by
  constructor
  · intro reports opened member
    obtain ⟨earlier, later, same⟩ := List.append_of_mem member
    have before := reports earlier (.fill opened :: later) same
    have after := reports (earlier ++ [.fill opened]) later (by rw [same]; simp)
    rw [bookAfter, List.foldl_append] at after
    exact unitOrRiskless_of_reportsRisk before after
  · intro units earlier later same
    apply reportsRisk_of_unitOrRiskless
    intro opened member
    apply units
    rw [same]
    exact List.mem_append_left _ (mem_bookAfter member)

/-- A buy of EURUSD at 1.10 with its stop one cent away, filled whole. -/
def centStopFill : ApprovedFill where
  signal := buySignal "EURUSD"
  config := riskConfig .exact .default
  context := buyContext 1.10 1.09
  decisionId := 4
  decision := approval (buySignal "EURUSD") (riskConfig .exact .default) (buyContext 1.10 1.09) 4
  conversion := .exact
  evaluated := by decide +kernel
  approved := rfl
  request := orderRequest 5 emptySnapshot (buySignal "EURUSD")
    (approval (buySignal "EURUSD") (riskConfig .exact .default) (buyContext 1.10 1.09) 4)
  requested := ⟨5, emptySnapshot, rfl⟩
  position := {
    positionId := 6, traceId := 2, signalId := 1, pair := "EURUSD", direction := .buy
    legs := [{ price := 1.10, size := 10000, filledAt := 0 }]
    entryPrice := 1.10, currentPrice := 1.10, unrealizedPnl := 0, realizedPnl := 0
    entryTime := 0, lastUpdate := 0, status := .filled, exitReason := none
    stopLoss := some 1.09, takeProfit := some 1.13 }
  pair := rfl
  direction := rfl
  size := by decide +kernel

/-- Its 100 dollars at risk are reported as an exposure of 10000. -/
theorem centStopFill_not_reportsRisk :
    ¬∀ (moves earlier later : List BookMove), moves = earlier ++ later →
      ReportsRisk (bookAfter earlier) := by
  intro claimed
  have reports : ReportsRisk [centStopFill] := 
    claimed [.fill centStopFill] [.fill centStopFill] [] rfl
  have reported := pairSize_eq_pairRisk reports "EURUSD"
  exact absurd reported (by decide +kernel)

end Oboobot.Daemon
