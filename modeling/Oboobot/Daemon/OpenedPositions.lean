import Oboobot.Daemon.OrderLevels
import Oboobot.Daemon.Host

/-! Whether the exit sweep would close at once what the entry path has just opened. -/

namespace Oboobot.Daemon

open Domain SessionTime Strategy Risk

/-- The prices that the exit sweep goes by are the snapshot's bids. -/
def currentPrices (snapshot : BrokerSnapshot) : BTreeMap Decimal :=
  fun pair => (snapshot.prices pair).map PriceQuote.bid

section sweep

variable {position : Position}

theorem riskRewardExit_reason {price : Decimal} {reason : ExitReason}
    (reached : riskRewardExit position price = some reason) :
    reason = .stopLoss ∨ reason = .takeProfit := by
  unfold riskRewardExit at reached
  extract_lets hitStop hitTarget at reached
  split at reached
  · exact .inl (Option.some.inj reached).symm
  · split at reached
    · exact .inr (Option.some.inj reached).symm
    · cases reached

/-- Neither level is reached while the price is strictly between the two. -/
theorem riskRewardExit_eq_none_iff {price stop target : Decimal}
    (hasStop : position.stopLoss = some stop) (hasTarget : position.takeProfit = some target) :
    riskRewardExit position price = none ↔
      Ahead position.direction stop price ∧ Ahead position.direction price target := by
  cases direction : position.direction with
  | buy =>
    simp only [riskRewardExit, hasStop, hasTarget, direction, Ahead, Option.any_some,
      decide_eq_true_eq, ← not_le]
    by_cases stopped : price ≤ stop <;> by_cases done : target ≤ price <;> simp [stopped, done]
  | sell =>
    simp only [riskRewardExit, hasStop, hasTarget, direction, Ahead, Option.any_some,
      decide_eq_true_eq, ← not_le]
    by_cases stopped : stop ≤ price <;> by_cases done : price ≤ target <;> simp [stopped, done]

/-- Whatever else the sweep goes by, it does not flag the position for its stop or
its target. -/
def NotReached (snapshot : BrokerSnapshot) (position : Position) : Prop :=
  ∀ (newsEvents : List NewsEvent) (now : Instant) (newsLeadTime : Duration)
    (currentDivergences : BTreeMap (Direction × Tier)),
    ∀ exit ∈ evaluateExits [position] (currentPrices snapshot) newsEvents now newsLeadTime
      currentDivergences, exit.reason ≠ .stopLoss ∧ exit.reason ≠ .takeProfit

theorem notReached_iff (snapshot : BrokerSnapshot) (position : Position) :
    NotReached snapshot position ↔
      ∀ quote ∈ snapshot.prices position.pair, riskRewardExit position quote.bid = none := by
  constructor
  · intro unflagged quote quoted
    cases reached : riskRewardExit position quote.bid with
    | none => rfl
    | some reason =>
      have flagged : { positionId := position.positionId, reason } ∈
          evaluateExits [position] (currentPrices snapshot) [] 0 0 .empty := by
        have price : currentPrices snapshot position.pair = some quote.bid := by
          rw [currentPrices, Option.mem_def.mp quoted, Option.map_some]
        simp [evaluateExits, exitDecision, price, reached]
      obtain ⟨notStop, notTarget⟩ := unflagged _ _ _ _ _ flagged
      rcases riskRewardExit_reason reached with stop | target
      · exact absurd stop notStop
      · exact absurd target notTarget
  · intro between newsEvents now newsLeadTime currentDivergences exit flagged
    obtain ⟨same, member, decided⟩ := List.mem_filterMap.mp flagged
    cases List.mem_singleton.mp member
    have unreached : (currentPrices snapshot position.pair).bind (riskRewardExit position) = none := by
      rw [currentPrices]
      cases quoted : snapshot.prices position.pair with
      | none => rfl
      | some quote => exact between quote quoted
    rw [exitDecision, unreached] at decided
    obtain ⟨reason, chosen, rfl⟩ := Option.map_eq_some_iff.mp decided
    dsimp only at chosen
    split at chosen
    · cases chosen
      simp
    · unfold smtContradictionExit at chosen
      split at chosen
      · split at chosen
        · cases chosen
          simp
        · cases chosen
      · cases chosen

end sweep

section opened

/-- The position that an order opens, as far as the sweep looks at it. -/
structure Opens (request : OrderRequest) (position : Position) : Prop where
  pair : position.pair = request.pair
  direction : position.direction = request.side
  stopLoss : position.stopLoss = request.stopLoss
  takeProfit : position.takeProfit = request.takeProfit

/-- If the pair is quoted, its stop comes from its own range, and a buy does not find
its bid exactly at that range's low. -/
def ClearOfStop (snapshot : BrokerSnapshot) (state : PairCycleState) (signal : TradeSignal) : Prop :=
  ∀ target, evaluateSmt state.divergenceInputs = some (target, signal.direction, signal.tier) →
    ∀ quote ∈ snapshot.prices signal.pair,
      (target = .primary → state.pairConfig.primary ≠ state.pairConfig.secondary) ∧
      (signal.direction = .buy →
        quote.bid ≠ (ownBuffer state.divergenceInputs target signal.tier).low)

theorem Ahead.asymm {direction : Direction} {start finish : Decimal}
    (ahead : Ahead direction start finish) : ¬Ahead direction finish start := by
  cases direction <;> exact lt_asymm ahead

theorem Ahead.from_behind {direction : Direction} {start between finish : Decimal}
    (behind : ¬Ahead direction between start) (ahead : Ahead direction between finish) :
    Ahead direction start finish := by
  cases direction with
  | buy => exact lt_of_le_of_lt (not_lt.mp behind) ahead
  | sell => exact lt_of_lt_of_le ahead (not_lt.mp behind)

variable {snapshot : BrokerSnapshot} {state : PairCycleState} {signal : TradeSignal}
  {target : TradeTarget} {quote : PriceQuote}

theorem entryPrice_quoted (quoted : snapshot.prices signal.pair = some quote) :
    entryPrice snapshot state signal = match signal.direction with
      | .buy => quote.ask
      | .sell => quote.bid := by
  cases direction : signal.direction <;> simp [entryPrice, direction, quoted]

/-- The bid is strictly ahead of the stop unless a buy finds it at its own low, or the
stop was taken from the range of the counterpart. -/
theorem ahead_of_stop_iff (priced : PricedAtBids snapshot state)
    (found : evaluateSmt state.divergenceInputs = some (target, signal.direction, signal.tier))
    (names : signal.pair = target.pair state.pairConfig.primary state.pairConfig.secondary)
    (quoted : snapshot.prices signal.pair = some quote)
    (apart : stopLossLevel state.divergenceInputs signal state.pairConfig.secondary ≠
      entryPrice snapshot state signal) :
    Ahead signal.direction
        (stopLossLevel state.divergenceInputs signal state.pairConfig.secondary) quote.bid ↔
      (target = .primary → state.pairConfig.primary ≠ state.pairConfig.secondary) ∧
      (signal.direction = .buy →
        quote.bid ≠ (ownBuffer state.divergenceInputs target signal.tier).low) := by
  have bid : bidOrZero snapshot signal.pair = quote.bid := by simp [bidOrZero, quoted]
  by_cases own : target = .primary → state.pairConfig.primary ≠ state.pairConfig.secondary
  · have held := evaluateSmt_held found
    have stop := stopLossLevel_eq state.divergenceInputs own names
    rw [ownPrice_eq priced names, bid] at held
    rw [entryPrice_quoted quoted, stop] at apart
    rw [stop]
    cases direction : signal.direction with
    | buy =>
      rw [direction] at held
      have above := not_lt.mp held
      constructor
      · exact fun ahead => ⟨own, fun _ => ahead.ne'⟩
      · exact fun clear => lt_of_le_of_ne above (clear.2 rfl).symm
    | sell =>
      rw [direction] at held apart
      have below := lt_of_le_of_ne (not_lt.mp held) apart.symm
      exact iff_of_true below ⟨own, fun buys => (by cases buys)⟩
  · obtain ⟨primary, same⟩ := Classical.not_imp.mp own
    have twice := not_not.mp same
    subst primary
    have others : signal.pair =
        TradeTarget.secondary.pair state.pairConfig.primary state.pairConfig.secondary :=
      names.trans twice
    have stop := stopLossLevel_eq state.divergenceInputs (fun never => by cases never) others
    have price : state.divergenceInputs.secondaryPrice = quote.bid :=
      (ownPrice_eq priced others).trans bid
    have swept := (evaluateSmt_heldAlone found).2
    rw [price] at swept
    have beyond : Ahead signal.direction quote.bid
        (stopSide (ownBuffer state.divergenceInputs .secondary signal.tier) signal.direction) := by
      cases direction : signal.direction <;> rw [direction] at swept <;> exact swept
    rw [stop]
    exact iff_of_false beyond.asymm fun clear => own clear.1

end opened

variable {snapshot : BrokerSnapshot} {state : PairCycleState} {signal : TradeSignal}
  {decision : RiskDecision} {limits : RiskConfig} {decisionId : Uuid} {opened : Position}
  {conversion : FloatConversion}

/-- What an approved order opens is left alone by a sweep of the same quotes exactly
when its bid is clear of its stop. -/
theorem opened_notReached_iff {weeklyBias dailyBias : Bias} {originatingSnapshotId : Uuid}
    {strength confidence : Decimal} {validUntil : Instant} {traceId signalId : Uuid}
    {timestamp : Instant} (priced : PricedAtBids snapshot state) (spread : AskAtOrAboveBid snapshot)
    (generated : generateSignal state.divergenceInputs weeklyBias dailyBias state.pairConfig.primary
      state.pairConfig.secondary originatingSnapshotId strength confidence validUntil traceId signalId
      timestamp = .signal signal)
    (config : Config) (isTuesday : Bool) (openPositions : List Position) (equity : Usd)
    (evaluated : DefaultRiskEngine.evaluate conversion signal limits
      (riskContext config snapshot isTuesday state openPositions signal equity) decisionId =
        .ok decision)
    (approved : decision.approved = true) (orderId : Uuid)
    (opens : Opens (orderRequest orderId snapshot signal decision) opened) :
    NotReached snapshot opened ↔ ClearOfStop snapshot state signal := by
  obtain ⟨_, target, found, names⟩ := generateSignal_signal generated
  obtain ⟨_, gates, rfl⟩ := evaluate_approved evaluated approved
  have apart : stopLossLevel state.divergenceInputs signal state.pairConfig.secondary ≠
      entryPrice snapshot state signal := by
    intro same
    exact gates.stopDistance (abs_eq_zero.mpr (sub_eq_zero.mpr same.symm))
  obtain ⟨targetAhead, _⟩ := target_ahead signal.direction apart
  have between (quote : PriceQuote) (quoted : snapshot.prices signal.pair = some quote) :
      riskRewardExit opened quote.bid = none ↔
        (target = .primary → state.pairConfig.primary ≠ state.pairConfig.secondary) ∧
        (signal.direction = .buy →
          quote.bid ≠ (ownBuffer state.divergenceInputs target signal.tier).low) := by
    rw [riskRewardExit_eq_none_iff opens.stopLoss opens.takeProfit, opens.direction]
    have behind : ¬Ahead signal.direction (entryPrice snapshot state signal) quote.bid := by
      have ordered := spread signal.pair quote quoted
      rw [entryPrice_quoted quoted]
      cases signal.direction <;> simp [Ahead, ordered]
    rw [← ahead_of_stop_iff priced found names quoted apart]
    exact and_iff_left (Ahead.from_behind behind targetAhead)
  rw [notReached_iff, opens.pair]
  constructor
  · intro unreached other reading quote quoted
    cases Option.some.inj (found.symm.trans reading)
    exact (between quote quoted).mp (unreached quote quoted)
  · intro clear quote quoted
    exact (between quote quoted).mpr (clear target found quote quoted)

/-- What a host opens for an order. -/
def openedBy (request : OrderRequest) : Position :=
  (Host.fresh .default .empty).filledPosition 7 request

theorem opens_openedBy (request : OrderRequest) : Opens request (openedBy request) where
  pair := rfl
  direction := rfl
  stopLoss := rfl
  takeProfit := rfl

/-- The decision on the swept signal, with 10000 dollars and nothing open. -/
def decisionOn (state : PairCycleState) : RiskDecision :=
  approval sweptSignal (riskConfig .exact .default)
    (riskContext .default sweptSnapshot false state [] sweptSignal (.fromDecimal 10000)) 4

theorem sweptSignal_notReached_iff :
    NotReached sweptSnapshot
        (openedBy (orderRequest 5 sweptSnapshot sweptSignal (decisionOn sweptSecondary))) ↔
      ClearOfStop sweptSnapshot sweptSecondary sweptSignal := by
  exact opened_notReached_iff sweptSecondary_priced sweptSnapshot_spread sweptSignal_generated .default
    false [] (.fromDecimal 10000) sweptSignal_evaluated rfl 5 (opens_openedBy _)

/-- The daily low of EURUSD is its very bid: held, and touched by the stop. -/
def touchingPrimary : PairCycleState := { sweptSecondary with
  divergenceInputs := { sweptSecondary.divergenceInputs with
    dailyPrimaryBuffer := { high := 1.12, low := 1.10 } } }

/-- The position is opened at the ask of 1.1002 with its stop at the bid. -/
theorem touchingPrimary_reached :
    ¬∀ (snapshot : BrokerSnapshot) (state : PairCycleState) (weeklyBias dailyBias : Bias)
      (originatingSnapshotId : Uuid) (strength confidence : Decimal) (validUntil : Instant)
      (traceId signalId : Uuid) (timestamp : Instant) (signal : TradeSignal) (config : Config)
      (isTuesday : Bool) (openPositions : List Position) (equity : Usd) (limits : RiskConfig)
      (decisionId orderId : Uuid) (decision : RiskDecision) (opened : Position)
      (conversion : FloatConversion),
      PricedAtBids snapshot state → AskAtOrAboveBid snapshot →
      generateSignal state.divergenceInputs weeklyBias dailyBias state.pairConfig.primary
        state.pairConfig.secondary originatingSnapshotId strength confidence validUntil traceId
        signalId timestamp = .signal signal →
      DefaultRiskEngine.evaluate conversion signal limits
        (riskContext config snapshot isTuesday state openPositions signal equity) decisionId =
          .ok decision →
      decision.approved = true → Opens (orderRequest orderId snapshot signal decision) opened →
      NotReached snapshot opened := by
  intro claimed
  have unflagged := claimed sweptSnapshot touchingPrimary .neutral .neutral 3 (4 / 5) (4 / 5) 0 2 1 0
    sweptSignal .default false [] (.fromDecimal 10000) (riskConfig .exact .default) 4 5
    (decisionOn touchingPrimary) _ .exact (by constructor <;> decide +kernel) sweptSnapshot_spread
    (by decide +kernel) (by decide +kernel) rfl (opens_openedBy _)
  have flagged := (unflagged [] 0 0 .empty
    { positionId := 7, reason := .stopLoss } (by decide +kernel)).1
  exact flagged rfl

end Oboobot.Daemon
