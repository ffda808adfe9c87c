import Oboobot.Interaction.Program
import Oboobot.Broker.Adapter
import Oboobot.Domain.Filed

/-! The broker double of the demonstration and the tests: it fills every order that no
scripted response stands in front of. -/

namespace Oboobot.Broker

open Domain Interaction

/-- One scripted outcome of a `submit_order`. -/
inductive ScriptedResponse where
  | connectionFailed
  | timeout (milliseconds : Nat)
  | rateLimited (milliseconds : Nat)
  | rejected (reason : String)
  | malformedResponse (detail : String)
  | partialFill (filledSize : Decimal)
  deriving DecidableEq

/-- The maps are keyed by id. A snapshot of the count of calls is a 64-bit number. -/
structure MockBroker where
  equity : Usd
  positions : Filed Position.positionId
  orders : Filed Order.orderId
  submitOrderScript : List ScriptedResponse
  syntheticPrice : Decimal
  callCount : UInt64

/-- What a call draws: a fresh id and successive readings of the clock. -/
structure Draws where
  id : Uuid
  clock : Nat → Instant

/-- The sign of a position's profit under a rising price. -/
def directionMultiplier : Direction → Decimal
  | .buy => 1
  | .sell => -1

namespace MockBroker

def new (initialEquity : Usd) (syntheticPrice : Decimal) : MockBroker where
  equity := initialEquity
  positions := .empty
  orders := .empty
  submitOrderScript := []
  syntheticPrice := syntheticPrice
  callCount := 0

variable (broker : MockBroker)

def queueSubmitOrderResponse (response : ScriptedResponse) : MockBroker :=
  { broker with submitOrderScript := broker.submitOrderScript ++ [response] }

def simulateSilent200EmptyBody : MockBroker :=
  broker.queueSubmitOrderResponse (.malformedResponse "200 OK with an empty response body")

def forgetPosition (id : Uuid) : MockBroker :=
  { broker with positions := broker.positions.remove id }

def insertPosition (position : Position) : MockBroker :=
  { broker with positions := broker.positions.insert position }

def counted : MockBroker := { broker with callCount := broker.callCount + 1 }

/-- `Decimal::new(2, 5)`. -/
def syntheticSpread : Decimal := 2 / 100000

def getSnapshot (pairs : List String) (draws : Draws) : BrokerSnapshot × MockBroker :=
  let price := broker.syntheticPrice
  ({ snapshotId := draws.id
     timestamp := draws.clock 0
     prices := .ofPairs (pairs.map fun pair =>
       (pair, { bid := price, ask := price + syntheticSpread }))
     spreads := .ofPairs (pairs.map fun pair => (pair, syntheticSpread)) }, broker.counted)

def fillPrice (request : OrderRequest) : Decimal := request.price.getD broker.syntheticPrice

def placedOrder (request : OrderRequest) (positionId : Option Uuid) (filledSize : Decimal)
    (status : OrderStatus) (clock : Nat → Instant) : Order where
  orderId := request.orderId
  traceId := request.traceId
  signalId := request.signalId
  positionId := positionId
  pair := request.pair
  side := request.side
  size := request.size
  filledSize := filledSize
  price := broker.fillPrice request
  status := status
  timestamp := clock 0
  lastUpdate := clock 1

def filledPosition (request : OrderRequest) (draws : Draws) : Position where
  positionId := draws.id
  traceId := request.traceId
  signalId := request.signalId
  pair := request.pair
  direction := request.side
  legs := [{ price := broker.fillPrice request, size := request.size, filledAt := draws.clock 2 }]
  entryPrice := broker.fillPrice request
  currentPrice := broker.fillPrice request
  unrealizedPnl := 0
  realizedPnl := 0
  entryTime := draws.clock 3
  lastUpdate := draws.clock 4
  status := .filled
  exitReason := none
  stopLoss := request.stopLoss
  takeProfit := request.takeProfit

/-- Record an order without a position. -/
def fillPartially (request : OrderRequest) (filledSize : Decimal) (draws : Draws) :
    Order × MockBroker :=
  let order := broker.placedOrder request none filledSize .partiallyFilled draws.clock
  (order, { broker with orders := broker.orders.insert order })

/-- The normal path: fill completely and open a position. -/
def fill (request : OrderRequest) (draws : Draws) : Order × MockBroker :=
  let order := broker.placedOrder request (some draws.id) request.size .filled draws.clock
  (order, { broker with
    orders := broker.orders.insert order
    positions := broker.positions.insert (broker.filledPosition request draws) })

/-- The scripted responses are consumed in order. -/
def submitOrder (request : OrderRequest) (draws : Draws) : Except BrokerError Order × MockBroker :=
  match broker.submitOrderScript with
  | [] =>
    let (order, broker) := broker.counted.fill request draws
    (.ok order, broker)
  | response :: later =>
    let broker := { broker.counted with submitOrderScript := later }
    match response with
    | .connectionFailed => (.error (.connectionFailed "simulated connection failure"), broker)
    | .timeout milliseconds => (.error (.timeout milliseconds), broker)
    | .rateLimited milliseconds => (.error (.rateLimited milliseconds), broker)
    | .rejected reason => (.error (.rejected reason), broker)
    | .malformedResponse detail => (.error (.malformedResponse detail), broker)
    | .partialFill filledSize =>
      let (order, broker) := broker.fillPartially request filledSize draws
      (.ok order, broker)

def cancelOrder (orderId : Uuid) : Except BrokerError Unit × MockBroker :=
  match broker.orders.get? orderId with
  | some _ => (.ok (), { broker.counted with orders := broker.orders.remove orderId })
  | none => (.error (.notFound orderId), broker.counted)

/-- What closing a position at this price realises. -/
def realizedPnl (closePrice : Decimal) (position : Position) : Decimal :=
  (closePrice - position.entryPrice) * position.size * directionMultiplier position.direction

def closingOrder (position : Position) (draws : Draws) : Order where
  orderId := draws.id
  traceId := position.traceId
  signalId := position.signalId
  positionId := some position.positionId
  pair := position.pair
  side := match position.direction with
    | .buy => .sell
    | .sell => .buy
  size := position.size
  filledSize := position.size
  price := broker.syntheticPrice
  status := .filled
  timestamp := draws.clock 0
  lastUpdate := draws.clock 1

def closePosition (positionId : Uuid) (draws : Draws) : Except BrokerError Order × MockBroker :=
  match broker.positions.get? positionId with
  | none => (.error (.notFound positionId), broker.counted)
  | some position =>
    let order := broker.closingOrder position draws
    (.ok order, { broker.counted with
      positions := broker.positions.remove positionId
      orders := broker.orders.insert order
      equity := .fromDecimal (broker.equity.asDecimal + realizedPnl broker.syntheticPrice position) })

end MockBroker

/-- The calls of an adapter, and the handles that a script or a test has on the double. -/
inductive MockCall where
  | queueSubmitOrderResponse (response : ScriptedResponse)
  | forgetPosition (id : Uuid)
  | insertPosition (position : Position)
  | getSnapshot (pairs : List String)
  | submitOrder (request : OrderRequest)
  | cancelOrder (orderId : Uuid)
  | closePosition (positionId : Uuid)
  | getAccountEquity
  | listOpenPositions
  | listOpenOrders
  | fetchHistoricalPrices (pair : String) (days : Nat)

/-- The handles reply what the map had under the id, which the source drops. -/
@[reducible] def MockReply : MockCall → Type
  | .queueSubmitOrderResponse _ => Unit
  | .forgetPosition _ => Option Position
  | .insertPosition _ => Option Position
  | .getSnapshot _ => Except BrokerError BrokerSnapshot
  | .submitOrder _ => Except BrokerError Order
  | .cancelOrder _ => Except BrokerError Unit
  | .closePosition _ => Except BrokerError Order
  | .getAccountEquity => Except BrokerError Usd
  | .listOpenPositions => Except BrokerError (List Position)
  | .listOpenOrders => Except BrokerError (List Order)
  | .fetchHistoricalPrices _ _ => Except BrokerError (List Decimal)

abbrev MockEvent := Event MockCall MockReply

/-- What the double does at a call. The ids it draws are fresh, and it lists its maps in
any order. -/
def MockStep (broker : MockBroker) (event : MockEvent) (after : MockBroker) : Prop :=
  match event with
  | ⟨.queueSubmitOrderResponse response, _⟩ => after = broker.queueSubmitOrderResponse response
  | ⟨.forgetPosition id, reply⟩ =>
    reply = broker.positions.get? id ∧ after = broker.forgetPosition id
  | ⟨.insertPosition position, reply⟩ =>
    reply = broker.positions.get? position.positionId ∧ after = broker.insertPosition position
  | ⟨.getSnapshot pairs, reply⟩ => ∃ draws,
    reply = .ok (broker.getSnapshot pairs draws).1 ∧ after = (broker.getSnapshot pairs draws).2
  | ⟨.submitOrder request, reply⟩ => ∃ draws, broker.positions.get? draws.id = none ∧
    (reply, after) = broker.submitOrder request draws
  | ⟨.cancelOrder orderId, reply⟩ => (reply, after) = broker.cancelOrder orderId
  | ⟨.closePosition positionId, reply⟩ => ∃ draws,
    (reply, after) = broker.closePosition positionId draws
  | ⟨.getAccountEquity, reply⟩ => reply = .ok broker.equity ∧ after = broker.counted
  | ⟨.listOpenPositions, reply⟩ => after = broker.counted ∧
    ∃ listing, reply = .ok listing ∧ listing.Perm broker.positions.values
  | ⟨.listOpenOrders, reply⟩ => after = broker.counted ∧
    ∃ listing, reply = .ok listing ∧ listing.Perm broker.orders.values
  | ⟨.fetchHistoricalPrices _ _, reply⟩ => after = broker ∧
    reply = .error (.notImplemented "fetch_historical_prices is not implemented for this broker")

/-- The scripted response that an outcome of `submit_order` shows. -/
def shownResponse : Except BrokerError Order → Option ScriptedResponse
  | .error (.connectionFailed _) => some .connectionFailed
  | .error (.timeout milliseconds) => some (.timeout milliseconds)
  | .error (.rateLimited milliseconds) => some (.rateLimited milliseconds)
  | .error (.rejected reason) => some (.rejected reason)
  | .error (.malformedResponse detail) => some (.malformedResponse detail)
  | .error _ => none
  | .ok order => if order.status = .partiallyFilled then some (.partialFill order.filledSize) else none

def MockEvent.shown : MockEvent → Option ScriptedResponse
  | ⟨.submitOrder _, reply⟩ => shownResponse reply
  | _ => none

def MockEvent.queued : MockEvent → Option ScriptedResponse
  | ⟨.queueSubmitOrderResponse response, _⟩ => some response
  | _ => none

/-- The equity, with every open position valued at the price it would be closed at. -/
def MockBroker.worth (broker : MockBroker) : Decimal :=
  broker.equity.asDecimal +
    broker.positions.total (MockBroker.realizedPnl broker.syntheticPrice)

/-- What an event adds to the worth: the difference between the price a full fill was asked
for and the synthetic one, and what the handles put in and take out. -/
def MockEvent.gained (price : Decimal) : MockEvent → Decimal
  | ⟨.submitOrder request, .ok order⟩ =>
    if order.status = .filled then
      (price - order.price) * order.filledSize * directionMultiplier request.side
    else 0
  | ⟨.insertPosition position, replaced⟩ =>
    MockBroker.realizedPnl price position - (replaced.map (MockBroker.realizedPnl price)).getD 0
  | ⟨.forgetPosition _, removed⟩ => -(removed.map (MockBroker.realizedPnl price)).getD 0
  | _ => 0

/-- Calls that leave the positions, the equity and the script as they are. -/
def MockCall.IsQuiet : MockCall → Prop
  | .getSnapshot _ | .cancelOrder _ | .getAccountEquity | .listOpenPositions | .listOpenOrders
  | .fetchHistoricalPrices _ _ => True
  | _ => False

section steps
variable {broker after : MockBroker} {event : MockEvent}

theorem MockStep.quiet (quiet : event.call.IsQuiet) (step : MockStep broker event after) :
    ∃ orders callCount, after = { broker with orders, callCount } := by
  obtain ⟨call, reply⟩ := event
  cases call with
  | getSnapshot pairs =>
    obtain ⟨draws, _, rfl⟩ := step
    exact ⟨_, _, rfl⟩
  | cancelOrder orderId =>
    obtain rfl := (Prod.ext_iff.mp step).2
    unfold MockBroker.cancelOrder
    split <;> exact ⟨_, _, rfl⟩
  | getAccountEquity => exact ⟨_, _, step.2⟩
  | listOpenPositions => exact ⟨_, _, step.1⟩
  | listOpenOrders => exact ⟨_, _, step.1⟩
  | fetchHistoricalPrices pair days => exact ⟨_, _, step.1⟩
  | _ => cases quiet

/-- How a submission ends: by the first scripted response, which fills nothing in full, or
by a full fill. -/
theorem MockStep.submitOrder_cases {request : OrderRequest} {reply : Except BrokerError Order}
    (step : MockStep broker ⟨.submitOrder request, reply⟩ after) :
    (∃ response later, broker.submitOrderScript = response :: later ∧
      shownResponse reply = some response ∧ (∀ order, reply = .ok order → order.status ≠ .filled) ∧
      ∃ orders callCount,
        after = { broker with submitOrderScript := later, orders, callCount }) ∨
    (broker.submitOrderScript = [] ∧ ∃ draws, broker.positions.get? draws.id = none ∧
      reply = .ok (broker.counted.fill request draws).1 ∧
      after = (broker.counted.fill request draws).2) := by
  obtain ⟨draws, fresh, same⟩ := step
  obtain ⟨rfl, rfl⟩ := Prod.ext_iff.mp same
  unfold MockBroker.submitOrder
  cases script : broker.submitOrderScript with
  | nil => exact .inr ⟨rfl, draws, fresh, rfl, rfl⟩
  | cons response later =>
    refine .inl ⟨response, later, rfl, ?_⟩
    cases response <;> refine ⟨?_, ?_, _, _, rfl⟩ <;>
      simp [shownResponse, MockBroker.fillPartially, MockBroker.placedOrder]

/-- Nothing is lost from the script, and nothing is answered out of turn. -/
theorem MockStep.script (step : MockStep broker event after) :
    event.shown.toList ++ after.submitOrderScript =
      broker.submitOrderScript ++ event.queued.toList := by
  by_cases quiet : event.call.IsQuiet
  · obtain ⟨orders, callCount, rfl⟩ := step.quiet quiet
    obtain ⟨call, reply⟩ := event
    cases call with
    | queueSubmitOrderResponse response => cases quiet
    | submitOrder request => cases quiet
    | _ => simp [MockEvent.shown, MockEvent.queued]
  · obtain ⟨call, reply⟩ := event
    cases call with
    | queueSubmitOrderResponse response =>
      obtain rfl := step
      simp [MockEvent.shown, MockEvent.queued, MockBroker.queueSubmitOrderResponse]
    | forgetPosition id =>
      obtain ⟨_, rfl⟩ := step
      simp [MockEvent.shown, MockEvent.queued, MockBroker.forgetPosition]
    | insertPosition position =>
      obtain ⟨_, rfl⟩ := step
      simp [MockEvent.shown, MockEvent.queued, MockBroker.insertPosition]
    | closePosition positionId =>
      obtain ⟨draws, same⟩ := step
      obtain rfl := (Prod.ext_iff.mp same).2
      unfold MockBroker.closePosition
      split <;> simp [MockEvent.shown, MockEvent.queued, MockBroker.counted]
    | submitOrder request =>
      rcases step.submitOrder_cases with ⟨response, later, script, shown, _, orders, callCount, rfl⟩ |
        ⟨script, draws, _, rfl, rfl⟩
      · simp [MockEvent.shown, MockEvent.queued, shown, script]
      · simp [MockEvent.shown, MockEvent.queued, script, shownResponse, MockBroker.fill,
          MockBroker.placedOrder, MockBroker.counted]
    | _ => exact absurd trivial quiet

theorem MockStep.syntheticPrice (step : MockStep broker event after) :
    after.syntheticPrice = broker.syntheticPrice := by
  by_cases quiet : event.call.IsQuiet
  · obtain ⟨orders, callCount, rfl⟩ := step.quiet quiet
    rfl
  · obtain ⟨call, reply⟩ := event
    cases call with
    | queueSubmitOrderResponse response => exact (step : after = _) ▸ rfl
    | forgetPosition id => exact step.2 ▸ rfl
    | insertPosition position => exact step.2 ▸ rfl
    | closePosition positionId =>
      obtain ⟨draws, same⟩ := step
      obtain rfl := (Prod.ext_iff.mp same).2
      unfold MockBroker.closePosition
      split <;> rfl
    | submitOrder request =>
      rcases step.submitOrder_cases with ⟨_, _, _, _, _, _, _, rfl⟩ | ⟨_, _, _, _, rfl⟩ <;> rfl
    | _ => exact absurd trivial quiet

/-- A close moves its profit from the open positions to the equity. -/
theorem closePosition_worth (broker : MockBroker) (positionId : Uuid) (draws : Draws) :
    (broker.closePosition positionId draws).2.worth = broker.worth := by
  unfold MockBroker.closePosition
  cases found : broker.positions.get? positionId with
  | none => rfl
  | some position =>
    have moved := broker.positions.total_remove
      (MockBroker.realizedPnl broker.syntheticPrice) positionId
    rw [found, Option.map_some, Option.getD_some] at moved
    simp only [MockBroker.worth, MockBroker.counted, Usd.asDecimal, Usd.fromDecimal, ← moved]
    ring

theorem fill_worth (broker : MockBroker) (request : OrderRequest) (draws : Draws)
    (fresh : broker.positions.get? draws.id = none) :
    (broker.fill request draws).2.worth = broker.worth +
      (broker.syntheticPrice - broker.fillPrice request) * request.size *
        directionMultiplier request.side := by
  have joined := broker.positions.total_insert
    (MockBroker.realizedPnl broker.syntheticPrice) (broker.filledPosition request draws)
  rw [show (broker.filledPosition request draws).positionId = draws.id from rfl, fresh] at joined
  simp only [MockBroker.worth, MockBroker.fill]
  simp [MockBroker.realizedPnl, MockBroker.filledPosition, Position.size] at joined ⊢
  linarith

theorem MockStep.worth (step : MockStep broker event after) :
    after.worth = broker.worth + event.gained broker.syntheticPrice := by
  by_cases quiet : event.call.IsQuiet
  · obtain ⟨orders, callCount, rfl⟩ := step.quiet quiet
    obtain ⟨call, reply⟩ := event
    cases call with
    | submitOrder request => cases quiet
    | insertPosition position => cases quiet
    | forgetPosition id => cases quiet
    | _ => exact (add_zero _).symm
  · obtain ⟨call, reply⟩ := event
    cases call with
    | queueSubmitOrderResponse response =>
      obtain rfl := step
      exact (add_zero _).symm
    | forgetPosition id =>
      obtain ⟨rfl, rfl⟩ := step
      have taken := broker.positions.total_remove
        (MockBroker.realizedPnl broker.syntheticPrice) id
      simp only [MockBroker.worth, MockBroker.forgetPosition, MockEvent.gained, ← taken]
      ring
    | insertPosition position =>
      obtain ⟨rfl, rfl⟩ := step
      have joined := broker.positions.total_insert
        (MockBroker.realizedPnl broker.syntheticPrice) position
      simp only [MockBroker.worth, MockBroker.insertPosition, MockEvent.gained]
      linarith
    | closePosition positionId =>
      obtain ⟨draws, same⟩ := step
      obtain rfl := (Prod.ext_iff.mp same).2
      exact (closePosition_worth broker positionId draws).trans (add_zero _).symm
    | submitOrder request =>
      rcases step.submitOrder_cases with ⟨response, later, _, _, unfilled, orders, callCount, rfl⟩ |
        ⟨_, draws, fresh, rfl, rfl⟩
      · cases reply with
        | error failure => exact (add_zero _).symm
        | ok order =>
          rw [MockEvent.gained, if_neg (unfilled order rfl)]
          exact (add_zero _).symm
      · exact fill_worth broker.counted request draws fresh
    | _ => exact absurd trivial quiet

end steps

section runs
variable {start final : MockBroker} {events : List MockEvent}

/-- The account of a run of the double. -/
structure Accounted (start : MockBroker) (events : List MockEvent) (final : MockBroker) : Prop where
  price : final.syntheticPrice = start.syntheticPrice
  script : events.filterMap MockEvent.shown ++ final.submitOrderScript =
    start.submitOrderScript ++ events.filterMap MockEvent.queued
  worth : final.worth = start.worth + (events.map (MockEvent.gained start.syntheticPrice)).sum

/-- However it is called, the double answers with each scripted response once and in
order, and its equity and open positions together move by what was traded off its price. -/
theorem accounted_of_steps (steps : Steps MockStep start events final) :
    Accounted start events final := by
  induction steps with
  | nil start => exact ⟨rfl, by simp, by simp⟩
  | cons first rest ih =>
    obtain ⟨price, script, worth⟩ := ih
    constructor
    · exact price.trans first.syntheticPrice
    · have turn := first.script
      rw [List.filterMap_eq_flatMap_toList, List.filterMap_eq_flatMap_toList] at script ⊢
      rw [List.flatMap_cons, List.flatMap_cons, List.append_assoc, script, ← List.append_assoc, turn,
        List.append_assoc]
    · rw [worth, first.worth, first.syntheticPrice, List.map_cons, List.sum_cons, add_assoc]

end runs

def numberedDraws (number : Nat) : Draws where
  id := .ofNat 128 number
  clock reading := number + reading

/-- A buy of a thousand, a cent below the price of the double. -/
def limitOrder : OrderRequest where
  orderId := 1
  traceId := 2
  signalId := 3
  pair := "EURUSD"
  side := .buy
  size := 1000
  orderType := .limit
  price := some 1.09
  stopLoss := none
  takeProfit := none
  confirmingSnapshotId := 4

/-- A scripted timeout, then a fill below the price and a close at it. -/
theorem limitOrder_accounted :
    let start := MockBroker.new (.fromDecimal 10000) 1.1
    let scripted := start.queueSubmitOrderResponse (.timeout 500)
    let refused := scripted.submitOrder limitOrder (numberedDraws 5)
    let opened := refused.2.submitOrder limitOrder (numberedDraws 6)
    let closed := opened.2.closePosition 6 (numberedDraws 7)
    Accounted start [⟨.queueSubmitOrderResponse (.timeout 500), ()⟩, ⟨.submitOrder limitOrder, refused.1⟩,
      ⟨.submitOrder limitOrder, opened.1⟩, ⟨.closePosition 6, closed.1⟩] closed.2 ∧
        refused.1 = .error (.timeout 500) ∧ closed.2.equity = .fromDecimal 10010 := by
  intro start scripted refused opened closed
  refine ⟨accounted_of_steps ?_, rfl, by decide +kernel⟩
  have turn : MockStep start ⟨.queueSubmitOrderResponse (.timeout 500), ()⟩ scripted := rfl
  have first : MockStep scripted ⟨.submitOrder limitOrder, refused.1⟩ refused.2 :=
    ⟨numberedDraws 5, rfl, rfl⟩
  have second : MockStep refused.2 ⟨.submitOrder limitOrder, opened.1⟩ opened.2 :=
    ⟨numberedDraws 6, rfl, rfl⟩
  have last : MockStep opened.2 ⟨.closePosition 6, closed.1⟩ closed.2 := ⟨numberedDraws 7, rfl⟩
  exact .cons turn (.cons first (.cons second (.cons last (.nil _))))

end Oboobot.Broker
