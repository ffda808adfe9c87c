import Oboobot.Interaction.Layers
import Oboobot.Broker.DerivMarket
import Oboobot.Broker.ListedPositions
import Oboobot.Daemon.OrderGates

/-! The daemon with the Deriv adapter as its broker: one invocation, down to the
requests on the wire. -/

namespace Oboobot.Daemon

open Domain SessionTime Strategy Risk Broker Interaction

/-- Everything an invocation asks of its surroundings when its broker is a connection. -/
inductive SystemCall where
  | cycle (call : Call)
  | wire (call : WireCall)
  | heartbeatElapsed

@[reducible] def SystemReply : SystemCall → Type
  | .cycle call => Reply call
  | .wire call => WireReply call
  | .heartbeatElapsed => Bool

abbrev System := Program SystemCall SystemReply CycleError

abbrev SystemEvent := Event SystemCall SystemReply

/-- Conversions that the decimal and the time library make for the adapter. -/
structure Conversions where
  tryFrom : ℚ → Option Decimal
  parse : String → Option Decimal
  fromTimestamp : Int → Option Instant

/-- A method of the adapter. -/
def onWire {α : Type} (program : Wire α) : System (Except BrokerError α) :=
  (program.attempt : Program WireCall WireReply CycleError _).renamed .wire fun _ reply => reply

/-- The broker's calls go to the adapter, the others to the host. A snapshot is dropped
once the heartbeat has timed out. -/
def serve (conversions : Conversions) : (call : Call) → System (Reply call)
  | .getSnapshot symbols =>
    (onWire (getSnapshot conversions.tryFrom symbols)).timed .heartbeatElapsed id
  | .listOpenPositions =>
    onWire (listOpenPositions conversions.parse conversions.fromTimestamp)
  | .closePosition id => onWire (closePosition conversions.tryFrom id)
  | .submitOrder request => onWire (submitOrder conversions.tryFrom request)
  | .getAccountEquity => onWire (getAccountEquity conversions.tryFrom)
  | .fetchHistoricalPrices pair days =>
    onWire (fetchHistoricalPrices conversions.tryFrom pair days)
  | call => Program.perform (SystemCall.cycle call)

/-- An invocation with `--broker deriv`, once it is connected. -/
def wiredCycle (conversions : Conversions) (platform : Platform) (divergence : DivergenceSource)
    (cli : Cli) : System Unit :=
  (runRealCycle platform divergence cli).layered (serve conversions)

def wireEvent : SystemEvent → Option WireEvent
  | ⟨.wire call, reply⟩ => some ⟨call, reply⟩
  | _ => none

/-- What has happened on the wire. -/
def wireLog (events : List SystemEvent) : WireLog := .ofEvents (events.filterMap wireEvent)

def sentRequest : SystemEvent → Option Request
  | ⟨.wire (.send _ request), _⟩ => some request
  | _ => none

def sentRequests (events : List SystemEvent) : List Request := events.filterMap sentRequest

theorem sent_ofEvents (events : List WireEvent) :
    (WireLog.ofEvents events).sent = events.filterMap fun event => event.call.request := by
  induction events using List.reverseRecOn with
  | nil => rfl
  | append_singleton events event ih =>
    rw [WireLog.ofEvents_append_singleton, WireLog.after_sent, ih, List.filterMap_append]
    cases sent : event.call.request <;> simp [sent]

theorem sent_wireLog (events : List SystemEvent) : (wireLog events).sent = sentRequests events := by
  rw [wireLog, sent_ofEvents, List.filterMap_filterMap, sentRequests]
  congr 1
  funext event
  obtain ⟨call, reply⟩ := event
  cases call with
  | wire call => cases call <;> rfl
  | _ => rfl

@[simp] theorem sentRequests_append (front back : List SystemEvent) :
    sentRequests (front ++ back) = sentRequests front ++ sentRequests back :=
  List.filterMap_append

section serve
variable {conversions : Conversions}

theorem onWire_trace {α : Type} {program : Wire α} {events : List SystemEvent}
    {outcome : Outcome CycleError (Except BrokerError α)}
    (trace : Trace (onWire program) events outcome) :
    ∃ own, Trace program (events.filterMap wireEvent) own ∧
      ∀ value, outcome = .done (.ok value) → own = .done value := by
  have attempted : Trace (program.attempt : Program WireCall WireReply CycleError _)
      (events.filterMap wireEvent) outcome := by
    refine Trace.of_renamed ?_ trace
    exact fun _ _ => rfl
  exact attempted.of_attempt

/-- What carrying out a call of the cycle may send. -/
def Serves (call : Call) : SystemCall → Prop
  | .wire (.send _ request) => request.isReadOnly = true ∨
      (∃ order, call = .submitOrder order ∧ OrderSends order request) ∨
      ∃ id, call = .closePosition id ∧ SaleSends id request
  | _ => True

theorem onWire_serves {α : Type} {program : Wire α} {call : Call} {allowed : Request → Prop}
    (sends : program.Yields (WireCall.Sends allowed) fun _ => True)
    (serves : ∀ request, allowed request → ∀ reqId, Serves call (.wire (.send reqId request))) :
    (onWire program).Yields (Serves call) fun _ => True := by
  refine sends.attempt.renamed fun wireCall sent => ?_
  cases wireCall with
  | send reqId request => exact serves request sent reqId
  | _ => trivial

theorem serve_serves (call : Call) :
    (serve conversions call).Yields (Serves call) fun _ => True := by
  have reads {α : Type} {program : Wire α}
      (readOnly : program.Yields WireCall.IsReadOnly fun _ => True) :
      (onWire program).Yields (Serves call) fun _ => True :=
    onWire_serves readOnly fun _ reads _ => .inl reads
  cases call with
  | getSnapshot symbols => exact (reads (getSnapshot_readOnly symbols)).timed trivial
  | listOpenPositions => exact reads listOpenPositions_readOnly
  | closePosition id =>
    exact onWire_serves (Broker.closePosition_sends _ id) fun _ sale _ => .inr (.inr ⟨id, rfl, sale⟩)
  | submitOrder order =>
    exact onWire_serves (submitOrder_sends _ order) fun _ sent _ => .inr (.inl ⟨order, rfl, sent⟩)
  | getAccountEquity => exact reads getAccountEquity_readOnly
  | fetchHistoricalPrices pair days => exact reads (fetchHistoricalPrices_readOnly pair days)
  | _ => exact ⟨trivial, fun _ _ _ => trivial⟩

/-- The requests that buy a contract. -/
def purchases (requests : List Request) : Nat :=
  requests.countP fun request => match request with
    | .buy _ _ => true
    | _ => false

/-- The contracts that the requests sell. -/
def soldContracts (requests : List Request) : List UInt64 :=
  requests.filterMap fun request => match request with
    | .sell contractId _ => some contractId
    | _ => none

theorem purchases_append (front back : List Request) :
    purchases (front ++ back) = purchases front + purchases back :=
  List.countP_append

theorem soldContracts_append (front back : List Request) :
    soldContracts (front ++ back) = soldContracts front ++ soldContracts back :=
  List.filterMap_append

def Call.isOrder : Call → Bool
  | .submitOrder _ => true
  | _ => false

theorem isSome_orderOf (event : CycleEvent) : (orderOf event).isSome = event.call.isOrder := by
  obtain ⟨call, reply⟩ := event
  cases call <;> rfl

/-- The position that a call closes. -/
def closedId : Call → Option Uuid
  | .closePosition id => some id
  | _ => none

section segment
variable {call : Call} {segment : List SystemEvent} {outcome : Outcome CycleError (Reply call)}

theorem serves_of_trace (trace : Trace (serve conversions call) segment outcome) :
    ∀ event ∈ segment, Serves call event.call :=
  (serve_serves call).calls trace

theorem sent_serves (trace : Trace (serve conversions call) segment outcome) {request : Request}
    (sent : request ∈ sentRequests segment) : ∃ reqId, Serves call (.wire (.send reqId request)) := by
  obtain ⟨event, member, same⟩ := List.mem_filterMap.mp sent
  have serves := serves_of_trace trace event member
  obtain ⟨lower, reply⟩ := event
  unfold sentRequest at same
  split at same
  · rename_i found
    cases found
    cases same
    exact ⟨_, serves⟩
  · cases same

theorem submitOrder_sentOrder {order : OrderRequest}
    {outcome : Outcome CycleError (Reply (.submitOrder order))}
    (trace : Trace (serve conversions (.submitOrder order)) segment outcome) :
    Broker.SentOrder order (sentRequests segment) := by
  obtain ⟨own, traced, _⟩ := onWire_trace trace
  exact sent_wireLog segment ▸ (buysOnce_of_trace traced).sent

theorem closePosition_sentSale {id : Uuid}
    {outcome : Outcome CycleError (Reply (.closePosition id))}
    (trace : Trace (serve conversions (.closePosition id)) segment outcome) :
    Broker.SentSale id (sentRequests segment) := by
  obtain ⟨own, traced, _⟩ := onWire_trace trace
  exact sent_wireLog segment ▸ sentSale_of_trace traced

/-- An order buys at most once, and no other call buys. -/
theorem purchases_segment (trace : Trace (serve conversions call) segment outcome) :
    purchases (sentRequests segment) ≤ call.isOrder.toNat := by
  by_cases orders : ∃ order, call = .submitOrder order
  · obtain ⟨order, rfl⟩ := orders
    obtain ⟨attempts, _, same | ⟨id, price, same⟩⟩ := submitOrder_sentOrder trace
    · simp [same, purchases, List.countP_replicate]
    · simp [same, purchases, List.countP_append, List.countP_replicate, Call.isOrder]
  · have unbought : purchases (sentRequests segment) = 0 := by
      rw [purchases, List.countP_eq_zero]
      intro request sent buys
      obtain ⟨_, reads | ⟨order, same, _⟩ | ⟨id, _, sale⟩⟩ := sent_serves trace sent
      · cases request <;> simp [Request.isReadOnly] at reads buys
      · exact orders ⟨order, same⟩
      · rw [sale] at buys
        cases buys
    exact unbought ▸ Nat.zero_le _

/-- A close sells its contract at most once, and no other call sells. -/
theorem soldContracts_segment (trace : Trace (serve conversions call) segment outcome) :
    (soldContracts (sentRequests segment)).Sublist ((closedId call).map contractIdOf).toList := by
  by_cases closes : ∃ id, call = .closePosition id
  · obtain ⟨id, rfl⟩ := closes
    rcases closePosition_sentSale trace with same | same
    · simp [same, soldContracts]
    · simp [same, soldContracts, closedId]
  · have none' : soldContracts (sentRequests segment) = [] := by
      refine List.filterMap_eq_nil_iff.mpr fun request sent => ?_
      obtain ⟨_, reads | ⟨order, _, sends⟩ | ⟨id, same, _⟩⟩ := sent_serves trace sent
      · cases request <;> simp [Request.isReadOnly] at reads ⊢
      · cases request <;> simp [OrderSends] at sends ⊢
      · exact absurd ⟨id, same⟩ closes
    rw [none']
    exact List.nil_sublist _

end segment

variable {upper : List CycleEvent} {front : List SystemEvent}

/-- No more is bought than orders have been sent. -/
theorem purchases_served (served : Served (serve conversions) upper front) :
    purchases (sentRequests front) ≤ upper.countP fun event => (orderOf event).isSome := by
  induction served with
  | nil => exact Nat.le_refl 0
  | @cons event segment rest events carried later ih =>
    have own := purchases_segment carried
    rw [sentRequests_append, purchases_append, List.countP_cons, isSome_orderOf]
    cases orders : event.call.isOrder <;> rw [orders] at own <;> simp at own ⊢ <;> omega

/-- What has been sold is what has been closed, as far as it was sent. -/
theorem soldContracts_served (served : Served (serve conversions) upper front) :
    (soldContracts (sentRequests front)).Sublist
      ((upper.filterMap fun event => closedId event.call).map contractIdOf) := by
  induction served with
  | nil => exact List.Sublist.refl _
  | @cons event segment rest events carried later ih =>
    have own := soldContracts_segment carried
    rw [sentRequests_append, soldContracts_append]
    cases closed : closedId event.call with
    | none =>
      rw [closed] at own
      rw [List.filterMap_cons_none (f := fun event : CycleEvent => closedId event.call) closed,
        List.sublist_nil.mp own]
      exact ih
    | some id =>
      rw [closed] at own
      rw [List.filterMap_cons_some (f := fun event : CycleEvent => closedId event.call) closed,
        List.map_cons]
      exact own.append ih

theorem Ledger.closing_ofEvents (events : List CycleEvent) :
    (Ledger.ofEvents events).closing = events.filterMap fun event => closedId event.call := by
  induction events using List.reverseRecOn with
  | nil => rfl
  | append_singleton events event ih =>
    have after : ∀ ledger : Ledger,
        (ledger.after event).closing = ledger.closing ++ (closedId event.call).toList := by
      intro ledger
      obtain ⟨call, reply⟩ := event
      cases call with
      | closePosition id => rfl
      | observe observation =>
        cases observation with
        | trueOpenBias timeframe _ _ _ _ => cases timeframe <;> exact (List.append_nil _).symm
        | _ => exact (List.append_nil _).symm
      | getSnapshot _ => rcases reply with _ | _ | _ <;> exact (List.append_nil _).symm
      | pausedFileExists | readPositions | listOpenPositions | readTrueOpen _ | getAccountEquity =>
        cases reply <;> exact (List.append_nil _).symm
      | _ => exact (List.append_nil _).symm
    rw [Ledger.ofEvents_append_singleton, after, ih, List.filterMap_append]
    cases closed : closedId event.call <;> simp [closed]

end serve

end Oboobot.Daemon
