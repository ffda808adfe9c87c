import Oboobot.Broker.DerivAdapter

/-! What a broker method can put on the wire: orders once, and read-only
requests a few times. -/

namespace Oboobot.Broker

open Domain Interaction

/-- Since `start`, this request has failed a few times, always for a reason to
try again. -/
def Retrying (request : Request) (start log : WireLog) : Prop :=
  ∃ failures : List BrokerError, failures.length < maxAttempts ∧
    (∀ failure ∈ failures, isRetryable failure = true) ∧
    log.sent = start.sent ++ List.replicate failures.length request ∧
    log.answered = start.answered ++ failures.map fun failure => (request, .error failure)

/-- Since `start`, this request has failed a few times for such a reason, and
then came out for good. -/
def Settled (request : Request) (start : WireLog) (result : Except BrokerError Value)
    (log : WireLog) : Prop :=
  ∃ failures : List BrokerError, failures.length < maxAttempts ∧
    (∀ failure ∈ failures, isRetryable failure = true) ∧
    log.sent = start.sent ++ List.replicate (failures.length + 1) request ∧
    log.answered = start.answered ++ (failures.map fun failure => (request, .error failure)) ++
      [(request, result)] ∧
    ∀ error, result = .error error → isRetryable error = true → failures.length + 1 = maxAttempts

theorem Retrying.refl (request : Request) (log : WireLog) : Retrying request log log :=
  ⟨[], by decide, by simp, by simp, by simp⟩

section calls

variable {promise : WireLog → WireCall → Prop} {request : Request} {start : WireLog}
  {failed : BrokerError → WireLog → Prop}

/-- Nothing is promised about the calls that send nothing. -/
def SendsOnly (promise : WireLog → WireCall → Prop) : Prop :=
  ∀ log call, (∀ reqId request, call ≠ .send reqId request) → promise log call

theorem call_meets {log : WireLog} (sendsOnly : SendsOnly promise)
    (allowed : ∀ reqId, promise log (.send reqId request)) :
    (call request).Meets (monitor WireLog.after promise) (fun result after =>
      after.sent = log.sent ++ [request] ∧ after.answered = log.answered ++ [(request, result)])
      failed log := by
  unfold call
  rw [meets_bind, meets_perform_monitor]
  refine ⟨sendsOnly _ _ (by simp), ?_⟩
  intro reqId
  rw [meets_bind, meets_perform_monitor]
  refine ⟨allowed reqId, ?_⟩
  intro sent
  cases sent with
  | error detail => exact ⟨rfl, rfl⟩
  | ok sent =>
    simp only [meets_bind, meets_perform_monitor, meets_pure]
    refine ⟨sendsOnly _ _ (by simp), ?_⟩
    intro awaited
    simp [WireLog.after]

theorem retryFrom_meets (sendsOnly : SendsOnly promise)
    (allowed : ∀ log reqId, Retrying request start log → promise log (.send reqId request))
    (failures : List BrokerError) {log : WireLog} (few : failures.length < maxAttempts)
    (retryable : ∀ failure ∈ failures, isRetryable failure = true)
    (sent : log.sent = start.sent ++ List.replicate failures.length request)
    (answered : log.answered = start.answered ++ failures.map fun failure => (request, .error failure)) :
    (retryFrom request failures.length).Meets (monitor WireLog.after promise)
      (Settled request start) failed log := by
  rw [retryFrom, meets_bind]
  have retrying : Retrying request start log := ⟨failures, few, retryable, sent, answered⟩
  apply (call_meets sendsOnly fun reqId => allowed log reqId retrying).weaken
  · intro result after ⟨sentNow, answeredNow⟩
    have sentAll : after.sent = start.sent ++ List.replicate (failures.length + 1) request := by
      rw [sentNow, sent, List.replicate_succ', List.append_assoc]
    have answeredAll : after.answered = start.answered ++
        (failures.map fun failure => (request, .error failure)) ++ [(request, result)] := by
      rw [answeredNow, answered]
    cases result with
    | ok response => exact ⟨failures, few, retryable, sentAll, answeredAll, nofun⟩
    | error error =>
      dsimp only
      split
      · rename_i final
        refine ⟨failures, few, retryable, sentAll, answeredAll, ?_⟩
        intro other same again
        cases same
        rcases final with out | not
        · omega
        · rw [not] at again
          cases again
      · rename_i more
        obtain ⟨left, again⟩ := not_or.mp more
        have again : isRetryable error = true := by simpa using again
        rw [meets_bind, meets_perform_monitor]
        refine ⟨sendsOnly _ _ (by simp), ?_⟩
        intro slept
        have next : (failures ++ [error]).length = failures.length + 1 := by simp
        rw [← next]
        apply retryFrom_meets sendsOnly allowed (failures ++ [error])
        · omega
        · intro failure member
          rcases List.mem_append.mp member with earlier | last
          · exact retryable failure earlier
          · cases List.mem_singleton.mp last
            exact again
        · rw [next]
          exact sentAll
        · rw [List.map_append, ← List.append_assoc]
          exact answeredAll
  · exact fun _ _ given => given
termination_by maxAttempts - failures.length

/-- A read-only request is only sent again after a failure worth retrying. -/
theorem callWithRetry_meets (sendsOnly : SendsOnly promise)
    (allowed : ∀ log reqId, Retrying request start log → promise log (.send reqId request)) :
    (callWithRetry request).Meets (monitor WireLog.after promise) (Settled request start) failed
      start :=
  retryFrom_meets sendsOnly allowed [] (by decide) (by simp) (by simp) (by simp)

end calls

theorem meets_usable {α World : Type} {contract : Contract WireCall WireReply World}
    {post : α → World → Prop} {failed : BrokerError → World → Prop} {world : World}
    (found : Option α) (detail : String) :
    (Wire.usable found detail).Meets contract post failed world ↔
      (∀ value, found = some value → post value world) ∧
        (found = none → failed (.malformedResponse detail) world) := by
  cases found <;> simp [Wire.usable]

/-- The request that a call sends. -/
def WireCall.request : WireCall → Option Request
  | .send _ request => some request
  | _ => none

theorem WireLog.after_sent (log : WireLog) (event : WireEvent) :
    (log.after event).sent = log.sent ++ event.call.request.toList := by
  obtain ⟨call, reply⟩ := event
  cases call with
  | send reqId request => cases reply <;> rfl
  | awaitReply reqId =>
    simp only [WireLog.after, WireCall.request]
    split
    · split <;> simp
    · simp
  | _ => simp [WireLog.after, WireCall.request]

theorem WireLog.ofEvents_append_singleton (before : List WireEvent) (event : WireEvent) :
    WireLog.ofEvents (before ++ [event]) = (WireLog.ofEvents before).after event := by
  simp [WireLog.ofEvents]

section orders

variable {tryFrom : ℚ → Option Decimal}

/-- A proposal is sent until it is answered; what it offers is then bought. -/
def BuyAllowed (order : OrderRequest) (log : WireLog) : WireCall → Prop
  | .send _ request =>
    request = .proposal (proposalParams order) ∧
        Retrying (.proposal (proposalParams order)) .empty log ∨
      ∃ response id price, Settled (.proposal (proposalParams order)) .empty (.ok response) log ∧
        proposalId response = some id ∧ askPrice response = some price ∧ request = .buy id price
  | _ => True

def SellAllowed (positionId : Uuid) (log : WireLog) : WireCall → Prop
  | .send _ request => request = .sell (contractIdOf positionId) 0 ∧ log.sent = []
  | _ => True

def RetryAllowed (request : Request) (log : WireLog) : WireCall → Prop
  | .send _ other => other = request ∧ Retrying request .empty log
  | _ => True

theorem sendsOnly_buyAllowed (order : OrderRequest) : SendsOnly (BuyAllowed order) := by
  intro log call other
  cases call with
  | send reqId request => exact absurd rfl (other reqId request)
  | _ => trivial

theorem sendsOnly_sellAllowed (positionId : Uuid) : SendsOnly (SellAllowed positionId) := by
  intro log call other
  cases call with
  | send reqId request => exact absurd rfl (other reqId request)
  | _ => trivial

theorem sendsOnly_retryAllowed (request : Request) : SendsOnly (RetryAllowed request) := by
  intro log call other
  cases call with
  | send reqId request => exact absurd rfl (other reqId request)
  | _ => trivial

theorem submitOrder_meets (order : OrderRequest) :
    (submitOrder tryFrom order).Meets (monitor WireLog.after (BuyAllowed order))
      (fun _ _ => True) (fun _ _ => True) .empty := by
  unfold submitOrder
  rw [meets_bind]
  apply (callWithRetry_meets (sendsOnly_buyAllowed order)
    fun log reqId retrying => .inl ⟨rfl, retrying⟩).weaken
  · intro result log settled
    rw [meets_bind, meets_ofExcept]
    refine ⟨?_, fun _ _ => trivial⟩
    intro response same
    subst same
    rw [meets_bind, meets_usable]
    refine ⟨?_, fun _ => trivial⟩
    intro id named
    rw [meets_bind, meets_usable]
    refine ⟨?_, fun _ => trivial⟩
    intro price priced
    rw [meets_bind]
    apply (call_meets (sendsOnly_buyAllowed order)
      fun reqId => .inr ⟨response, id, price, settled, named, priced, rfl⟩).weaken
    · intro bought after _
      simp [meets_usable, monitor, BuyAllowed]
    · exact fun _ _ given => given
  · exact fun _ _ given => given

theorem closePosition_meets (positionId : Uuid) :
    (closePosition tryFrom positionId).Meets (monitor WireLog.after (SellAllowed positionId))
      (fun _ _ => True) (fun _ _ => True) .empty := by
  unfold closePosition
  rw [meets_bind]
  apply (call_meets (sendsOnly_sellAllowed positionId) fun reqId => ⟨rfl, rfl⟩).weaken
  · intro sold after _
    simp [meets_usable, monitor, SellAllowed]
  · exact fun _ _ given => given

end orders

/-- At most four proposals, then at most one purchase. -/
def SentOrder (order : OrderRequest) (sent : List Request) : Prop :=
  ∃ attempts ≤ maxAttempts,
    sent = List.replicate attempts (.proposal (proposalParams order)) ∨
    ∃ id price, sent = List.replicate attempts (.proposal (proposalParams order)) ++ [.buy id price]

/-- Nothing but one sale of that contract. -/
def SentSale (positionId : Uuid) (sent : List Request) : Prop :=
  sent = [] ∨ sent = [.sell (contractIdOf positionId) 0]

/-- The same request, at most four times. -/
def SentTries (request : Request) (sent : List Request) : Prop :=
  ∃ attempts ≤ maxAttempts, sent = List.replicate attempts request

theorem Retrying.sent_empty {request : Request} {log : WireLog}
    (retrying : Retrying request .empty log) :
    ∃ attempts, attempts + 1 ≤ maxAttempts ∧ log.sent = List.replicate attempts request := by
  obtain ⟨failures, few, _, sent, _⟩ := retrying
  exact ⟨failures.length, few, sent⟩

theorem sentOrder_after {order : OrderRequest} {log : WireLog} {event : WireEvent}
    (so : SentOrder order log.sent) (allowed : BuyAllowed order log event.call) :
    SentOrder order (log.after event).sent := by
  rw [WireLog.after_sent]
  obtain ⟨call, reply⟩ := event
  cases call with
  | send reqId request =>
    rcases allowed with ⟨same, retrying⟩ | ⟨response, id, price, settled, _, _, same⟩
    · obtain ⟨attempts, few, sent⟩ := retrying.sent_empty
      refine ⟨attempts + 1, few, .inl ?_⟩
      rw [sent, same, List.replicate_succ']
      rfl
    · obtain ⟨failures, few, _, sent, _⟩ := settled
      refine ⟨failures.length + 1, few, .inr ⟨id, price, ?_⟩⟩
      rw [sent, same]
      rfl
  | _ => simpa [WireCall.request] using so

theorem sentSale_after {positionId : Uuid} {log : WireLog} {event : WireEvent}
    (so : SentSale positionId log.sent) (allowed : SellAllowed positionId log event.call) :
    SentSale positionId (log.after event).sent := by
  rw [WireLog.after_sent]
  obtain ⟨call, reply⟩ := event
  cases call with
  | send reqId request =>
    obtain ⟨same, none⟩ := allowed
    right
    rw [none, same]
    rfl
  | _ => simpa [WireCall.request] using so

theorem sentTries_after {request : Request} {log : WireLog} {event : WireEvent}
    (so : SentTries request log.sent) (allowed : RetryAllowed request log event.call) :
    SentTries request (log.after event).sent := by
  rw [WireLog.after_sent]
  obtain ⟨call, reply⟩ := event
  cases call with
  | send reqId other =>
    obtain ⟨same, retrying⟩ := allowed
    obtain ⟨attempts, few, sent⟩ := retrying.sent_empty
    refine ⟨attempts + 1, few, ?_⟩
    rw [sent, same, List.replicate_succ']
    rfl
  | _ => simpa [WireCall.request] using so

/-- An order is bought at most once: the proposal that a well-formed reply has
just named, at its ask price. -/
structure BuysOnce (order : OrderRequest) (events : List WireEvent) : Prop where
  sent : SentOrder order (WireLog.ofEvents events).sent
  afterProposal : ∀ before reqId id price reply back,
    events = before ++ ⟨.send reqId (.buy id price), reply⟩ :: back → ∃ response,
      (WireLog.ofEvents before).answered.getLast? =
        some (.proposal (proposalParams order), .ok response) ∧
      proposalId response = some id ∧ askPrice response = some price

/-- The request is sent at most four times, again only after failures worth
retrying, and the outcome of the last attempt is returned. Nothing else is. -/
structure RetriesSafely (request : Request) (events : List WireEvent)
    (outcome : Outcome BrokerError (Except BrokerError Value)) : Prop where
  sent : SentTries request (WireLog.ofEvents events).sent
  again : ∀ before reqId other reply back,
    events = before ++ ⟨.send reqId other, reply⟩ :: back →
      Retrying request .empty (WireLog.ofEvents before)
  returns : ∀ result, outcome = .done result →
    Settled request .empty result (WireLog.ofEvents events)
  onlyReturns : ∀ failure, outcome ≠ .failed failure

theorem buysOnce_of_trace {tryFrom : ℚ → Option Decimal} {order : OrderRequest}
    {events : List WireEvent} {outcome : Outcome BrokerError Order}
    (trace : Trace (submitOrder tryFrom order) events outcome) : BuysOnce order events := by
  have meets : (submitOrder tryFrom order).Meets (monitor WireLog.after (BuyAllowed order))
    (fun _ _ => True) (fun _ _ => True) .empty := submitOrder_meets order
  constructor
  · apply meets.kept (fun log => SentOrder order log.sent)
    · rintro log event after sent allowed rfl
      exact sentOrder_after sent allowed
    · exact ⟨0, Nat.zero_le _, .inl rfl⟩
    · exact trace
    · exact steps_monitor events _
  · intro before reqId id price reply back same
    subst same
    rcases meets.promised_after trace with ⟨same, _⟩ | ⟨response, _, _, settled, named, priced, same⟩
    · cases same
    · cases same
      obtain ⟨failures, _, _, _, answered, _⟩ := settled
      refine ⟨response, ?_, named, priced⟩
      unfold WireLog.ofEvents
      rw [answered, List.getLast?_concat]

theorem sentSale_of_trace {tryFrom : ℚ → Option Decimal} {positionId : Uuid}
    {events : List WireEvent} {outcome : Outcome BrokerError Order}
    (trace : Trace (closePosition tryFrom positionId) events outcome) :
    SentSale positionId (WireLog.ofEvents events).sent := by
  apply (closePosition_meets positionId).kept (fun log => SentSale positionId log.sent)
  · rintro log event after sent allowed rfl
    exact sentSale_after sent allowed
  · exact .inl rfl
  · exact trace
  · exact steps_monitor events _

theorem retriesSafely_of_trace {request : Request} {events : List WireEvent}
    {outcome : Outcome BrokerError (Except BrokerError Value)}
    (trace : Trace (callWithRetry request) events outcome) :
    RetriesSafely request events outcome := by
  have meets : (callWithRetry request).Meets (monitor WireLog.after (RetryAllowed request))
      (Settled request .empty) (fun _ _ => False) .empty :=
    callWithRetry_meets (sendsOnly_retryAllowed request) fun log reqId retrying => ⟨rfl, retrying⟩
  constructor
  · apply meets.kept (fun log => SentTries request log.sent)
    · rintro log event after sent allowed rfl
      exact sentTries_after sent allowed
    · exact ⟨0, Nat.zero_le _, rfl⟩
    · exact trace
    · exact steps_monitor events _
  · intro before reqId other reply back same
    subst same
    exact (meets.promised_after trace).2
  · intro result same
    subst same
    exact meets.ends_done trace (steps_monitor events _)
  · rintro failure rfl
    exact meets.ends trace (steps_monitor events _)

/-- Whatever the socket does: an order is bought once, a position sold once, and
only read-only requests are repeated. -/
theorem orders_sent_once (tryFrom : ℚ → Option Decimal) :
    (∀ order events outcome, Trace (submitOrder tryFrom order) events outcome →
      BuysOnce order events) ∧
    (∀ positionId events outcome, Trace (closePosition tryFrom positionId) events outcome →
      SentSale positionId (WireLog.ofEvents events).sent) ∧
    ∀ request events outcome, Trace (callWithRetry request) events outcome →
      RetriesSafely request events outcome :=
  ⟨fun _ _ _ => buysOnce_of_trace, fun _ _ _ => sentSale_of_trace,
    fun _ _ _ => retriesSafely_of_trace⟩

/-- A socket that offers proposal `p1` for 12.5 and confirms every purchase. -/
def offeringSocket (sent : Option Request) : (call : WireCall) → WireReply call × Option Request
  | .nextReqId => (1, sent)
  | .send _ request => (.ok (), some request)
  | .awaitReply _ =>
    (.message (.object [
      ("proposal", .object [("id", .string "p1"), ("ask_price", .number (.float 12.5))]),
      ("buy", .object [("contract_id", .number (.posInt 77))])]), sent)
  | .sleep _ => ((), sent)
  | .utcNow => (0, sent)
  | .newUuid => (0, sent)

def smallOrder : OrderRequest where
  orderId := 1
  traceId := 2
  signalId := 3
  pair := "EURUSD"
  side := .buy
  size := 12.5
  orderType := .market
  price := none
  stopLoss := none
  takeProfit := none
  confirmingSnapshotId := 4

theorem smallOrder_sent_once :
    BuysOnce smallOrder ((submitOrder some smallOrder).play offeringSocket none).1 ∧
    SentSale 77 (WireLog.ofEvents ((closePosition some 77).play offeringSocket none).1).sent ∧
    RetriesSafely .balance ((callWithRetry .balance).play offeringSocket none).1
      ((callWithRetry .balance).play offeringSocket none).2.1 := by
  obtain ⟨buys, sells, retries⟩ := orders_sent_once some
  exact ⟨buys smallOrder _ _ (Program.play_trace offeringSocket _ none),
    sells 77 _ _ (Program.play_trace offeringSocket _ none),
    retries .balance _ _ (Program.play_trace offeringSocket _ none)⟩

end Oboobot.Broker
