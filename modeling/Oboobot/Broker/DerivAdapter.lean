import Oboobot.Interaction.Program
import Oboobot.Broker.Deriv
import Oboobot.Broker.DerivClient

/-! The Deriv adapter on the wire: requests, their retries, and the order methods. -/

namespace Oboobot.Broker

open Domain Interaction

inductive Request where
  | ticks (symbol : String)
  | proposalOpenContract (contractId : UInt64)
  | proposal (params : ProposalParams)
  | buy (proposalId : String) (price : ℚ)
  | sell (contractId : UInt64) (price : Nat)
  | balance
  | portfolio
  | ticksHistory (symbol : String) (start : Int)

/-- How the wait for a reply ends. -/
inductive Awaited where
  | elapsed
  | closed
  | message (response : Value)

inductive WireCall where
  | nextReqId
  | send (reqId : UInt64) (request : Request)
  | awaitReply (reqId : UInt64)
  | sleep (milliseconds : Nat)
  | utcNow
  | newUuid

@[reducible] def WireReply : WireCall → Type
  | .nextReqId => UInt64
  | .send _ _ => Except String Unit
  | .awaitReply _ => Awaited
  | .sleep _ => Unit
  | .utcNow => Instant
  | .newUuid => Uuid

abbrev Wire := Program WireCall WireReply BrokerError

abbrev WireEvent := Event WireCall WireReply

namespace Wire

abbrev perform (call : WireCall) : Wire (WireReply call) := Program.perform call

/-- `?` on the result of a call. -/
abbrev accepted {α : Type} : Except BrokerError α → Wire α := Program.ofExcept id

/-- `ok_or_else`: what is missing makes the response malformed. -/
def usable {α : Type} (found : Option α) (detail : String) : Wire α :=
  match found with
  | some value => .done value
  | none => .fail (.malformedResponse detail)

end Wire

open Wire

def outcomeOf : Awaited → Except BrokerError Value
  | .elapsed => .error (.timeout requestTimeoutMs)
  | .closed => .error channelClosed
  | .message response => ofResponse response

/-- Send a request once and wait for its response. -/
def call (request : Request) : Wire (Except BrokerError Value) := do
  let reqId ← perform .nextReqId
  match ← perform (.send reqId request) with
  | .error detail => return .error (.connectionFailed detail)
  | .ok () => return outcomeOf (← perform (.awaitReply reqId))

def isRetryable : BrokerError → Bool
  | .timeout _ | .connectionFailed _ | .rateLimited _ => true
  | _ => false

def maxAttempts : Nat := 4

/-- In milliseconds. Deriv's own hint counts; otherwise one second, doubled each
time, and at most thirty. -/
def backoffDelay (attempt : Nat) : BrokerError → Nat
  | .rateLimited retryAfterMs => retryAfterMs
  | _ => min (1000 * min (2 ^ attempt) (2 ^ 32 - 1)) 30000

/-- The loop of `call_with_retry`, with `attempt` attempts behind it. -/
def retryFrom (request : Request) (attempt : Nat) : Wire (Except BrokerError Value) := do
  match ← call request with
  | .ok response => return .ok response
  | .error error =>
    if final : attempt + 1 ≥ maxAttempts ∨ isRetryable error = false then return .error error
    else
      let _ ← perform (.sleep (backoffDelay attempt error))
      retryFrom request (attempt + 1)
termination_by maxAttempts - attempt

def callWithRetry (request : Request) : Wire (Except BrokerError Value) := retryFrom request 0

def proposalId (proposal : Value) : Option String :=
  ((proposal.get "proposal").bind fun p => p.get "id").bind Value.asStr

def askPrice (proposal : Value) : Option ℚ :=
  ((proposal.get "proposal").bind fun p => p.get "ask_price").bind Value.asF64

def boughtContractId (buyResponse : Value) : Option UInt64 :=
  ((buyResponse.get "buy").bind fun b => b.get "contract_id").bind Value.asU64

def buyPrice (buyResponse : Value) : Option ℚ :=
  ((buyResponse.get "buy").bind fun b => b.get "buy_price").bind Value.asF64

/-- The conversion of a float into a decimal is the decimal library's. -/
def submitOrder (tryFrom : ℚ → Option Decimal) (request : OrderRequest) : Wire Order := do
  let proposal ← accepted (← callWithRetry (.proposal (proposalParams request)))
  let proposalId ← usable (proposalId proposal) "proposal response had no usable id"
  let askPrice ← usable (askPrice proposal) "proposal response had no usable ask_price"
  let buyResponse ← accepted (← call (.buy proposalId askPrice))
  let contractId ← usable (boughtContractId buyResponse)
    "buy response had no usable contract_id"
  let buyPrice := (buyPrice buyResponse).getD askPrice
  let fillPrice ← usable (tryFrom buyPrice) "buy_price was not a finite number"
  let timestamp ← perform .utcNow
  let lastUpdate ← perform .utcNow
  return {
    orderId := request.orderId
    traceId := request.traceId
    signalId := request.signalId
    positionId := some (BitVec.ofNat 128 contractId.toNat)
    pair := request.pair
    side := request.side
    size := request.size
    filledSize := request.size
    price := fillPrice
    status := .filled
    timestamp
    lastUpdate }

/-- The contract that a position id encodes: `as_u128() as u64`. -/
def contractIdOf (positionId : Uuid) : UInt64 := UInt64.ofNat positionId.toNat

def closePosition (tryFrom : ℚ → Option Decimal) (positionId : Uuid) : Wire Order := do
  let contractId := contractIdOf positionId
  let response ← accepted (← call (.sell contractId 0))
  let sold ← usable (response.get "sell") "sell response had no usable sell field"
  let soldFor ← usable ((sold.get "sold_for").bind Value.asF64)
    "sell response had no usable sold_for"
  let price ← usable (tryFrom soldFor) "sold_for was not a finite number"
  let orderId ← perform .newUuid
  let traceId ← perform .newUuid
  let signalId ← perform .newUuid
  let timestamp ← perform .utcNow
  let lastUpdate ← perform .utcNow
  return {
    orderId
    traceId
    signalId
    positionId := some positionId
    pair := ""
    side := .sell
    size := 0
    filledSize := 0
    price
    status := .filled
    timestamp
    lastUpdate }

/-- Everything sent so far, and how each attempt that has ended came out. -/
structure WireLog where
  sent : List Request
  waiting : Option (UInt64 × Request)
  answered : List (Request × Except BrokerError Value)

namespace WireLog

def empty : WireLog where
  sent := []
  waiting := none
  answered := []

def after (log : WireLog) : WireEvent → WireLog
  | ⟨.send reqId request, .ok ()⟩ => { log with
      sent := log.sent ++ [request]
      waiting := some (reqId, request) }
  | ⟨.send _ request, .error detail⟩ => { log with
      sent := log.sent ++ [request]
      answered := log.answered ++ [(request, .error (.connectionFailed detail))] }
  | ⟨.awaitReply reqId, awaited⟩ =>
    match log.waiting with
    | some (other, request) =>
      if other = reqId then
        { log with waiting := none, answered := log.answered ++ [(request, outcomeOf awaited)] }
      else log
    | none => log
  | _ => log

def ofEvents (events : List WireEvent) : WireLog := events.foldl after empty

end WireLog

end Oboobot.Broker
