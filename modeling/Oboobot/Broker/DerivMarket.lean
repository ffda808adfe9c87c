import Oboobot.Broker.DerivPositions

/-! The market data and the balance of the Deriv adapter, and what each of its methods
may send. -/

namespace Oboobot.Broker

open Domain Interaction Wire

section market
variable (tryFrom : ℚ → Option Decimal)

def tickQuote (response : Value) : Option ℚ :=
  ((response.get "tick").bind fun t => t.get "quote").bind Value.asF64

/-- The current quote of a symbol. -/
def fetchTick (symbol : String) : Wire Decimal := do
  let response ← accepted (← callWithRetry (.ticks symbol))
  let quote ← usable (tickQuote response) ("no usable quote in tick response for " ++ symbol)
  usable (tryFrom quote) ("quote for " ++ symbol ++ " was not a finite number")

/-- One tick serves as bid and as ask, and no spread is reported. -/
def getSnapshot (pairs : List String) : Wire BrokerSnapshot := do
  let quotes ← pairs.foldlM (fun quotes pair => do
    let quote ← fetchTick tryFrom (toDerivSymbol pair)
    return quotes ++ [(pair, quote)]) []
  let snapshotId ← perform .newUuid
  let timestamp ← perform .utcNow
  return {
    snapshotId
    timestamp
    prices := .ofPairs (quotes.map fun (pair, quote) => (pair, { bid := quote, ask := quote }))
    spreads := .ofPairs (quotes.map fun (pair, _) => (pair, 0)) }

def balanceOf (response : Value) : Option ℚ :=
  ((response.get "balance").bind fun b => b.get "balance").bind Value.asF64

def getAccountEquity : Wire Usd := do
  let response ← accepted (← callWithRetry .balance)
  let balance ← usable (balanceOf response) "balance response had no usable balance field"
  let decimal ← usable (tryFrom balance) "balance was not a finite number"
  return .fromDecimal decimal

/-- `DateTime::timestamp`: whole seconds since the epoch, rounded down. -/
def timestampOf (now : Instant) : Int := now.fdiv (Duration.seconds 1)

def historyCandles (response : Value) : Option (List Value) :=
  (response.get "candles").bind Value.asArray

/-- Daily closes of the days before now, as candles report them. -/
def fetchHistoricalPrices (pair : String) (days : Nat) : Wire (List Decimal) := do
  let symbol := toDerivSymbol pair
  let now ← perform .utcNow
  let start := timestampOf now - days * 86400
  let response ← accepted (← callWithRetry (.ticksHistory symbol start))
  let candles ← usable (historyCandles response)
    "ticks_history response had no usable candles array"
  candles.foldlM (fun closes candle => do
    let close ← usable ((candle.get "close").bind Value.asF64) "a candle had no usable close price"
    let close ← usable (tryFrom close) "a candle's close price was not a finite number"
    return closes ++ [close]) []

end market

/-- Requests that change nothing at the broker. -/
def Request.isReadOnly : Request → Bool
  | .buy _ _ | .sell _ _ => false
  | _ => true

/-- What is sent is allowed. -/
def WireCall.Sends (allowed : Request → Prop) : WireCall → Prop
  | .send _ request => allowed request
  | _ => True

section sends
variable {allowed : Request → Prop} {request : Request} {α : Type}

theorem call_sends (permitted : allowed request) :
    (call request).Yields (WireCall.Sends allowed) fun _ => True := by
  unfold call
  rw [yields_bind, yields_perform]
  refine ⟨trivial, fun reqId => ?_⟩
  rw [yields_bind, yields_perform]
  refine ⟨permitted, fun sent => ?_⟩
  cases sent with
  | error detail => trivial
  | ok sent =>
    rw [yields_bind, yields_perform]
    exact ⟨trivial, fun _ => trivial⟩

theorem retryFrom_sends (permitted : allowed request) (attempt : Nat) :
    (retryFrom request attempt).Yields (WireCall.Sends allowed) fun _ => True := by
  rw [retryFrom, yields_bind]
  refine (call_sends permitted).weaken fun result _ => ?_
  cases result with
  | ok response => trivial
  | error failure =>
    dsimp only
    split
    · trivial
    · rw [yields_bind, yields_perform]
      exact ⟨trivial, fun _ => retryFrom_sends permitted (attempt + 1)⟩
termination_by maxAttempts - attempt

theorem callWithRetry_sends (permitted : allowed request) :
    (callWithRetry request).Yields (WireCall.Sends allowed) fun _ => True :=
  retryFrom_sends permitted 0

theorem usable_sends (found : Option α) (detail : String) :
    (usable found detail).Yields (WireCall.Sends allowed) fun _ => True := by
  cases found <;> trivial

/-- A read-only request, and what is made of its response. -/
theorem ask_sends {next : Value → Wire α} (permitted : allowed request)
    (rest : ∀ response, (next response).Yields (WireCall.Sends allowed) fun _ => True) :
    (callWithRetry request >>= fun reply => accepted reply >>= next).Yields
      (WireCall.Sends allowed) fun _ => True := by
  rw [yields_bind]
  refine (callWithRetry_sends permitted).weaken fun reply _ => ?_
  rw [yields_bind, yields_ofExcept]
  exact fun response _ => rest response

theorem usable_bind_sends {β : Type} {found : Option α} {detail : String} {next : α → Wire β}
    (rest : ∀ value, (next value).Yields (WireCall.Sends allowed) fun _ => True) :
    (usable found detail >>= next).Yields (WireCall.Sends allowed) fun _ => True := by
  rw [yields_bind]
  exact (usable_sends found detail).weaken fun value _ => rest value

end sends

section readOnly

/-- Only read-only requests are sent. -/
abbrev WireCall.IsReadOnly : WireCall → Prop := WireCall.Sends fun request => request.isReadOnly = true

variable {tryFrom : ℚ → Option Decimal} {parse : String → Option Decimal}
  {fromTimestamp : Int → Option Instant}

theorem fetchTick_readOnly (symbol : String) :
    (fetchTick tryFrom symbol).Yields WireCall.IsReadOnly fun _ => True := by
  unfold fetchTick
  exact ask_sends rfl fun response => usable_bind_sends fun quote => usable_sends _ _

theorem getSnapshot_readOnly (pairs : List String) :
    (getSnapshot tryFrom pairs).Yields WireCall.IsReadOnly fun _ => True := by
  unfold getSnapshot
  rw [yields_bind]
  refine (yields_foldlM (fun _ _ => True) ?_ [] trivial).weaken fun quotes _ => ?_
  · intro front pair back quotes _ _
    rw [yields_bind]
    exact (fetchTick_readOnly _).weaken fun _ _ => trivial
  · simp only [yields_bind, yields_perform, yields_pure]
    exact ⟨trivial, fun _ => ⟨trivial, fun _ => trivial⟩⟩

theorem getAccountEquity_readOnly :
    (getAccountEquity tryFrom).Yields WireCall.IsReadOnly fun _ => True := by
  unfold getAccountEquity
  exact ask_sends rfl fun response => usable_bind_sends fun balance => usable_bind_sends fun _ => trivial

theorem fetchHistoricalPrices_readOnly (pair : String) (days : Nat) :
    (fetchHistoricalPrices tryFrom pair days).Yields WireCall.IsReadOnly fun _ => True := by
  unfold fetchHistoricalPrices
  rw [yields_bind, yields_perform]
  refine ⟨trivial, fun now => ask_sends rfl fun response => usable_bind_sends fun candles => ?_⟩
  refine yields_foldlM (fun _ _ => True) ?_ [] trivial
  intro front candle back closes _ _
  exact usable_bind_sends fun close => usable_bind_sends fun _ => trivial

theorem decimalField_readOnly (detail : Value) (field : String) :
    (decimalField parse detail field).Yields WireCall.IsReadOnly fun _ => True := by
  unfold decimalField
  exact usable_bind_sends fun text => usable_sends _ _

theorem fetchOpenPosition_readOnly (contractId : UInt64) (pair : String) (direction : Direction) :
    (fetchOpenPosition parse fromTimestamp contractId pair direction).Yields WireCall.IsReadOnly
      fun _ => True := by
  have field {α : Type} (detail : Value) (name : String) (next : Decimal → Wire α)
      (rest : ∀ value, (next value).Yields WireCall.IsReadOnly fun _ => True) :
      (decimalField parse detail name >>= next).Yields WireCall.IsReadOnly fun _ => True := by
    rw [yields_bind]
    exact (decimalField_readOnly detail name).weaken fun value _ => rest value
  unfold fetchOpenPosition
  refine ask_sends rfl fun response => usable_bind_sends fun detail => ?_
  split
  · trivial
  · refine field _ _ _ fun _ => field _ _ _ fun _ => field _ _ _ fun _ => ?_
    refine usable_bind_sends fun time => usable_bind_sends fun entry => ?_
    simp only [yields_bind, yields_perform, yields_pure]
    exact ⟨trivial, fun _ => ⟨trivial, fun _ => ⟨trivial, fun _ => trivial⟩⟩⟩

theorem listOpenPositions_readOnly :
    (listOpenPositions parse fromTimestamp).Yields WireCall.IsReadOnly fun _ => True := by
  unfold listOpenPositions
  refine ask_sends rfl fun portfolio => usable_bind_sends fun contracts => ?_
  refine yields_foldlM (fun _ _ => True) ?_ [] trivial
  intro front entry back positions _ _
  unfold listEntry
  refine usable_bind_sends fun contract => ?_
  split
  · rw [yields_bind]
    exact (fetchOpenPosition_readOnly _ _ _).weaken fun _ _ => trivial
  · trivial

end readOnly

/-- What an order sends: its proposal, and the purchase. -/
def OrderSends (order : OrderRequest) : Request → Prop
  | .proposal params => params = proposalParams order
  | .buy _ _ => True
  | _ => False

theorem submitOrder_sends (tryFrom : ℚ → Option Decimal) (order : OrderRequest) :
    (submitOrder tryFrom order).Yields (WireCall.Sends (OrderSends order)) fun _ => True := by
  unfold submitOrder
  refine ask_sends rfl fun proposal => usable_bind_sends fun id => usable_bind_sends fun price => ?_
  rw [yields_bind]
  refine (call_sends trivial).weaken fun reply _ => ?_
  rw [yields_bind, yields_ofExcept]
  refine fun bought _ => usable_bind_sends fun contractId => usable_bind_sends fun fill => ?_
  simp only [yields_bind, yields_perform, yields_pure]
  exact ⟨trivial, fun _ => ⟨trivial, fun _ => trivial⟩⟩

/-- What a close sends: the sale of the contract. -/
def SaleSends (positionId : Uuid) (request : Request) : Prop :=
  request = .sell (contractIdOf positionId) 0

theorem closePosition_sends (tryFrom : ℚ → Option Decimal) (positionId : Uuid) :
    (closePosition tryFrom positionId).Yields (WireCall.Sends (SaleSends positionId))
      fun _ => True := by
  have permitted : SaleSends positionId (.sell (contractIdOf positionId) 0) := rfl
  unfold closePosition
  rw [yields_bind]
  refine (call_sends permitted).weaken fun reply _ => ?_
  rw [yields_bind, yields_ofExcept]
  refine fun response _ => usable_bind_sends fun sold => usable_bind_sends fun soldFor =>
    usable_bind_sends fun price => ?_
  simp only [yields_bind, yields_perform, yields_pure]
  exact ⟨trivial, fun _ => ⟨trivial, fun _ => ⟨trivial, fun _ => ⟨trivial, fun _ => ⟨trivial,
    fun _ => trivial⟩⟩⟩⟩⟩

end Oboobot.Broker
