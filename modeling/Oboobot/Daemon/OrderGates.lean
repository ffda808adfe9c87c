import Oboobot.Daemon.CycleContract
import Oboobot.Daemon.Host
import Mathlib.Data.List.Induction

/-! Every order of an invocation has passed every gate, and no pair-set sends two. -/

namespace Oboobot.Daemon

open Domain SessionTime Strategy Risk Broker Interaction

variable {platform : Platform} {divergence : DivergenceSource} {cli : Cli}

/-- The request carries the signal's pair and side, and the decision's size, stop and target. -/
structure Carries (request : OrderRequest) (signal : TradeSignal) (decision : RiskDecision) :
    Prop where
  pair : request.pair = signal.pair
  side : request.side = signal.direction
  size : request.size = decision.positionSize
  stopLoss : request.stopLoss = some decision.stopLoss
  takeProfit : request.takeProfit = some decision.takeProfit

theorem carries_orderRequest (orderId : Uuid) (snapshot : BrokerSnapshot) (signal : TradeSignal)
    (decision : RiskDecision) :
    Carries (orderRequest orderId snapshot signal decision) signal decision :=
  ⟨rfl, rfl, rfl, rfl, rfl⟩

namespace Ledger

theorem after_config (ledger : Ledger) (event : CycleEvent) :
    (ledger.after event).config = ledger.config ∨
      ∃ file, (ledger.after event).config = (Config.load file).toOption := by
  rcases ledger.after_positions event with ⟨file, rfl⟩ | ⟨_, rfl⟩ | ⟨_, rfl⟩ | ⟨_, _, rfl⟩ |
    ⟨_, _, rfl⟩ | same
  · exact .inr ⟨file, rfl⟩
  · exact .inl rfl
  · exact .inl rfl
  · exact .inl rfl
  · exact .inl rfl
  · exact .inl (congrArg Prod.fst same)

/-- The configuration in the ledger is one that loaded. -/
theorem config_loaded {events : List CycleEvent} {config : Config}
    (configured : (ofEvents events).config = some config) :
    ∃ file, Config.load file = .ok config := by
  induction events using List.reverseRecOn with
  | nil => cases configured
  | append_singleton events event ih =>
    rw [ofEvents_append_singleton] at configured
    rcases after_config (ofEvents events) event with same | ⟨file, same⟩
    · exact ih (same.symm.trans configured)
    · rw [same] at configured
      cases loaded : Config.load file with
      | error failure => simp [loaded, Except.toOption] at configured
      | ok other =>
        simp only [loaded, Except.toOption, Option.some.injEq] at configured
        exact ⟨file, configured ▸ loaded⟩

/-- Only an order adds to the ordered pair-sets: the pair-set being evaluated. -/
theorem after_ordered (ledger : Ledger) (event : CycleEvent) :
    (ledger.after event).ordered = if (orderOf event).isSome then
        ledger.ordered ++ (ledger.evaluating.map PairCycleState.pairConfig).toList
      else ledger.ordered := by
  rcases ledger.after_trade event with ⟨_, rfl⟩ | ⟨_, _, rfl⟩ | ⟨_, _, rfl⟩ | ⟨noOrder, _, _, same⟩
  · rfl
  · rfl
  · rfl
  · rw [noOrder, same]
    rfl

end Ledger

/-- As many pair-sets are ordered as orders have been sent. -/
theorem length_ordered {before back : List CycleEvent} {outcome : Outcome CycleError Unit}
    (trace : Trace (runRealCycle platform divergence cli) (before ++ back) outcome) :
    (Ledger.ofEvents before).ordered.length =
      before.countP fun event => (orderOf event).isSome := by
  induction before using List.reverseRecOn generalizing back with
  | nil => rfl
  | append_singleton before event ih =>
    rw [List.append_assoc, List.singleton_append] at trace
    have earlier := ih trace
    rw [Ledger.ofEvents_append_singleton, Ledger.after_ordered, List.countP_append,
      List.countP_singleton]
    cases sends : orderOf event with
    | none => simpa using earlier
    | some request =>
      obtain ⟨reply, rfl⟩ := eq_of_orderOf sends
      obtain ⟨_, _, _, state, _, _, sized, _⟩ := promised_of_trace trace
      simp [sized.gates.evaluating, earlier]

/-- The events before an order show every gate passed for the pair-set under
evaluation, and no order of that pair-set. -/
def OrderGated (platform : Platform) (cli : Cli) (before : List CycleEvent)
    (request : OrderRequest) : Prop :=
  ∃ config snapshot now state sizing,
    Sized platform cli (.ofEvents before) config snapshot now state sizing ∧
    (Ledger.ofEvents before).sizing = some sizing ∧ sizing.decision.approved = true ∧
    Carries request sizing.signal sizing.decision ∧
    ((Ledger.ofEvents before).ordered ++ [state.pairConfig]).Nodup ∧
    ((Ledger.ofEvents before).ordered ++ [state.pairConfig]).Sublist config.pairs ∧
    (Ledger.ofEvents before).ordered.length = before.countP fun event => (orderOf event).isSome

/-- Every order of an invocation has passed every gate, and no pair-set sends two. -/
theorem submitOrder_gated {before back : List CycleEvent} {request : OrderRequest}
    {reply : Reply (.submitOrder request)} {outcome : Outcome CycleError Unit}
    (trace : Trace (runRealCycle platform divergence cli)
      (before ++ ⟨.submitOrder request, reply⟩ :: back) outcome) :
    OrderGated platform cli before request := by
  obtain ⟨config, snapshot, now, state, sizing, orderId, sized, pending, approved, rfl⟩ :=
    promised_of_trace trace
  obtain ⟨earlier, evaluated, ordered⟩ := sized.inTurn.evaluated
  have inConfig : ((Ledger.ofEvents before).ordered ++ [state.pairConfig]).Sublist config.pairs :=
    (evaluated ▸ ordered.append (.refl [state.pairConfig])).trans sized.inTurn.configured.sublist
  obtain ⟨file, loaded⟩ := Ledger.config_loaded sized.trading.configured
  exact ⟨config, snapshot, now, state, sizing, sized, pending, approved,
    carries_orderRequest orderId snapshot sizing.signal sizing.decision,
    (Config.nodup_of_load loaded).sublist inConfig, inConfig, length_ordered trace⟩

/-- On a fresh host a swept secondary leads to an order. -/
theorem fresh_order_gated : ∃ before request, OrderGated .winter ⟨false⟩ before request := by
  let host := Host.fresh .default (quotedAt [("EURUSD", 1.10), ("GBPUSD", 1.20)])
  have trace := (runRealCycle .winter secondarySwept ⟨false⟩).play_trace Host.answer host
  have ordered : ∃ event ∈ ((runRealCycle .winter secondarySwept ⟨false⟩).play Host.answer host).1,
      (orderOf event).isSome := by decide +kernel
  obtain ⟨event, member, sends⟩ := ordered
  obtain ⟨request, found⟩ := Option.isSome_iff_exists.mp sends
  obtain ⟨reply, rfl⟩ := eq_of_orderOf found
  obtain ⟨before, back, same⟩ := List.append_of_mem member
  rw [same] at trace
  exact ⟨before, request, submitOrder_gated trace⟩

end Oboobot.Daemon
