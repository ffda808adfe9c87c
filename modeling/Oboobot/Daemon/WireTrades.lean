import Oboobot.Daemon.WireCycle

/-! What an invocation buys and sells at Deriv, whatever comes back on the wire and
wherever the invocation is cut short. -/

namespace Oboobot.Daemon

open Domain SessionTime Strategy Risk Broker Interaction

variable {platform : Platform} {divergence : DivergenceSource} {cli : Cli}

/-- How the list that the daemon goes by came about. -/
structure KnownFrom (events : List CycleEvent) : Prop where
  listing : ∀ listing, (Ledger.ofEvents events).listing = some listing →
    (⟨.listOpenPositions, .ok listing⟩ : CycleEvent) ∈ events
  observed : 0 < (Ledger.ofEvents events).reconciliations →
    (⟨.observe (.reconciled (Ledger.ofEvents events).known), ()⟩ : CycleEvent) ∈ events
  listed : 0 < (Ledger.ofEvents events).reconciliations → ∃ listing,
    (⟨.listOpenPositions, .ok listing⟩ : CycleEvent) ∈ events ∧
    ∀ id ∈ positionIds (Ledger.ofEvents events).known, id ∈ positionIds listing

/-- An event that leaves the list, the count and the latest listing alone. -/
theorem KnownFrom.keep {events : List CycleEvent} {event : CycleEvent} (so : KnownFrom events)
    (known : ((Ledger.ofEvents events).after event).known = (Ledger.ofEvents events).known)
    (count : ((Ledger.ofEvents events).after event).reconciliations =
      (Ledger.ofEvents events).reconciliations)
    (latest : ((Ledger.ofEvents events).after event).listing = (Ledger.ofEvents events).listing) :
    KnownFrom (events ++ [event]) := by
  constructor <;> rw [Ledger.ofEvents_append_singleton]
  · intro listing found
    exact List.mem_append_left _ (so.listing listing (latest ▸ found))
  · intro counted
    rw [known]
    exact List.mem_append_left _ (so.observed (count ▸ counted))
  · intro counted
    obtain ⟨listing, present, covers⟩ := so.listed (count ▸ counted)
    exact ⟨listing, List.mem_append_left _ present, known ▸ covers⟩

theorem knownFrom_of_trace {before back : List CycleEvent} {outcome : Outcome CycleError Unit}
    (trace : Trace (runRealCycle platform divergence cli) (before ++ back) outcome) :
    KnownFrom before := by
  induction before using List.reverseRecOn generalizing back with
  | nil =>
    constructor
    · intro listing found
      cases found
    · intro counted
      cases counted
    · intro counted
      cases counted
  | append_singleton before event ih =>
    rw [List.append_assoc, List.singleton_append] at trace
    have earlier := ih trace
    have promised := promised_of_trace trace
    rcases (Ledger.ofEvents before).after_positions event with ⟨file, rfl⟩ | ⟨records, rfl⟩ |
      ⟨listing, rfl⟩ | ⟨request, reply, rfl⟩ | ⟨positions, reply, rfl⟩ | same
    · exact earlier.keep rfl rfl rfl
    · have none' : (Ledger.ofEvents before).reconciliations = 0 := promised
      constructor <;> rw [Ledger.ofEvents_append_singleton]
      · intro listing found
        exact List.mem_append_left _ (earlier.listing listing found)
      · intro counted
        exact absurd none' (Nat.pos_iff_ne_zero.mp counted)
      · intro counted
        exact absurd none' (Nat.pos_iff_ne_zero.mp counted)
    · constructor <;> rw [Ledger.ofEvents_append_singleton]
      · intro other found
        cases found
        exact List.mem_append_right _ (List.mem_singleton_self _)
      · intro counted
        exact List.mem_append_left _ (earlier.observed counted)
      · intro counted
        obtain ⟨other, present, covers⟩ := earlier.listed counted
        exact ⟨other, List.mem_append_left _ present, covers⟩
    · exact earlier.keep rfl rfl rfl
    · obtain ⟨listing, latest, rfl⟩ := promised
      constructor <;> rw [Ledger.ofEvents_append_singleton]
      · intro other found
        exact List.mem_append_left _ (earlier.listing other found)
      · intro _
        exact List.mem_append_right _ (List.mem_singleton_self _)
      · intro _
        refine ⟨listing, List.mem_append_left _ (earlier.listing listing latest), ?_⟩
        intro id member
        exact (mem_positionIds_reconciled listing _ id).mp member
    · simp only [Ledger.positions, Prod.mk.injEq] at same
      exact earlier.keep same.2.2.1 same.2.2.2.1 same.2.2.2.2.1

/-- The configuration that the ledger holds was read in this invocation. -/
theorem config_read {events : List CycleEvent} {config : Config}
    (configured : (Ledger.ofEvents events).config = some config) :
    ∃ file, (⟨.readConfigFile, file⟩ : CycleEvent) ∈ events ∧ Config.load file = .ok config := by
  induction events using List.reverseRecOn with
  | nil => cases configured
  | append_singleton events event ih =>
    have earlier (same : ((Ledger.ofEvents events).after event).config =
        (Ledger.ofEvents events).config) : ∃ file,
          (⟨.readConfigFile, file⟩ : CycleEvent) ∈ events ++ [event] ∧
            Config.load file = .ok config := by
      rw [Ledger.ofEvents_append_singleton, same] at configured
      obtain ⟨file, present, loaded⟩ := ih configured
      exact ⟨file, List.mem_append_left _ present, loaded⟩
    rcases (Ledger.ofEvents events).after_positions event with ⟨file, rfl⟩ | ⟨records, rfl⟩ |
      ⟨listing, rfl⟩ | ⟨request, reply, rfl⟩ | ⟨positions, reply, rfl⟩ | same
    · refine ⟨file, List.mem_append_right _ (List.mem_singleton_self _), ?_⟩
      rw [Ledger.ofEvents_append_singleton] at configured
      have loaded : (Config.load file).toOption = some config := configured
      cases read : Config.load file with
      | error failure => simp [read, Except.toOption] at loaded
      | ok other => exact congrArg _ (by simpa [read, Except.toOption] using loaded)
    · exact earlier rfl
    · exact earlier rfl
    · exact earlier rfl
    · exact earlier rfl
    · exact earlier (congrArg Prod.fst same)

/-- An event observes a decision, or starts over, or leaves the pending evaluation alone. -/
theorem Ledger.after_sizing (ledger : Ledger) (event : CycleEvent) :
    (∃ sizing reply, event = ⟨.observe (.riskDecision sizing.signal sizing.config sizing.context
      sizing.decision), reply⟩ ∧ (ledger.after event).sizing = some sizing) ∨
    (ledger.after event).sizing = none ∨
    (event.call.isOrder = false ∧ (ledger.after event).sizing = ledger.sizing) := by
  obtain ⟨call, reply⟩ := event
  cases call with
  | submitOrder request => exact .inr (.inl rfl)
  | observe observation =>
    cases observation with
    | riskDecision signal config context decision =>
      exact .inl ⟨⟨signal, config, context, decision⟩, reply, rfl, rfl⟩
    | evaluating state => exact .inr (.inl rfl)
    | trueOpenBias timeframe _ _ _ _ => cases timeframe <;> exact .inr (.inr ⟨rfl, rfl⟩)
    | _ => exact .inr (.inr ⟨rfl, rfl⟩)
  | getSnapshot _ => rcases reply with _ | _ | _ <;> exact .inr (.inr ⟨rfl, rfl⟩)
  | pausedFileExists | readPositions | listOpenPositions | readTrueOpen _ | getAccountEquity =>
    cases reply <;> exact .inr (.inr ⟨rfl, rfl⟩)
  | _ => exact .inr (.inr ⟨rfl, rfl⟩)

/-- The evaluation that the ledger holds was made visible, and no order has been sent since. -/
theorem sizing_observed {events : List CycleEvent} {sizing : Sizing}
    (pending : (Ledger.ofEvents events).sizing = some sizing) :
    ∃ earlier later, events = earlier ++ ⟨.observe (.riskDecision sizing.signal sizing.config
      sizing.context sizing.decision), ()⟩ :: later ∧
      later.countP (fun event => (orderOf event).isSome) = 0 := by
  induction events using List.reverseRecOn with
  | nil => cases pending
  | append_singleton events event ih =>
    rw [Ledger.ofEvents_append_singleton] at pending
    rcases (Ledger.ofEvents events).after_sizing event with
      ⟨other, reply, rfl, observed⟩ | cleared | ⟨noOrder, kept⟩
    · obtain rfl : other = sizing := Option.some.inj (observed.symm.trans pending)
      exact ⟨events, [], rfl, rfl⟩
    · rw [cleared] at pending
      cases pending
    · obtain ⟨earlier, later, rfl, unordered⟩ := ih (kept ▸ pending)
      refine ⟨earlier, later ++ [event], by simp, ?_⟩
      rw [List.countP_append, unordered, List.countP_singleton, isSome_orderOf, noOrder]
      rfl

variable {conversions : Conversions}

/-- A call that goes to the host leaves itself in the run, between what was done before
it and after it. -/
theorem split_of_served {earlier later : List CycleEvent} {front : List SystemEvent} {call : Call}
    {reply : Reply call} (served : Served (serve conversions) (earlier ++ ⟨call, reply⟩ :: later) front)
    (hosted : serve conversions call = Program.perform (SystemCall.cycle call)) :
    ∃ before after, front = before ++ ⟨.cycle call, reply⟩ :: after ∧
      Served (serve conversions) later after := by
  obtain ⟨before, segment, after, rfl, _, carried, rest⟩ := served.split
  have carried : Trace (Program.perform (SystemCall.cycle call) : System (Reply call)) segment
      (.done reply) := hosted ▸ carried
  cases carried with
  | answered other ended =>
    cases ended
    exact ⟨before, after, by simp, rest⟩

theorem mem_of_served {upper : List CycleEvent} {front : List SystemEvent} {call : Call}
    {reply : Reply call} (served : Served (serve conversions) upper front)
    (hosted : serve conversions call = Program.perform (SystemCall.cycle call))
    (member : (⟨call, reply⟩ : CycleEvent) ∈ upper) :
    (⟨.cycle call, reply⟩ : SystemEvent) ∈ front := by
  obtain ⟨earlier, later, rfl⟩ := List.append_of_mem member
  obtain ⟨before, after, rfl, _⟩ := split_of_served served hosted
  exact List.mem_append_right _ List.mem_cons_self

/-- The portfolio lists the contract as one that an order could have opened, and it
was not sold when it was asked for. -/
def HeldOpen (log : WireLog) (contractId : UInt64) : Prop :=
  ∃ portfolio entries entry contract response, (Request.portfolio, portfolio) ∈ log.responses ∧
    portfolioEntries portfolio = some entries ∧ entry ∈ entries ∧
    portfolioContract entry = some contract ∧ contract.contractId = contractId ∧
    CouldHaveOpened contract ∧
    (Request.proposalOpenContract contractId, response) ∈ log.responses ∧ soldBy response = false

theorem exists_related_of_mem {Item Item' : Type} {related : Item → Item' → Prop} {items : List Item}
    {items' : List Item'} (all : List.Forall₂ related items items') {item' : Item'}
    (member : item' ∈ items') : ∃ item ∈ items, related item item' := by
  induction all with
  | nil => cases member
  | cons first rest ih =>
    rcases List.mem_cons.mp member with rfl | later
    · exact ⟨_, List.mem_cons_self, first⟩
    · obtain ⟨item, present, same⟩ := ih later
      exact ⟨item, List.mem_cons_of_mem _ present, same⟩

theorem heldOpen_of_listing {segment : List SystemEvent} {listing : List Position} {id : Uuid}
    (carried : Trace (serve conversions .listOpenPositions) segment (.done (.ok listing)))
    (member : id ∈ positionIds listing) : HeldOpen (wireLog segment) (contractIdOf id) := by
  obtain ⟨own, traced, finished⟩ := onWire_trace carried
  obtain rfl := finished listing rfl
  obtain ⟨portfolio, entries, contracts, details, readable, read, so⟩ :=
    listOpenPositions_meets.ends_done traced (steps_monitor _ _)
  obtain ⟨position, present, rfl⟩ := List.mem_map.mp member
  obtain ⟨asked, found, identified⟩ := exists_related_of_mem so.listed present
  obtain ⟨inDetails, unsold⟩ := List.mem_filter.mp found
  have own : asked.1 ∈ contracts.filter fun contract => CouldHaveOpened contract :=
    so.asked ▸ List.mem_map_of_mem inDetails
  obtain ⟨inContracts, opened⟩ := List.mem_filter.mp own
  have entry : some asked.1 ∈ entries.map portfolioContract := read ▸ List.mem_map_of_mem inContracts
  obtain ⟨entry, inEntries, same⟩ := List.mem_map.mp entry
  rw [identified.positionId, contractIdOf_ofNat]
  have responses : (wireLog segment).responses = _ := so.responses
  refine ⟨portfolio, entries, entry, asked.1, asked.2, ?_, readable, inEntries, same, rfl,
    of_decide_eq_true opened, ?_, by simpa using unsold⟩
  · rw [responses]
    exact List.mem_cons_self
  · rw [responses]
    exact List.mem_cons_of_mem _ (List.mem_map.mpr ⟨asked, inDetails, rfl⟩)

/-- Before a purchase: there are more pair-sets configured than purchases made so far, the
order is that of a decision in which the risk engine has approved it and which no other
purchase has used, and the proposal that Deriv has answered last is the order's. -/
structure Purchase (platform : Platform) (before : List SystemEvent) (id : String) (price : ℚ)
    (config : Config) (order : OrderRequest) : Prop where
  configured : ∃ file, (⟨.cycle .readConfigFile, file⟩ : SystemEvent) ∈ before ∧
    Config.load file = .ok config
  fewer : purchases (sentRequests before) < config.pairs.length
  pair : order.pair ∈ allSymbols config.pairs
  approved : ∃ earlier later signal context decision,
    before = earlier ++ ⟨.cycle (.observe (.riskDecision signal
      (riskConfig platform.conversion config) context decision)), ()⟩ :: later ∧
    purchases (sentRequests later) = 0 ∧ decision.approved = true ∧
    (∃ decisionId, DefaultRiskEngine.evaluate platform.conversion signal
      (riskConfig platform.conversion config) context decisionId = .ok decision) ∧
    ∃ snapshot orderId, order = orderRequest orderId snapshot signal decision
  offered : ∃ since response, since <:+ before ∧ (wireLog since).answered.getLast? =
      some (.proposal (proposalParams order), .ok response) ∧
    proposalId response = some id ∧ askPrice response = some price

/-- Before a sale: the portfolio of this invocation holds the contract, and the sales so
far and this one are of different entries of one list of positions. A list that names no
contract twice has not had this one sold yet. -/
structure Sale (before : List SystemEvent) (contractId : UInt64) : Prop where
  held : ∃ stretch, stretch <:+: before ∧ HeldOpen (wireLog stretch) contractId
  inTurn : ∃ positions, (⟨.cycle (.observe (.reconciled positions)), ()⟩ : SystemEvent) ∈ before ∧
    (soldContracts (sentRequests before) ++ [contractId]).Sublist
      ((positionIds positions).map contractIdOf) ∧
    (((positionIds positions).map contractIdOf).Nodup →
      contractId ∉ soldContracts (sentRequests before))

section located
variable {before front segment : List SystemEvent} {upper : List CycleEvent} {call : Call}

theorem purchase_of_located {reqId : UInt64} {id : String} {price : ℚ} {reply : Except String Unit}
    (located : Located (serve conversions) (runRealCycle platform divergence cli) before
      ⟨.wire (.send reqId (.buy id price)), reply⟩ upper call front segment) :
    ∃ config order, Purchase platform before id price config order := by
  have serves := serves_of_trace located.within ⟨.wire (.send reqId (.buy id price)), reply⟩
    (List.mem_append_right _ (List.mem_singleton_self _))
  obtain ⟨order, rfl⟩ : ∃ order, call = .submitOrder order := by
    rcases serves with reads | ⟨order, same, _⟩ | ⟨_, _, sale⟩
    · cases reads
    · exact ⟨order, same⟩
    · cases sale
  have trace := located.calls (.error (.rejected ""))
  obtain ⟨config, snapshot, now, state, sizing, orderId, sized, pending, approved, same⟩ :=
    promised_of_trace trace
  obtain ⟨file, read, loaded⟩ := config_read sized.trading.configured
  obtain ⟨earlier, evaluated, ordered⟩ := sized.inTurn.evaluated
  have configured := sized.inTurn.configured
  rw [evaluated] at configured
  have decided := sized.decision
  rw [sized.config_eq] at decided
  have own : sentRequests (segment ++ [⟨.wire (.send reqId (.buy id price)), reply⟩]) =
      sentRequests segment ++ [.buy id price] := sentRequests_append _ _
  have unbought : purchases (sentRequests segment) = 0 := by
    have once := purchases_segment located.within
    rw [own, purchases_append] at once
    simpa [purchases, Call.isOrder] using once
  refine ⟨config, order, ⟨file, ?_, loaded⟩, ?_, ?_, ?_, ?_⟩
  · rw [located.split]
    exact List.mem_append_left _ (mem_of_served located.served rfl read)
  · have few := purchases_served located.served
    rw [← length_ordered trace] at few
    rw [located.split, sentRequests_append, purchases_append, unbought]
    have shorter := ordered.length_le
    have inside := configured.length_le
    rw [List.length_append, List.length_singleton] at inside
    omega
  · obtain ⟨target, _, named⟩ := sized.gates.divergence
    have pair : order.pair = sizing.signal.pair := by rw [same]; rfl
    have member : state.pairConfig ∈ config.pairs := configured.subset (by simp)
    refine (mem_allSymbols_iff _ _).mpr ⟨state.pairConfig, member, ?_⟩
    rw [pair, named]
    cases target
    · exact .inl rfl
    · exact .inr rfl
  · obtain ⟨sofar, since, rfl, unordered⟩ := sizing_observed pending
    obtain ⟨earlier, later, rfl, rest⟩ := split_of_served located.served rfl
    refine ⟨earlier, later ++ segment, sizing.signal, sizing.context, sizing.decision, ?_, ?_,
      approved, decided, snapshot, orderId, same⟩
    · rw [located.split, ← sized.config_eq]
      simp
    · have few := purchases_served rest
      rw [sentRequests_append, purchases_append, unbought]
      omega
  · obtain ⟨own, traced, _⟩ := onWire_trace located.within
    rw [List.filterMap_append] at traced
    obtain ⟨response, answered, named, priced⟩ :=
      (buysOnce_of_trace traced).afterProposal _ reqId id price reply [] rfl
    exact ⟨segment, response, ⟨front, located.split.symm⟩, answered, named, priced⟩

theorem sale_of_located {reqId contractId : UInt64} {price : Nat} {reply : Except String Unit}
    (located : Located (serve conversions) (runRealCycle platform divergence cli) before
      ⟨.wire (.send reqId (.sell contractId price)), reply⟩ upper call front segment) :
    price = 0 ∧ Sale before contractId := by
  have serves := serves_of_trace located.within ⟨.wire (.send reqId (.sell contractId price)), reply⟩
    (List.mem_append_right _ (List.mem_singleton_self _))
  obtain ⟨id, rfl, sale⟩ : ∃ id, call = .closePosition id ∧
      Request.sell contractId price = .sell (contractIdOf id) 0 := by
    rcases serves with reads | ⟨order, _, sends⟩ | closes
    · cases reads
    · cases sends
    · exact closes
  cases sale
  have trace := located.calls (.error (.rejected ""))
  obtain ⟨reconciled, closing⟩ := promised_of_trace trace
  have known := knownFrom_of_trace trace
  have own : sentRequests (segment ++ [⟨.wire (.send reqId (.sell (contractIdOf id) 0)), reply⟩]) =
      sentRequests segment ++ [.sell (contractIdOf id) 0] := sentRequests_append _ _
  have unsold : soldContracts (sentRequests segment) = [] := by
    have once := (soldContracts_segment located.within).length_le
    rw [own, soldContracts_append, List.length_append] at once
    have last : (soldContracts [.sell (contractIdOf id) 0]).length = 1 := rfl
    have most : ((closedId (.closePosition id)).map contractIdOf).toList.length = 1 := rfl
    exact List.length_eq_zero_iff.mp (by omega)
  have inTurn : (soldContracts (sentRequests before) ++ [contractIdOf id]).Sublist
      ((positionIds (Ledger.ofEvents upper).known).map contractIdOf) := by
    rw [located.split, sentRequests_append, soldContracts_append, unsold, List.append_nil]
    have sold := soldContracts_served located.served
    rw [← Ledger.closing_ofEvents] at sold
    have all := closing.map contractIdOf
    rw [List.map_append] at all
    exact (sold.append_right [contractIdOf id]).trans all
  refine ⟨rfl, ?_, (Ledger.ofEvents upper).known, ?_, inTurn, fun distinct => ?_⟩
  · obtain ⟨listing, present, covers⟩ := known.listed reconciled
    have member : id ∈ positionIds (Ledger.ofEvents upper).known :=
      closing.subset (List.mem_append_right _ (List.mem_singleton_self _))
    obtain ⟨earlier, later, same⟩ := List.append_of_mem present
    obtain ⟨first, stretch, last, split, _, carried, _⟩ := (same ▸ located.served).split
    refine ⟨stretch, ⟨first, last ++ segment, ?_⟩, heldOpen_of_listing carried (covers id member)⟩
    rw [located.split, split]
    simp
  · rw [located.split]
    exact List.mem_append_left _ (mem_of_served located.served rfl (known.observed reconciled))
  · have once := distinct.sublist inTurn
    exact fun sold => (List.nodup_append.mp once).2.2 _ sold _ (List.mem_singleton_self _) rfl

end located

/-- Every purchase and every sale of an invocation, at the moment at which it is sent. -/
structure TradesInTurn (platform : Platform) (events : List SystemEvent) : Prop where
  purchase : ∀ before reqId id price reply back,
    events = before ++ ⟨.wire (.send reqId (.buy id price)), reply⟩ :: back →
      ∃ config order, Purchase platform before id price config order
  sale : ∀ before reqId contractId price reply back,
    events = before ++ ⟨.wire (.send reqId (.sell contractId price)), reply⟩ :: back →
      price = 0 ∧ Sale before contractId

/-- Whatever Deriv answers, whatever times out and wherever it is killed, an invocation
buys for approved orders only, once for each approval and at most as often as pair-sets are
configured, and sells nothing but contracts that Deriv has just listed, of those that an
order could have opened. -/
theorem wiredCycle_tradesInTurn {events : List SystemEvent} {outcome : Outcome CycleError Unit}
    (trace : Trace (wiredCycle conversions platform divergence cli) events outcome) :
    TradesInTurn platform events := by
  constructor
  · rintro before reqId id price reply back rfl
    obtain ⟨upper, call, front, segment, located⟩ := trace.located
    exact purchase_of_located located
  · rintro before reqId contractId price reply back rfl
    obtain ⟨upper, call, front, segment, located⟩ := trace.located
    exact sale_of_located located

/-- A host that is connected to Deriv. -/
structure WiredHost where
  host : Host
  replyTo : Request → Value
  log : WireLog

def WiredHost.answer (wired : WiredHost) : (call : SystemCall) → SystemReply call × WiredHost
  | .cycle call =>
    let (reply, host) := wired.host.answer call
    (reply, { wired with host := host })
  | .wire call =>
    let (reply, log) := answeringWire wired.replyTo wired.log call
    (reply, { wired with log := log })
  | .heartbeatElapsed => (false, wired)

def quoteReply (quote : ℚ) : Value := .object [("tick", .object [("quote", .number (.float quote))])]

/-- Deriv quotes both symbols, holds one contract on GBPUSD that is below its stop, and
sells what it is asked for. -/
def stoppedContract : Request → Value
  | .ticks symbol => quoteReply (if symbol = "frxEURUSD" then 1.1 else 1.25)
  | .portfolio => .object [("portfolio", .object [("contracts", .array [
      .object [("contract_id", .number (.posInt 77)), ("underlying_symbol", .string "frxGBPUSD"),
        ("contract_type", .string "MULTUP")]])])]
  | .proposalOpenContract _ => .object [("proposal_open_contract", .object [
      ("is_sold", .number (.posInt 0)), ("buy_price", .string "12.5"),
      ("bid_price", .string "12.5"), ("profit", .string "0"),
      ("limit_order", .object [("stop_loss", .object [("value", .string "1.255")])]),
      ("purchase_time", .number (.posInt 1700000000))])]
  | .proposal _ => .object [("proposal", .object [("id", .string "offer"),
      ("ask_price", .number (.float 12.5))])]
  | .buy _ _ => .object [("buy", .object [("contract_id", .number (.posInt 78))])]
  | .sell _ _ => .object [("sell", .object [("sold_for", .number (.float 12.5))])]
  | .balance => .object [("balance", .object [("balance", .number (.float 10000))])]
  | .ticksHistory _ _ => .object [("candles", .array [])]

def exactly : Conversions where
  tryFrom := some
  parse text := if text = "1.255" then some 1.255 else parseAmount text
  fromTimestamp seconds := some (Duration.seconds seconds)

def stoppedWire : WiredHost where
  host := Host.fresh .default .empty
  replyTo := stoppedContract
  log := .empty

/-- The contract is sold, and one other is bought. -/
theorem stoppedWire_tradesInTurn :
    let events := ((wiredCycle exactly .winter secondarySwept ⟨false⟩).play WiredHost.answer
      stoppedWire).1
    (purchases (sentRequests events), soldContracts (sentRequests events)) = (1, [77]) ∧
      TradesInTurn .winter events :=
  ⟨by decide +kernel, wiredCycle_tradesInTurn (Program.play_trace _ _ _)⟩

end Oboobot.Daemon
