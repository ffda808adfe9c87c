import Oboobot.Daemon.ArrivedSnapshot
import Oboobot.Daemon.StatusReports
import Oboobot.Daemon.OpenedPositions

/-! Whether the snapshot of a cycle covers the positions that its exit sweep watches. -/

namespace Oboobot.Daemon

open Domain SessionTime Strategy Interaction Daemon.Cycle

/-- The snapshot has a quote of every symbol it was requested for. -/
def QuotesAll (snapshot : BrokerSnapshot) (symbols : List String) : Prop :=
  ∀ symbol ∈ symbols, (snapshot.prices symbol).isSome

/-- The pair of every open position is among the requested symbols. -/
def Covers (symbols : List String) (openPositions : List Position) : Prop :=
  ∀ position ∈ openPositions, position.pair ∈ symbols

/-- Every open position has a live quote, and a sweep flags it once the quote has
reached its stop or its target. -/
def Watches (snapshot : BrokerSnapshot) (openPositions : List Position) : Prop :=
  ∀ position ∈ openPositions, ∃ quote, snapshot.prices position.pair = some quote ∧
    ∀ reason, riskRewardExit position quote.bid = some reason →
      ∀ now states, { positionId := position.positionId, reason } ∈
        flaggedExits snapshot now states openPositions

/-- A close has been requested for every position whose stop or target is reached. -/
def ClosesReached (snapshot : BrokerSnapshot) (openPositions : List Position)
    (events : List CycleEvent) : Prop :=
  ∀ position ∈ openPositions, ∀ quote ∈ snapshot.prices position.pair,
    (riskRewardExit position quote.bid).isSome →
      ∃ reply, ⟨.closePosition position.positionId, reply⟩ ∈ events

section sweep

variable {snapshot : BrokerSnapshot} {openPositions : List Position} {position : Position}
  {quote : PriceQuote} {reason : ExitReason}

/-- A reached stop or target is flagged whatever the divergences and the news say. -/
theorem mem_flaggedExits_of_reached (member : position ∈ openPositions)
    (quoted : snapshot.prices position.pair = some quote)
    (reached : riskRewardExit position quote.bid = some reason) (now : Instant)
    (states : List PairCycleState) :
    { positionId := position.positionId, reason } ∈
      flaggedExits snapshot now states openPositions :=
  List.mem_filterMap.mpr ⟨position, member, by simp [exitDecision, quoted, reached]⟩

theorem watches_of_covers {symbols : List String} (covers : Covers symbols openPositions)
    (quotes : QuotesAll snapshot symbols) : Watches snapshot openPositions := by
  intro position member
  obtain ⟨quote, quoted⟩ := Option.isSome_iff_exists.mp (quotes _ (covers position member))
  exact ⟨quote, quoted, fun _ reached => mem_flaggedExits_of_reached member quoted reached⟩

variable {platform : Platform} {divergence : DivergenceSource} {cli : Cli}

theorem closeFlagged_ensures (config : Config) (openPositions : List Position) (exit : ExitDecision) :
    (closeFlagged config openPositions exit).Ensures fun event =>
      ∃ reply, event = ⟨.closePosition exit.positionId, reply⟩ :=
  (ensures_perform fun reply => ⟨reply, rfl⟩).bind

theorem exitSweep_ensures (config : Config) {now : Instant} {states : List PairCycleState}
    {exit : ExitDecision} (flagged : exit ∈ flaggedExits snapshot now states openPositions) :
    (exitSweep config snapshot now states openPositions).Ensures fun event =>
      ∃ reply, event = ⟨.closePosition exit.positionId, reply⟩ :=
  (ensures_foldlM flagged (fun _ => closeFlagged_ensures config openPositions exit) ()).bind

theorem tradeOnSnapshot_ensures_close (config : Config) (health : HealthMonitor)
    (member : position ∈ openPositions) (quoted : snapshot.prices position.pair = some quote)
    (reached : riskRewardExit position quote.bid = some reason) :
    (tradeOnSnapshot platform divergence cli config snapshot health openPositions).Ensures
      fun event => ∃ reply, event = ⟨.closePosition position.positionId, reply⟩ := by
  unfold tradeOnSnapshot
  refine ensures_bind_right fun now => ensures_bind_right fun health => ?_
  refine ensures_bind_right fun _ => ensures_bind_right fun readings => Program.Ensures.bind ?_
  exact exitSweep_ensures config (mem_flaggedExits_of_reached member quoted reached now _)

end sweep

variable {platform : Platform} {divergence : DivergenceSource} {cli : Cli}
  {before back : List CycleEvent} {symbols : List String} {outcome : Outcome CycleError Unit}

theorem closesReached_of_trace {snapshot : BrokerSnapshot}
    (trace : Trace (runRealCycle platform divergence cli)
      (before ++ ⟨.getSnapshot symbols, some (.ok snapshot)⟩ :: back) (.done ())) :
    ClosesReached snapshot (Journal.ofEvents before).known back := by
  obtain ⟨config, health, _, trades⟩ := trade_after_snapshot trace
  intro position member quote quoted reached
  obtain ⟨reason, reached⟩ := Option.isSome_iff_exists.mp reached
  obtain ⟨event, occurs, reply, rfl⟩ :=
    tradeOnSnapshot_ensures_close config health member quoted reached _ _ trades
  exact ⟨reply, occurs⟩

/-- The pair of every open position belongs to some configured pair-set. -/
def Configured (config : Config) (openPositions : List Position) : Prop :=
  ∀ position ∈ openPositions, ∃ pairConfig ∈ config.pairs,
    position.pair = pairConfig.primary ∨ position.pair = pairConfig.secondary

/-- The symbols that an event requests a snapshot of. -/
def askedFor : CycleEvent → Option (List String)
  | ⟨.getSnapshot symbols, _⟩ => some symbols
  | _ => none

theorem eq_of_askedFor {event : CycleEvent} (asks : askedFor event = some symbols) :
    ∃ reply, event = ⟨.getSnapshot symbols, reply⟩ := by
  unfold askedFor at asks
  split at asks
  · cases asks
    exact ⟨_, rfl⟩
  · cases asks

instance (symbols : List String) (openPositions : List Position) :
    Decidable (Covers symbols openPositions) :=
  inferInstanceAs (Decidable (∀ position ∈ openPositions, _))

/-- A position on USDJPY is open, at the broker and on file; its stop is at 149. -/
def yenHost : Host :=
  let openPosition := boughtPosition 7 "USDJPY" 150 1 (wednesdayMorning - Duration.days 1) (some 149)
  { Host.fresh .default (quotedAt [("EURUSD", 1.10), ("GBPUSD", 1.20), ("USDJPY", 148)]) with
    cursor := [openPosition]
    book := [openPosition] }

end Oboobot.Daemon
