import Oboobot.Daemon.Account
import Oboobot.Daemon.CycleContract

/-! How close together orders on one pair are sent, over any number of invocations. -/

namespace Oboobot.Daemon

open Domain SessionTime Strategy Risk Broker Interaction

variable {platform : Platform} {divergence : DivergenceSource} {cli : Nat → Cli} {start : Account}
  {history : List AccountEntry}

/-- Every earlier order on the pair was sent at least 170 minutes before. -/
def Spaced (account : Account) (entry : AccountEntry) : Prop :=
  ∀ event ∈ eventOf entry, ∀ request ∈ orderOf event, ∀ sent ∈ account.sent,
    sent.pair = request.pair → Duration.minutes 170 ≤ account.time - sent.time

/-- The open positions are up to date with the latest listing, and no order has
been sent since. -/
def UpToDate (ledger : Ledger) : Prop :=
  ledger.settled = true ∧
    ∀ listing ∈ ledger.listing, positionIds listing ⊆ positionIds ledger.known

/-- While the entry loop works on a pair-set with up-to-date open positions,
these show every order sent on one of its pairs in the last 170 minutes: they
hold a position on that pair that was entered since. -/
def Remembers (account : Account) (ledger : Ledger) : Prop :=
  ∀ state ∈ ledger.evaluating, UpToDate ledger → ∀ sent ∈ account.sent,
    (sent.pair = state.pairConfig.primary ∨ sent.pair = state.pairConfig.secondary) →
    account.time - sent.time < Duration.minutes 170 →
    ∃ position ∈ ledger.known, position.pair = sent.pair ∧ sent.time ≤ position.entryTime

/-- The invocation that acts next remembers. -/
def ActorRemembers (start : Account) (before : List AccountEntry) (entry : AccountEntry) : Prop :=
  ∀ session ∈ actorOf entry, Remembers (start.along before) (ledgerOf session before)

instance (account : Account) (entry : AccountEntry) : Decidable (Spaced account entry) :=
  inferInstanceAs (Decidable (∀ event ∈ eventOf entry, ∀ request ∈ orderOf event, _))

instance (ledger : Ledger) : Decidable (UpToDate ledger) :=
  inferInstanceAs (Decidable (_ ∧ ∀ listing ∈ ledger.listing, _))

instance (account : Account) (ledger : Ledger) : Decidable (Remembers account ledger) :=
  inferInstanceAs (Decidable (∀ state ∈ ledger.evaluating, _ → _))

instance (start : Account) (before : List AccountEntry) (entry : AccountEntry) :
    Decidable (ActorRemembers start before entry) :=
  inferInstanceAs (Decidable (∀ session ∈ actorOf entry, _))

theorem upToDate_of_trading {ledger : Ledger} {config : Config} {snapshot : BrokerSnapshot}
    {now : Instant} (trading : Trading ledger config snapshot now) : UpToDate ledger := by
  obtain ⟨listing, latest, covers⟩ := trading.covers
  refine ⟨trading.settled, ?_⟩
  intro found same id member
  cases latest.symm.trans same
  exact (covers id).mpr member

/-- The guard lets no order through that the open positions speak against. -/
theorem not_recent_of_sized {account : Account} {ledger : Ledger} {cli : Cli} {config : Config}
    {snapshot : BrokerSnapshot} {now : Instant} {state : PairCycleState} {sizing : Sizing}
    (remembers : Remembers account ledger)
    (sized : Sized platform cli ledger config snapshot now state sizing)
    (behind : now ≤ account.time) {sent : SentOrder} (member : sent ∈ account.sent)
    (samePair : sent.pair = sizing.signal.pair) :
    Duration.minutes 170 ≤ account.time - sent.time := by
  by_contra soon
  obtain ⟨target, _, pair⟩ := sized.gates.divergence
  have traded : sent.pair = state.pairConfig.primary ∨ sent.pair = state.pairConfig.secondary := by
    rw [samePair, pair]
    exact target.pair_eq_or _ _
  obtain ⟨position, known, onPair, since⟩ := remembers state sized.gates.evaluating
    (upToDate_of_trading sized.trading) sent member traded (not_le.mp soon)
  have recent : now - position.entryTime < Duration.minutes 170 := by
    have close : account.time - sent.time < Duration.minutes 170 := not_le.mp soon
    linarith
  have collides := alreadyEnteredThisCycle_of_mem known (onPair.trans samePair) recent
  exact absurd (collides.symm.trans sized.gates.collision) (by decide)

/-- Two invocations five minutes apart that both find the secondary swept. The
position that the first one has opened stays open. -/
def keptOpen : List AccountEntry :=
  playTurns (fun _ => runRealCycle .winter secondarySwept ⟨false⟩) Host.answer 0
    [([], id), ([.clock (wednesdayMorning + Duration.minutes 5)], fun host =>
      { host with clock := wednesdayMorning + Duration.minutes 5 })]
    (Host.fresh .default (quotedAt [("EURUSD", 1.10), ("GBPUSD", 1.20)]))

end Oboobot.Daemon
