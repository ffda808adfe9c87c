import Oboobot.Daemon.CycleContract
import Oboobot.Daemon.Host
import Mathlib.Data.Finset.Card

/-! Sequential invocations never open more positions than the configured limit. -/

namespace Oboobot.Daemon

open Domain SessionTime Strategy Risk Broker Interaction

variable {limit : Nat}

/-- What may happen to the ids open at the broker. The book grows by at most one
at an order, whatever that order returns, and may shrink at any moment. A
listing is the whole book, and no configuration read allows more than `limit` positions. -/
def BookStep (limit : Nat) (book : Finset Uuid) (event : CycleEvent) (after : Finset Uuid) : Prop :=
  match event with
  | ⟨.submitOrder _, _⟩ => ∃ id, after ⊆ insert id book
  | ⟨.listOpenPositions, .ok listing⟩ =>
    (∀ id, id ∈ positionIds listing ↔ id ∈ book) ∧ after ⊆ book
  | ⟨.readConfigFile, file⟩ =>
    (∀ config, Config.load file = .ok config → config.risk.maxOpenPositions ≤ limit) ∧ after ⊆ book
  | _ => after ⊆ book

/-- An order is only sent while there is room for one more position. -/
def bookContract (limit : Nat) : Contract Call Reply (Finset Uuid) where
  step := BookStep limit
  promise book call := ∀ request, call = .submitOrder request → book.card < limit

/-- The states of the broker's book under invocations that run one after the other. -/
def BookReachable (limit : Nat) : Option (Cycle Unit) → Finset Uuid → Prop :=
  Reachable (bookContract limit)
    (fun program => ∃ platform divergence cli, program = runRealCycle platform divergence cli)
    (fun book after => after ⊆ book) (fun book => book.card ≤ limit)

/-- The book as far as the ledger of the running invocation knows it. -/
structure BookKnown (limit : Nat) (ledger : Ledger) (book : Finset Uuid) : Prop where
  within : book.card ≤ limit
  allows : ∀ config, ledger.config = some config → config.risk.maxOpenPositions ≤ limit
  listed : ledger.settled = true → ∀ listing, ledger.listing = some listing →
    ∀ id ∈ book, id ∈ positionIds listing

theorem bookKnown_empty {book : Finset Uuid} (within : book.card ≤ limit) :
    BookKnown limit .empty book where
  within := within
  allows config configured := by cases configured
  listed settled := by cases settled

theorem BookKnown.shrink {ledger : Ledger} {book after : Finset Uuid}
    (known : BookKnown limit ledger book) (smaller : after ⊆ book) : BookKnown limit ledger after where
  within := (Finset.card_le_card smaller).trans known.within
  allows := known.allows
  listed settled listing found id member := known.listed settled listing found id (smaller member)

theorem card_le_length {book : Finset Uuid} {positions : List Position}
    (covered : ∀ id ∈ book, id ∈ positionIds positions) : book.card ≤ positions.length := by
  have subset : book ⊆ (positionIds positions).toFinset := by
    intro id member
    exact List.mem_toFinset.mpr (covered id member)
  calc book.card ≤ (positionIds positions).toFinset.card := Finset.card_le_card subset
    _ ≤ (positionIds positions).length := List.toFinset_card_le _
    _ = positions.length := List.length_map _

/-- The gate on the open positions speaks about the broker's book. -/
theorem card_lt_of_sized {platform : Platform} {cli : Cli} {ledger : Ledger} {book : Finset Uuid}
    {config : Config} {snapshot : BrokerSnapshot} {now : Instant} {state : PairCycleState}
    {sizing : Sizing} (known : BookKnown limit ledger book)
    (sized : Sized platform cli ledger config snapshot now state sizing)
    (approved : sizing.decision.approved = true) : book.card < limit := by
  obtain ⟨decisionId, evaluated⟩ := sized.decision
  obtain ⟨_, gates, _⟩ := evaluate_approved evaluated approved
  obtain ⟨equity, _, context⟩ := sized.context
  obtain ⟨listing, listed, covers⟩ := sized.trading.covers
  have room : ledger.known.length < limit := by
    have open' := gates.openPositions
    rw [context, sized.config_eq] at open'
    exact open'.trans_le (known.allows config sized.trading.configured)
  have covered : ∀ id ∈ book, id ∈ positionIds ledger.known := by
    intro id member
    exact (covers id).mpr (known.listed sized.trading.settled listing listed id member)
  exact (card_le_length covered).trans_lt room

theorem BookKnown.keep {ledger after : Ledger} {book : Finset Uuid}
    (known : BookKnown limit ledger book) (same : after.positions = ledger.positions) :
    BookKnown limit after book := by
  simp only [Ledger.positions, Prod.mk.injEq] at same
  obtain ⟨config, _, _, _, listing, settled⟩ := same
  exact ⟨known.within, config ▸ known.allows, settled ▸ listing ▸ known.listed⟩

/-- A step that sends no order leaves no more positions open. -/
theorem BookStep.subset {book after : Finset Uuid} {event : CycleEvent}
    (step : BookStep limit book event after) (quiet : ∀ request, event.call ≠ .submitOrder request) :
    after ⊆ book := by
  obtain ⟨call, reply⟩ := event
  cases call with
  | submitOrder request => exact absurd rfl (quiet request)
  | listOpenPositions =>
    cases reply with
    | error failure => exact step
    | ok listing => exact step.2
  | readConfigFile => exact step.2
  | _ => exact step

theorem bookKnown_after {ledger : Ledger} {book after : Finset Uuid} {event : CycleEvent}
    (known : BookKnown limit ledger book) (room : ∀ request, event.call = .submitOrder request →
      book.card < limit) (step : BookStep limit book event after) :
    BookKnown limit (ledger.after event) after := by
  by_cases sends : ∃ request, event.call = .submitOrder request
  · obtain ⟨call, reply⟩ := event
    obtain ⟨request, rfl⟩ := sends
    obtain ⟨id, subset⟩ := step
    refine ⟨?_, known.allows, fun settled => by cases settled⟩
    calc after.card ≤ (insert id book).card := Finset.card_le_card subset
      _ ≤ book.card + 1 := Finset.card_insert_le id book
      _ ≤ limit := room request rfl
  · have smaller : after ⊆ book := step.subset (not_exists.mp sends)
    have shrunk : BookKnown limit ledger after := known.shrink smaller
    rcases ledger.after_positions event with ⟨file, rfl⟩ | ⟨records, rfl⟩ | ⟨listing, rfl⟩ |
      ⟨request, reply, rfl⟩ | ⟨positions, reply, rfl⟩ | same
    · refine ⟨shrunk.within, ?_, shrunk.listed⟩
      intro config configured
      apply step.1
      cases loaded : Config.load file with
      | error failure => simp [Ledger.after, loaded, Except.toOption] at configured
      | ok other => simpa [Ledger.after, loaded, Except.toOption] using configured
    · exact ⟨shrunk.within, shrunk.allows, shrunk.listed⟩
    · refine ⟨shrunk.within, shrunk.allows, ?_⟩
      intro _ _ latest id member
      cases latest
      exact (step.1 id).mpr (smaller member)
    · exact absurd ⟨request, rfl⟩ sends
    · exact ⟨shrunk.within, shrunk.allows, shrunk.listed⟩
    · exact shrunk.keep same

theorem runRealCycle_meets_book (platform : Platform) (divergence : DivergenceSource) (cli : Cli)
    {book : Finset Uuid} (within : book.card ≤ limit) :
    (runRealCycle platform divergence cli).Meets (bookContract limit) (fun _ _ => True)
      (fun _ _ => True) book := by
  have room : ∀ ledger book call, BookKnown limit ledger book →
      Promised platform divergence cli ledger call → (bookContract limit).promise book call := by
    intro ledger book call known promised request same
    rw [same] at promised
    obtain ⟨config, snapshot, now, state, sizing, _, sized, _, approved, _⟩ := promised
    exact card_lt_of_sized known sized approved
  refine runRealCycle_meets.simulated room ?_ (bookKnown_empty within)
  intro ledger book event after known promised step
  exact bookKnown_after known (room ledger book event.call known promised) step

/-- In no reachable state are more positions open than the limit allows. -/
theorem card_book_le {running : Option (Cycle Unit)} {book : Finset Uuid}
    (reached : BookReachable limit running book) : book.card ≤ limit := by
  have initially : ∀ book : Finset Uuid, book.card ≤ limit → book.card ≤ limit := fun _ => id
  refine (Reachable.invariant initially ?_ ?_ ?_ reached).1
  · intro program book ⟨platform, divergence, cli, same⟩ within
    rw [same]
    exact runRealCycle_meets_book platform divergence cli within
  · intro book event after within room step
    exact (bookKnown_after (bookKnown_empty within) room step).within
  · exact fun _ _ within smaller => (Finset.card_le_card smaller).trans within

/-- A host whose configuration file allows no more than `limit` positions. -/
def Host.Allows (limit : Nat) (host : Host) : Prop :=
  ∀ config, Config.load host.configFile = .ok config → config.risk.maxOpenPositions ≤ limit

def Host.bookIds (host : Host) : Finset Uuid := (positionIds host.book).toFinset

theorem Host.bookIds_submitOrder (host : Host) (request : OrderRequest) :
    (host.submitOrder request).2.bookIds ⊆ insert host.takeId.1 host.bookIds := by
  intro id member
  simpa [Host.submitOrder, Host.takeId, Host.bookIds, positionIds, Host.filledPosition, or_comm]
    using member

theorem Host.closePosition_keeps (host : Host) (id : Uuid) :
    (host.closePosition id).2.bookIds ⊆ host.bookIds ∧
      (host.closePosition id).2.configFile = host.configFile := by
  unfold Host.closePosition
  split
  · exact ⟨subset_rfl, rfl⟩
  · refine ⟨?_, rfl⟩
    intro other member
    simp only [Host.takeId, Host.bookIds, positionIds, List.mem_toFinset, List.mem_map,
      List.mem_filter] at member ⊢
    obtain ⟨position, ⟨kept, _⟩, same⟩ := member
    exact ⟨position, kept, same⟩

theorem Host.answer_bookStep (host : Host) (call : Call) (allows : host.Allows limit) :
    BookStep limit host.bookIds ⟨call, (host.answer call).1⟩ (host.answer call).2.bookIds ∧
      (host.answer call).2.Allows limit := by
  cases call with
  | submitOrder request => exact ⟨⟨_, host.bookIds_submitOrder request⟩, allows⟩
  | listOpenPositions => exact ⟨⟨by simp [Host.bookIds], subset_rfl⟩, allows⟩
  | readConfigFile => exact ⟨⟨allows, subset_rfl⟩, allows⟩
  | closePosition id =>
    obtain ⟨fewer, same⟩ := host.closePosition_keeps id
    refine ⟨fewer, ?_⟩
    intro config loaded
    exact allows config (same ▸ loaded)
  | _ => exact ⟨subset_rfl, allows⟩

/-- On a fresh host a swept secondary opens a position, within the default limit. -/
theorem fresh_book_within :
    let host := Host.fresh .default (quotedAt [("EURUSD", 1.10), ("GBPUSD", 1.20)])
    let after := ((runRealCycle .winter secondarySwept ⟨false⟩).play Host.answer host).2.2
    0 < after.bookIds.card ∧ after.bookIds.card ≤ 5 := by
  intro host after
  have allows : host.Allows 5 := by
    intro config loaded
    have default : Config.load host.configFile = .ok .default := by decide +kernel
    cases default.symm.trans loaded
    exact Nat.le_refl 5
  have waiting : BookReachable 5 none host.bookIds := .start (Nat.zero_le 5)
  have launched : BookReachable 5 (some (runRealCycle .winter secondarySwept ⟨false⟩)) host.bookIds :=
    .launch waiting ⟨_, _, _, rfl⟩
  have reached : BookReachable 5 none after.bookIds :=
    (Reachable.played Host.answer_bookStep allows launched).1
  exact ⟨by decide +kernel, card_book_le reached⟩

end Oboobot.Daemon
