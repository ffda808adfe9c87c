import Oboobot.Daemon.OpenPositionLimit
import Oboobot.Interaction.Overlap

/-! Invocations that overlap. Each one counts the positions before it sends an
order, and another may send its own in between. -/

namespace Oboobot.Daemon

open Domain SessionTime Strategy Risk Broker Interaction

variable {limit : Nat}

/-- The latest listing has room for one more position, and no order has used it yet. -/
def RoomListed (limit : Nat) (ledger : Ledger) : Prop :=
  ledger.settled = true ∧ ∃ listing, ledger.listing = some listing ∧
    (positionIds listing).toFinset.card < limit

/-- No configuration read so far allows more than `limit` positions. -/
def Limited (limit : Nat) (ledger : Ledger) : Prop :=
  ∀ config, ledger.config = some config → config.risk.maxOpenPositions ≤ limit

/-- An order is sent with room left under the configured maximum. -/
def RoomPromised (ledger : Ledger) (call : Call) : Prop :=
  ∀ request, call = .submitOrder request →
    ∃ config, ledger.config = some config ∧ RoomListed config.risk.maxOpenPositions ledger

theorem roomPromised {platform : Platform} {divergence : DivergenceSource} {cli : Cli}
    {ledger : Ledger} {call : Call} (promised : Promised platform divergence cli ledger call) :
    RoomPromised ledger call := by
  rintro request rfl
  obtain ⟨config, snapshot, now, state, sizing, _, sized, _, approved, _⟩ := promised
  obtain ⟨decisionId, evaluated⟩ := sized.decision
  obtain ⟨_, gates, _⟩ := evaluate_approved evaluated approved
  obtain ⟨equity, _, context⟩ := sized.context
  obtain ⟨listing, listed, covers⟩ := sized.trading.covers
  refine ⟨config, sized.trading.configured, sized.trading.settled, listing, listed, ?_⟩
  have room : ledger.known.length < config.risk.maxOpenPositions := by
    have open' := gates.openPositions
    rwa [context, sized.config_eq] at open'
  refine (card_le_length fun id member => ?_).trans_lt room
  exact (covers id).mpr (List.mem_toFinset.mp member)

theorem runRealCycle_meets_room (platform : Platform) (divergence : DivergenceSource) (cli : Cli) :
    (runRealCycle platform divergence cli).Meets (monitor Ledger.after RoomPromised)
      (fun _ _ => True) (fun _ _ => True) .empty := by
  have start : (Ledger.empty : Ledger) = .empty := rfl
  refine runRealCycle_meets.simulated ?_ ?_ start
  · rintro ledger _ call rfl promised
    exact roomPromised promised
  · rintro ledger _ event after rfl _ step
    exact step.symm

/-- A listing with room is a check, and an order is the action it is good for. -/
theorem checkThenAct (limit : Nat) :
    CheckThenAct (BookStep limit) Ledger.after RoomPromised (Limited limit) (RoomListed limit)
      Finset.card limit where
  keeps ledger event book after limited _ step := by
    rcases ledger.after_positions event with ⟨file, rfl⟩ | ⟨records, rfl⟩ | ⟨listing, rfl⟩ |
      ⟨request, reply, rfl⟩ | ⟨positions, reply, rfl⟩ | same
    · intro config configured
      apply step.1
      cases loaded : Config.load file with
      | error failure => simp [Ledger.after, loaded, Except.toOption] at configured
      | ok other => simpa [Ledger.after, loaded, Except.toOption] using configured
    · exact limited
    · exact limited
    · exact limited
    · exact limited
    · simp only [Ledger.positions, Prod.mk.injEq] at same
      intro config configured
      exact limited config (same.1 ▸ configured)
  cases ledger event book after limited promised step := by
    by_cases sends : ∃ request, event.call = .submitOrder request
    · obtain ⟨call, reply⟩ := event
      obtain ⟨request, rfl⟩ := sends
      obtain ⟨id, subset⟩ := step
      obtain ⟨config, configured, settled, listing, listed, room⟩ := promised request rfl
      refine .inr (.inr ⟨?_, ⟨settled, listing, listed, room.trans_le (limited config configured)⟩,
        ?_⟩)
      · exact (Finset.card_le_card subset).trans (Finset.card_insert_le id book)
      · rintro ⟨unsettled, _⟩
        cases unsettled
    · have fewer := Finset.card_le_card (step.subset (not_exists.mp sends))
      rcases ledger.after_positions event with ⟨file, rfl⟩ | ⟨records, rfl⟩ | ⟨listing, rfl⟩ |
        ⟨request, reply, rfl⟩ | ⟨positions, reply, rfl⟩ | same
      · exact .inl ⟨fewer, id⟩
      · exact .inl ⟨fewer, id⟩
      · have same : (positionIds listing).toFinset = book := by
          ext id
          rw [List.mem_toFinset]
          exact step.1 id
        by_cases room : book.card < limit
        · exact .inr (.inl ⟨fewer, room⟩)
        · refine .inl ⟨fewer, ?_⟩
          rintro ⟨_, latest, found, fits⟩
          cases found
          exact absurd (same ▸ fits) room
      · exact absurd ⟨request, rfl⟩ sends
      · exact .inl ⟨fewer, id⟩
      · simp only [Ledger.positions, Prod.mk.injEq] at same
        obtain ⟨_, _, _, _, listing, settled⟩ := same
        refine .inl ⟨fewer, ?_⟩
        rintro ⟨settled', latest, found, fits⟩
        exact ⟨settled ▸ settled', latest, listing ▸ found, fits⟩

/-- Of invocations that overlap, at most `others` besides the one acting are under
way at any point. Together they exceed the limit by no more than `others` positions. -/
theorem card_book_le_of_overlapping {Outside : Type} (platform : Nat → Platform)
    (divergence : Nat → DivergenceSource) (cli : Nat → Cli) {others : Nat}
    {history : List (Entry Call Reply Outside)} {start book : Finset Uuid}
    (joint : Joint (fun session =>
      runRealCycle (platform session) (divergence session) (cli session)) history)
    (overlapping : Overlapping (others + 1) history) (within : start.card ≤ limit)
    (steps : Steps (BookStep limit) start (jointEvents history) book) :
    book.card ≤ limit + others := by
  have unlisted : ¬RoomListed limit .empty := by
    rintro ⟨settled, _⟩
    cases settled
  have unread : Limited limit .empty := by
    intro config configured
    cases configured
  have bounded := joint.count_lt (checkThenAct limit) unread unlisted
    (fun session => runRealCycle_meets_room _ _ _) overlapping (by omega) steps
  omega

/-- The default configuration with room for one position. -/
def onePosition : Config :=
  { Config.default with risk := { Config.default.risk with maxOpenPositions := 1 } }

/-- The second of two invocations begins once the first has counted the positions. -/
def secondCountsToo : List Nat := List.replicate 40 0 ++ List.replicate 40 1 ++ [0, 1]

/-- Two invocations both find room for one position, and both open it. -/
theorem overlapping_opens_both :
    let host := Host.fresh onePosition (quotedAt [("EURUSD", 1.10), ("GBPUSD", 1.20)])
    let after := (interleave Host.answer secondCountsToo
      (fun _ => runRealCycle .winter secondarySwept ⟨false⟩) host).2
    after.bookIds.card = 2 ∧ after.bookIds.card ≤ 1 + 1 := by
  intro host after
  have allows : host.Allows 1 := by
    intro config loaded
    have default : Config.load host.configFile = .ok onePosition := by decide +kernel
    cases default.symm.trans loaded
    exact Nat.le_refl 1
  have steps := steps_interleave Host.answer_bookStep secondCountsToo
    (fun _ => runRealCycle .winter secondarySwept ⟨false⟩) allows
  have empty : host.bookIds.card ≤ 1 := Nat.zero_le 1
  refine ⟨by decide +kernel, ?_⟩
  refine card_book_le_of_overlapping (fun _ => .winter) (fun _ => secondarySwept) (fun _ => ⟨false⟩)
    (joint_interleave secondCountsToo _ host) (overlapping_of_owners ?_) empty steps
  intro session acts
  have turns : ∀ turn ∈ secondCountsToo, turn < 1 + 1 := by decide
  exact turns session (sessionEvents_interleave _ _ acts)

end Oboobot.Daemon
