import Oboobot.Daemon.CycleContract
import Oboobot.Daemon.Host
import Mathlib.Data.List.Induction

/-! How often the open positions name a position, over any number of invocations
that share `positions.cursor`. -/

namespace Oboobot.Daemon

open Domain SessionTime Strategy Risk Broker Interaction

variable {platform : Platform} {divergence : DivergenceSource}

/-- The open positions that a reconciliation arrives at. -/
def reconciledOf : CycleEvent → Option (List Position)
  | ⟨.observe (.reconciled positions), _⟩ => some positions
  | _ => none

def closingOf : CycleEvent → Option Uuid
  | ⟨.closePosition id, _⟩ => some id
  | _ => none

def riskContextOf : CycleEvent → Option RiskContext
  | ⟨.observe (.riskDecision _ _ context _), _⟩ => some context
  | _ => none

theorem eq_of_reconciledOf {event : CycleEvent} {positions : List Position}
    (arrives : reconciledOf event = some positions) :
    ∃ reply, event = ⟨.observe (.reconciled positions), reply⟩ := by
  unfold reconciledOf at arrives
  split at arrives
  · cases arrives
    exact ⟨_, rfl⟩
  · cases arrives

theorem eq_of_closingOf {event : CycleEvent} {id : Uuid} (closes : closingOf event = some id) :
    ∃ reply, event = ⟨.closePosition id, reply⟩ := by
  unfold closingOf at closes
  split at closes
  · cases closes
    exact ⟨_, rfl⟩
  · cases closes

theorem eq_of_riskContextOf {event : CycleEvent} {context : RiskContext}
    (sizes : riskContextOf event = some context) : ∃ signal config decision reply,
      event = ⟨.observe (.riskDecision signal config context decision), reply⟩ := by
  unfold riskContextOf at sizes
  split at sizes
  · cases sizes
    exact ⟨_, _, _, _, rfl⟩
  · cases sizes

/-- A risk context whose count and exposures come from a list that names every
position of the latest listing once. -/
structure CountsOnce (ledger : Ledger) (context : RiskContext) : Prop where
  listed : ∃ listing, ledger.listing = some listing ∧
    (positionIds ledger.known).Perm (positionIds listing) ∧
    context.openPositionCount = listing.length
  computed : ∃ config snapshot isTuesday state signal equity,
    context = riskContext config snapshot isTuesday state ledger.known signal equity

/-- No position is named twice by a reconciliation, closed twice by a sweep, or
counted twice by a risk context. -/
def NamesOnce (before : List CycleEvent) (event : CycleEvent) : Prop :=
  (∀ positions ∈ reconciledOf event, (positionIds positions).Nodup) ∧
  (∀ id ∈ closingOf event, id ∉ (Ledger.ofEvents before).closing) ∧
  (∀ context ∈ riskContextOf event, CountsOnce (.ofEvents before) context)

/-- When an invocation first reconciles, the cursor names every position that
the broker lists at most once. -/
def CursorDistinct (before : List CycleEvent) (event : CycleEvent) : Prop :=
  ∀ positions ∈ reconciledOf event, (Ledger.ofEvents before).reconciliations = 0 →
    ∀ listing ∈ (Ledger.ofEvents before).listing, ∀ id ∈ positionIds listing,
      (positionIds (Ledger.ofEvents before).records).count id ≤ 1

/-- The broker reports each open position once. -/
def ListsOnce (events : List CycleEvent) : Prop :=
  ∀ event ∈ events, ∀ listing ∈ listingOf event, (positionIds listing).Nodup

theorem nodup_confirmed_iff (listing records : List Position) :
    (positionIds (reconcile listing records).confirmed).Nodup ↔
      ∀ id ∈ positionIds listing, (positionIds records).count id ≤ 1 := by
  have confirmed : positionIds (reconcile listing records).confirmed =
      (positionIds records).filter fun id => id ∈ positionIds listing := by
    simp [positionIds, reconcile, List.filter_map, Function.comp_def]
  rw [confirmed, List.nodup_iff_count_le_one]
  constructor
  · intro once id listed
    have filtered := once id
    rwa [List.count_filter (by simpa using listed)] at filtered
  · intro once id
    by_cases listed : id ∈ positionIds listing
    · rw [List.count_filter (by simpa using listed)]
      exact once id listed
    · have absent : id ∉ (positionIds records).filter fun id => id ∈ positionIds listing := by
        simp [listed]
      rw [List.count_eq_zero_of_not_mem absent]
      exact Nat.zero_le 1

theorem nodup_latest {events : List CycleEvent} (lists : ListsOnce events) {listing : List Position}
    (latest : (Ledger.ofEvents events).listing = some listing) : (positionIds listing).Nodup := by
  induction events using List.reverseRecOn with
  | nil => cases latest
  | append_singleton before event ih =>
    rw [Ledger.ofEvents_append_singleton] at latest
    have earlier : (Ledger.ofEvents before).listing = some listing → (positionIds listing).Nodup :=
      ih fun event member => lists event (List.mem_append_left _ member)
    rcases (Ledger.ofEvents before).after_positions event with ⟨file, rfl⟩ | ⟨records, rfl⟩ |
      ⟨found, rfl⟩ | ⟨request, reply, rfl⟩ | ⟨positions, reply, rfl⟩ | same
    · exact earlier latest
    · exact earlier latest
    · cases latest
      exact lists _ (List.mem_append_right _ (List.mem_singleton_self _)) listing rfl
    · exact earlier latest
    · exact earlier latest
    · simp only [Ledger.positions, Prod.mk.injEq] at same
      exact earlier (same.2.2.2.2.1 ▸ latest)

/-- Until the first reconciliation, the known positions are the cursor's. -/
theorem known_eq_records {events : List CycleEvent}
    (unreconciled : (Ledger.ofEvents events).reconciliations = 0) :
    (Ledger.ofEvents events).known = (Ledger.ofEvents events).records := by
  induction events using List.reverseRecOn with
  | nil => rfl
  | append_singleton before event ih =>
    rw [Ledger.ofEvents_append_singleton] at unreconciled ⊢
    rcases (Ledger.ofEvents before).after_positions event with ⟨file, rfl⟩ | ⟨records, rfl⟩ |
      ⟨listing, rfl⟩ | ⟨request, reply, rfl⟩ | ⟨positions, reply, rfl⟩ | same
    · exact ih unreconciled
    · rfl
    · exact ih unreconciled
    · exact ih unreconciled
    · exact absurd unreconciled (Nat.succ_ne_zero _)
    · simp only [Ledger.positions, Prod.mk.injEq] at same
      obtain ⟨_, records, known, reconciliations, _⟩ := same
      rw [known, records]
      exact ih (reconciliations ▸ unreconciled)

/-- The first reconciliation names a position twice exactly when the cursor does. -/
theorem nodup_first_iff {events : List CycleEvent} {listing : List Position}
    (broker : (positionIds listing).Nodup)
    (first : (Ledger.ofEvents events).reconciliations = 0) :
    (positionIds (reconciled listing (Ledger.ofEvents events).known)).Nodup ↔
      ∀ id ∈ positionIds listing, (positionIds (Ledger.ofEvents events).records).count id ≤ 1 := by
  rw [nodup_reconciled_iff broker, nodup_confirmed_iff, known_eq_records first]

/-- Once reconciled, the known positions are named once. -/
def KnownOnce (ledger : Ledger) : Prop :=
  0 < ledger.reconciliations → (positionIds ledger.known).Nodup

theorem knownOnce_after {before : List CycleEvent} {event : CycleEvent} {cli : Cli}
    (held : KnownOnce (.ofEvents before)) (lists : ListsOnce before)
    (distinct : CursorDistinct before event)
    (promised : Promised platform divergence cli (.ofEvents before) event.call) :
    KnownOnce ((Ledger.ofEvents before).after event) := by
  rcases (Ledger.ofEvents before).after_positions event with ⟨file, rfl⟩ | ⟨records, rfl⟩ |
    ⟨listing, rfl⟩ | ⟨request, reply, rfl⟩ | ⟨positions, reply, rfl⟩ | same
  · exact held
  · intro reconciled
    exact absurd promised reconciled.ne'
  · exact held
  · exact held
  · intro _
    obtain ⟨listing, latest, rfl⟩ := promised
    have broker := nodup_latest lists latest
    by_cases first : (Ledger.ofEvents before).reconciliations = 0
    · exact (nodup_first_iff broker first).mpr (distinct _ rfl first listing latest)
    · exact nodup_reconciled broker (held (Nat.pos_of_ne_zero first))
  · simp only [Ledger.positions, Prod.mk.injEq] at same
    obtain ⟨_, _, known, reconciliations, _⟩ := same
    rw [KnownOnce, known, reconciliations]
    exact held

theorem ListsOnce.before {before back : List CycleEvent} (lists : ListsOnce (before ++ back)) :
    ListsOnce before :=
  fun event member => lists event (List.mem_append_left _ member)

/-- What is known, at every point of an invocation that starts from a distinct cursor. -/
theorem knownOnce_ofEvents {before back : List CycleEvent} {cli : Cli}
    {outcome : Outcome CycleError Unit}
    (trace : Trace (runRealCycle platform divergence cli) (before ++ back) outcome)
    (lists : ListsOnce (before ++ back)) (distinct : Always CursorDistinct (before ++ back)) :
    KnownOnce (.ofEvents before) := by
  induction before using List.reverseRecOn generalizing back with
  | nil =>
    intro reconciled
    cases reconciled
  | append_singleton before event ih =>
    rw [List.append_assoc, List.singleton_append] at trace lists distinct
    have held := ih trace lists distinct
    have step := knownOnce_after held lists.before (distinct before event back rfl)
      (promised_of_trace trace)
    rw [Ledger.ofEvents_append_singleton]
    exact step

theorem perm_of_covers {known listing : List Position} (knownOnce : (positionIds known).Nodup)
    (listedOnce : (positionIds listing).Nodup)
    (covers : ∀ id, id ∈ positionIds known ↔ id ∈ positionIds listing) :
    (positionIds known).Perm (positionIds listing) :=
  (List.perm_ext_iff_of_nodup knownOnce listedOnce).mpr covers

/-- From a distinct cursor on, an invocation names every position once. -/
theorem namesOnce_of_distinct {events : List CycleEvent} {cli : Cli}
    {outcome : Outcome CycleError Unit}
    (trace : Trace (runRealCycle platform divergence cli) events outcome)
    (lists : ListsOnce events) (distinct : Always CursorDistinct events) :
    Always NamesOnce events := by
  intro before event back same
  subst same
  have held := knownOnce_ofEvents trace lists distinct
  have promised := promised_of_trace trace
  refine ⟨?_, ?_, ?_⟩
  · intro positions arrives
    obtain ⟨reply, rfl⟩ := eq_of_reconciledOf arrives
    have step := knownOnce_after held lists.before (distinct before _ back rfl) promised
    exact step (Nat.succ_pos _)
  · intro id closes
    obtain ⟨reply, rfl⟩ := eq_of_closingOf closes
    obtain ⟨reconciled, inTurn⟩ := promised
    have swept := (held reconciled).sublist inTurn
    intro again
    exact List.disjoint_of_nodup_append swept again (List.mem_singleton_self id)
  · intro context sizes
    obtain ⟨signal, riskConfig, decision, reply, rfl⟩ := eq_of_riskContextOf sizes
    obtain ⟨config, snapshot, now, state, sized⟩ := promised
    obtain ⟨listing, latest, covers⟩ := sized.trading.covers
    obtain ⟨equity, _, computed⟩ := sized.context
    have perm := perm_of_covers (held sized.trading.reconciled) (nodup_latest lists.before latest)
      covers
    refine ⟨⟨listing, latest, perm, ?_⟩, config, snapshot, _, state, signal, equity, computed⟩
    have counted : context.openPositionCount = (Ledger.ofEvents before).known.length :=
      congrArg RiskContext.openPositionCount computed
    simpa [positionIds] using counted.trans (by simpa [positionIds] using perm.length_eq)

/-- Over any number of invocations, interleaved in any way, every position is
named once exactly when every invocation starts from a distinct cursor. -/
theorem namesOnce_iff_cursorDistinct {Outside : Type} {cli : Nat → Cli}
    {history : List (Entry Call Reply Outside)}
    (joint : Joint (fun session => runRealCycle platform divergence (cli session)) history)
    (lists : ListsOnce (jointEvents history)) :
    (∀ session, Always NamesOnce (sessionEvents session history)) ↔
      ∀ session, Always CursorDistinct (sessionEvents session history) := by
  have own (session : Nat) : ListsOnce (sessionEvents session history) :=
    fun event member => lists event (mem_jointEvents member)
  constructor
  · intro names session before event back same positions arrives first listing latest
    obtain ⟨outcome, trace⟩ := joint session
    have listed := own session
    rw [same] at trace listed
    have nodup := (names session before event back same).1 positions arrives
    obtain ⟨reply, rfl⟩ := eq_of_reconciledOf arrives
    obtain ⟨_, found, rfl⟩ := promised_of_trace trace
    cases latest.symm.trans found
    exact (nodup_first_iff (nodup_latest listed.before latest) first).mp nodup
  · intro distinct session
    obtain ⟨outcome, trace⟩ := joint session
    exact namesOnce_of_distinct trace (own session) (distinct session)

/-- The record that a successful append adds to `positions.cursor`. -/
def appendedOf : CycleEvent → Option Position
  | ⟨.appendPosition position, .ok ()⟩ => some position
  | _ => none

def recordsOf : CycleEvent → Option (List Position)
  | ⟨.readPositions, .ok records⟩ => some records
  | _ => none

/-- The cursor holds what the invocations have appended so far. -/
def CursorKept (before : List CycleEvent) (event : CycleEvent) : Prop :=
  ∀ records ∈ recordsOf event, records = before.filterMap appendedOf

instance (before : List CycleEvent) (event : CycleEvent) : Decidable (CursorKept before event) :=
  inferInstanceAs (Decidable (∀ records ∈ recordsOf event, _))

instance (events : List CycleEvent) : Decidable (ListsOnce events) :=
  inferInstanceAs (Decidable (∀ event ∈ events, ∀ listing ∈ listingOf event, _))

/-- Three open positions and an empty cursor. -/
def threeOpen : Host :=
  { Host.fresh .default (quotedAt [("EURUSD", 1.10), ("GBPUSD", 1.25)]) with
    book := [
      boughtPosition 101 "EURUSD" 1.10 100 wednesdayMorning (some 1.09),
      boughtPosition 102 "EURUSD" 1.10 100 wednesdayMorning (some 1.08),
      boughtPosition 103 "EURUSD" 1.10 100 wednesdayMorning (some 1.07)]
    nextId := 1000 }

/-- EURUSD falls through the first stop, then through the second. -/
def fallingHistory : List (Entry Call Reply Empty) :=
  playTurns (fun _ => runRealCycle .winter asComputed ⟨false⟩) Host.answer 0
    [([], fun host => { host with quotes := quotedAt [("EURUSD", 1.085), ("GBPUSD", 1.25)] }),
      ([], fun host => { host with quotes := quotedAt [("EURUSD", 1.075), ("GBPUSD", 1.25)] }),
      ([], id)] threeOpen

theorem fallingHistory_namesOnce_iff :
    (∀ session, Always NamesOnce (sessionEvents session fallingHistory)) ↔
      ∀ session, Always CursorDistinct (sessionEvents session fallingHistory) :=
  namesOnce_iff_cursorDistinct (joint_playTurns _ _ _ _) (by decide +kernel)

/-- The third invocation holds the remaining position twice. -/
theorem fallingHistory_not_namesOnce :
    ¬∀ (platform : Platform) (cli : Nat → Cli) (history : List (Entry Call Reply Empty)),
      Joint (fun session => runRealCycle platform asComputed (cli session)) history →
      ListsOnce (jointEvents history) → Always CursorKept (jointEvents history) →
      ∀ session, Always NamesOnce (sessionEvents session history) := by
  intro claimed
  have names := claimed .winter (fun _ => ⟨false⟩) fallingHistory (joint_playTurns _ _ _ _)
    (by decide +kernel) (by decide +kernel) 2
  have reconciles : Always (fun _ event => ∀ positions ∈ reconciledOf event,
      (positionIds positions).Nodup) (sessionEvents 2 fallingHistory) :=
    fun before event back same => (names before event back same).1
  revert reconciles
  decide +kernel

end Oboobot.Daemon
