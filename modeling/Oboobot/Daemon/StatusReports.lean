import Oboobot.Daemon.EntryRecords

/-! What the status written at the end of an invocation says. -/

namespace Oboobot.Daemon

open Domain SessionTime Strategy Risk Broker Interaction Daemon.Cycle

/-- A finished invocation: it was paused and loaded nothing, or its status counts
the positions it knows. -/
structure Concluded (journal : Journal) : Prop where
  running : journal.failed = false
  reports : ∃ status, journal.status = some status ∧
    ((journal.paused = true ∧ status.openPositionCount = 0 ∧ journal.listings = []) ∨
      (journal.paused = false ∧ status.openPositionCount = journal.known.length ∧
        journal.known = knownAfter journal.records journal.listings ∧ journal.listings ≠ []))

section cycle

variable {platform : Platform} {divergence : DivergenceSource} {cli : Cli} {config : Config}
  {snapshot : BrokerSnapshot} {journal : Journal} {openPositions : List Position}

theorem writeStatus_notes (running : journal.failed = false) (health : HealthMonitor)
    (lastDecision : Option String) (paused : Bool) :
    (writeStatus openPositions health lastDecision paused).Meets Journal.contract
      (fun _ after => ∃ status : StatusSnapshot, status.openPositionCount = openPositions.length ∧
        after = { journal with status := some status })
      (fun _ after => Abandoned after) journal := by
  unfold writeStatus
  refine meets_mild running rfl (fun _ => rfl) fun lastRun => ?_
  rw [meets_bind, Journal.contract, meets_perform_monitor]
  refine ⟨⟨running, trivial⟩, ?_⟩
  intro reply
  let status : StatusSnapshot := {
    lastRun := some lastRun
    openPositionCount := openPositions.length
    healthState := health.currentState.debug
    lastDecision := lastDecision
    paused := paused }
  refine ⟨status, rfl, ?_⟩
  simp [Journal.after, Journal.note, passesOn, status]

/-- Besides being underway, the invocation is not paused and has listed the open positions. -/
structure Listed (journal : Journal) (openPositions : List Position) : Prop
    extends Underway journal openPositions where
  awake : journal.paused = false
  listed : journal.listings ≠ []

theorem writeStatus_concludes (listed : Listed journal openPositions) (health : HealthMonitor)
    (lastDecision : Option String) :
    (writeStatus openPositions health lastDecision false).Meets Journal.contract
      (fun _ after => Concluded after) (fun _ after => Abandoned after) journal := by
  apply (writeStatus_notes listed.running health lastDecision false).weaken
  · rintro _ _ ⟨status, counted, rfl⟩
    refine ⟨listed.running, status, rfl, .inr ⟨listed.awake, ?_, listed.reconciles, listed.listed⟩⟩
    rw [counted, ← listed.known]
  · exact fun _ _ abandoned => abandoned

theorem considerEntries_concludes (calm : Calm journal openPositions)
    (awake : journal.paused = false) (listed : journal.listings ≠ []) (now : Instant)
    (isTuesday : Bool) (holidays : HolidayProvider) (health : HealthMonitor)
    (states : List PairCycleState) :
    (considerEntries platform cli config snapshot now isTuesday holidays health states
      openPositions).Meets Journal.contract (fun _ after => Concluded after)
      (fun _ after => Abandoned after) journal := by
  have ready : Listed journal openPositions := ⟨calm.toUnderway, awake, listed⟩
  unfold considerEntries
  split
  · exact writeStatus_concludes ready health _
  · refine meets_mild calm.running rfl (fun _ => rfl) fun observed => ?_
    split
    · exact writeStatus_concludes ready health _
    · split
      · exact writeStatus_concludes ready health _
      · rw [meets_bind]
        apply (entryLoop_turns calm isTuesday holidays states).weaken
        · rintro ⟨stillOpen, decisionSummaries⟩ final looped
          have stillListed : final.listings ≠ [] := by
            intro empty
            exact listed (List.prefix_nil.mp (empty ▸ looped.listed))
          exact writeStatus_concludes
            ⟨looped.toUnderway, looped.paused.trans awake, stillListed⟩ health _
        · exact fun _ _ given => given.1

theorem tradeOnSnapshot_concludes (calm : Calm journal openPositions)
    (awake : journal.paused = false) (idle : journal.evaluations = [])
    (listed : journal.listings ≠ []) (health : HealthMonitor) :
    (tradeOnSnapshot platform divergence cli config snapshot health openPositions).Meets
      Journal.contract (fun _ after => Concluded after) (fun _ after => Abandoned after) journal := by
  unfold tradeOnSnapshot
  refine meets_mild calm.running rfl (fun _ => rfl) fun now => ?_
  rw [meets_bind]
  apply (hostHealth_silent config snapshot now health journal calm.running).weaken
  swap
  · rintro _ _ rfl
    exact calm.abandon
  rintro health same rfl
  rw [meets_bind]
  apply (convertStalenessLimits_silent config.risk same calm.running).weaken
  swap
  · rintro _ _ rfl
    exact calm.abandon
  rintro _ same rfl
  rw [meets_bind]
  apply (readPairSets_silent platform divergence config snapshot now same calm.running).weaken
  swap
  · rintro _ _ rfl
    exact calm.abandon
  rintro readings same rfl
  rw [meets_bind]
  apply (exitSweep_settles config snapshot now _ calm idle listed).weaken
  · rintro stillOpen swept ⟨calm, _, paused, listed⟩
    exact considerEntries_concludes calm (paused.trans awake) listed now _ _ _ _
  · exact fun _ _ abandoned => abandoned

theorem configuredCycle_concludes (fresh : journal = { Journal.empty with config := some config }) :
    (configuredCycle platform divergence cli config).Meets Journal.contract
      (fun _ after => Concluded after) (fun _ after => Abandoned after) journal := by
  subst fresh
  unfold configuredCycle
  rw [meets_bind, Journal.contract, meets_perform_monitor]
  refine ⟨⟨rfl, rfl⟩, ?_⟩
  intro reply
  cases reply with
  | error failure => exact ⟨rfl, rfl⟩
  | ok records =>
    have underway : Underway { Journal.empty with
        config := some config, read := true, records, known := records } records :=
      ⟨rfl, rfl, rfl, rfl, rfl⟩
    have noted : Journal.after { Journal.empty with config := some config }
        ⟨.readPositions, .ok records⟩ =
          { Journal.empty with config := some config, read := true, records, known := records } := rfl
    simp only [Program.ofExcept, meets_done, meets_bind, noted]
    apply (reconcileAndNotify_settles underway).weaken
    · rintro openPositions reconciled ⟨calm, frame, listing, listed⟩
      have awake : reconciled.paused = false := congrArg (fun frame => frame.1) frame
      have idle : reconciled.evaluations = [] := congrArg (fun frame => frame.2.2.1) frame
      have nonempty : reconciled.listings ≠ [] := by simp [listed]
      have configured : reconciled.config = some config := congrArg (fun frame => frame.2.2.2) frame
      rw [meets_bind, meets_perform_monitor]
      refine ⟨⟨calm.running, config, configured, rfl⟩, ?_⟩
      intro outcome
      have noted : reconciled.after ⟨.getSnapshot (allSymbols config.pairs), outcome⟩ = reconciled := by
        simp [Journal.after, Journal.note, passesOn]
      rw [noted]
      split
      · exact tradeOnSnapshot_concludes calm awake idle nonempty _
      · refine meets_mild calm.running rfl (fun _ => rfl) fun notified => ?_
        exact writeStatus_concludes ⟨calm.toUnderway, awake, nonempty⟩ _ _
    · exact fun _ _ given => given.1

/-- A cycle writes its status and counts the positions it knows, or is abandoned
without a status. -/
theorem runRealCycle_concludes :
    (runRealCycle platform divergence cli).Meets Journal.contract
      (fun _ after => Concluded after) (fun _ after => Abandoned after) .empty := by
  unfold runRealCycle killSwitchEngaged
  rw [meets_bind, Journal.contract, meets_perform_monitor]
  refine ⟨⟨rfl, trivial⟩, ?_⟩
  intro reply
  cases reply with
  | error failure => exact ⟨rfl, rfl⟩
  | ok created =>
    have noted : Journal.empty.after ⟨.createStateDir, .ok created⟩ = .empty := rfl
    simp only [Program.ofExcept, meets_done, meets_bind, noted, meets_perform_monitor]
    refine ⟨⟨rfl, trivial⟩, ?_⟩
    have configured : (do
        let config ← Program.ofExcept .config (Config.load (← perform .readConfigFile))
        if config.pairs.isEmpty then Program.fail .noPairsConfigured
        else configuredCycle platform divergence cli config : Cycle Unit).Meets Journal.contract
          (fun _ after => Concluded after) (fun _ after => Abandoned after) .empty := by
      rw [meets_bind, Journal.contract, meets_perform_monitor]
      refine ⟨⟨rfl, trivial⟩, ?_⟩
      intro file
      cases loaded : Config.load file with
      | error failure => exact ⟨by simp [Journal.after, passesOn, loaded], rfl⟩
      | ok config =>
        simp only [Program.ofExcept, meets_bind, meets_done]
        by_cases unpaired : config.pairs.isEmpty = true
        · rw [if_pos unpaired]
          exact ⟨by simpa [Journal.after, passesOn, loaded, Journal.empty] using unpaired, rfl⟩
        · rw [if_neg unpaired]
          have paired : config.pairs.isEmpty = false := Bool.eq_false_of_not_eq_true unpaired
          have noted : Journal.empty.after ⟨.readConfigFile, file⟩ =
              { Journal.empty with config := some config } := by
            simp [Journal.after, Journal.note, passesOn, loaded, paired, Journal.empty, Except.toOption]
          exact configuredCycle_concludes noted
    intro reply
    rcases reply with _ | paused
    · exact configured
    · cases paused with
      | false => exact configured
      | true =>
        have paused : Journal.empty.after ⟨.pausedFileExists, .ok true⟩ =
          { Journal.empty with paused := true } := rfl
        simp only [meets_pure, if_true, paused]
        apply (writeStatus_notes rfl _ _ _).weaken
        · rintro _ _ ⟨status, counted, rfl⟩
          exact ⟨rfl, status, rfl, .inl ⟨rfl, counted, rfl⟩⟩
        · exact fun _ _ abandoned => abandoned

end cycle

/-- The status that an event has written to `status.json`. -/
def statusOf : CycleEvent → Option StatusSnapshot
  | ⟨.writeStatus snapshot, .ok ()⟩ => some snapshot
  | _ => none

def writtenStatus (events : List CycleEvent) : Option StatusSnapshot :=
  (events.filterMap statusOf).getLast?

/-- Whether an event is a failed write of the status. -/
def refusesStatus : CycleEvent → Bool
  | ⟨.writeStatus _, reply⟩ => isFailure reply
  | _ => false

theorem Journal.after_status (journal : Journal) (event : CycleEvent)
    (writable : refusesStatus event = false) :
    (journal.after event).status = (statusOf event).or journal.status := by
  obtain ⟨call, reply⟩ := event
  cases call with
  | writeStatus snapshot =>
    cases reply with
    | ok written => rfl
    | error failure => cases writable
  | pausedFileExists | readPositions | listOpenPositions | submitOrder _ | appendDecision _ =>
    cases reply <;> rfl
  | observe observation => cases observation <;> rfl
  | notify message => cases message <;> rfl
  | _ => rfl

theorem status_ofEvents {events : List CycleEvent}
    (writable : ∀ event ∈ events, refusesStatus event = false) :
    (Journal.ofEvents events).status = writtenStatus events := by
  induction events using List.reverseRecOn with
  | nil => rfl
  | append_singleton events event ih =>
    obtain ⟨earlier, last⟩ := List.forall_mem_append.mp writable
    rw [Journal.ofEvents, List.foldl_append, List.foldl_cons, List.foldl_nil,
      Journal.after_status _ _ (last event (List.mem_singleton_self event))]
    rw [Journal.ofEvents] at ih
    rw [ih earlier, writtenStatus, writtenStatus, List.filterMap_append, List.getLast?_append]
    cases found : statusOf event <;> simp [found]

/-- The latest successful listing, which may be one of an invocation before. -/
def lastListing (earlier : List Position) (events : List CycleEvent) : List Position :=
  ((Journal.ofEvents events).listings.getLast?).getD earlier

/-- The invocation has rewritten the status, with the number of positions that were
open at the broker as of the latest listing. -/
def StatusCurrent (earlier : List Position) (events : List CycleEvent) : Prop :=
  ∃ status, writtenStatus events = some status ∧
    status.openPositionCount = (positionIds (lastListing earlier events)).toFinset.card

/-- A paused invocation has nothing to count, and any other holds no open position twice. -/
def CountsEach (earlier : List Position) (journal : Journal) : Prop :=
  if journal.paused then earlier = []
  else ∀ id ∈ positionIds (journal.listings.getLast?.getD earlier),
    copiesAfter ((positionIds journal.records).count id) journal.listings id ≤ 1

/-- Once the state directory exists, a finished invocation reports the open
positions exactly when no call failed with an error that is passed on and no
position is counted twice or, in a pause, left out. -/
theorem statusCurrent_iff {platform : Platform} {divergence : DivergenceSource} {cli : Cli}
    {events : List CycleEvent} {outcome : Outcome CycleError Unit}
    (trace : Trace (runRealCycle platform divergence cli) events outcome)
    (finished : outcome ≠ .stopped) (writable : ∀ event ∈ events, refusesStatus event = false)
    (earlier : List Position) :
    StatusCurrent earlier events ↔
      (∀ event ∈ events, passesOn event = false) ∧ CountsEach earlier (.ofEvents events) := by
  have steps : Steps Journal.contract.step .empty events (.ofEvents events) := steps_monitor events _
  have failed : (Journal.ofEvents events).failed = events.any passesOn :=
    Journal.failed_foldl events .empty
  rw [StatusCurrent, ← status_ofEvents writable]
  cases outcome with
  | stopped => exact absurd rfl finished
  | failed failure =>
    have abandoned := runRealCycle_concludes.ends_failed trace steps
    refine iff_of_false ?_ ?_
    · rintro ⟨status, written, _⟩
      rw [abandoned.unwritten] at written
      cases written
    · rintro ⟨mild, _⟩
      have noFailure : events.any passesOn = false := by simpa using mild
      rw [abandoned.failed, noFailure] at failed
      cases failed
  | done result =>
    have concluded := runRealCycle_concludes.ends_done trace steps
    obtain ⟨status, written, reports⟩ := concluded.reports
    have mild : ∀ event ∈ events, passesOn event = false := by
      simpa [concluded.running] using failed.symm
    have current : (∃ status, (Journal.ofEvents events).status = some status ∧
        status.openPositionCount = (positionIds (lastListing earlier events)).toFinset.card) ↔
          status.openPositionCount = (positionIds (lastListing earlier events)).toFinset.card := by
      simp [written]
    rw [current, and_iff_right mild, CountsEach]
    rcases reports with ⟨paused, zero, unlisted⟩ | ⟨awake, counted, reconciles, listed⟩
    · rw [zero, if_pos paused, lastListing, unlisted, List.getLast?_nil, Option.getD_none, eq_comm,
        Finset.card_eq_zero, List.toFinset_eq_empty_iff, positionIds, List.map_eq_nil_iff]
    · obtain ⟨listings, listing, same⟩ := (List.eq_nil_or_concat' _).resolve_left listed
      rw [counted, reconciles, lastListing, same, List.getLast?_concat, Option.getD_some,
        knownAfter_length_eq_iff, awake]
      rfl

/-- A fresh host is ordered from; its one position is counted. -/
theorem freshHost_statusCurrent_iff :
    let events := ((runRealCycle .winter secondarySwept ⟨false⟩).play Host.answer
      (.fresh .default (quotedAt [("EURUSD", 1.10), ("GBPUSD", 1.20)]))).1
    (writtenStatus events).map StatusSnapshot.openPositionCount = some 1 ∧
      (StatusCurrent [] events ↔
        (∀ event ∈ events, passesOn event = false) ∧ CountsEach [] (.ofEvents events)) := by
  intro events
  have trace := (runRealCycle .winter secondarySwept ⟨false⟩).play_trace Host.answer
    (.fresh .default (quotedAt [("EURUSD", 1.10), ("GBPUSD", 1.20)]))
  exact ⟨by decide +kernel,
    statusCurrent_iff trace (Program.play_finished _ _ _) (by decide +kernel) []⟩

/-- A broker that cannot say what is open. -/
def refuseListings (host : Host) : (call : Call) → Reply call × Host
  | .listOpenPositions => (.error (.connectionFailed "handshake failed"), host)
  | call => host.answer call

/-- Without a listing no status is written at all. -/
theorem refusedListing_statusStale :
    ¬∀ (platform : Platform) (divergence : DivergenceSource) (cli : Cli) (events : List CycleEvent)
      (outcome : Outcome CycleError Unit),
      Trace (runRealCycle platform divergence cli) events outcome → outcome ≠ .stopped →
      (∀ event ∈ events, refusesStatus event = false) →
      ∀ earlier, StatusCurrent earlier events := by
  intro claimed
  let host := Host.fresh .default .empty
  let played := (runRealCycle .winter asComputed ⟨false⟩).play refuseListings host
  obtain ⟨status, written, _⟩ := claimed .winter asComputed ⟨false⟩ played.1 played.2.1
    (Program.play_trace _ _ _) (Program.play_finished _ _ _) (by decide +kernel) []
  have unwritten : writtenStatus played.1 = none := by decide +kernel
  rw [unwritten] at written
  cases written

end Oboobot.Daemon
