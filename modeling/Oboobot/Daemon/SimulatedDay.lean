import Oboobot.Daemon.StatusReports
import Oboobot.Daemon.CycleContract

/-! Which pair-sets an invocation evaluates when nothing fails. -/

namespace Oboobot.Daemon

open Domain SessionTime Strategy Risk Broker Interaction Daemon.Cycle

/-- A day on which no call fails but, perhaps, the one for the snapshot. -/
structure Day where
  config : Config
  now : Instant
  diskMb : Option Nat
  memoryMb : Option Nat
  /-- The broker can quote every symbol of the configuration. -/
  quoted : Bool

namespace Day

/-- The disk and the memory of the host do not block entries. -/
def hostFits (day : Day) : Bool := !day.diskMb.any (· < 500) && !day.memoryMb.any (· > 512)

def isLiquid (day : Day) : Bool := !staticHolidayProvider.isLowLiquidity (utcDateNaive day.now)

/-- Neither the host nor the calendar closes the day to entries. -/
def isOpen (day : Day) : Bool := day.hostFits && day.isLiquid

/-- The pair-sets that a forced invocation evaluates. -/
def evaluated (day : Day) : List PairConfig :=
  if day.quoted && day.isOpen then day.config.pairs else []

/-- What the surroundings answer on such a day. -/
def Answers (day : Day) : CycleEvent → Prop
  | ⟨.pausedFileExists, reply⟩ => reply = .ok false
  | ⟨.readConfigFile, file⟩ => Config.load file = .ok day.config ∧ day.config.pairs ≠ []
  | ⟨.getSnapshot _, reply⟩ => if day.quoted then ∃ snapshot, reply = some (.ok snapshot)
      else ∃ failure, reply = some (.error failure)
  | ⟨.clockNow, now⟩ => now = day.now
  | ⟨.availableDiskMb, mb⟩ => mb = day.diskMb
  | ⟨.residentMemoryMb, mb⟩ => mb = day.memoryMb
  | event => passesOn event = false

def contract (day : Day) : Contract Call Reply Journal where
  step journal event after := after = journal.after event ∧ day.Answers event
  promise := Journal.Promised

theorem Answers.mild {day : Day} {event : CycleEvent} (answers : day.Answers event) :
    passesOn event = false := by
  obtain ⟨call, reply⟩ := event
  cases call with
  | readConfigFile =>
    obtain ⟨loaded, some⟩ := answers
    simpa [passesOn, loaded] using some
  | pausedFileExists | getSnapshot _ | clockNow | availableDiskMb | residentMemoryMb => rfl
  | _ => exact answers

theorem answers_getSnapshot {day : Day} (symbols : List String)
    {outcome : Except BrokerError BrokerSnapshot} (arrives : isFailure outcome = !day.quoted) :
    day.Answers ⟨.getSnapshot symbols, some outcome⟩ := by
  unfold Answers
  cases outcome with
  | error failure =>
    have missing : day.quoted = false := by simpa using arrives
    simp [missing]
  | ok snapshot =>
    have quoted : day.quoted = true := by simpa using arrives
    simp [quoted]

variable {α : Type} {day : Day} {program : Cycle α} {post : α → Journal → Prop}
  {failed : CycleError → Journal → Prop} {journal : Journal}

/-- On such a day nothing that could only give up on a failure gives up. -/
theorem within (day : Day) (meets : program.Meets Journal.contract post failed journal)
    (gaveUp : ∀ failure after, failed failure after → after.failed = true)
    (running : journal.failed = false) :
    program.Meets day.contract post (fun _ _ => False) journal := by
  have steps : ∀ world event after, world.failed = false → day.contract.step world event after →
      Journal.contract.step world event after ∧ after.failed = false := by
    rintro world event _ still ⟨rfl, answers⟩
    exact ⟨rfl, by simp [Journal.after, still, answers.mild]⟩
  have kept : program.Meets day.contract (fun value after => post value after ∧ after.failed = false)
      (fun failure after => failed failure after ∧ after.failed = false) journal :=
    meets.narrow _ (fun _ _ promised => promised) steps running
  apply kept.weaken
  · exact fun _ _ given => given.1
  · rintro failure after ⟨failed, still⟩
    rw [gaveUp failure after failed] at still
    cases still

theorem perform_within {call : Call} {post : Reply call → Journal → Prop} :
    (perform call).Meets day.contract post failed journal ↔
      journal.Promised call ∧
        ∀ reply, day.Answers ⟨call, reply⟩ → post reply (journal.after ⟨call, reply⟩) := by
  constructor
  · rintro ⟨promised, rest⟩
    exact ⟨promised, fun reply answers => rest reply _ ⟨rfl, answers⟩⟩
  · rintro ⟨promised, rest⟩
    refine ⟨promised, ?_⟩
    rintro reply _ ⟨rfl, answers⟩
    exact rest reply answers

/-- A call for which the journal has no room leaves it as it is. -/
theorem meets_unnoted {β : Type} {call : Call} {next : Reply call → Cycle β}
    {post : β → Journal → Prop} (running : journal.failed = false) (unnoted : call.isUnnoted)
    (rest : ∀ reply, day.Answers ⟨call, reply⟩ →
      (next reply).Meets day.contract post failed journal) :
    (perform call >>= next).Meets day.contract post failed journal := by
  rw [meets_bind, perform_within]
  refine ⟨journal.promised_unnoted unnoted running, ?_⟩
  intro reply answers
  have same : journal.after ⟨call, reply⟩ = journal := by
    simp [Journal.after, journal.note_unnoted unnoted, answers.mild]
  rw [same]
  exact rest reply answers

end Day

/-- The pair-sets an invocation has evaluated, each with its one record. -/
structure Journal.Evaluates (journal : Journal) (platform : Platform) (config : Config)
    (now : Instant) (pairs : List PairConfig) : Prop where
  pairs : journal.evaluations.map (fun evaluation => evaluation.state.pairConfig) = pairs
  recorded : ∀ evaluation ∈ journal.evaluations, evaluation.Recorded platform config now

/-- The health of a cycle once all of its checks are recorded. -/
def checkedHealth (disk memory : Option Bool) (latency correlation spread : Bool) : HealthMonitor :=
  let health := HealthMonitor.new.clearFailure .brokerHeartbeatFailure
  let health := match disk with
    | some low => health.record .diskUsageCritical low
    | none => health
  let health := match memory with
    | some high => health.record .memoryUsageCritical high
    | none => health
  let health := health.record .snapshotLatencyExceeded latency
  let health := health.record .newsApiDown false
  let health := health.record .correlationStale correlation
  health.record .spreadHistoryStale spread

/-- Only the disk and the memory can close entries: the other checks at most degrade. -/
theorem allowsNewEntries_checkedHealth (disk memory : Option Bool)
    (latency correlation spread : Bool) :
    allowsNewEntries (checkedHealth disk memory latency correlation spread).currentState =
      (!disk.getD false && !memory.getD false) := by
  rcases disk with _ | _ | _ <;> rcases memory with _ | _ | _ <;> cases latency <;>
    cases correlation <;> cases spread <;> rfl

section cycle

variable {platform : Platform} {divergence : DivergenceSource} {day : Day} {cli : Cli}
  {snapshot : BrokerSnapshot} {journal : Journal} {openPositions : List Position}

theorem writeStatus_day (running : journal.failed = false) {pairs : List PairConfig}
    (evaluates : journal.Evaluates platform day.config day.now pairs) (health : HealthMonitor)
    (lastDecision : Option String) (paused : Bool) :
    (writeStatus openPositions health lastDecision paused).Meets day.contract
      (fun _ after => after.Evaluates platform day.config day.now pairs) (fun _ _ => False) journal := by
  apply (day.within (writeStatus_notes running health lastDecision paused)
    (fun _ _ abandoned => abandoned.failed) running).weaken
  · rintro _ _ ⟨status, _, rfl⟩
    exact ⟨evaluates.pairs, evaluates.recorded⟩
  · exact fun _ _ impossible => impossible

/-- Forced past the macro window, the entry loop runs unless the host or the calendar blocks it. -/
theorem considerEntries_day (forced : cli.force = true) (calm : Calm journal openPositions)
    (idle : journal.evaluations = []) {health : HealthMonitor}
    (fits : allowsNewEntries health.currentState = day.hostFits) (isTuesday : Bool)
    {states : List PairCycleState}
    (configured : states.map PairCycleState.pairConfig = day.config.pairs) :
    (considerEntries platform cli day.config snapshot day.now isTuesday staticHolidayProvider health
      states openPositions).Meets day.contract
      (fun _ after => after.Evaluates platform day.config day.now
        (if day.isOpen then day.config.pairs else [])) (fun _ _ => False) journal := by
  have evaluatesNone : journal.Evaluates platform day.config day.now [] := ⟨by simp [idle], by simp [idle]⟩
  unfold considerEntries
  rw [if_neg (by simp [forced])]
  refine Day.meets_unnoted calm.running rfl fun observed _ => ?_
  split
  · rename_i blocked
    have unfit : day.hostFits = false := by simpa [fits] using blocked
    rw [Day.isOpen, unfit, Bool.false_and, if_neg Bool.false_ne_true]
    exact writeStatus_day calm.running evaluatesNone _ _ _
  · rename_i allowed
    have fit : day.hostFits = true := by simpa [fits] using allowed
    rw [Day.isOpen, fit, Bool.true_and]
    split
    · rename_i dry
      have holiday : day.isLiquid = false := by simpa [Day.isLiquid] using dry
      rw [holiday, if_neg Bool.false_ne_true]
      exact writeStatus_day calm.running evaluatesNone _ _ _
    · rename_i wet
      have liquid : day.isLiquid = true := by simpa [Day.isLiquid] using wet
      rw [if_pos liquid, meets_bind]
      apply (day.within (entryLoop_turns calm isTuesday staticHolidayProvider states)
        (fun _ _ given => given.1.failed) calm.running).weaken
      · rintro ⟨stillOpen, decisionSummaries⟩ final looped
        obtain ⟨turns, same, inTurn, recorded⟩ := looped.turns
        rw [idle, List.nil_append] at same
        have evaluates : final.Evaluates platform day.config day.now day.config.pairs := by
          refine ⟨?_, by rw [same]; exact recorded⟩
          rw [same, ← configured, ← inTurn, List.map_map]
          rfl
        exact writeStatus_day looped.running evaluates _ _ _
      · exact fun _ _ impossible => impossible

theorem hostHealth_day (running : journal.failed = false) :
    (hostHealth day.config snapshot day.now
      (HealthMonitor.new.clearFailure .brokerHeartbeatFailure)).Meets day.contract
      (fun health after => after = journal ∧ ∀ correlation spread,
        allowsNewEntries ((health.record .correlationStale correlation).record .spreadHistoryStale
          spread).currentState = day.hostFits) (fun _ _ => False) journal := by
  unfold hostHealth
  refine Day.meets_unnoted running rfl ?_
  rintro disk rfl
  refine Day.meets_unnoted running rfl ?_
  rintro memory rfl
  refine ⟨rfl, fun correlation spread => ?_⟩
  have checked := allowsNewEntries_checkedHealth (day.diskMb.map fun mb => decide (mb < 500))
    (day.memoryMb.map fun mb => decide (mb > 512)) (decide (Duration.numSeconds
      (day.now - snapshot.timestamp) > day.config.risk.snapshotLatencyThresholdSeconds))
    correlation spread
  unfold Day.hostFits
  cases low : day.diskMb <;> cases high : day.memoryMb <;> rw [low, high] at checked <;>
    simpa [checkedHealth, NoNewsProvider.isFresh] using checked

theorem tradeOnSnapshot_day (forced : cli.force = true) (calm : Calm journal openPositions)
    (idle : journal.evaluations = []) (listed : journal.listings ≠ []) :
    (tradeOnSnapshot platform divergence cli day.config snapshot
      (HealthMonitor.new.clearFailure .brokerHeartbeatFailure) openPositions).Meets day.contract
      (fun _ after => after.Evaluates platform day.config day.now
        (if day.isOpen then day.config.pairs else [])) (fun _ _ => False) journal := by
  unfold tradeOnSnapshot
  refine Day.meets_unnoted calm.running rfl ?_
  rintro now rfl
  rw [meets_bind]
  apply (hostHealth_day calm.running).weaken _ fun _ _ impossible => impossible
  rintro health _ ⟨rfl, fits⟩
  rw [meets_bind]
  apply (day.within (convertStalenessLimits_silent day.config.risk _ calm.running)
    (by rintro _ _ rfl; rfl) calm.running).weaken _ fun _ _ impossible => impossible
  rintro _ _ rfl
  have reads := (readPairSets_silent platform divergence day.config snapshot day.now _
    calm.running).yielding (readPairSets_yields (fun _ _ => trivial) day.config snapshot day.now
      fun _ _ => trivial)
  rw [meets_bind]
  apply (day.within reads (by rintro _ _ rfl; rfl) calm.running).weaken _
    fun _ _ impossible => impossible
  rintro readings _ ⟨rfl, configured⟩
  rw [meets_bind]
  apply (day.within (exitSweep_settles day.config snapshot day.now _ calm idle listed)
    (fun _ _ abandoned => abandoned.failed) calm.running).weaken _ fun _ _ impossible => impossible
  rintro stillOpen swept ⟨settled, unevaluated, _, _⟩
  exact considerEntries_day forced settled unevaluated (fits _ _) _ (by rwa [List.map_map])

theorem configuredCycle_day (forced : cli.force = true)
    (fresh : journal = { Journal.empty with config := some day.config }) :
    (configuredCycle platform divergence cli day.config).Meets day.contract
      (fun _ after => after.Evaluates platform day.config day.now day.evaluated)
      (fun _ _ => False) journal := by
  subst fresh
  unfold configuredCycle
  rw [meets_bind, Day.perform_within]
  refine ⟨⟨rfl, rfl⟩, ?_⟩
  intro reply answers
  cases reply with
  | error failure => cases answers
  | ok records =>
    have underway : Underway { Journal.empty with
        config := some day.config, read := true, records, known := records } records :=
      ⟨rfl, rfl, rfl, rfl, rfl⟩
    have noted : Journal.after { Journal.empty with config := some day.config }
        ⟨.readPositions, .ok records⟩ = { Journal.empty with
          config := some day.config, read := true, records, known := records } := rfl
    simp only [Program.ofExcept, meets_done, meets_bind, noted]
    apply (day.within (reconcileAndNotify_settles underway) (fun _ _ given => given.1.failed)
      rfl).weaken _ fun _ _ impossible => impossible
    rintro openPositions reconciled ⟨calm, frame, listing, listed⟩
    have idle : reconciled.evaluations = [] := congrArg (fun frame => frame.2.2.1) frame
    have configured : reconciled.config = some day.config := congrArg (fun frame => frame.2.2.2) frame
    have nonempty : reconciled.listings ≠ [] := by simp [listed]
    rw [meets_bind, Day.perform_within]
    refine ⟨⟨calm.running, day.config, configured, rfl⟩, ?_⟩
    intro outcome arrives
    have same : reconciled.after ⟨.getSnapshot (allSymbols day.config.pairs), outcome⟩ =
        reconciled := by
      simp [Journal.after, Journal.note, passesOn]
    rw [same]
    by_cases quoted : day.quoted = true
    · obtain ⟨snapshot, rfl⟩ : ∃ snapshot, outcome = some (.ok snapshot) := by
        simpa [Day.Answers, quoted] using arrives
      rw [Day.evaluated, quoted, Bool.true_and]
      exact tradeOnSnapshot_day forced calm idle nonempty
    · obtain ⟨failure, rfl⟩ : ∃ failure, outcome = some (.error failure) := by
        simpa [Day.Answers, quoted] using arrives
      have evaluatesNone : reconciled.Evaluates platform day.config day.now [] :=
        ⟨by simp [idle], by simp [idle]⟩
      rw [Day.evaluated, Bool.eq_false_of_not_eq_true quoted, Bool.false_and,
        if_neg Bool.false_ne_true]
      refine Day.meets_unnoted calm.running rfl fun notified _ => ?_
      exact writeStatus_day calm.running evaluatesNone _ _ _

/-- On such a day a forced invocation gives up on nothing. It evaluates every pair-set
unless a quote is missing, the host is short of disk or memory, or it is a holiday. -/
theorem runRealCycle_day (forced : cli.force = true) :
    (runRealCycle platform divergence cli).Meets day.contract
      (fun _ after => after.Evaluates platform day.config day.now day.evaluated)
      (fun _ _ => False) .empty := by
  unfold runRealCycle killSwitchEngaged
  rw [meets_bind, Day.perform_within]
  refine ⟨⟨rfl, trivial⟩, ?_⟩
  intro reply answers
  cases reply with
  | error failure => cases answers
  | ok created =>
    have noted : Journal.empty.after ⟨.createStateDir, .ok created⟩ = .empty := rfl
    simp only [Program.ofExcept, noted]
    rw [meets_bind, meets_done, meets_bind, meets_bind, Day.perform_within]
    refine ⟨⟨rfl, trivial⟩, ?_⟩
    rintro paused rfl
    have engaged : Journal.empty.after ⟨.pausedFileExists, .ok false⟩ = .empty := rfl
    rw [engaged, meets_pure, if_neg Bool.false_ne_true, meets_bind, Day.perform_within]
    refine ⟨⟨rfl, trivial⟩, ?_⟩
    rintro file ⟨loaded, nonempty⟩
    have read : Journal.empty.after ⟨.readConfigFile, file⟩ =
        { Journal.empty with config := some day.config } := by
      simp [Journal.after, Journal.note, passesOn, loaded, nonempty, Except.toOption, Journal.empty]
    simp only [read, loaded]
    rw [meets_bind, meets_done, if_neg (by simpa using nonempty)]
    exact configuredCycle_day forced rfl

end cycle

section panic

/-- Every call but the note that a pair-set's turn begins. -/
def Call.precedesTurns : Call → Prop
  | .observe observation => match observation with
    | .evaluating _ => False
    | _ => True
  | _ => True

theorem precedesTurns_of_routine (call : Call) (routine : call.isRoutine) : call.precedesTurns := by
  cases call with
  | observe observation => cases routine
  | _ => trivial

theorem Journal.unevaluated_after {journal : Journal} (idle : journal.evaluations = [])
    {event : CycleEvent} (precedes : event.call.precedesTurns) :
    (journal.after event).evaluations = [] := by
  obtain ⟨call, reply⟩ := event
  suffices noted : (journal.note ⟨call, reply⟩).evaluations = [] from noted
  have amended (journal : Journal) (idle : journal.evaluations = [])
      (change : Evaluation → Evaluation) : (journal.amend change).evaluations = [] := by
    rw [amend_idle idle, idle]
  by_cases unnoted : call.isUnnoted = true
  · rw [journal.note_unnoted unnoted, idle]
  cases call with
  | submitOrder _ =>
    cases reply with
    | error failure => exact idle
    | ok order => exact amended _ idle _
  | appendDecision record =>
    cases reply with
    | error failure => exact idle
    | ok appended => exact amended _ idle _
  | pausedFileExists | readPositions | listOpenPositions => cases reply <;> exact idle
  | notify message => cases message <;> exact idle
  | observe observation =>
    cases observation with
    | evaluating state => exact precedes.elim
    | trueOpenBias _ _ _ _ _ | riskDecision _ _ _ _ => exact amended _ idle _
    | _ => exact idle
  | _ => exact idle

/-- Surroundings in which only this configuration is read, and no pair-set is evaluated. -/
def unevaluatedContract (config : Config) : Contract Call Reply Journal where
  step journal event after := after = journal.after event ∧
    ∀ file, event = ⟨.readConfigFile, file⟩ → Config.load file = .ok config
  promise _ call := call.precedesTurns

variable {platform : Platform} {divergence : DivergenceSource} {cli : Cli} {config : Config}

/-- Limits that no duration can hold end the cycle with a panic. -/
theorem convertStalenessLimits_panics {allowed : Call → Prop}
    (unfit : config.risk.stalenessLimitsFit = false)
    (allows : allowed (.observe (.stalenessLimits config.risk))) :
    (convertStalenessLimits config.risk).Yields allowed fun _ => False := by
  unfold convertStalenessLimits
  simp only [yields_bind, yields_perform, yields_ofExcept, unfit]
  exact ⟨allows, fun _ _ impossible => by cases impossible⟩

theorem configuredCycle_unevaluated (unfit : config.risk.stalenessLimitsFit = false) :
    (configuredCycle platform divergence cli config).Yields Call.precedesTurns fun _ => True := by
  unfold configuredCycle
  simp only [yields_bind, yields_perform, yields_ofExcept]
  refine ⟨trivial, fun _ records _ => ?_⟩
  refine (reconcileAndNotify_yields precedesTurns_of_routine trivial (fun _ => trivial)
    records).weaken fun openPositions _ => ⟨trivial, fun outcome => ?_⟩
  split
  · unfold tradeOnSnapshot
    rw [yields_bind, yields_perform]
    refine ⟨trivial, fun now => ?_⟩
    rw [yields_bind]
    refine (hostHealth_yields precedesTurns_of_routine _ _ _ _).weaken fun health _ => ?_
    rw [yields_bind]
    exact (convertStalenessLimits_panics unfit trivial).weaken fun _ impossible => impossible.elim
  · simp only [yields_bind, yields_perform]
    exact ⟨trivial, fun _ => writeStatus_yields precedesTurns_of_routine _ _ _ _⟩

/-- A configuration whose limits no duration can hold is never evaluated. -/
theorem runRealCycle_unevaluated (unfit : config.risk.stalenessLimitsFit = false) :
    (runRealCycle platform divergence cli).Meets (unevaluatedContract config)
      (fun _ after => after.evaluations = []) (fun _ after => after.evaluations = []) .empty := by
  have framed {program : Cycle Unit} {journal : Journal}
      (yields : program.Yields Call.precedesTurns fun _ => True) (idle : journal.evaluations = []) :
      program.Meets (unevaluatedContract config) (fun _ after => after.evaluations = [])
        (fun _ after => after.evaluations = []) journal := by
    have kept : program.Meets (unevaluatedContract config)
        (fun _ after => True ∧ after.evaluations = []) (fun _ after => after.evaluations = [])
        journal := by
      refine yields.frame (fun _ _ precedes _ => precedes) ?_ idle
      rintro world event _ precedes idle ⟨rfl, _⟩
      exact Journal.unevaluated_after idle precedes
    exact kept.weaken (fun _ _ given => given.2) fun _ _ given => given
  refine runRealCycle_meets_of (fun journal => journal.evaluations = []) rfl ?_
    (fun _ _ idle => idle) ?_ ?_
  · intro journal call opens idle
    have precedes : call.precedesTurns := by rcases opens with rfl | rfl | rfl <;> trivial
    refine ⟨precedes, ?_⟩
    rintro reply _ ⟨rfl, _⟩
    exact Journal.unevaluated_after idle precedes
  · exact fun _ idle => framed (writeStatus_yields precedesTurns_of_routine _ _ _ _) idle
  · rintro journal file after given ⟨_, holds⟩ loaded idle
    cases (holds file rfl).symm.trans loaded
    exact framed (configuredCycle_unevaluated unfit) idle

end panic

end Oboobot.Daemon
