import Oboobot.Daemon.Ledger

/-! Every cycle keeps its promises, phase by phase. -/

namespace Oboobot.Daemon

open Domain SessionTime Strategy Risk Broker Interaction Daemon.Cycle

variable {platform : Platform} {divergence : DivergenceSource} {cli : Cli}

/-- Calls that keep their promise at `ledger` and leave it as it is. -/
def Quiet (platform : Platform) (divergence : DivergenceSource) (cli : Cli) (ledger : Ledger)
    (call : Call) : Prop :=
  Promised platform divergence cli ledger call ∧ ∀ reply, ledger.after ⟨call, reply⟩ = ledger

theorem quiet_of_routine (ledger : Ledger) (call : Call) (routine : call.isRoutine) :
    Quiet platform divergence cli ledger call :=
  ⟨promised_of_routine ledger routine, ledger.after_routine routine⟩

theorem quiet_marketStateUpdated {ledger : Ledger} {now : Instant} {snapshot : BrokerSnapshot}
    {state : PairCycleState} (clock : ledger.now = some now)
    (heartbeat : ledger.snapshot = some snapshot) (read : ReadFrom divergence snapshot state) :
    Quiet platform divergence cli ledger (.observe (.marketStateUpdated now state)) :=
  ⟨⟨clock, snapshot, heartbeat, read⟩, fun _ => rfl⟩

/-- A program of quiet calls is framed by the whole ledger. -/
theorem quiet_meets {α : Type} {program : Cycle α} {post : α → Prop} {ledger : Ledger}
    (yields : program.Yields (Quiet platform divergence cli ledger) post) :
    program.Meets (cycleContract platform divergence cli)
      (fun value after => post value ∧ after = ledger) (fun _ _ => True) ledger := by
  have framed : program.Meets (cycleContract platform divergence cli)
      (fun value after => post value ∧ after = ledger) (fun _ after => after = ledger) ledger := by
    refine yields.frame ?_ ?_ rfl
    · rintro world call quiet rfl
      exact quiet.1
    · rintro world event next quiet rfl step
      exact step.trans (quiet.2 event.reply)
  exact framed.weaken (fun _ _ given => given) fun _ _ _ => trivial

theorem convertStalenessLimits_yields {allowed : Call → Prop} {risk : RiskSection}
    (allows : allowed (.observe (.stalenessLimits risk))) :
    (convertStalenessLimits risk).Yields allowed fun _ => True := by
  unfold convertStalenessLimits
  simp only [yields_bind, yields_perform, yields_ofExcept]
  exact ⟨allows, fun _ _ _ => trivial⟩

section routine
variable {allowed : Call → Prop} (routine : ∀ call : Call, call.isRoutine → allowed call)
include routine

theorem writeStatus_yields (openPositions : List Position) (health : HealthMonitor)
    (lastDecision : Option String) (paused : Bool) :
    (writeStatus openPositions health lastDecision paused).Yields allowed fun _ => True := by
  unfold writeStatus
  simp only [yields_bind, yields_perform, yields_pure]
  exact ⟨routine _ rfl, fun _ => ⟨routine _ rfl, fun _ => trivial⟩⟩

theorem appendDecision_yields (pair outcome : String) (detail : Option String) :
    (appendDecision pair outcome detail).Yields allowed fun _ => True := by
  unfold appendDecision
  simp only [yields_bind, yields_perform, yields_ofExcept]
  exact ⟨routine _ rfl, fun _ => ⟨routine _ rfl, fun _ _ _ => trivial⟩⟩

theorem appendPositions_yields (openPositions : List Position) :
    (appendPositions openPositions).Yields allowed fun _ => True := by
  refine yields_foldlM (fun _ _ => True) ?_ () trivial
  intro _ position _ _ _ _
  simp only [yields_bind, yields_perform, yields_ofExcept]
  exact ⟨routine _ rfl, fun _ _ _ => trivial⟩

theorem hostHealth_yields (config : Config) (snapshot : BrokerSnapshot) (now : Instant)
    (health : HealthMonitor) :
    (hostHealth config snapshot now health).Yields allowed fun _ => True := by
  unfold hostHealth
  simp only [yields_bind, yields_perform]
  exact ⟨routine _ rfl, fun _ => ⟨routine _ rfl, fun _ => trivial⟩⟩

theorem refreshBuffer_yields (file : String)
    {update : Option RollingBuffer → Decimal → Instant → RollingBuffer} {price : Decimal}
    {now : Instant} (contains : ∀ current, (update current price now).asBufferLevels.Contains price) :
    (refreshBuffer file update price now).Yields allowed fun buffer =>
      buffer.asBufferLevels.Contains price := by
  unfold refreshBuffer
  simp only [yields_bind, yields_perform, yields_ofExcept, yields_pure]
  exact ⟨routine _ rfl, fun _ current _ => ⟨routine _ rfl, fun _ _ _ => contains current⟩⟩

theorem backfillCorrelation_yields (primary secondary : String) :
    (backfillCorrelation primary secondary).Yields allowed fun _ => True := by
  unfold backfillCorrelation
  simp only [yields_bind, yields_perform]
  refine ⟨routine _ rfl, fun reply => ?_⟩
  cases reply with
  | error failure => trivial
  | ok primaryHistory =>
    simp only [yields_bind, yields_perform]
    refine ⟨routine _ rfl, fun reply => ?_⟩
    cases reply <;> trivial

theorem seedCorrelation_yields (primary secondary : String) (now : Instant)
    (state : CorrelationState) :
    (seedCorrelation primary secondary now state).Yields allowed fun _ => True := by
  unfold seedCorrelation
  split
  · rw [yields_bind]
    apply (backfillCorrelation_yields routine primary secondary).weaken
    intro samples _
    cases samples <;> trivial
  · trivial

theorem recordCorrelation_yields (config : Config) (primary secondary : String)
    (primaryPrice secondaryPrice : Decimal) (now : Instant) :
    (recordCorrelation platform config primary secondary primaryPrice secondaryPrice now).Yields
      allowed fun _ => True := by
  unfold recordCorrelation
  simp only [yields_bind, yields_perform, yields_ofExcept]
  refine ⟨routine _ rfl, fun _ stored _ => ?_⟩
  apply (seedCorrelation_yields routine primary secondary now _).weaken
  intro seeded _
  refine ⟨routine _ rfl, fun _ _ _ => ?_⟩
  split
  · exact ⟨routine _ rfl, fun _ _ _ => trivial⟩
  · trivial

theorem recordSpread_yields (primary : String) (currentSpread : Decimal) (now : Instant) :
    (recordSpread primary currentSpread now).Yields allowed fun _ => True := by
  unfold recordSpread
  simp only [yields_bind, yields_perform, yields_ofExcept, yields_pure]
  exact ⟨routine _ rfl, fun _ _ _ => ⟨routine _ rfl, fun _ _ _ => trivial⟩⟩

end routine

theorem readFrom_pairCycleState {snapshot : BrokerSnapshot} {pairConfig : PairConfig}
    {dailyPrimary dailySecondary sessionPrimary sessionSecondary : RollingBuffer}
    (correlationState : CorrelationState) (spreadHistory : SpreadHistory)
    (inside : DivergenceInputs.Inside {
      primaryPrice := bidOrZero snapshot pairConfig.primary
      secondaryPrice := bidOrZero snapshot pairConfig.secondary
      dailyPrimaryBuffer := dailyPrimary.asBufferLevels
      dailySecondaryBuffer := dailySecondary.asBufferLevels
      sessionPrimaryBuffer := sessionPrimary.asBufferLevels
      sessionSecondaryBuffer := sessionSecondary.asBufferLevels }) :
    ReadFrom divergence snapshot (pairCycleState platform divergence snapshot pairConfig dailyPrimary
      dailySecondary sessionPrimary sessionSecondary correlationState spreadHistory) where
  primaryPrice := rfl
  secondaryPrice := rfl
  inputs := ⟨_, inside, rfl, rfl, rfl⟩
  resolved := rfl

section market
variable {allowed : Call → Prop} (routine : ∀ call : Call, call.isRoutine → allowed call)
  (config : Config) (snapshot : BrokerSnapshot) (now : Instant)
  (updated : ∀ state, ReadFrom divergence snapshot state →
    allowed (.observe (.marketStateUpdated now state)))
include routine updated

theorem readPairSet_yields (pairConfig : PairConfig) :
    (readPairSet platform divergence config snapshot now pairConfig).Yields allowed
      fun reading => reading.state.pairConfig = pairConfig := by
  unfold readPairSet
  rw [yields_bind]
  apply (refreshBuffer_yields routine _ fun current => updateBuffer_contains _ current _ now).weaken
  intro dailyPrimary dailyPrimaryInside
  rw [yields_bind]
  apply (refreshBuffer_yields routine _ fun current => updateBuffer_contains _ current _ now).weaken
  intro dailySecondary dailySecondaryInside
  rw [yields_bind]
  apply (refreshBuffer_yields routine _ fun current => updateBuffer_contains _ current _ now).weaken
  intro sessionPrimary sessionPrimaryInside
  rw [yields_bind]
  apply (refreshBuffer_yields routine _ fun current => updateBuffer_contains _ current _ now).weaken
  intro sessionSecondary sessionSecondaryInside
  rw [yields_bind]
  apply (recordCorrelation_yields routine config _ _ _ _ now).weaken
  intro correlation _
  rw [yields_bind]
  apply (recordSpread_yields routine _ _ now).weaken
  intro spreads _
  simp only [yields_bind, yields_perform, yields_pure]
  refine ⟨updated _ ?_, fun _ => rfl⟩
  exact readFrom_pairCycleState _ _
    ⟨dailyPrimaryInside, dailySecondaryInside, sessionPrimaryInside, sessionSecondaryInside⟩

theorem readPairSets_yields :
    (readPairSets platform divergence config snapshot now).Yields allowed fun readings =>
      readings.map (PairCycleState.pairConfig ∘ PairReading.state) = config.pairs := by
  refine yields_foldlM (fun front readings =>
    readings.map (PairCycleState.pairConfig ∘ PairReading.state) = front) ?_ [] rfl
  intro front pairConfig _ readings _ same
  rw [yields_bind]
  apply (readPairSet_yields routine config snapshot now updated pairConfig).weaken
  intro reading read
  simp [same, read]

end market

section phases
variable {allowed : Call → Prop} (routine : ∀ call : Call, call.isRoutine → allowed call)
  (listing : allowed .listOpenPositions)
  (reconciled : ∀ positions, allowed (.observe (.reconciled positions)))
  (closing : ∀ id, allowed (.closePosition id))

theorem killSwitchEngaged_yields (asks : allowed .pausedFileExists) :
    killSwitchEngaged.Yields allowed fun _ => True := by
  unfold killSwitchEngaged
  simp only [yields_bind, yields_perform]
  refine ⟨asks, fun reply => ?_⟩
  cases reply <;> trivial

include routine listing reconciled in
theorem reconcileAndNotify_yields (locallyKnownPositions : List Position) :
    (reconcileAndNotify locallyKnownPositions).Yields allowed fun _ => True := by
  have noted (positions : List Position) : Program.Yields (do
      observe (.reconciled positions)
      return positions : Cycle (List Position)) allowed fun _ => True := by
    simp only [yields_bind, yields_perform, yields_pure]
    exact ⟨reconciled positions, fun _ => trivial⟩
  unfold reconcileAndNotify
  simp only [yields_bind, yields_perform, yields_ofExcept]
  refine ⟨listing, fun _ brokerPositions _ => ?_⟩
  split
  · exact noted _
  · exact ⟨routine _ rfl, fun _ _ _ => noted _⟩

include routine closing in
theorem closeFlagged_yields (config : Config) (openPositions : List Position)
    (exit : ExitDecision) :
    (closeFlagged config openPositions exit).Yields allowed fun _ => True := by
  unfold closeFlagged
  simp only [yields_bind, yields_perform]
  refine ⟨closing _, fun reply => ?_⟩
  cases reply with
  | error failure => trivial
  | ok order =>
    simp only [yields_bind, yields_perform]
    exact ⟨routine _ rfl, fun _ => appendDecision_yields routine _ _ _⟩

include routine listing reconciled closing in
theorem exitSweep_yields (config : Config) (snapshot : BrokerSnapshot) (now : Instant)
    (states : List PairCycleState) (openPositions : List Position) :
    (exitSweep config snapshot now states openPositions).Yields allowed fun _ => True := by
  unfold exitSweep
  rw [yields_bind]
  have swept : ∀ exits : List ExitDecision, (exits.foldlM (fun _ exit =>
      closeFlagged config openPositions exit) ()).Yields allowed fun _ => True := by
    intro exits
    exact yields_foldlM (fun _ _ => True)
      (fun _ exit _ _ _ _ => closeFlagged_yields routine closing config openPositions exit) () trivial
  refine (swept _).weaken fun _ _ => ?_
  split
  · trivial
  · rw [yields_bind]
    refine (reconcileAndNotify_yields routine listing reconciled openPositions).weaken
      fun positions _ => ?_
    rw [yields_bind]
    exact (appendPositions_yields routine positions).weaken fun _ _ => trivial

end phases

theorem reconcileAndNotify_meets {ledger : Ledger} {openPositions : List Position}
    (known : ledger.known = openPositions) :
    (reconcileAndNotify openPositions).Meets (cycleContract platform divergence cli)
      (fun positions after => ∃ listing, positions = reconciled listing openPositions ∧
        after = { ledger with
          listing := some listing
          settled := true
          known := positions
          reconciliations := ledger.reconciliations + 1 }) (fun _ _ => True) ledger := by
  unfold reconcileAndNotify
  simp only [meets_bind, cycleContract, meets_perform_monitor, meets_ofExcept]
  refine ⟨trivial, fun reply => ⟨?_, fun _ _ => trivial⟩⟩
  rintro listing rfl
  have tail : (do
      observe (.reconciled (applyReconciliation (reconcile listing openPositions)))
      pure (applyReconciliation (reconcile listing openPositions)) : Cycle (List Position)).Meets
        (monitor Ledger.after (Promised platform divergence cli))
        (fun positions after => ∃ listing, positions = reconciled listing openPositions ∧
          after = { ledger with
            listing := some listing
            settled := true
            known := positions
            reconciliations := ledger.reconciliations + 1 })
        (fun _ _ => True) { ledger with listing := some listing, settled := true } := by
    simp only [meets_bind, meets_perform_monitor, meets_pure]
    refine ⟨⟨listing, rfl, ?_⟩, fun _ => ⟨listing, rfl, rfl⟩⟩
    rw [known]
    rfl
  split
  · exact tail
  · exact ⟨trivial, fun _ _ same => same ▸ tail⟩

theorem closeFlagged_meets {ledger : Ledger} (config : Config) (openPositions : List Position)
    {exit : ExitDecision}
    (reconciled : 0 < ledger.reconciliations)
    (inTurn : (ledger.closing ++ [exit.positionId]).Sublist (positionIds ledger.known)) :
    (closeFlagged config openPositions exit).Meets (cycleContract platform divergence cli)
      (fun _ after => after = { ledger with closing := ledger.closing ++ [exit.positionId] })
      (fun _ _ => True) ledger := by
  unfold closeFlagged
  simp only [meets_bind, cycleContract, meets_perform_monitor]
  refine ⟨⟨reconciled, inTurn⟩, fun reply => ?_⟩
  cases reply with
  | error failure => rfl
  | ok order =>
    rw [meets_bind, meets_perform_monitor]
    refine ⟨trivial, fun _ => ?_⟩
    apply (quiet_meets (appendDecision_yields (quiet_of_routine _) _ _ _)).weaken
    · exact fun _ _ given => given.2
    · exact fun _ _ _ => trivial

theorem exitLoop_meets {ledger : Ledger} (config : Config) (openPositions : List Position)
    {exits : List ExitDecision} (reconciled : 0 < ledger.reconciliations)
    (fresh : ledger.closing = [])
    (flagged : (exits.map ExitDecision.positionId).Sublist (positionIds ledger.known)) :
    (exits.foldlM (fun _ exit => closeFlagged config openPositions exit) ()).Meets
      (cycleContract platform divergence cli)
      (fun _ after => after = { ledger with closing := exits.map ExitDecision.positionId })
      (fun _ _ => True) ledger := by
  refine meets_foldlM (fun front _ after =>
    after = { ledger with closing := front.map ExitDecision.positionId }) ?_ () ?_
  · rintro front exit back _ world rfl rfl
    refine Program.Meets.weaken (closeFlagged_meets config openPositions reconciled ?_) ?_
      fun _ _ _ => trivial
    · refine List.Sublist.trans ?_ flagged
      simp
    · intro _ after same
      simpa using same
  · rw [List.map_nil, ← fresh]

/-- What a phase of trading leaves in place for the next one. -/
structure Between (ledger : Ledger) (config : Config) (snapshot : BrokerSnapshot) (now : Instant)
    (openPositions : List Position) (earlier : List PairConfig) : Prop where
  trading : Trading ledger config snapshot now
  known : ledger.known = openPositions
  evaluated : ledger.evaluated = earlier
  ordered : ledger.ordered.Sublist earlier

section trading
variable {ledger : Ledger} {config : Config} {snapshot : BrokerSnapshot} {now : Instant}
  {openPositions : List Position} {earlier : List PairConfig}

/-- After an exit or a fill: list again, then put every open position on file. -/
theorem refresh_meets {β : Type} {next : List Position → Cycle β} {post : β → Ledger → Prop}
    (established : Established ledger config snapshot now) (known : ledger.known = openPositions)
    (evaluated : ledger.evaluated = earlier) (ordered : ledger.ordered.Sublist earlier)
    (continues : ∀ positions after, Between after config snapshot now positions earlier →
      after.health = ledger.health →
      (next positions).Meets (cycleContract platform divergence cli) post (fun _ _ => True) after) :
    (reconcileAndNotify openPositions).Meets (cycleContract platform divergence cli)
      (fun positions => Program.Meets (cycleContract platform divergence cli) (do
        appendPositions positions
        next positions) post (fun _ _ => True)) (fun _ _ => True) ledger := by
  apply (reconcileAndNotify_meets known).weaken
  · rintro positions _ ⟨listing, rfl, rfl⟩
    rw [meets_bind]
    apply (quiet_meets (appendPositions_yields (quiet_of_routine _) _)).weaken
    · rintro _ _ ⟨_, rfl⟩
      apply continues
      · exact ⟨established.trading_reconciled listing openPositions, rfl, evaluated, ordered⟩
      · rfl
    · exact fun _ _ _ => trivial
  · exact fun _ _ _ => trivial

theorem exitSweep_meets (between : Between ledger config snapshot now openPositions earlier)
    (fresh : ledger.closing = []) (states : List PairCycleState) :
    (exitSweep config snapshot now states openPositions).Meets (cycleContract platform divergence cli)
      (fun positions after => Between after config snapshot now positions earlier)
      (fun _ _ => True) ledger := by
  unfold exitSweep
  rw [meets_bind]
  have flagged : ((flaggedExits snapshot now states openPositions).map
      ExitDecision.positionId).Sublist (positionIds ledger.known) := by
    rw [between.known]
    exact evaluateExits_sublist _ _ _ _ _ _
  apply (exitLoop_meets config openPositions between.trading.reconciled fresh flagged).weaken
  · intro _ swept same
    have trading : Trading swept config snapshot now := between.trading.keep (same ▸ rfl)
    split
    · subst same
      exact ⟨trading, between.known, between.evaluated, between.ordered⟩
    · rw [meets_bind]
      apply refresh_meets trading.toEstablished
      · subst same
        exact between.known
      · subst same
        exact between.evaluated
      · subst same
        exact between.ordered
      · exact fun _ _ kept _ => kept
  · exact fun _ _ _ => trivial

/-- What holds while the entry loop is at `state`. -/
structure Evaluating (platform : Platform) (cli : Cli) (ledger : Ledger) (config : Config)
    (snapshot : BrokerSnapshot) (now : Instant) (openPositions : List Position)
    (earlier : List PairConfig) (state : PairCycleState) : Prop where
  trading : Trading ledger config snapshot now
  known : ledger.known = openPositions
  entries : EntriesOpen platform cli ledger now
  evaluated : ledger.evaluated = earlier ++ [state.pairConfig]
  configured : ledger.evaluated <+: config.pairs
  ordered : ledger.ordered.Sublist earlier
  evaluating : ledger.evaluating = some state

variable {state : PairCycleState}

/-- Reading levels, biases, equity and decisions disturbs none of it. -/
theorem Evaluating.update
    (held : Evaluating platform cli ledger config snapshot now openPositions earlier state)
    (trueOpenRead : Option (String × Option TrueOpenLevel)) (weeklyBias dailyBias : Option Bias)
    (equity : Option Usd) (sizing : Option Sizing) :
    Evaluating platform cli { ledger with trueOpenRead, weeklyBias, dailyBias, equity, sizing } config
      snapshot now openPositions earlier state where
  trading := held.trading.keep rfl
  known := held.known
  entries := ⟨held.entries.window, held.entries.health, held.entries.liquidity⟩
  evaluated := held.evaluated
  configured := held.configured
  ordered := held.ordered
  evaluating := held.evaluating

/-- What the entry loop hands on to the next pair-set. -/
structure Evaluated (platform : Platform) (cli : Cli) (ledger : Ledger) (config : Config)
    (snapshot : BrokerSnapshot) (now : Instant) (openPositions : List Position)
    (earlier : List PairConfig) : Prop where
  between : Between ledger config snapshot now openPositions earlier
  entries : EntriesOpen platform cli ledger now

theorem Evaluating.handOn
    (held : Evaluating platform cli ledger config snapshot now openPositions earlier state) :
    Evaluated platform cli ledger config snapshot now openPositions
      (earlier ++ [state.pairConfig]) where
  between := ⟨held.trading, held.known, held.evaluated, held.ordered.trans (by simp)⟩
  entries := held.entries

theorem loadOrCaptureLevel_meets (timeframe : Timeframe) (symbol : String) (price : Decimal) :
    (loadOrCaptureLevel platform timeframe symbol price now staticHolidayProvider).Meets
      (cycleContract platform divergence cli)
      (fun level after => ∃ onFile,
        level = (if needsCapture now onFile then
          captureLevel platform.newYork timeframe symbol price now staticHolidayProvider
          else onFile) ∧
        after = { ledger with trueOpenRead := some (trueOpenFile timeframe, onFile) })
      (fun _ _ => True) ledger := by
  unfold loadOrCaptureLevel
  simp only [meets_bind, cycleContract, meets_perform_monitor, meets_ofExcept]
  refine ⟨trivial, fun reply => ⟨?_, fun _ _ => trivial⟩⟩
  rintro onFile rfl
  split
  · rename_i needed
    split
    · rename_i fresh captured
      simp only [meets_bind, meets_perform_monitor, meets_ofExcept, meets_pure]
      exact ⟨trivial, fun _ => ⟨fun _ _ => ⟨onFile, by simp [needed, captured], rfl⟩,
        fun _ _ => trivial⟩⟩
    · rename_i captured
      exact ⟨onFile, by simp [needed, captured], rfl⟩
  · rename_i current
    exact ⟨onFile, by simp [current], rfl⟩

theorem loadOrCaptureBias_meets (timeframe : Timeframe) (clock : ledger.now = some now)
    (symbol : String) (price : Decimal) :
    (loadOrCaptureBias platform timeframe symbol price now staticHolidayProvider).Meets
      (cycleContract platform divergence cli)
      (fun bias after => ∃ onFile, after = Ledger.recordBias
        { ledger with trueOpenRead := some (trueOpenFile timeframe, onFile) } bias timeframe)
      (fun _ _ => True) ledger := by
  unfold loadOrCaptureBias
  rw [meets_bind]
  apply (loadOrCaptureLevel_meets timeframe symbol price).weaken
  · rintro level _ ⟨onFile, chosen, rfl⟩
    simp only [meets_bind, cycleContract, meets_perform_monitor, meets_pure]
    exact ⟨⟨now, onFile, clock, rfl, chosen, rfl⟩, fun _ => ⟨onFile, rfl⟩⟩
  · exact fun _ _ _ => trivial

/-- Writing the decision down does not undo the gates it went through. -/
theorem Sized.pending {sizing : Sizing}
    (sized : Sized platform cli ledger config snapshot now state sizing) :
    Sized platform cli { ledger with sizing := some sizing } config snapshot now state sizing where
  trading := sized.trading.keep rfl
  entries := ⟨sized.entries.window, sized.entries.health, sized.entries.liquidity⟩
  inTurn := ⟨sized.inTurn.evaluated, sized.inTurn.configured⟩
  gates := ⟨sized.gates.evaluating, sized.gates.spread, sized.gates.trueOpen,
    sized.gates.divergence, sized.gates.collision⟩
  config_eq := sized.config_eq
  context := sized.context
  decision := sized.decision

theorem submitApproved_meets {sizing : Sizing}
    (held : Evaluating platform cli ledger config snapshot now openPositions earlier state)
    (sized : Sized platform cli ledger config snapshot now state sizing)
    (pending : ledger.sizing = some sizing) (approved : sizing.decision.approved = true) :
    (submitApproved snapshot openPositions sizing.signal sizing.decision).Meets
      (cycleContract platform divergence cli)
      (fun progress after => Evaluated platform cli after config snapshot now progress.1
        (earlier ++ [state.pairConfig])) (fun _ _ => True) ledger := by
  have ordered : (ledger.ordered ++ [state.pairConfig]).Sublist (earlier ++ [state.pairConfig]) :=
    held.ordered.append (.refl _)
  unfold submitApproved
  simp only [meets_bind, cycleContract, meets_perform_monitor, meets_ofExcept]
  refine ⟨trivial, fun orderId => ⟨?_, fun reply => ⟨fun _ _ => ⟨trivial, fun _ => ?_⟩,
    fun _ _ => trivial⟩⟩⟩
  · exact ⟨config, snapshot, now, state, sizing, orderId, sized, pending, approved, rfl⟩
  · refine refresh_meets ⟨held.trading.notPaused, held.trading.configured, held.trading.heartbeat,
      held.trading.clock⟩ held.known held.evaluated ?_ ?_
    · simpa [Ledger.after, held.evaluating] using ordered
    · intro positions after between sameHealth
      rw [meets_bind]
      apply (quiet_meets (appendDecision_yields (quiet_of_routine _) _ _ _)).weaken
      · rintro _ _ ⟨_, rfl⟩
        obtain ⟨health, held', allows⟩ := held.entries.health
        exact ⟨between, held.entries.window, ⟨health, sameHealth.trans held', allows⟩,
          held.entries.liquidity⟩
      · exact fun _ _ _ => trivial

theorem sizeAndSubmit_meets {signal : TradeSignal}
    (held : Evaluating platform cli ledger config snapshot now openPositions earlier state)
    (gates : PairGates platform ledger config now state signal) :
    (sizeAndSubmit platform config snapshot ((toNy platform.newYork now).weekday == .tue) state
      openPositions signal).Meets (cycleContract platform divergence cli)
      (fun progress after => Evaluated platform cli after config snapshot now progress.1
        (earlier ++ [state.pairConfig])) (fun _ _ => True) ledger := by
  unfold sizeAndSubmit
  simp only [meets_bind, cycleContract, meets_perform_monitor, meets_ofExcept]
  refine ⟨trivial, fun reply => ⟨?_, fun _ _ => trivial⟩⟩
  rintro equity rfl
  refine ⟨trivial, fun decisionId => ⟨?_, fun _ _ => trivial⟩⟩
  intro decision evaluated
  have held' := held.update ledger.trueOpenRead ledger.weeklyBias ledger.dailyBias (some equity)
    ledger.sizing
  have sized : Sized platform cli { ledger with equity := some equity } config snapshot now state
      ⟨signal, riskConfig platform.conversion config, riskContext config snapshot
        ((toNy platform.newYork now).weekday == .tue) state openPositions signal equity, decision⟩ :=
    ⟨held'.trading, held'.entries, ⟨⟨earlier, held.evaluated, held.ordered⟩, held.configured⟩,
      ⟨gates.evaluating, gates.spread, gates.trueOpen, gates.divergence, gates.collision⟩, rfl,
      ⟨equity, rfl, by rw [held.known]⟩, decisionId, evaluated⟩
  refine ⟨⟨config, snapshot, now, state, sized⟩, fun _ => ?_⟩
  split
  · rename_i approved
    exact submitApproved_meets (held.update ..) sized.pending rfl approved
  · rw [meets_bind]
    apply (quiet_meets (appendDecision_yields (quiet_of_routine _) _ _ _)).weaken
    · rintro _ _ ⟨_, rfl⟩
      exact (held.update ..).handOn
    · exact fun _ _ _ => trivial

theorem label_meets
    (held : Evaluating platform cli ledger config snapshot now openPositions earlier state)
    (pair outcome : String) (detail : Option String) :
    Program.Meets (cycleContract platform divergence cli) (do
        appendDecision pair outcome detail
        return (openPositions, outcome))
      (fun progress after => Evaluated platform cli after config snapshot now progress.1
        (earlier ++ [state.pairConfig])) (fun _ _ => True) ledger := by
  rw [meets_bind]
  apply (quiet_meets (appendDecision_yields (quiet_of_routine _) pair outcome detail)).weaken
  · rintro _ _ ⟨_, rfl⟩
    exact held.handOn
  · exact fun _ _ _ => trivial

theorem evaluating_of_evaluated
    (evaluated : Evaluated platform cli ledger config snapshot now openPositions earlier)
    (inTurn : (earlier ++ [state.pairConfig]) <+: config.pairs) :
    Evaluating platform cli (ledger.afterObservation (.evaluating state)) config snapshot now
      openPositions earlier state where
  trading := evaluated.between.trading.keep rfl
  known := evaluated.between.known
  entries := ⟨evaluated.entries.window, evaluated.entries.health, evaluated.entries.liquidity⟩
  evaluated := by simp [Ledger.afterObservation, evaluated.between.evaluated]
  configured := by simpa [Ledger.afterObservation, evaluated.between.evaluated] using inTurn
  ordered := evaluated.between.ordered
  evaluating := rfl

theorem evaluatePairSet_meets
    (evaluated : Evaluated platform cli ledger config snapshot now openPositions earlier)
    (inTurn : (earlier ++ [state.pairConfig]) <+: config.pairs) :
    (evaluatePairSet platform config snapshot now ((toNy platform.newYork now).weekday == .tue)
      staticHolidayProvider openPositions state).Meets (cycleContract platform divergence cli)
      (fun progress after => Evaluated platform cli after config snapshot now progress.1
        (earlier ++ [state.pairConfig])) (fun _ _ => True) ledger := by
  have held := evaluating_of_evaluated evaluated inTurn
  unfold evaluatePairSet
  simp only [meets_bind, cycleContract, meets_perform_monitor]
  refine ⟨trivial, fun _ => ?_⟩
  split
  · rename_i spread
    rw [meets_bind]
    refine (loadOrCaptureBias_meets .weekly held.trading.clock _ _).weaken ?_ fun _ _ _ => trivial
    rintro weeklyBias _ ⟨weeklyFile, rfl⟩
    rw [meets_bind]
    refine Program.Meets.weaken (loadOrCaptureBias_meets .daily ?_ _ _) ?_ fun _ _ _ => trivial
    · exact held.trading.clock
    · rintro dailyBias _ ⟨dailyFile, rfl⟩
      simp only [meets_bind, meets_perform_monitor]
      refine ⟨trivial, fun traceId => ⟨trivial, fun signalId => ⟨trivial, fun timestamp => ?_⟩⟩⟩
      have held' := held.update (some (trueOpenFile .daily, dailyFile)) (some weeklyBias)
        (some dailyBias) (ledger.afterObservation (.evaluating state)).equity
        (ledger.afterObservation (.evaluating state)).sizing
      split
      · exact label_meets held' _ _ _
      · exact label_meets held' _ _ _
      · rename_i signal generated
        obtain ⟨accepted, found⟩ := generateSignal_signal generated
        split
        · exact label_meets held' _ _ _
        · rename_i fresh
          apply sizeAndSubmit_meets held'
          refine ⟨rfl, spread, ⟨weeklyBias, dailyBias, rfl, rfl, accepted⟩, found, ?_⟩
          rw [held'.known]
          exact Bool.eq_false_of_not_eq_true fresh
  · exact label_meets held _ _ _

theorem entryLoop_meets {states : List PairCycleState}
    (evaluated : Evaluated platform cli ledger config snapshot now openPositions [])
    (configured : states.map PairCycleState.pairConfig = config.pairs) :
    (entryLoop platform config snapshot now ((toNy platform.newYork now).weekday == .tue)
      staticHolidayProvider openPositions states).Meets (cycleContract platform divergence cli)
      (fun progress after => Evaluated platform cli after config snapshot now progress.1
        (states.map PairCycleState.pairConfig)) (fun _ _ => True) ledger := by
  refine meets_foldlM (fun front (progress : List Position × List String) after =>
    Evaluated platform cli after config snapshot now progress.1
      (front.map PairCycleState.pairConfig)) ?_ (openPositions, []) evaluated
  intro front state back progress world same evaluated
  have inTurn : (front.map PairCycleState.pairConfig ++ [state.pairConfig]) <+: config.pairs := by
    rw [← configured, same]
    exact ⟨back.map PairCycleState.pairConfig, by simp⟩
  rw [meets_bind]
  refine (evaluatePairSet_meets evaluated inTurn).weaken ?_ fun _ _ _ => trivial
  intro step after handedOn
  simpa using handedOn

theorem considerEntries_meets {states : List PairCycleState} (health : HealthMonitor)
    (between : Between ledger config snapshot now openPositions [])
    (configured : states.map PairCycleState.pairConfig = config.pairs) :
    (considerEntries platform cli config snapshot now ((toNy platform.newYork now).weekday == .tue)
      staticHolidayProvider health states openPositions).Meets (cycleContract platform divergence cli)
      (fun _ _ => True) (fun _ _ => True) ledger := by
  have quietly (positions : List Position) (decision : String) (world : Ledger) :
      (writeStatus positions health (some decision) false).Meets
        (cycleContract platform divergence cli) (fun _ _ => True) (fun _ _ => True) world :=
    (quiet_meets (writeStatus_yields (quiet_of_routine _) _ _ _ _)).weaken
      (fun _ _ _ => trivial) fun _ _ _ => trivial
  unfold considerEntries
  split
  · exact quietly _ _ _
  · rename_i inside
    simp only [meets_bind, cycleContract, meets_perform_monitor]
    refine ⟨trivial, fun _ => ?_⟩
    split
    · exact quietly _ _ _
    · rename_i allowed
      split
      · exact quietly _ _ _
      · rename_i liquid
        rw [meets_bind]
        refine Program.Meets.weaken (entryLoop_meets ?_ configured) ?_ fun _ _ _ => trivial
        · refine ⟨⟨between.trading.keep rfl, between.known, between.evaluated, between.ordered⟩,
            ?_, ?_, ?_⟩
          · simpa [or_iff_not_imp_left] using inside
          · exact ⟨health, rfl, by simpa using allowed⟩
          · exact Bool.eq_false_of_not_eq_true liquid
        · exact fun _ _ _ => quietly _ _ _

/-- What startup has established when the snapshot arrives. -/
structure Started (ledger : Ledger) (config : Config) (openPositions : List Position) : Prop where
  notPaused : ledger.paused = false
  configured : ledger.config = some config
  settled : ledger.settled = true
  covers : ∃ listing, ledger.listing = some listing ∧
    ∀ id, id ∈ positionIds ledger.known ↔ id ∈ positionIds listing
  reconciled : 0 < ledger.reconciliations
  known : ledger.known = openPositions
  fresh : ledger.closing = [] ∧ ledger.evaluated = [] ∧ ledger.ordered = []

theorem tradeOnSnapshot_meets (health : HealthMonitor) (started : Started ledger config openPositions)
    (heartbeat : ledger.snapshot = some snapshot) :
    (tradeOnSnapshot platform divergence cli config snapshot health openPositions).Meets
      (cycleContract platform divergence cli) (fun _ _ => True) (fun _ _ => True) ledger := by
  unfold tradeOnSnapshot
  simp only [meets_bind, cycleContract, meets_perform_monitor]
  refine ⟨trivial, fun now => ?_⟩
  refine Program.Meets.weaken (quiet_meets (hostHealth_yields (quiet_of_routine _) _ _ _ _)) ?_
    fun _ _ _ => trivial
  rintro health _ ⟨_, rfl⟩
  rw [meets_bind]
  refine Program.Meets.weaken (quiet_meets (convertStalenessLimits_yields
    ⟨⟨config, started.configured, rfl⟩, fun _ => rfl⟩)) ?_ fun _ _ _ => trivial
  rintro _ _ ⟨_, rfl⟩
  rw [meets_bind]
  refine Program.Meets.weaken (quiet_meets (readPairSets_yields (quiet_of_routine _) config snapshot
    now fun _ => quiet_marketStateUpdated ?_ heartbeat)) ?_ fun _ _ _ => trivial
  · rfl
  rintro readings _ ⟨configured, rfl⟩
  rw [meets_bind]
  obtain ⟨closing, evaluated, ordered⟩ := started.fresh
  have between : Between { ledger with now := some now } config snapshot now openPositions [] :=
    ⟨⟨⟨started.notPaused, started.configured, heartbeat, rfl⟩, started.settled, started.covers,
      started.reconciled⟩, started.known, evaluated, ordered ▸ .slnil⟩
  refine Program.Meets.weaken (exitSweep_meets between closing _) ?_ fun _ _ _ => trivial
  intro positions after between
  exact considerEntries_meets _ between (by simpa using configured)

theorem configuredCycle_meets (notPaused : ledger.paused = false)
    (configured : ledger.config = some config) (unreconciled : ledger.reconciliations = 0)
    (fresh : ledger.closing = [] ∧ ledger.evaluated = [] ∧ ledger.ordered = []) :
    (configuredCycle platform divergence cli config).Meets (cycleContract platform divergence cli)
      (fun _ _ => True) (fun _ _ => True) ledger := by
  unfold configuredCycle
  simp only [meets_bind, cycleContract, meets_perform_monitor, meets_ofExcept]
  refine ⟨unreconciled, fun reply => ⟨?_, fun _ _ => trivial⟩⟩
  rintro records rfl
  refine Program.Meets.weaken (reconcileAndNotify_meets rfl) ?_ fun _ _ _ => trivial
  rintro openPositions _ ⟨listing, rfl, rfl⟩
  rw [meets_bind, meets_perform_monitor]
  refine ⟨trivial, fun outcome => ?_⟩
  have failing (failure : HeartbeatError) (health : HealthMonitor) (world : Ledger) :
      Program.Meets (cycleContract platform divergence cli) (do
        notify (.heartbeatFailed failure)
        writeStatus (reconciled listing records) health (some "heartbeat_failed") false)
        (fun _ _ => True) (fun _ _ => True) world := by
    have routine : Program.Yields (do
        notify (.heartbeatFailed failure)
        writeStatus (reconciled listing records) health (some "heartbeat_failed") false)
        (Quiet platform divergence cli world) fun _ => True := by
      simp only [yields_bind, yields_perform]
      exact ⟨quiet_of_routine _ _ rfl, fun _ => writeStatus_yields (quiet_of_routine _) _ _ _ _⟩
    exact (quiet_meets routine).weaken (fun _ _ _ => trivial) fun _ _ _ => trivial
  rcases outcome with _ | failure | snapshot
  · exact failing _ _ _
  · exact failing _ _ _
  · apply tradeOnSnapshot_meets
    · exact ⟨notPaused, configured, rfl, ⟨listing, rfl, mem_positionIds_reconciled _ _⟩,
        Nat.succ_pos _, rfl, fresh⟩
    · rfl

end trading

/-- Every cycle keeps its promises from the empty ledger on. -/
theorem runRealCycle_meets :
    (runRealCycle platform divergence cli).Meets (cycleContract platform divergence cli)
      (fun _ _ => True) (fun _ _ => True) .empty := by
  have paused (world : Ledger) : (writeStatus [] .new (some "paused") true).Meets
      (cycleContract platform divergence cli) (fun _ _ => True) (fun _ _ => True) world :=
    (quiet_meets (writeStatus_yields (quiet_of_routine _) _ _ _ _)).weaken
      (fun _ _ _ => trivial) fun _ _ _ => trivial
  have running : Program.Meets (cycleContract platform divergence cli) (do
      let config ← Program.ofExcept .config (Config.load (← perform .readConfigFile))
      if config.pairs.isEmpty then Program.fail .noPairsConfigured
      else configuredCycle platform divergence cli config)
      (fun _ _ => True) (fun _ _ => True) .empty := by
    simp only [meets_bind, cycleContract, meets_perform_monitor, meets_ofExcept]
    refine ⟨trivial, fun file => ⟨?_, fun _ _ => trivial⟩⟩
    intro config loaded
    split
    · trivial
    · apply configuredCycle_meets rfl
      · simp [Ledger.after, loaded, Except.toOption]
      · rfl
      · exact ⟨rfl, rfl, rfl⟩
  unfold runRealCycle killSwitchEngaged
  simp only [meets_bind, cycleContract, meets_perform_monitor, meets_ofExcept]
  refine ⟨trivial, fun reply => ⟨?_, fun _ _ => trivial⟩⟩
  rintro _ rfl
  refine ⟨trivial, fun reply => ?_⟩
  rcases reply with failure | _ | _
  · exact running
  · exact running
  · exact paused _

/-- A call of any run of a cycle keeps its promise, in terms of the events before it. -/
theorem promised_of_trace {before back : List CycleEvent} {event : CycleEvent}
    {outcome : Outcome CycleError Unit}
    (trace : Trace (runRealCycle platform divergence cli) (before ++ event :: back) outcome) :
    Promised platform divergence cli (.ofEvents before) event.call :=
  runRealCycle_meets.promised_after trace

end Oboobot.Daemon
