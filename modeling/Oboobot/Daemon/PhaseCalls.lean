import Oboobot.Daemon.JournalContract
import Oboobot.Daemon.CycleContract

/-! The calls that each phase of a cycle makes, phase by phase. -/

namespace Oboobot.Daemon

open Domain SessionTime Strategy Risk Broker Interaction Daemon.Cycle

/-- The calls that keep a rolling range. -/
def Call.isRange : Call → Bool
  | .readBuffer _ | .writeBuffer _ _ => true
  | _ => false

/-- The calls that keep a correlation window. -/
def Call.isCorrelation : Call → Bool
  | .readCorrelation _ | .writeCorrelation _ _ => true
  | .fetchHistoricalPrices _ _ => true
  | .notify message => match message with
    | .correlationRegimeShift _ _ _ => true
    | _ => false
  | _ => false

/-- The calls that keep a spread history. -/
def Call.isSpread : Call → Bool
  | .readSpreadHistory _ | .writeSpreadHistory _ _ => true
  | _ => false

/-- The calls of the market-state loop. -/
def Call.isMarket (call : Call) : Bool :=
  call.isRange || call.isCorrelation || call.isSpread || match call with
    | .observe (.marketStateUpdated _ _) => true
    | _ => false

/-- The calls that look at the host or the clock, or write the status. -/
def Call.isHousekeeping : Call → Bool
  | .utcNow | .writeStatus _ => true
  | .availableDiskMb | .residentMemoryMb => true
  | _ => false

/-- The calls of the True Open capture. -/
def Call.isTrueOpen : Call → Bool
  | .readTrueOpen _ | .writeTrueOpen _ _ => true
  | .observe observation => match observation with
    | .trueOpenBias _ _ _ _ _ => true
    | _ => false
  | _ => false

/-- The calls that compare the broker's list with the daemon's and put it on file. -/
def Call.isReconciling : Call → Bool
  | .listOpenPositions | .appendPosition _ => true
  | .notify message => match message with
    | .reconciliationMismatch _ _ => true
    | _ => false
  | .observe observation => match observation with
    | .reconciled _ => true
    | _ => false
  | _ => false

/-- The calls that close a position. -/
def Call.isClosing : Call → Bool
  | .closePosition _ => true
  | .notify message => match message with
    | .closedPosition _ _ => true
    | _ => false
  | _ => false

/-- The calls that size a signal and send its order. -/
def Call.isOrdering : Call → Bool
  | .newUuid | .getAccountEquity | .submitOrder _ => true
  | .notify message => match message with
    | .openedPosition _ _ _ => true
    | _ => false
  | .observe observation => match observation with
    | .riskDecision _ _ _ _ => true
    | _ => false
  | _ => false

variable {platform : Platform} {divergence : DivergenceSource} {allowed : Call → Prop}

section housekeeping
variable (keeps : ∀ call : Call, call.isHousekeeping → allowed call)
include keeps

theorem writeStatus_calls (openPositions : List Position) (health : HealthMonitor)
    (lastDecision : Option String) (paused : Bool) :
    (writeStatus openPositions health lastDecision paused).Yields allowed fun _ => True := by
  unfold writeStatus
  simp only [yields_bind, yields_perform, yields_pure]
  exact ⟨keeps _ rfl, fun _ => ⟨keeps _ rfl, fun _ => trivial⟩⟩

theorem hostHealth_calls (config : Config) (snapshot : BrokerSnapshot) (now : Instant)
    (health : HealthMonitor) :
    (hostHealth config snapshot now health).Yields allowed fun _ => True := by
  unfold hostHealth
  simp only [yields_bind, yields_perform]
  exact ⟨keeps _ rfl, fun _ => ⟨keeps _ rfl, fun _ => trivial⟩⟩

theorem appendDecision_calls {pair outcome : String} {detail : Option String}
    (records : ∀ record : DecisionRecord, record.pair = pair → record.outcome = outcome →
      allowed (.appendDecision record)) :
    (appendDecision pair outcome detail).Yields allowed fun _ => True := by
  obtain ⟨recordAt, names, appends⟩ := appendDecision_eq pair outcome detail
  rw [appends]
  simp only [yields_bind, yields_perform, yields_ofExcept]
  refine ⟨keeps _ rfl, fun timestamp => ?_⟩
  obtain ⟨ofPair, label⟩ := names timestamp
  exact ⟨records _ ofPair label, fun _ _ _ => trivial⟩

end housekeeping

theorem refreshBuffer_calls (ranges : ∀ call : Call, call.isRange → allowed call) (file : String)
    {update : Option RollingBuffer → Decimal → Instant → RollingBuffer} {price : Decimal}
    {now : Instant} (contains : ∀ current, (update current price now).asBufferLevels.Contains price) :
    (refreshBuffer file update price now).Yields allowed fun buffer =>
      buffer.asBufferLevels.Contains price := by
  unfold refreshBuffer
  simp only [yields_bind, yields_perform, yields_ofExcept, yields_pure]
  exact ⟨ranges _ rfl, fun _ current _ => ⟨ranges _ rfl, fun _ _ _ => contains current⟩⟩

theorem backfillCorrelation_calls (correlates : ∀ call : Call, call.isCorrelation → allowed call)
    (primary secondary : String) :
    (backfillCorrelation primary secondary).Yields allowed fun _ => True := by
  unfold backfillCorrelation
  simp only [yields_bind, yields_perform]
  refine ⟨correlates _ rfl, fun reply => ?_⟩
  cases reply with
  | error failure => trivial
  | ok primaryHistory =>
    simp only [yields_bind, yields_perform]
    refine ⟨correlates _ rfl, fun reply => ?_⟩
    cases reply <;> trivial

theorem recordCorrelation_calls (correlates : ∀ call : Call, call.isCorrelation → allowed call)
    (config : Config) (primary secondary : String) (primaryPrice secondaryPrice : Decimal)
    (now : Instant) :
    (recordCorrelation platform config primary secondary primaryPrice secondaryPrice now).Yields
      allowed fun _ => True := by
  have seeded (state : CorrelationState) :
      (seedCorrelation primary secondary now state).Yields allowed fun _ => True := by
    unfold seedCorrelation
    split
    · rw [yields_bind]
      apply (backfillCorrelation_calls correlates primary secondary).weaken
      intro samples _
      cases samples <;> trivial
    · trivial
  unfold recordCorrelation
  simp only [yields_bind, yields_perform, yields_ofExcept]
  refine ⟨correlates _ rfl, fun _ stored _ => ?_⟩
  apply (seeded _).weaken
  intro state _
  refine ⟨correlates _ rfl, fun _ _ _ => ?_⟩
  split
  · exact ⟨correlates _ rfl, fun _ _ _ => trivial⟩
  · trivial

theorem recordSpread_calls (spreads : ∀ call : Call, call.isSpread → allowed call)
    (primary : String) (currentSpread : Decimal) (now : Instant) :
    (recordSpread primary currentSpread now).Yields allowed fun _ => True := by
  unfold recordSpread
  simp only [yields_bind, yields_perform, yields_ofExcept, yields_pure]
  exact ⟨spreads _ rfl, fun _ _ _ => ⟨spreads _ rfl, fun _ _ _ => trivial⟩⟩

section market
variable (market : ∀ call : Call, call.isMarket → allowed call)
include market

theorem readPairSet_calls (config : Config) (snapshot : BrokerSnapshot) (now : Instant)
    (pairConfig : PairConfig) :
    (readPairSet platform divergence config snapshot now pairConfig).Yields allowed fun reading =>
      reading.state.pairConfig = pairConfig ∧ ReadFrom divergence snapshot reading.state := by
  have ranges : ∀ call : Call, call.isRange → allowed call :=
    fun call range => market call (by simp [Call.isMarket, range])
  have correlates : ∀ call : Call, call.isCorrelation → allowed call :=
    fun call correlation => market call (by simp [Call.isMarket, correlation])
  have spreads : ∀ call : Call, call.isSpread → allowed call :=
    fun call spread => market call (by simp [Call.isMarket, spread])
  unfold readPairSet
  rw [yields_bind]
  apply (refreshBuffer_calls ranges _ fun current => updateBuffer_contains _ current _ now).weaken
  intro dailyPrimary dailyPrimaryInside
  rw [yields_bind]
  apply (refreshBuffer_calls ranges _ fun current => updateBuffer_contains _ current _ now).weaken
  intro dailySecondary dailySecondaryInside
  rw [yields_bind]
  apply (refreshBuffer_calls ranges _ fun current => updateBuffer_contains _ current _ now).weaken
  intro sessionPrimary sessionPrimaryInside
  rw [yields_bind]
  apply (refreshBuffer_calls ranges _ fun current => updateBuffer_contains _ current _ now).weaken
  intro sessionSecondary sessionSecondaryInside
  rw [yields_bind]
  apply (recordCorrelation_calls correlates config _ _ _ _ now).weaken
  intro correlation _
  rw [yields_bind]
  apply (recordSpread_calls spreads _ _ now).weaken
  intro history _
  simp only [yields_bind, yields_perform, yields_pure]
  refine ⟨market _ rfl, fun _ => ⟨rfl, ?_⟩⟩
  exact readFrom_pairCycleState _ _
    ⟨dailyPrimaryInside, dailySecondaryInside, sessionPrimaryInside, sessionSecondaryInside⟩

theorem readPairSets_calls (config : Config) (snapshot : BrokerSnapshot) (now : Instant) :
    (readPairSets platform divergence config snapshot now).Yields allowed fun readings =>
      readings.map (PairCycleState.pairConfig ∘ PairReading.state) = config.pairs ∧
        ∀ reading ∈ readings, ReadFrom divergence snapshot reading.state := by
  refine yields_foldlM (fun front readings =>
    readings.map (PairCycleState.pairConfig ∘ PairReading.state) = front ∧
      ∀ reading ∈ readings, ReadFrom divergence snapshot reading.state) ?_ [] ?_
  · rintro front pairConfig _ readings _ ⟨configured, earlier⟩
    rw [yields_bind]
    apply (readPairSet_calls market config snapshot now pairConfig).weaken
    rintro reading ⟨own, read⟩
    refine ⟨by simp [configured, own], ?_⟩
    intro other member
    rcases List.mem_append.mp member with old | last
    · exact earlier other old
    · exact List.mem_singleton.mp last ▸ read
  · exact ⟨rfl, List.forall_mem_nil _⟩

end market

theorem loadOrCaptureBias_calls (capturing : ∀ call : Call, call.isTrueOpen → allowed call)
    (timeframe : Timeframe) (symbol : String) (price : Decimal) (now : Instant)
    (holidays : HolidayProvider) :
    (loadOrCaptureBias platform timeframe symbol price now holidays).Yields allowed
      fun _ => True := by
  have loaded : (loadOrCaptureLevel platform timeframe symbol price now holidays).Yields allowed
      fun _ => True := by
    unfold loadOrCaptureLevel
    simp only [yields_bind, yields_perform, yields_ofExcept]
    refine ⟨capturing _ rfl, fun _ onFile _ => ?_⟩
    split
    · split
      · simp only [yields_bind, yields_perform, yields_ofExcept, yields_pure]
        exact ⟨capturing _ rfl, fun _ _ _ => trivial⟩
      · trivial
    · trivial
  unfold loadOrCaptureBias
  rw [yields_bind]
  apply loaded.weaken
  intro level _
  exact ⟨capturing _ rfl, fun _ _ _ => trivial⟩

section reconciling
variable (compares : ∀ call : Call, call.isReconciling → allowed call)
include compares

theorem appendPositions_calls (openPositions : List Position) :
    (appendPositions openPositions).Yields allowed fun _ => True := by
  refine yields_foldlM (fun _ _ => True) ?_ () trivial
  intro _ position _ _ _ _
  simp only [yields_bind, yields_perform, yields_ofExcept]
  exact ⟨compares _ rfl, fun _ _ _ => trivial⟩

theorem reconcileAndNotify_calls (locallyKnownPositions : List Position) :
    (reconcileAndNotify locallyKnownPositions).Yields allowed fun _ => True := by
  have noted (positions : List Position) : Program.Yields (do
      observe (.reconciled positions)
      return positions : Cycle (List Position)) allowed fun _ => True := by
    simp only [yields_bind, yields_perform, yields_pure]
    exact ⟨compares _ rfl, fun _ => trivial⟩
  unfold reconcileAndNotify
  simp only [yields_bind, yields_perform, yields_ofExcept]
  refine ⟨compares _ rfl, fun _ brokerPositions _ => ?_⟩
  split
  · exact noted _
  · exact ⟨compares _ rfl, fun _ _ _ => noted _⟩

end reconciling

section trading
variable (compares : ∀ call : Call, call.isReconciling → allowed call)
  (keeps : ∀ call : Call, call.isHousekeeping → allowed call)
include compares keeps

theorem exitSweep_calls (closes : ∀ call : Call, call.isClosing → allowed call)
    (records : ∀ record : DecisionRecord, record.outcome = "position_closed" →
      allowed (.appendDecision record))
    (config : Config) (snapshot : BrokerSnapshot) (now : Instant) (states : List PairCycleState)
    (openPositions : List Position) :
    (exitSweep config snapshot now states openPositions).Yields allowed fun _ => True := by
  have closed (exit : ExitDecision) :
      (closeFlagged config openPositions exit).Yields allowed fun _ => True := by
    unfold closeFlagged
    simp only [yields_bind, yields_perform]
    refine ⟨closes _ rfl, fun reply => ?_⟩
    cases reply with
    | error failure => trivial
    | ok order =>
      simp only [yields_bind, yields_perform]
      exact ⟨closes _ rfl, fun _ => appendDecision_calls keeps fun record _ label =>
        records record label⟩
  unfold exitSweep
  rw [yields_bind]
  refine Program.Yields.weaken (yields_foldlM (fun _ _ => True)
    (fun _ exit _ _ _ _ => closed exit) () trivial) fun _ _ => ?_
  split
  · trivial
  · rw [yields_bind]
    refine (reconcileAndNotify_calls compares openPositions).weaken fun positions _ => ?_
    rw [yields_bind]
    exact (appendPositions_calls compares positions).weaken fun _ _ => trivial

theorem sizeAndSubmit_calls (orders : ∀ call : Call, call.isOrdering → allowed call)
    (records : ∀ record : DecisionRecord,
      record.outcome = "order_submitted" ∨ record.outcome = "risk_rejected" →
      allowed (.appendDecision record))
    (config : Config) (snapshot : BrokerSnapshot) (isTuesday : Bool) (state : PairCycleState)
    (openPositions : List Position) (signal : TradeSignal) :
    (sizeAndSubmit platform config snapshot isTuesday state openPositions signal).Yields allowed
      fun _ => True := by
  have submitted (decision : RiskDecision) :
      (submitApproved snapshot openPositions signal decision).Yields allowed fun _ => True := by
    unfold submitApproved
    simp only [yields_bind, yields_perform, yields_ofExcept]
    refine ⟨orders _ rfl, fun _ => ⟨orders _ rfl, fun _ _ _ => ⟨orders _ rfl, fun _ => ?_⟩⟩⟩
    refine (reconcileAndNotify_calls compares openPositions).weaken fun positions _ => ?_
    refine (appendPositions_calls compares positions).weaken fun _ _ => ?_
    exact (appendDecision_calls keeps fun record _ label => records record (.inl label)).weaken
      fun _ _ => trivial
  unfold sizeAndSubmit
  simp only [yields_bind, yields_perform, yields_ofExcept]
  refine ⟨orders _ rfl, fun _ equity _ => ⟨orders _ rfl, fun _ decision _ => ⟨orders _ rfl,
    fun _ => ?_⟩⟩⟩
  split
  · exact submitted decision
  · rw [yields_bind]
    exact (appendDecision_calls keeps fun record _ label => records record (.inr label)).weaken
      fun _ _ => trivial

/-- The calls of the entry loop and its gates. -/
theorem considerEntries_calls (orders : ∀ call : Call, call.isOrdering → allowed call)
    (captures : ∀ call : Call, call.isTrueOpen → allowed call)
    (records : ∀ record : DecisionRecord, allowed (.appendDecision record))
    (evaluates : ∀ state : PairCycleState, allowed (.observe (.evaluating state)))
    (considers : ∀ (now : Instant) (health : HealthMonitor),
      allowed (.observe (.consideringEntries now health)))
    (cli : Cli) (config : Config) (snapshot : BrokerSnapshot) (now : Instant) (isTuesday : Bool)
    (holidays : HolidayProvider) (health : HealthMonitor) (states : List PairCycleState)
    (openPositions : List Position) :
    (considerEntries platform cli config snapshot now isTuesday holidays health states
      openPositions).Yields allowed fun _ => True := by
  have recorded {β : Type} (pair outcome : String) (detail : Option String) (result : β) :
      (do
        appendDecision pair outcome detail
        return result : Cycle β).Yields allowed fun _ => True := by
    rw [yields_bind]
    exact (appendDecision_calls keeps fun record _ _ => records record).weaken fun _ _ => trivial
  have evaluated (openPositions : List Position) (state : PairCycleState) :
      (evaluatePairSet platform config snapshot now isTuesday holidays openPositions state).Yields
        allowed fun _ => True := by
    unfold evaluatePairSet
    rw [yields_bind, yields_perform]
    refine ⟨evaluates state, fun _ => ?_⟩
    dsimp only
    split
    · rw [yields_bind]
      refine (loadOrCaptureBias_calls captures ..).weaken fun weeklyBias _ => ?_
      rw [yields_bind]
      refine (loadOrCaptureBias_calls captures ..).weaken fun dailyBias _ => ?_
      simp only [yields_bind, yields_perform]
      refine ⟨orders _ rfl, fun traceId => ⟨orders _ rfl, fun signalId => ⟨keeps _ rfl,
        fun timestamp => ?_⟩⟩⟩
      split
      · exact recorded ..
      · exact recorded ..
      · split
        · exact recorded ..
        · exact sizeAndSubmit_calls compares keeps orders (fun record _ => records record) ..
    · exact recorded ..
  have written := writeStatus_calls keeps
  unfold considerEntries
  split
  · exact written ..
  · rw [yields_bind, yields_perform]
    refine ⟨considers now health, fun _ => ?_⟩
    split
    · exact written ..
    · split
      · exact written ..
      · rw [yields_bind]
        refine Program.Yields.weaken (yields_foldlM (fun _ _ => True) ?_ _ trivial)
          fun progress _ => written ..
        intro front state back progress _ _
        rw [yields_bind]
        exact (evaluated progress.1 state).weaken fun _ _ => trivial

end trading

end Oboobot.Daemon
