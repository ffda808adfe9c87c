import Oboobot.Daemon.ConfigFloats
import Oboobot.Daemon.PhaseCalls
import Oboobot.Daemon.SpreadUnderTest
import Oboobot.Daemon.StateFileNames
import Oboobot.Daemon.Host

/-! A broker that quotes every symbol at a spread of its own that never changes, as
all three brokers of the repository do: what the spread filter then makes of it. -/

namespace Oboobot.Daemon

open Domain SessionTime Strategy Risk Broker Interaction Daemon.Cycle

/-- The spread histories on file. -/
abbrev SpreadFiles := BTreeMap SpreadHistory

/-- What an event may do to the spread histories. A write that fails may have taken
effect or not. A snapshot quotes every requested symbol at its spread. -/
def SteadyStep (spread : String → Decimal) (files : SpreadFiles) (event : CycleEvent)
    (after : SpreadFiles) : Prop :=
  match event with
  | ⟨.readSpreadHistory file, .ok stored⟩ => stored = files file ∧ after = files
  | ⟨.writeSpreadHistory file history, .ok _⟩ => after = files.insert file history
  | ⟨.writeSpreadHistory file history, .error _⟩ =>
    after = files ∨ after = files.insert file history
  | ⟨.getSnapshot symbols, some (.ok snapshot)⟩ =>
    (∀ symbol ∈ symbols, snapshot.spreads symbol = some (spread symbol)) ∧ after = files
  | _ => after = files

/-- No pair-set is turned away for its spread, and only its spread is stored for it. -/
def steadyContract (spread : String → Decimal) : Contract Call Reply SpreadFiles where
  step := SteadyStep spread
  promise _ call := match call with
    | .appendDecision record => record.outcome ≠ "spread_rejected"
    | .writeSpreadHistory file history => ∃ symbol, file = spreadHistoryFile symbol ∧
        ∀ sample ∈ history.samples, sample = spread symbol
    | _ => True

/-- Every sample on file is the symbol's spread. -/
def Steady (spread : String → Decimal) (files : SpreadFiles) : Prop :=
  ∀ symbol history, files (spreadHistoryFile symbol) = some history →
    ∀ sample ∈ history.samples, sample = spread symbol

section filter
variable {history : SpreadHistory} {spread multiplier : Decimal}

theorem sum_eq_of_steady {samples : List Decimal} (steady : ∀ sample ∈ samples, sample = spread) :
    samples.sum = samples.length * spread := by
  rw [List.eq_replicate_of_mem steady]
  simp

/-- A spread that never changes does not exceed a multiple of its own average. -/
theorem passesFilter_of_steady (steady : ∀ sample ∈ history.samples, sample = spread)
    (nonneg : 0 ≤ spread) (enlarges : 1 ≤ multiplier) :
    history.passesFilter spread multiplier = true := by
  by_cases empty : history.samples = []
  · simp [SpreadHistory.passesFilter, SpreadHistory.average, empty]
  · by_contra rejected
    have exceeds := (passesFilter_eq_false_iff empty).mp (Bool.eq_false_of_not_eq_true rejected)
    rw [sum_eq_of_steady steady] at exceeds
    have total : 0 ≤ (history.samples.length : ℚ) * spread := by positivity
    nlinarith

end filter

/-- The multiplier that the entry loop uses is at least one for every configuration that loads:
rounding may take one just above it back to it. -/
theorem one_le_spreadMultiplier (conversion : FloatConversion) {file : ConfigFile} {config : Config}
    (loaded : Config.load file = .ok config) :
    1 ≤ (config.risk.spreadMultiplier.toDecimal conversion).getD (3 / 2) := by
  have checked : config.risk.spreadMultiplier.le (.finite 1) = false := by
    cases file with
    | missing =>
      cases loaded
      decide +kernel
    | unreadable => cases loaded
    | unparsable => cases loaded
    | parsed parsed =>
      obtain ⟨accepted, rfl⟩ := Config.validate_of_load loaded
      exact (checked_of_validate accepted).2.2.1
  cases multiplier : config.risk.spreadMultiplier with
  | nan => norm_num [F64.toDecimal]
  | infinite negative => norm_num [F64.toDecimal]
  | finite number =>
    have above : 1 < number := by
      by_contra small
      rw [multiplier, ← Bool.not_eq_true] at checked
      exact checked (le_finite_iff.mpr (.inr ⟨number, rfl, not_lt.mp small⟩))
    simp only [F64.toDecimal]
    cases converted : conversion.tryFrom number with
    | none => norm_num
    | some decimal =>
      exact_mod_cast conversion.atLeast number 1 decimal (by decide) (by exact_mod_cast above.le)
        converted

variable {spread : String → Decimal} {files : SpreadFiles}

theorem Steady.insert (steady : Steady spread files) {symbol : String} {history : SpreadHistory}
    (own : ∀ sample ∈ history.samples, sample = spread symbol) :
    Steady spread (files.insert (spreadHistoryFile symbol) history) := by
  intro other stored found
  by_cases same : spreadHistoryFile other = spreadHistoryFile symbol
  · obtain rfl := spreadHistoryFile_inj.mp same
    rw [BTreeMap.insert, if_pos rfl] at found
    cases found
    exact own
  · rw [BTreeMap.insert, if_neg same] at found
    exact steady other stored found

theorem Steady.record (steady : Steady spread files) (symbol : String) (now : Instant) :
    ∀ sample ∈ (((files (spreadHistoryFile symbol)).getD .default).record (spread symbol) now).samples,
      sample = spread symbol := by
  have earlier : ∀ sample ∈ ((files (spreadHistoryFile symbol)).getD .default).samples,
      sample = spread symbol := by
    cases stored : files (spreadHistoryFile symbol) with
    | none => exact List.forall_mem_nil _
    | some history => exact steady symbol history stored
  intro sample member
  rw [samples_record] at member
  rcases List.mem_append.mp member with old | last
  · split at old
    · exact earlier sample old
    · exact earlier sample (List.mem_of_mem_tail old)
  · exact List.mem_singleton.mp last

/-- Calls that have nothing to do with spreads, records of decisions among them. -/
def Call.IsSpreadless : Call → Prop
  | .readSpreadHistory _ | .writeSpreadHistory _ _ | .getSnapshot _ => False
  | .appendDecision record => record.outcome ≠ "spread_rejected"
  | _ => True

section kinds
variable (call : Call)

theorem isSpreadless_of_correlation (correlates : call.isCorrelation) : call.IsSpreadless := by
  cases call <;> trivial

theorem isSpreadless_of_housekeeping (keeps : call.isHousekeeping) : call.IsSpreadless := by
  cases call <;> trivial

theorem isSpreadless_of_trueOpen (captures : call.isTrueOpen) : call.IsSpreadless := by
  cases call <;> trivial

theorem isSpreadless_of_reconciling (compares : call.isReconciling) : call.IsSpreadless := by
  cases call <;> trivial

theorem isSpreadless_of_closing (closes : call.isClosing) : call.IsSpreadless := by
  cases call <;> trivial

theorem isSpreadless_of_ordering (orders : call.isOrdering) : call.IsSpreadless := by
  cases call <;> trivial

end kinds

theorem steadyStep_spreadless {event : CycleEvent} (spreadless : event.call.IsSpreadless)
    {after : SpreadFiles} (step : SteadyStep spread files event after) : after = files := by
  obtain ⟨call, reply⟩ := event
  cases call with
  | readSpreadHistory _ | writeSpreadHistory _ _ | getSnapshot _ => cases spreadless
  | _ => exact step

theorem promise_of_spreadless {call : Call} (spreadless : call.IsSpreadless) :
    (steadyContract spread).promise files call := by
  cases call with
  | appendDecision record => exact spreadless
  | writeSpreadHistory _ _ => cases spreadless
  | _ => trivial

variable {α : Type}

/-- Programs of such calls leave the histories alone. -/
theorem spreadless_meets {program : Cycle α} {post : α → Prop}
    (yields : program.Yields Call.IsSpreadless post) :
    program.Meets (steadyContract spread) (fun value after => post value ∧ after = files)
      (fun _ _ => True) files := by
  have framed : program.Meets (steadyContract spread) (fun value after => post value ∧ after = files)
      (fun _ after => after = files) files := by
    refine yields.frame ?_ ?_ rfl
    · rintro world call spreadless rfl
      exact promise_of_spreadless spreadless
    · rintro world event after spreadless rfl step
      exact steadyStep_spreadless spreadless step
  exact framed.weaken (fun _ _ given => given) fun _ _ _ => trivial

/-- One such call. -/
theorem meets_spreadless {call : Call} {next : Reply call → Cycle α} {post : α → SpreadFiles → Prop}
    {failed : CycleError → SpreadFiles → Prop} (spreadless : call.IsSpreadless)
    (rest : ∀ reply, (next reply).Meets (steadyContract spread) post failed files) :
    (perform call >>= next).Meets (steadyContract spread) post failed files := by
  rw [meets_bind, meets_perform]
  refine ⟨promise_of_spreadless spreadless, fun reply after step => ?_⟩
  rw [steadyStep_spreadless spreadless step]
  exact rest reply

/-- A state that the spread filter lets through. -/
def Passes (platform : Platform) (config : Config) (state : PairCycleState) : Prop :=
  state.spreadHistory.passesFilter state.currentSpread
    ((config.risk.spreadMultiplier.toDecimal platform.conversion).getD (3 / 2)) = true

theorem recordSpread_steady (steady : Steady spread files) (symbol : String) (now : Instant) :
    (recordSpread symbol (spread symbol) now).Meets (steadyContract spread)
      (fun result after => (∀ sample ∈ result.1.samples, sample = spread symbol) ∧
        Steady spread after) (fun _ after => Steady spread after) files := by
  have own := steady.record symbol now
  unfold recordSpread
  simp only [meets_bind, meets_perform, meets_ofExcept, meets_pure]
  refine ⟨trivial, fun reply after step => ?_⟩
  cases reply with
  | error failure =>
    have same : after = files := step
    exact ⟨fun _ came => (by cases came), fun _ _ => same ▸ steady⟩
  | ok stored =>
    obtain ⟨rfl, rfl⟩ := step
    refine ⟨?_, fun _ came => by cases came⟩
    rintro stored came
    cases came
    refine ⟨⟨symbol, rfl, own⟩, fun reply after step => ?_⟩
    cases reply with
    | error failure =>
      refine ⟨fun _ came => (by cases came), fun _ _ => ?_⟩
      rcases step with rfl | rfl
      · exact steady
      · exact steady.insert own
    | ok written =>
      have same : after = _ := step
      exact ⟨fun _ _ => ⟨own, same ▸ steady.insert own⟩, fun _ came => by cases came⟩

variable {platform : Platform} {divergence : DivergenceSource} {cli : Cli} {config : Config}
  {snapshot : BrokerSnapshot} {now : Instant}

/-- A state whose spread is its symbol's, as are all the samples next to it. -/
def OfSteady (spread : String → Decimal) (state : PairCycleState) : Prop :=
  state.currentSpread = spread state.pairConfig.primary ∧
    ∀ sample ∈ state.spreadHistory.samples, sample = spread state.pairConfig.primary

theorem readPairSet_steady (steady : Steady spread files) {pairConfig : PairConfig}
    (quoted : snapshot.spreads pairConfig.primary = some (spread pairConfig.primary)) :
    (readPairSet platform divergence config snapshot now pairConfig).Meets (steadyContract spread)
      (fun reading after => OfSteady spread reading.state ∧ Steady spread after)
      (fun _ _ => True) files := by
  have refreshed (file : String) (update : Option RollingBuffer → Decimal → Instant → RollingBuffer)
      (price : Decimal) {β : Type} (next : RollingBuffer → Cycle β) (post : β → SpreadFiles → Prop)
      (rest : ∀ buffer, (next buffer).Meets (steadyContract spread) post (fun _ _ => True) files) :
      (refreshBuffer file update price now >>= next).Meets (steadyContract spread) post
        (fun _ _ => True) files := by
    rw [meets_bind]
    have ranged : (refreshBuffer file update price now).Yields Call.IsSpreadless fun _ => True := by
      unfold refreshBuffer
      simp only [yields_bind, yields_perform, yields_ofExcept, yields_pure]
      exact ⟨trivial, fun _ _ _ => ⟨trivial, fun _ _ _ => trivial⟩⟩
    refine (spreadless_meets ranged).weaken ?_ fun _ _ _ => trivial
    rintro buffer after ⟨_, rfl⟩
    exact rest buffer
  unfold readPairSet
  refine refreshed _ _ _ _ _ fun dailyPrimary => ?_
  refine refreshed _ _ _ _ _ fun dailySecondary => ?_
  refine refreshed _ _ _ _ _ fun sessionPrimary => ?_
  refine refreshed _ _ _ _ _ fun sessionSecondary => ?_
  rw [meets_bind]
  refine (spreadless_meets (recordCorrelation_calls isSpreadless_of_correlation config _ _ _ _ now)).weaken ?_ fun _ _ _ => trivial
  rintro correlation _ ⟨_, rfl⟩
  rw [meets_bind, quoted, Option.getD_some]
  refine (recordSpread_steady steady _ now).weaken ?_ fun _ _ _ => trivial
  rintro spreads after ⟨own, still⟩
  refine meets_spreadless trivial fun _ => ?_
  rw [meets_pure]
  exact ⟨⟨by rw [pairCycleState]; simp [quoted], own⟩, still⟩

theorem readPairSets_steady (steady : Steady spread files)
    (quoted : ∀ pairConfig ∈ config.pairs,
      snapshot.spreads pairConfig.primary = some (spread pairConfig.primary)) :
    (readPairSets platform divergence config snapshot now).Meets (steadyContract spread)
      (fun readings after => (∀ reading ∈ readings, OfSteady spread reading.state) ∧
        Steady spread after) (fun _ _ => True) files := by
  refine meets_foldlM (fun _ (readings : List PairReading) after =>
    (∀ reading ∈ readings, OfSteady spread reading.state) ∧ Steady spread after) ?_ []
    ⟨List.forall_mem_nil _, steady⟩
  rintro front pairConfig back readings world same ⟨earlier, steady⟩
  rw [meets_bind]
  refine (readPairSet_steady steady (quoted pairConfig (by simp [same]))).weaken ?_
    fun _ _ _ => trivial
  rintro reading after ⟨own, still⟩
  refine ⟨?_, still⟩
  intro other member
  rcases List.mem_append.mp member with old | last
  · exact earlier other old
  · exact List.mem_singleton.mp last ▸ own

theorem evaluatePairSet_steady {state : PairCycleState} (passes : Passes platform config state)
    (isTuesday : Bool) (holidays : HolidayProvider) (openPositions : List Position) :
    (evaluatePairSet platform config snapshot now isTuesday holidays openPositions state).Yields
      Call.IsSpreadless fun _ => True := by
  have labelled (pair outcome : String) (detail : Option String) (other : outcome ≠ "spread_rejected") :
      (appendDecision pair outcome detail).Yields Call.IsSpreadless fun _ => True :=
    appendDecision_calls isSpreadless_of_housekeeping fun record _ label =>
      (label.symm ▸ other : record.outcome ≠ "spread_rejected")
  unfold evaluatePairSet
  rw [yields_bind, yields_perform]
  refine ⟨trivial, fun _ => ?_⟩
  have through : state.spreadHistory.passesFilter state.currentSpread
      ((config.risk.spreadMultiplier.toDecimal platform.conversion).getD (3 / 2)) = true := passes
  dsimp only
  rw [if_pos through, yields_bind]
  refine (loadOrCaptureBias_calls isSpreadless_of_trueOpen _ _ _ _ _).weaken fun weeklyBias _ => ?_
  rw [yields_bind]
  refine (loadOrCaptureBias_calls isSpreadless_of_trueOpen _ _ _ _ _).weaken fun dailyBias _ => ?_
  simp only [yields_bind, yields_perform]
  refine ⟨trivial, fun _ => ⟨trivial, fun _ => ⟨trivial, fun _ => ?_⟩⟩⟩
  split
  · rw [yields_bind]
    exact (labelled _ _ _ (by decide)).weaken fun _ _ => trivial
  · rw [yields_bind]
    exact (labelled _ _ _ (by decide)).weaken fun _ _ => trivial
  · split
    · rw [yields_bind]
      exact (labelled _ _ _ (by decide)).weaken fun _ _ => trivial
    · refine sizeAndSubmit_calls isSpreadless_of_reconciling isSpreadless_of_housekeeping
        isSpreadless_of_ordering ?_ config snapshot isTuesday state openPositions _
      rintro record (label | label) <;> simp [Call.IsSpreadless, label]

theorem considerEntries_steady {states : List PairCycleState}
    (passes : ∀ state ∈ states, Passes platform config state) (isTuesday : Bool) (holidays : HolidayProvider)
    (health : HealthMonitor) (openPositions : List Position) :
    (considerEntries platform cli config snapshot now isTuesday holidays health states
      openPositions).Yields Call.IsSpreadless fun _ => True := by
  have status (positions : List Position) (decision : String) :
      (writeStatus positions health (some decision) false).Yields Call.IsSpreadless fun _ => True :=
    writeStatus_calls isSpreadless_of_housekeeping _ _ _ _
  have looped : (entryLoop platform config snapshot now isTuesday holidays openPositions
      states).Yields Call.IsSpreadless fun _ => True := by
    refine yields_foldlM (fun _ _ => True) ?_ (openPositions, []) trivial
    intro front state back progress same _
    rw [yields_bind]
    exact (evaluatePairSet_steady (passes state (by simp [same])) isTuesday holidays
      progress.1).weaken fun _ _ => trivial
  unfold considerEntries
  split
  · exact status _ _
  · rw [yields_bind, yields_perform]
    refine ⟨trivial, fun _ => ?_⟩
    split
    · exact status _ _
    · split
      · exact status _ _
      · rw [yields_bind]
        exact looped.weaken fun _ _ => status _ _

/-- With spreads that never change, the rest of a cycle keeps its histories steady
and turns no pair-set away for its spread. -/
theorem tradeOnSnapshot_steady (nonneg : ∀ symbol, 0 ≤ spread symbol) (steady : Steady spread files)
    (enlarges : 1 ≤ (config.risk.spreadMultiplier.toDecimal platform.conversion).getD (3 / 2))
    (quoted : ∀ symbol ∈ allSymbols config.pairs, snapshot.spreads symbol = some (spread symbol))
    (health : HealthMonitor) (openPositions : List Position) :
    (tradeOnSnapshot platform divergence cli config snapshot health openPositions).Meets
      (steadyContract spread) (fun _ _ => True) (fun _ _ => True) files := by
  unfold tradeOnSnapshot
  refine meets_spreadless trivial fun now => ?_
  rw [meets_bind]
  refine (spreadless_meets (hostHealth_calls isSpreadless_of_housekeeping _ _ _ _)).weaken ?_
    fun _ _ _ => trivial
  rintro health _ ⟨_, rfl⟩
  rw [meets_bind]
  refine (spreadless_meets (convertStalenessLimits_yields trivial)).weaken ?_
    fun _ _ _ => trivial
  rintro _ _ ⟨_, rfl⟩
  rw [meets_bind]
  have primaries : ∀ pairConfig ∈ config.pairs,
      snapshot.spreads pairConfig.primary = some (spread pairConfig.primary) := fun pairConfig member =>
    quoted _ ((mem_allSymbols_iff _ _).mpr ⟨pairConfig, member, .inl rfl⟩)
  refine (readPairSets_steady steady primaries).weaken ?_ fun _ _ _ => trivial
  rintro readings after ⟨own, still⟩
  have passes : ∀ state ∈ readings.map PairReading.state, Passes platform config state := by
    intro state member
    obtain ⟨reading, present, rfl⟩ := List.mem_map.mp member
    obtain ⟨current, samples⟩ := own reading present
    rw [Passes, current]
    exact passesFilter_of_steady samples (nonneg _) enlarges
  rw [meets_bind]
  refine (spreadless_meets (exitSweep_calls isSpreadless_of_reconciling isSpreadless_of_housekeeping
    isSpreadless_of_closing (fun record label => ?_) config snapshot now _ openPositions)).weaken ?_
    fun _ _ _ => trivial
  · simp [Call.IsSpreadless, label]
  · rintro positions _ ⟨_, rfl⟩
    exact (spreadless_meets (considerEntries_steady passes _ _ _ positions)).weaken
      (fun _ _ _ => trivial) fun _ _ _ => trivial

theorem runRealCycle_steady (nonneg : ∀ symbol, 0 ≤ spread symbol) (steady : Steady spread files) :
    (runRealCycle platform divergence cli).Meets (steadyContract spread) (fun _ _ => True)
      (fun _ _ => True) files := by
  have quietly (health : HealthMonitor) (positions : List Position) (label : String)
      (paused : Bool) : (writeStatus positions health (some label) paused).Meets
        (steadyContract spread) (fun _ _ => True) (fun _ _ => True) files :=
    (spreadless_meets (writeStatus_calls isSpreadless_of_housekeeping _ _ _ _)).weaken
      (fun _ _ _ => trivial) fun _ _ _ => trivial
  have configured {config : Config}
      (enlarges : 1 ≤ (config.risk.spreadMultiplier.toDecimal platform.conversion).getD (3 / 2)) :
      (configuredCycle platform divergence cli config).Meets (steadyContract spread)
        (fun _ _ => True) (fun _ _ => True) files := by
    unfold configuredCycle
    refine meets_spreadless trivial fun reply => ?_
    rw [meets_bind, meets_ofExcept]
    refine ⟨fun records _ => ?_, fun _ _ => trivial⟩
    rw [meets_bind]
    refine (spreadless_meets (reconcileAndNotify_calls isSpreadless_of_reconciling records)).weaken ?_
      fun _ _ _ => trivial
    rintro openPositions world ⟨_, unchanged⟩
    rw [unchanged, meets_bind, meets_perform]
    refine ⟨trivial, fun outcome after step => ?_⟩
    rcases outcome with _ | failure | snapshot
    · have same : after = files := step
      exact same ▸ meets_spreadless trivial fun _ => quietly _ _ _ _
    · have same : after = files := step
      exact same ▸ meets_spreadless trivial fun _ => quietly _ _ _ _
    · obtain ⟨quoted, rfl⟩ := step
      exact tradeOnSnapshot_steady nonneg steady enlarges quoted _ _
  refine runRealCycle_meets_of (fun current => current = files) rfl ?_ (fun _ _ _ => trivial) ?_ ?_
  · rintro _ call opens rfl
    have spreadless : call.IsSpreadless := by rcases opens with rfl | rfl | rfl <;> trivial
    exact ⟨promise_of_spreadless spreadless, fun _ _ step => steadyStep_spreadless spreadless step⟩
  · rintro _ rfl
    exact quietly _ _ _ _
  · rintro _ _ _ config _ loaded rfl
    exact configured (one_le_spreadMultiplier platform.conversion loaded)

/-- What a cycle stores keeps the histories steady. -/
theorem Steady.step (steady : Steady spread files) {event : CycleEvent} {after : SpreadFiles}
    (promised : (steadyContract spread).promise files event.call)
    (step : SteadyStep spread files event after) : Steady spread after := by
  obtain ⟨call, reply⟩ := event
  cases call with
  | readSpreadHistory _ =>
    cases reply with
    | error failure => exact (step : after = files) ▸ steady
    | ok stored => exact step.2 ▸ steady
  | writeSpreadHistory _ _ =>
    obtain ⟨symbol, rfl, own⟩ := promised
    cases reply with
    | error failure =>
      rcases step with rfl | rfl
      · exact steady
      · exact steady.insert own
    | ok written => exact (step : after = _) ▸ steady.insert own
  | getSnapshot _ =>
    rcases reply with _ | _ | snapshot
    · exact (step : after = files) ▸ steady
    · exact (step : after = files) ▸ steady
    · exact step.2 ▸ steady
  | _ => exact (step : after = files) ▸ steady

/-- The spread histories under any sequential invocations, killed or not, with a broker
whose spreads never change. -/
def SteadyReachable (spread : String → Decimal) : Option (Cycle Unit) → SpreadFiles → Prop :=
  Reachable (steadyContract spread)
    (fun program => ∃ platform divergence cli, program = runRealCycle platform divergence cli)
    (fun files after => after = files) (Steady spread)

/-- While the broker's spreads never change, every stored sample of a symbol is its
spread, and no invocation is ever about to turn a pair-set away for its spread. -/
theorem steady_of_reachable (nonneg : ∀ symbol, 0 ≤ spread symbol)
    {running : Option (Cycle Unit)} (reached : SteadyReachable spread running files) :
    Steady spread files ∧ ∀ record next, running = some (.request (.appendDecision record) next) →
      record.outcome ≠ "spread_rejected" := by
  have initially : ∀ files : SpreadFiles, Steady spread files → Steady spread files := fun _ => id
  have invariant := Reachable.invariant initially ?_ ?_ ?_ reached
  · refine ⟨invariant.1, ?_⟩
    rintro record next rfl
    exact (invariant.2 _ rfl).1
  · rintro program files ⟨platform, divergence, cli, rfl⟩ steady
    exact runRealCycle_steady nonneg steady
  · exact fun files event after steady promised step => steady.step promised step
  · rintro files after steady rfl
    exact steady

/-- Quotes of every symbol at a spread of two pips. -/
def twoPipHost : Host :=
  Host.fresh .default fun _ => some { bid := 1.1, ask := 1.1002 }

def Host.QuotesTwoPips (host : Host) : Prop :=
  ∀ symbol, host.quotes symbol = some { bid := 1.1, ask := 1.1002 }

theorem Host.answer_steadyStep (host : Host) (call : Call) (quoted : host.QuotesTwoPips) :
    SteadyStep (fun _ => 0.0002) host.spreadHistories ⟨call, (host.answer call).1⟩
      (host.answer call).2.spreadHistories ∧ (host.answer call).2.QuotesTwoPips := by
  cases call with
  | getSnapshot symbols =>
    refine ⟨⟨?_, rfl⟩, quoted⟩
    intro symbol member
    rw [Host.snapshot]
    dsimp only
    rw [if_pos (List.contains_iff_mem.mpr member), quoted symbol]
    norm_num
  | closePosition id =>
    have kept : (host.closePosition id).2.spreadHistories = host.spreadHistories ∧
        (host.closePosition id).2.quotes = host.quotes := by
      unfold Host.closePosition
      split <;> exact ⟨rfl, rfl⟩
    refine ⟨kept.1, fun symbol => ?_⟩
    exact (congrFun kept.2 symbol).trans (quoted symbol)
  | readSpreadHistory _ => exact ⟨⟨rfl, rfl⟩, quoted⟩
  | _ => exact ⟨rfl, quoted⟩

/-- A run with those quotes stores a sample of two pips. -/
theorem twoPipHost_steady :
    let after := ((runRealCycle .winter secondarySwept ⟨false⟩).play Host.answer twoPipHost).2.2
    (after.spreadHistories (spreadHistoryFile "EURUSD")).isSome = true ∧
      Steady (fun _ => 0.0002) after.spreadHistories := by
  intro after
  have empty : Steady (fun _ => 0.0002) twoPipHost.spreadHistories := by
    intro symbol history found
    cases found
  have launched : SteadyReachable (fun _ => 0.0002)
      (some (runRealCycle .winter secondarySwept ⟨false⟩)) twoPipHost.spreadHistories :=
    .launch (.start empty) ⟨_, _, _, rfl⟩
  have quoted : twoPipHost.QuotesTwoPips := fun _ => rfl
  have reached : SteadyReachable (fun _ => 0.0002) none after.spreadHistories :=
    (Reachable.played Host.answer_steadyStep quoted launched).1
  exact ⟨by decide +kernel, (steady_of_reachable (fun _ => by norm_num) reached).1⟩

end Oboobot.Daemon
