import Oboobot.Daemon.Host
import Oboobot.Daemon.WindowFiles
import Oboobot.Interaction.Runs
import Oboobot.Interaction.Evaluation

/-! The pair-sets of the market-state loop, which share ranges and yet do not influence
one another. -/

namespace Oboobot.Daemon

open Domain SessionTime Strategy Risk Broker Interaction Daemon.Cycle

/-- What the market-state loop keeps in the state directory. -/
structure MarketFiles where
  ranges : BTreeMap RollingBuffer
  windows : WindowFiles

namespace MarketFiles

def putRange (files : MarketFiles) (file : String) (buffer : RollingBuffer) : MarketFiles :=
  { files with ranges := files.ranges.insert file buffer }

theorem ranges_putRange_self (files : MarketFiles) (file : String) (buffer : RollingBuffer) :
    (files.putRange file buffer).ranges file = some buffer :=
  if_pos rfl

theorem ranges_putRange_of_ne (files : MarketFiles) {file other : String} (apart : other ≠ file)
    (buffer : RollingBuffer) : (files.putRange file buffer).ranges other = files.ranges other :=
  if_neg apart

def withWindows (files : MarketFiles) (windows : WindowFiles) : MarketFiles :=
  { files with windows := windows }

/-- A read finds what is on file. A write that fails may have replaced it or not. -/
def Step (files : MarketFiles) : CycleEvent → MarketFiles → Prop
  | ⟨.readBuffer file, .ok found⟩, after => found = files.ranges file ∧ after = files
  | ⟨.writeBuffer file buffer, .ok ()⟩, after => after = files.putRange file buffer
  | ⟨.writeBuffer file buffer, .error _⟩, after =>
    after = files ∨ after = files.putRange file buffer
  | event, after => ∃ windows, files.windows.Step event windows ∧ after = files.withWindows windows

end MarketFiles

theorem bufferDailyFile_inj {first second : String} :
    bufferDailyFile first = bufferDailyFile second ↔ first = second := by
  unfold bufferDailyFile
  rw [String.append_left_inj, String.append_right_inj]

theorem bufferSessionFile_inj {first second : String} :
    bufferSessionFile first = bufferSessionFile second ↔ first = second := by
  unfold bufferSessionFile
  rw [String.append_left_inj, String.append_right_inj]

theorem bufferSessionFile_ne (session daily : String) :
    bufferSessionFile session ≠ bufferDailyFile daily := by
  intro same
  have eighth := congrArg (fun name => name.toList[7]?) same
  unfold bufferSessionFile bufferDailyFile at eighth
  simp [String.toList_append] at eighth

namespace MarketFiles

section ranges
variable (newYork : NewYork) (snapshot : BrokerSnapshot) (now : Instant) (files : MarketFiles)

/-- What a refresh makes of the daily range on file. -/
def dailyRange (symbol : String) : RollingBuffer :=
  updateDailyBuffer newYork (files.ranges (bufferDailyFile symbol)) (bidOrZero snapshot symbol) now

def sessionRange (symbol : String) : RollingBuffer :=
  updateSessionBuffer newYork (files.ranges (bufferSessionFile symbol)) (bidOrZero snapshot symbol)
    now

def refreshDaily (symbol : String) : MarketFiles :=
  files.putRange (bufferDailyFile symbol) (files.dailyRange newYork snapshot now symbol)

def refreshSession (symbol : String) : MarketFiles :=
  files.putRange (bufferSessionFile symbol) (files.sessionRange newYork snapshot now symbol)

/-- The ranges on file may differ, but not in what a refresh makes of them. -/
structure SameRanges (after : MarketFiles) : Prop where
  daily : ∀ symbol,
    after.dailyRange newYork snapshot now symbol = files.dailyRange newYork snapshot now symbol
  session : ∀ symbol,
    after.sessionRange newYork snapshot now symbol = files.sessionRange newYork snapshot now symbol

/-- The four refreshes of a round. -/
def refreshed (pairConfig : PairConfig) : MarketFiles :=
  (((files.refreshDaily newYork snapshot now pairConfig.primary).refreshDaily newYork snapshot now
    pairConfig.secondary).refreshSession newYork snapshot now pairConfig.primary).refreshSession
      newYork snapshot now pairConfig.secondary

variable {newYork snapshot now files}

theorem SameRanges.trans {between after : MarketFiles}
    (first : files.SameRanges newYork snapshot now between)
    (second : between.SameRanges newYork snapshot now after) :
    files.SameRanges newYork snapshot now after :=
  ⟨fun symbol => (second.daily symbol).trans (first.daily symbol),
    fun symbol => (second.session symbol).trans (first.session symbol)⟩

theorem sameRanges_refreshDaily (symbol : String) :
    files.SameRanges newYork snapshot now (files.refreshDaily newYork snapshot now symbol) := by
  constructor
  · intro other
    unfold refreshDaily dailyRange
    by_cases same : other = symbol
    · rw [same, ranges_putRange_self]
      exact updateBuffer_idem _ _ _ now
    · rw [ranges_putRange_of_ne files (mt bufferDailyFile_inj.mp same)]
  · intro other
    unfold refreshDaily sessionRange
    rw [ranges_putRange_of_ne files (bufferSessionFile_ne other symbol)]

theorem sameRanges_refreshSession (symbol : String) :
    files.SameRanges newYork snapshot now (files.refreshSession newYork snapshot now symbol) := by
  constructor
  · intro other
    unfold refreshSession dailyRange
    rw [ranges_putRange_of_ne files (bufferSessionFile_ne symbol other).symm]
  · intro other
    unfold refreshSession sessionRange
    by_cases same : other = symbol
    · rw [same, ranges_putRange_self]
      exact updateBuffer_idem _ _ _ now
    · rw [ranges_putRange_of_ne files (mt bufferSessionFile_inj.mp same)]

theorem sameRanges_refreshed (pairConfig : PairConfig) :
    files.SameRanges newYork snapshot now (files.refreshed newYork snapshot now pairConfig) :=
  ((sameRanges_refreshDaily _).trans (sameRanges_refreshDaily _)).trans
    ((sameRanges_refreshSession _).trans (sameRanges_refreshSession _))

end ranges

end MarketFiles

section rounds
variable {platform : Platform} {divergence : DivergenceSource} {config : Config}
  {snapshot : BrokerSnapshot} {now : Instant} {files after : MarketFiles}

theorem refreshBuffer_evaluates {file : String}
    {update : Option RollingBuffer → Decimal → Instant → RollingBuffer} {price : Decimal}
    {buffer : RollingBuffer} :
    (refreshBuffer file update price now).Evaluates MarketFiles.Step files buffer after ↔
      update (files.ranges file) price now = buffer ∧ files.putRange file buffer = after := by
  unfold refreshBuffer
  simp only [evaluates_bind, evaluates_perform, evaluates_ofExcept, evaluates_pure]
  constructor
  · intro run
    obtain ⟨_, _, read, found, _, ⟨rfl, rfl⟩, _, _, written, _, _, ⟨rfl, rfl⟩, rfl, rfl⟩ := run
    obtain ⟨rfl, rfl⟩ := read
    exact ⟨rfl, written.symm⟩
  · intro same
    obtain ⟨rfl, rfl⟩ := same
    exact ⟨.ok (files.ranges file), files, ⟨rfl, rfl⟩, _, _, ⟨rfl, rfl⟩, .ok (), _, rfl, _, _,
      ⟨rfl, rfl⟩, rfl, rfl⟩

theorem backfillCorrelation_stays {primary secondary : String}
    {samples : Except BrokerError (List (Decimal × Decimal))}
    (run : (backfillCorrelation primary secondary).Evaluates MarketFiles.Step files samples after) :
    after = files := by
  unfold backfillCorrelation at run
  simp only [evaluates_bind, evaluates_perform] at run
  obtain ⟨reply, between, ⟨_, rfl, rfl⟩, run⟩ := run
  cases reply with
  | error failure => exact (evaluates_pure.mp run).2.symm
  | ok primaryHistory =>
    simp only [evaluates_bind, evaluates_perform] at run
    obtain ⟨reply, between, ⟨_, rfl, rfl⟩, run⟩ := run
    cases reply with
    | error failure => exact (evaluates_pure.mp run).2.symm
    | ok secondaryHistory => exact (evaluates_pure.mp run).2.symm

theorem backfillCorrelation_evaluates (primary secondary : String)
    (closes : List (Decimal × Decimal)) :
    (backfillCorrelation primary secondary).Evaluates MarketFiles.Step files (.ok closes) files := by
  unfold backfillCorrelation
  refine evaluates_bind.mpr ⟨.ok (closes.map Prod.fst), files, ?_, ?_⟩
  · exact evaluates_perform.mpr ⟨_, rfl, rfl⟩
  · refine evaluates_bind.mpr ⟨.ok (closes.map Prod.snd), files, ?_, ?_⟩
    · exact evaluates_perform.mpr ⟨_, rfl, rfl⟩
    · exact evaluates_pure.mpr ⟨congrArg Except.ok (List.zip_of_prod rfl rfl).symm, rfl⟩

/-- Any two histories may be fetched, and so any samples backfilled. -/
theorem seedCorrelation_evaluates {primary secondary : String} {state seeded : CorrelationState} :
    (seedCorrelation primary secondary now state).Evaluates MarketFiles.Step files seeded after ↔
      ∃ closes, (state.samples ≠ [] → closes = []) ∧ recordAll state closes now = seeded ∧
        files = after := by
  unfold seedCorrelation
  split
  · rename_i empty
    have blank := List.isEmpty_iff.mp empty
    constructor
    · intro run
      obtain ⟨samples, between, fetched, recorded⟩ := evaluates_bind.mp run
      obtain rfl := backfillCorrelation_stays fetched
      cases samples with
      | ok closes =>
        obtain ⟨rfl, rfl⟩ := evaluates_pure.mp recorded
        exact ⟨closes, fun filled => absurd blank filled, rfl, rfl⟩
      | error failure =>
        obtain ⟨rfl, rfl⟩ := evaluates_pure.mp recorded
        exact ⟨[], fun _ => rfl, rfl, rfl⟩
    · intro seeds
      obtain ⟨closes, _, rfl, rfl⟩ := seeds
      exact evaluates_bind.mpr ⟨.ok closes, files, backfillCorrelation_evaluates primary secondary closes,
        evaluates_pure.mpr ⟨rfl, rfl⟩⟩
  · rename_i filled
    have filled : state.samples ≠ [] := by simpa using filled
    refine evaluates_pure.trans ⟨?_, ?_⟩
    · intro same
      obtain ⟨rfl, rfl⟩ := same
      exact ⟨[], fun _ => rfl, rfl, rfl⟩
    · intro seeds
      obtain ⟨closes, none', rfl, rfl⟩ := seeds
      rw [none' filled]
      exact ⟨rfl, rfl⟩

theorem recordSpread_evaluates {primary : String} {spread : Decimal}
    {recorded : SpreadHistory × Option Instant} :
    (recordSpread primary spread now).Evaluates MarketFiles.Step files recorded after ↔
      ((files.windows.spreadHistories (spreadHistoryFile primary)).getD .default).record spread now =
          recorded.1 ∧
        ((files.windows.spreadHistories (spreadHistoryFile primary)).getD .default).lastUpdated =
          recorded.2 ∧
        files.withWindows (files.windows.putSpreadHistory (spreadHistoryFile primary) recorded.1) =
          after := by
  unfold recordSpread
  simp only [evaluates_bind, evaluates_perform, evaluates_ofExcept, evaluates_pure]
  constructor
  · intro run
    obtain ⟨_, _, read, found, _, ⟨rfl, rfl⟩, _, _, written, _, _, ⟨rfl, rfl⟩, rfl, rfl⟩ := run
    obtain ⟨_, ⟨rfl, rfl⟩, rfl⟩ := read
    obtain ⟨_, rfl, rfl⟩ := written
    exact ⟨rfl, rfl, rfl⟩
  · intro same
    obtain ⟨recorded, last⟩ := recorded
    obtain ⟨rfl, rfl, rfl⟩ := same
    exact ⟨.ok (files.windows.spreadHistories (spreadHistoryFile primary)), files,
      ⟨_, ⟨rfl, rfl⟩, rfl⟩, _, _, ⟨rfl, rfl⟩, .ok (), _, ⟨_, rfl, rfl⟩, _, _, ⟨rfl, rfl⟩, rfl, rfl⟩

theorem recordCorrelation_evaluates {primary secondary : String}
    {primaryPrice secondaryPrice : Decimal} {recorded : CorrelationState × Option Instant} :
    (recordCorrelation platform config primary secondary primaryPrice secondaryPrice now).Evaluates
        MarketFiles.Step files recorded after ↔
      ∃ closes, (((files.windows.correlations (correlationFile primary secondary)).getD
          .default).samples ≠ [] → closes = []) ∧
        recordSample (recordAll ((files.windows.correlations (correlationFile primary
          secondary)).getD .default) closes now) primaryPrice secondaryPrice now = recorded.1 ∧
        (recordAll ((files.windows.correlations (correlationFile primary secondary)).getD
          .default) closes now).lastUpdated = recorded.2 ∧
        files.withWindows (files.windows.putCorrelation (correlationFile primary secondary)
          recorded.1) = after := by
  unfold recordCorrelation
  simp only [evaluates_bind, evaluates_perform, evaluates_ofExcept, seedCorrelation_evaluates]
  constructor
  · intro run
    obtain ⟨_, _, read, _, _, ⟨rfl, rfl⟩, _, _, ⟨closes, fresh, rfl, rfl⟩, _, _, written, _, _,
      ⟨rfl, rfl⟩, reported⟩ := run
    obtain ⟨_, ⟨rfl, rfl⟩, rfl⟩ := read
    obtain ⟨_, rfl, rfl⟩ := written
    refine ⟨closes, fresh, ?_⟩
    split at reported
    · obtain ⟨_, _, notified, returned⟩ := evaluates_bind.mp reported
      obtain ⟨_, rfl, rfl⟩ := evaluates_perform.mp notified
      obtain ⟨rfl, rfl⟩ := evaluates_pure.mp returned
      exact ⟨rfl, rfl, rfl⟩
    · obtain ⟨rfl, rfl⟩ := evaluates_pure.mp reported
      exact ⟨rfl, rfl, rfl⟩
  · intro records
    obtain ⟨state, last⟩ := recorded
    obtain ⟨closes, fresh, rfl, rfl, rfl⟩ := records
    refine ⟨.ok (files.windows.correlations (correlationFile primary secondary)), files,
      ⟨_, ⟨rfl, rfl⟩, rfl⟩, _, _, ⟨rfl, rfl⟩, _, _, ⟨closes, fresh, rfl, rfl⟩, .ok (), _,
      ⟨_, rfl, rfl⟩, _, _, ⟨rfl, rfl⟩, ?_⟩
    split
    · exact evaluates_bind.mpr ⟨(), _, evaluates_perform.mpr ⟨_, rfl, rfl⟩,
        evaluates_pure.mpr ⟨rfl, rfl⟩⟩
    · exact evaluates_pure.mpr ⟨rfl, rfl⟩

/-- What a round makes of the files it finds and of the closes it may have fetched. -/
def readingFrom (platform : Platform) (divergence : DivergenceSource) (config : Config)
    (snapshot : BrokerSnapshot) (now : Instant) (files : MarketFiles) (pairConfig : PairConfig)
    (closes : List (Decimal × Decimal)) : PairReading :=
  let primary := pairConfig.primary
  let secondary := pairConfig.secondary
  let seeded := recordAll ((files.windows.correlations (correlationFile primary secondary)).getD
    .default) closes now
  let history := (files.windows.spreadHistories (spreadHistoryFile primary)).getD .default
  { state := pairCycleState platform divergence snapshot pairConfig
      (files.dailyRange platform.newYork snapshot now primary)
      (files.dailyRange platform.newYork snapshot now secondary)
      (files.sessionRange platform.newYork snapshot now primary)
      (files.sessionRange platform.newYork snapshot now secondary)
      (recordSample seeded (bidOrZero snapshot primary) (bidOrZero snapshot secondary) now)
      (history.record ((snapshot.spreads primary).getD 0) now)
    correlationStale := isStale now (Duration.minutes config.risk.correlationStalenessMinutes)
      seeded.lastUpdated
    spreadStale := isStale now (Duration.minutes config.risk.spreadStalenessMinutes)
      history.lastUpdated }

/-- What a round leaves on file. -/
def roundFiles (newYork : NewYork) (snapshot : BrokerSnapshot) (now : Instant)
    (files : MarketFiles) (pairConfig : PairConfig) (closes : List (Decimal × Decimal)) :
    MarketFiles :=
  let primary := pairConfig.primary
  let secondary := pairConfig.secondary
  let seeded := recordAll ((files.windows.correlations (correlationFile primary secondary)).getD
    .default) closes now
  let history := (files.windows.spreadHistories (spreadHistoryFile primary)).getD .default
  (files.refreshed newYork snapshot now pairConfig).withWindows
    ((files.windows.putCorrelation (correlationFile primary secondary)
      (recordSample seeded (bidOrZero snapshot primary) (bidOrZero snapshot secondary)
        now)).putSpreadHistory (spreadHistoryFile primary)
          (history.record ((snapshot.spreads primary).getD 0) now))

theorem readPairSet_evaluates {pairConfig : PairConfig} {reading : PairReading} :
    (readPairSet platform divergence config snapshot now pairConfig).Evaluates MarketFiles.Step
        files reading after ↔
      ∃ closes, (((files.windows.correlations (correlationFile pairConfig.primary
          pairConfig.secondary)).getD .default).samples ≠ [] → closes = []) ∧
        readingFrom platform divergence config snapshot now files pairConfig closes = reading ∧
        roundFiles platform.newYork snapshot now files pairConfig closes = after := by
  have daily : files.SameRanges platform.newYork snapshot now
      (files.refreshDaily platform.newYork snapshot now pairConfig.primary) :=
    MarketFiles.sameRanges_refreshDaily pairConfig.primary
  have both := daily.trans (MarketFiles.sameRanges_refreshDaily pairConfig.secondary)
  have three := both.trans (MarketFiles.sameRanges_refreshSession pairConfig.primary)
  unfold readPairSet readingFrom
  simp only [evaluates_bind, evaluates_perform, refreshBuffer_evaluates, evaluates_pure,
    recordCorrelation_evaluates, recordSpread_evaluates]
  rw [← daily.daily pairConfig.secondary, ← both.session pairConfig.primary,
    ← three.session pairConfig.secondary]
  constructor
  · intro run
    obtain ⟨_, _, ⟨rfl, rfl⟩, _, _, ⟨rfl, rfl⟩, _, _, ⟨rfl, rfl⟩, _, _, ⟨rfl, rfl⟩, ⟨window, last⟩, _,
      ⟨closes, fresh, rfl, rfl, rfl⟩, ⟨history, lastSpread⟩, _, ⟨rfl, rfl, rfl⟩, _, _,
      ⟨_, rfl, rfl⟩, rfl, rfl⟩ := run
    exact ⟨closes, fresh, rfl, rfl⟩
  · intro reads
    obtain ⟨closes, fresh, rfl, rfl⟩ := reads
    exact ⟨_, _, ⟨rfl, rfl⟩, _, _, ⟨rfl, rfl⟩, _, _, ⟨rfl, rfl⟩, _, _, ⟨rfl, rfl⟩, ⟨_, _⟩, _,
      ⟨closes, fresh, rfl, rfl, rfl⟩, ⟨_, _⟩, _, ⟨rfl, rfl, rfl⟩, (), _, ⟨_, rfl, rfl⟩, rfl, rfl⟩

theorem readingFrom_congr {pairConfig : PairConfig}
    (ranges : files.SameRanges platform.newYork snapshot now after)
    (correlation : after.windows.correlations (correlationFile pairConfig.primary
      pairConfig.secondary) = files.windows.correlations (correlationFile pairConfig.primary
        pairConfig.secondary))
    (spread : after.windows.spreadHistories (spreadHistoryFile pairConfig.primary) =
      files.windows.spreadHistories (spreadHistoryFile pairConfig.primary))
    (closes : List (Decimal × Decimal)) :
    readingFrom platform divergence config snapshot now after pairConfig closes =
      readingFrom platform divergence config snapshot now files pairConfig closes := by
  unfold readingFrom
  dsimp only
  rw [ranges.daily, ranges.daily, ranges.session, ranges.session, correlation, spread]

/-- A round leaves the other windows alone, and the ranges it shares as any other round
would. -/
theorem undisturbed_of_separate {first second : PairConfig} (separate : SeparateFiles first second) :
    Undisturbed MarketFiles.Step (readPairSet platform divergence config snapshot now) first
      second := by
  intro files reading between run other
  obtain ⟨closes, _, _, rfl⟩ := readPairSet_evaluates.mp run
  have correlation : (roundFiles platform.newYork snapshot now files first
      closes).windows.correlations (correlationFile second.primary second.secondary) =
        files.windows.correlations (correlationFile second.primary second.secondary) :=
    if_neg separate.1.symm
  have spread : (roundFiles platform.newYork snapshot now files first
      closes).windows.spreadHistories (spreadHistoryFile second.primary) =
        files.windows.spreadHistories (spreadHistoryFile second.primary) :=
    if_neg separate.2.symm
  have ranges : files.SameRanges platform.newYork snapshot now
      (roundFiles platform.newYork snapshot now files first closes) :=
    ⟨(MarketFiles.sameRanges_refreshed first).daily, (MarketFiles.sameRanges_refreshed first).session⟩
  have same : ∀ closes, readingFrom platform divergence config snapshot now _ second closes =
      readingFrom platform divergence config snapshot now files second closes :=
    readingFrom_congr ranges correlation spread
  constructor
  · intro run
    obtain ⟨_, run⟩ := run
    obtain ⟨closes, fresh, returned, _⟩ := readPairSet_evaluates.mp run
    exact ⟨_, readPairSet_evaluates.mpr ⟨closes, correlation ▸ fresh, same closes ▸ returned, rfl⟩⟩
  · intro run
    obtain ⟨_, run⟩ := run
    obtain ⟨closes, fresh, returned, _⟩ := readPairSet_evaluates.mp run
    exact ⟨_, readPairSet_evaluates.mpr ⟨closes, correlation.symm ▸ fresh,
      (same closes).symm ▸ returned, rfl⟩⟩

/-- Where no two pair-sets share a window, the market-state loop finds for each of them what
it would find if that pair-set were the only one, whichever ranges they share. -/
theorem readPairSets_iff_alone (separate : config.pairs.Pairwise SeparateFiles)
    (files : MarketFiles) (readings : List PairReading) :
    (∃ after, (readPairSets platform divergence config snapshot now).Evaluates MarketFiles.Step files
        readings after) ↔
      List.Forall₂ (fun pairConfig reading => ∃ after,
        (readPairSet platform divergence config snapshot now pairConfig).Evaluates MarketFiles.Step
          files reading after) config.pairs readings := by
  have rounds : (∃ after, (readPairSets platform divergence config snapshot now).Evaluates
      MarketFiles.Step files readings after) ↔ ∃ after, Rounds MarketFiles.Step
        (readPairSet platform divergence config snapshot now) files config.pairs readings after := by
    refine exists_congr fun after => evaluates_collect.trans ?_
    simp only [List.nil_append, exists_eq_left']
  exact rounds.trans (rounds_iff_apart (separate.imp undisturbed_of_separate))

end rounds

/-- Two pair-sets with a symbol in common and windows of their own. -/
def sharedSymbol : Config :=
  { Config.default with pairs := [⟨"EURUSD", "GBPUSD"⟩, ⟨"GBPUSD", "AUDUSD"⟩] }

def Host.marketFiles (host : Host) : MarketFiles where
  ranges := host.buffers
  windows := { correlations := host.correlations, spreadHistories := host.spreadHistories }

theorem Host.answer_step (host : Host) (call : Call) :
    host.marketFiles.Step ⟨call, (host.answer call).1⟩ (host.answer call).2.marketFiles := by
  cases call with
  | readBuffer file => exact ⟨rfl, rfl⟩
  | writeBuffer file buffer => exact rfl
  | readCorrelation file => exact ⟨_, ⟨rfl, rfl⟩, rfl⟩
  | readSpreadHistory file => exact ⟨_, ⟨rfl, rfl⟩, rfl⟩
  | closePosition id =>
    refine ⟨_, rfl, ?_⟩
    dsimp only [Host.answer]
    unfold Host.closePosition
    split <;> rfl
  | _ => exact ⟨_, rfl, rfl⟩

/-- The host of the two pair-sets, and the snapshot it gives them. -/
def sharingHost : Host :=
  .fresh sharedSymbol (quotedAt [("EURUSD", 1.10), ("GBPUSD", 1.20), ("AUDUSD", 0.66)])

def sharedSnapshot : BrokerSnapshot :=
  sharingHost.snapshot 0 (allSymbols sharedSymbol.pairs)

theorem sharedSymbol_alone :
    sharedSymbol.pairs.Pairwise SeparateFiles ∧ ∃ readings : List PairReading,
      readings.length = 2 ∧
      List.Forall₂ (fun pairConfig reading => ∃ after,
        (readPairSet .winter secondarySwept sharedSymbol sharedSnapshot wednesdayMorning
          pairConfig).Evaluates MarketFiles.Step sharingHost.marketFiles reading after)
        sharedSymbol.pairs readings := by
  let market := readPairSets .winter secondarySwept sharedSymbol sharedSnapshot wednesdayMorning
  have separate : sharedSymbol.pairs.Pairwise SeparateFiles := by
    unfold SeparateFiles
    decide
  have returned : ((market.play Host.answer sharingHost).2.1.value?.map List.length) = some 2 := by
    decide +kernel
  obtain ⟨readings, found, two⟩ := Option.map_eq_some_iff.mp returned
  have trace := market.play_trace Host.answer sharingHost
  rw [Outcome.value?_eq_some.mp found] at trace
  have steps : Steps MarketFiles.Step sharingHost.marketFiles _ _ :=
    .played_moments market sharingHost fun _ _ => Host.answer_step _ _
  exact ⟨separate, readings, two,
    (readPairSets_iff_alone separate sharingHost.marketFiles readings).mp ⟨_, _, trace, steps⟩⟩

end Oboobot.Daemon
