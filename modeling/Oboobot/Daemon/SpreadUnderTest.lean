import Oboobot.Daemon.Host
import Oboobot.Daemon.WindowFiles
import Oboobot.Interaction.Composed
import Mathlib.Order.Interval.Set.UnorderedInterval
import Mathlib.Tactic.Linarith

/-! The spread filter of a cycle, which finds the spread under test among the samples
that it averages. -/

namespace Oboobot.Daemon

open Domain SessionTime Strategy Risk Broker Interaction Daemon.Cycle

section filter

variable (earlier : SpreadHistory) (current multiplier : Decimal)

/-- There are earlier samples, and the spread exceeds their multiplied average. -/
def ExceedsEarlier : Prop :=
  ∃ average, earlier.average = some average ∧ average * multiplier < current

/-- How far the spread lies over the multiplied average of the earlier samples, times
their number. -/
def excess : ℚ := earlier.samples.length * current - multiplier * earlier.samples.sum

/-- What the spread itself adds to its threshold, times that number. It joins the
earlier samples or, in a full window, takes the place of the oldest. -/
def ownShare : ℚ :=
  if earlier.samples.length < maxSpreadSamples then (multiplier - 1) * current
  else multiplier * (current - earlier.samples.headD 0)

variable {earlier current multiplier}

theorem exceedsEarlier_iff :
    ExceedsEarlier earlier current multiplier ↔ 0 < excess earlier current multiplier := by
  unfold ExceedsEarlier excess SpreadHistory.average
  cases values : earlier.samples with
  | nil => simp
  | cons first rest =>
    have count : (0 : ℚ) < (first :: rest).length := by simp; positivity
    simp only [List.isEmpty_cons, Bool.false_eq_true, if_false, Option.some.injEq,
      exists_eq_left']
    rw [div_mul_eq_mul_div, div_lt_iff₀ count, sub_pos, mul_comm multiplier, mul_comm current]

/-- The filter over any samples, without the division. -/
theorem passesFilter_eq_false_iff {history : SpreadHistory} (nonempty : history.samples ≠ []) :
    history.passesFilter current multiplier = false ↔
      multiplier * history.samples.sum < history.samples.length * current := by
  have count : (0 : ℚ) < history.samples.length := by
    exact_mod_cast List.length_pos_iff.mpr nonempty
  have some : history.samples.isEmpty = false := by simpa using nonempty
  simp only [SpreadHistory.passesFilter, SpreadHistory.average, some, Bool.false_eq_true, if_false,
    decide_eq_false_iff_not, not_le]
  rw [div_mul_eq_mul_div, div_lt_iff₀ count, mul_comm multiplier, mul_comm current]

/-- The spread joins the earlier samples, without the oldest of a full window. -/
theorem samples_record (now : Instant) :
    (earlier.record current now).samples =
      (if earlier.samples.length < maxSpreadSamples then earlier.samples
        else earlier.samples.tail) ++ [current] := by
  have longer : (earlier.samples ++ [current]).length > maxSpreadSamples ↔
      ¬earlier.samples.length < maxSpreadSamples := by
    rw [List.length_append, List.length_singleton]
    omega
  simp only [SpreadHistory.record, longer]
  by_cases roomy : earlier.samples.length < maxSpreadSamples
  · rw [if_neg (not_not_intro roomy), if_pos roomy]
  · have filled : earlier.samples ≠ [] := by
      intro empty
      exact roomy (by rw [empty]; decide)
    rw [if_pos roomy, if_neg roomy, List.drop_one, List.tail_append_of_ne_nil filled]

theorem mem_samples_record (now : Instant) : current ∈ (earlier.record current now).samples := by
  rw [samples_record]
  exact List.mem_append_right _ List.mem_cons_self

/-- The spread is rejected only if it exceeds what it has itself added to the threshold. -/
theorem record_passesFilter_iff (now : Instant) :
    (earlier.record current now).passesFilter current multiplier = false ↔
      ownShare earlier current multiplier < excess earlier current multiplier := by
  rw [passesFilter_eq_false_iff (List.ne_nil_of_mem (mem_samples_record now)), samples_record,
    ownShare, excess]
  by_cases roomy : earlier.samples.length < maxSpreadSamples
  · rw [if_pos roomy, if_pos roomy, List.sum_append, List.length_append, List.sum_singleton,
      List.length_singleton]
    push_cast
    constructor <;> intro less <;> linarith
  · rw [if_neg roomy, if_neg roomy]
    cases values : earlier.samples with
    | nil => exact absurd (by rw [values]; decide) roomy
    | cons oldest rest =>
      rw [List.tail_cons, List.headD_cons, List.sum_append, List.length_append, List.sum_singleton,
        List.length_singleton, List.sum_cons, List.length_cons]
      push_cast
      constructor <;> intro less <;> linarith

/-- As long as the multiplier outweighs the samples, no spread is ever too wide. -/
theorem record_passesFilter_of_short (now : Instant) (nonneg : ∀ spread ∈ earlier.samples, 0 ≤ spread)
    (current0 : 0 ≤ current) (few : (earlier.samples.length : ℚ) + 1 ≤ multiplier)
    (roomy : earlier.samples.length < maxSpreadSamples) :
    (earlier.record current now).passesFilter current multiplier = true := by
  have sum : 0 ≤ earlier.samples.sum := List.sum_nonneg nonneg
  have count : (0 : ℚ) ≤ earlier.samples.length := Nat.cast_nonneg _
  rw [← Bool.not_eq_false, record_passesFilter_iff, not_lt, ownShare, if_pos roomy, excess]
  have weight : (earlier.samples.length : ℚ) * current ≤ (multiplier - 1) * current :=
    mul_le_mul_of_nonneg_right (by linarith) current0
  have threshold : 0 ≤ multiplier * earlier.samples.sum := mul_nonneg (by linarith) sum
  linarith

end filter

section turn

variable {platform : Platform} {divergence : DivergenceSource} {config : Config}
  {snapshot : BrokerSnapshot} {now : Instant} {isTuesday : Bool} {holidays : HolidayProvider}
  {openPositions : List Position}

theorem sizeAndSubmit_label (state : PairCycleState) (signal : TradeSignal) :
    (sizeAndSubmit platform config snapshot isTuesday state openPositions signal).Yields (fun _ => True)
      fun result => result.2 ≠ "spread_rejected" := by
  unfold sizeAndSubmit submitApproved
  simp only [yields_bind, yields_perform, yields_ofExcept, true_and]
  intro reply equity _ decisionId decision _ _
  split
  · simp only [yields_bind, yields_perform, yields_ofExcept, true_and]
    intro orderId reply order _ _
    refine Program.yields_any _ fun listed => ?_
    refine Program.yields_any _ fun _ => ?_
    refine Program.yields_any _ fun _ => ?_
    simp
  · rw [yields_bind]
    refine Program.yields_any _ fun _ => ?_
    simp

/-- A turn of the entry loop ends as rejected for its spread exactly if the filter says so. -/
theorem evaluatePairSet_label (state : PairCycleState) :
    (evaluatePairSet platform config snapshot now isTuesday holidays openPositions state).Yields
      (fun _ => True) fun result => result.2 = "spread_rejected" ↔
        state.spreadHistory.passesFilter state.currentSpread
          ((config.risk.spreadMultiplier.toDecimal platform.conversion).getD (3 / 2)) = false := by
  unfold evaluatePairSet
  simp only [yields_bind, yields_perform, true_and]
  intro _
  by_cases passes : state.spreadHistory.passesFilter state.currentSpread
      ((config.risk.spreadMultiplier.toDecimal platform.conversion).getD (3 / 2)) = true
  · have elsewhere {result : List Position × String} (other : result.2 ≠ "spread_rejected") :
        result.2 = "spread_rejected" ↔ state.spreadHistory.passesFilter state.currentSpread
          ((config.risk.spreadMultiplier.toDecimal platform.conversion).getD (3 / 2)) = false := by
      rw [passes]
      exact iff_of_false other (by decide)
    rw [if_pos passes, yields_bind]
    refine Program.yields_any _ fun weeklyBias => ?_
    rw [yields_bind]
    refine Program.yields_any _ fun dailyBias => ?_
    simp only [yields_bind, yields_perform, true_and]
    intro traceId signalId timestamp
    split
    · rw [yields_bind]
      exact Program.yields_any _ fun _ => elsewhere (by simp)
    · rw [yields_bind]
      exact Program.yields_any _ fun _ => elsewhere (by simp)
    · split
      · rw [yields_bind]
        exact Program.yields_any _ fun _ => elsewhere (by simp)
      · exact (sizeAndSubmit_label state _).weaken fun _ other => elsewhere other
  · rw [if_neg passes, yields_bind]
    exact Program.yields_any _ fun _ => iff_of_true rfl (Bool.not_eq_true _ ▸ passes)

/-- The averaged samples include the spread under test. The outcome is still that of the
earlier samples alone unless the spread lies between the two thresholds. -/
theorem spread_rejected_iff {pairConfig : PairConfig} {files after : WindowFiles}
    {reading : PairReading} {positions : List Position} {label : String}
    {events later : List CycleEvent}
    (read : Trace (readPairSet platform divergence config snapshot now pairConfig) events
      (.done reading))
    (onFile : Steps WindowFiles.Step files events after)
    (turn : Trace (evaluatePairSet platform config snapshot now isTuesday holidays openPositions
      reading.state) later (.done (positions, label))) :
    let earlier := (files.spreadHistories (spreadHistoryFile pairConfig.primary)).getD .default
    let current := reading.state.currentSpread
    let multiplier := (config.risk.spreadMultiplier.toDecimal platform.conversion).getD (3 / 2)
    current ∈ reading.state.spreadHistory.samples ∧
      ((label = "spread_rejected" ↔ ExceedsEarlier earlier current multiplier) ↔
        excess earlier current multiplier ∉ Set.uIoc 0 (ownShare earlier current multiplier)) := by
  intro earlier current multiplier
  have round := readPairSet_meets.ends_done read onFile
  have tested : reading.state.spreadHistory = earlier.record current now := round.spreadHistory
  have labels : (evaluatePairSet platform config snapshot now isTuesday holidays openPositions
      reading.state).Yields _ _ := evaluatePairSet_label reading.state
  have ends := labels.returns turn
  rw [tested, record_passesFilter_iff] at ends
  refine ⟨tested ▸ mem_samples_record now, ?_⟩
  rw [ends, exceedsEarlier_iff, Set.mem_uIoc]
  constructor
  · intro agree between
    rcases between with ⟨exceeds, within⟩ | ⟨exceeds, within⟩
    · exact not_lt.mpr within (agree.mpr exceeds)
    · exact not_lt.mpr within (agree.mp exceeds)
  · intro outside
    obtain ⟨notAbove, notBelow⟩ := not_or.mp outside
    constructor
    · intro exceeds
      by_contra less
      exact notBelow ⟨exceeds, not_lt.mp less⟩
    · intro exceeds
      by_contra less
      exact notAbove ⟨exceeds, not_lt.mp less⟩

end turn

/-- The windows on a host's disk. -/
def Host.windows (host : Host) : WindowFiles := ⟨host.correlations, host.spreadHistories⟩

theorem Host.step_windows (host : Host) (call : Call) :
    WindowFiles.Step host.windows ⟨call, (host.answer call).1⟩ (host.answer call).2.windows := by
  cases call with
  | readCorrelation file => exact ⟨rfl, rfl⟩
  | readSpreadHistory file => exact ⟨rfl, rfl⟩
  | closePosition id =>
    have kept : (host.closePosition id).2.windows = host.windows := by
      unfold Host.closePosition
      split <;> rfl
    exact kept
  | _ => rfl

theorem Host.steps_windows {α : Type} (program : Cycle α) (host : Host) :
    Steps WindowFiles.Step host.windows (program.play Host.answer host).1
      (program.play Host.answer host).2.2.windows := by
  have faithful : ∀ (host : Host) call, True →
      WindowFiles.Step host.windows ⟨call, (host.answer call).1⟩ (host.answer call).2.windows ∧
        True := fun host call _ => ⟨host.step_windows call, trivial⟩
  exact Steps.played faithful program trivial

/-- Two earlier spreads of EURUSD are on file, and its quote has a new one. -/
def spreadHost (spread : Decimal) : Host :=
  { Host.fresh .default (.ofPairs
      [("EURUSD", { bid := 1.1, ask := 1.1 + spread }), ("GBPUSD", { bid := 1.3, ask := 1.3 })]) with
    spreadHistories := .ofPairs [(spreadHistoryFile "EURUSD", ⟨[2, 2], none⟩)] }

def spreadRead (spread : Decimal) : Cycle PairReading :=
  readPairSet .winter asComputed .default ((spreadHost spread).snapshot 0 ["EURUSD", "GBPUSD"])
    wednesdayMorning ⟨"EURUSD", "GBPUSD"⟩

def spreadTurn (spread : Decimal) (reading : PairReading) : Cycle (List Position × String) :=
  evaluatePairSet .winter .default ((spreadHost spread).snapshot 0 ["EURUSD", "GBPUSD"])
    wednesdayMorning false staticHolidayProvider [] reading.state

/-- How the turn ends. -/
def spreadLabel (spread : Decimal) : Option String :=
  match ((spreadRead spread).play Host.answer (spreadHost spread)).2.1 with
  | .done reading =>
    match ((spreadTurn spread reading).play Host.answer (spreadHost spread)).2.1 with
    | .done result => some result.2
    | _ => none
  | _ => none

/-- A reading of the pair-set on that host, and its turn. -/
structure SpreadRuns (spread : Decimal) (label : String) (reading : PairReading)
    (events later : List CycleEvent) (after : WindowFiles) (positions : List Position) : Prop where
  read : Trace (spreadRead spread) events (.done reading)
  onFile : Steps WindowFiles.Step (spreadHost spread).windows events after
  turn : Trace (spreadTurn spread reading) later (.done (positions, label))

theorem exists_spreadRuns {spread : Decimal} {label : String}
    (computed : spreadLabel spread = some label) :
    ∃ reading events later after positions,
      SpreadRuns spread label reading events later after positions := by
  have trace := (spreadRead spread).play_trace Host.answer (spreadHost spread)
  have steps := Host.steps_windows (spreadRead spread) (spreadHost spread)
  unfold spreadLabel at computed
  split at computed
  · rename_i reading finished
    rw [finished] at trace
    have turn := (spreadTurn spread reading).play_trace Host.answer (spreadHost spread)
    split at computed
    · rename_i result ended
      rw [ended] at turn
      cases computed
      exact ⟨reading, _, _, _, result.1, trace, steps, turn⟩
    · cases computed
  · cases computed

theorem SpreadRuns.currentSpread {spread : Decimal} {label : String} {reading : PairReading}
    {events later : List CycleEvent} {after : WindowFiles} {positions : List Position}
    (runs : SpreadRuns spread label reading events later after positions) :
    reading.state.currentSpread = spread := by
  rw [(readPairSet_meets.ends_done runs.read runs.onFile).currentSpread]
  change (some (1.1 + spread - 1.1)).getD 0 = spread
  rw [Option.getD_some, add_sub_cancel_left]

theorem spreadHost_earlier (spread : Decimal) :
    ((spreadHost spread).windows.spreadHistories (spreadHistoryFile "EURUSD")).getD .default =
      ⟨[2, 2], none⟩ := by
  simp [Host.windows, spreadHost, BTreeMap.ofPairs, BTreeMap.insert]

theorem defaultMultiplier :
    (Config.default.risk.spreadMultiplier.toDecimal Platform.winter.conversion).getD (3 / 2) =
      3 / 2 := by
  decide +kernel

/-- Five is too wide for an average of two as well as for one of three. -/
theorem wideSpread_rejected : ∃ reading events later after positions,
    SpreadRuns 5 "spread_rejected" reading events later after positions ∧
    ("spread_rejected" = "spread_rejected" ↔
      ExceedsEarlier ⟨[2, 2], none⟩ reading.state.currentSpread (3 / 2)) := by
  obtain ⟨reading, events, later, after, positions, runs⟩ :=
    exists_spreadRuns (show spreadLabel 5 = some "spread_rejected" by decide +kernel)
  refine ⟨reading, events, later, after, positions, runs, ?_⟩
  have judged := (spread_rejected_iff runs.read runs.onFile runs.turn).2
  rw [spreadHost_earlier, defaultMultiplier, runs.currentSpread] at judged
  rw [runs.currentSpread, judged, Set.mem_uIoc]
  decide +kernel

/-- Three and a half exceeds three halves of two, and is let through. -/
theorem hiddenSpread_passes : ∃ reading events later after positions,
    SpreadRuns (7 / 2) "no_divergence" reading events later after positions ∧
    ¬("no_divergence" = "spread_rejected" ↔
      ExceedsEarlier ⟨[2, 2], none⟩ reading.state.currentSpread (3 / 2)) := by
  obtain ⟨reading, events, later, after, positions, runs⟩ :=
    exists_spreadRuns (show spreadLabel (7 / 2) = some "no_divergence" by decide +kernel)
  refine ⟨reading, events, later, after, positions, runs, ?_⟩
  rw [runs.currentSpread, exceedsEarlier_iff]
  decide +kernel

end Oboobot.Daemon
