import Oboobot.Interaction.Mirror
import Oboobot.Daemon.ReplayClock

/-! What a replay does on its first days, against the closes of later ones: it cannot
look ahead. -/

namespace Oboobot.Daemon

open Domain SessionTime Strategy Risk Broker Interaction

/-- The same broker with other series. -/
def ReplayBroker.withBars (broker : ReplayBroker) (bars : List (String × List Decimal)) :
    ReplayBroker :=
  { broker with bars }

def ReplayHost.withBars (host : ReplayHost) (bars : List (String × List Decimal)) : ReplayHost :=
  { host with broker := host.broker.withBars bars }

/-- Series of the same pairs, with the same closes up to a bar. -/
def SameUntil (count : Nat) (bars others : List (String × List Decimal)) : Prop :=
  ∀ pair, (bars.lookup pair).map (List.take count) = (others.lookup pair).map (List.take count)

theorem lookup_insertSeries (bars : List (String × List Decimal)) (pair other : String)
    (series : List Decimal) : (insertSeries bars pair series).lookup other =
      if other = pair then some series else bars.lookup other := by
  unfold insertSeries
  induction bars with
  | nil =>
    by_cases same : other = pair
    · simp [same]
    · simp [same, List.lookup_cons, beq_eq_false_iff_ne.mpr same]
  | cons entry bars ih =>
    obtain ⟨name, closes⟩ := entry
    by_cases replaced : name = pair
    · by_cases same : other = pair
      · simpa [replaced, same] using ih
      · have skipped : (other == pair) = false := beq_eq_false_iff_ne.mpr same
        simpa [replaced, same, List.lookup_cons, skipped] using ih
    · by_cases asked : other = name
      · simp [asked, replaced]
      · have skipped : (other == name) = false := beq_eq_false_iff_ne.mpr asked
        simpa [List.lookup_cons, replaced, skipped] using ih

theorem SameUntil.insertSeries {count : Nat} {bars others : List (String × List Decimal)}
    (same : SameUntil count bars others) (pair : String) {series series' : List Decimal}
    (closes : series.take count = series'.take count) :
    SameUntil count (insertSeries bars pair series) (insertSeries others pair series') := by
  intro other
  rw [lookup_insertSeries, lookup_insertSeries]
  split
  · exact congrArg some closes
  · exact same other

namespace ReplayBroker

variable {broker : ReplayBroker} {bars : List (String × List Decimal)} {count : Nat}

theorem currentPrice_withBars (same : SameUntil count broker.bars bars)
    (inside : broker.currentIndex < count) (pair : String) :
    (broker.withBars bars).currentPrice pair = broker.currentPrice pair := by
  have agree := same pair
  unfold currentPrice withBars
  cases found : broker.bars.lookup pair with
  | none =>
    rw [found, Option.map_none] at agree
    rw [Option.map_eq_none_iff.mp agree.symm]
  | some series =>
    rw [found, Option.map_some] at agree
    obtain ⟨other, found', prefix'⟩ := Option.map_eq_some_iff.mp agree.symm
    rw [found']
    change other[broker.currentIndex]? = series[broker.currentIndex]?
    rw [← List.getElem?_take_of_lt inside, prefix', List.getElem?_take_of_lt inside]

section prices
variable (prices : ∀ pair, (broker.withBars bars).currentPrice pair = broker.currentPrice pair)
include prices

theorem closeOf_withBars (pair : String) :
    (broker.withBars bars).closeOf pair = broker.closeOf pair := by
  unfold closeOf
  rw [prices]

theorem getSnapshot_withBars (id : Uuid) (timestamp : Instant) (pairs : List String) :
    (broker.withBars bars).getSnapshot id timestamp pairs =
      broker.getSnapshot id timestamp pairs := by
  have closes : (broker.withBars bars).closes pairs = broker.closes pairs := by
    unfold ReplayBroker.closes
    simp only [closeOf_withBars prices]
  unfold getSnapshot
  rw [closes]

theorem submitOrder_withBars (id : Uuid) (now : Instant) (request : OrderRequest) :
    (broker.withBars bars).submitOrder id now request =
      (broker.submitOrder id now request).map fun filled => (filled.1, filled.2.withBars bars) := by
  unfold submitOrder
  rw [closeOf_withBars prices]
  cases broker.closeOf request.pair with
  | error failure => rfl
  | ok price => rfl

theorem closePosition_withBars (orderId : Uuid) (now : Instant) (id : Uuid) :
    (broker.withBars bars).closePosition orderId now id =
      (broker.closePosition orderId now id).map fun filled =>
        (filled.1, filled.2.withBars bars) := by
  have state : (broker.withBars bars).state = broker.state := rfl
  unfold closePosition
  rw [state]
  cases broker.state.positions.find? fun position => position.positionId = id with
  | none => rfl
  | some position =>
    dsimp only
    rw [prices]
    rfl

end prices

end ReplayBroker

section days
variable {host : ReplayHost} {configFile : ConfigFile} {bars others : List (String × List Decimal)}
  {start : Instant} {outside : Outside} {bar count : Nat}

theorem ReplayHost.settle_withBars (result : Except BrokerError (Order × ReplayBroker)) :
    (host.withBars others).settle (result.map fun filled => (filled.1, filled.2.withBars others)) =
      ((host.settle result).1, (host.settle result).2.withBars others) := by
  cases result with
  | error failure => rfl
  | ok filled => rfl

/-- On a bar that the series have in common, every reply is the same. -/
theorem OnBar.answer_withBars (onBar : OnBar configFile bars start outside bar host)
    (same : SameUntil count bars others) (inside : bar < count) (call : Call) :
    (host.withBars others).answer call =
      ((host.answer call).1, (host.answer call).2.withBars others) := by
  have agree : SameUntil count host.broker.bars others := onBar.series ▸ same
  have prices := ReplayBroker.currentPrice_withBars agree (onBar.index ▸ inside)
  cases call with
  | getSnapshot pairs =>
    exact Prod.ext (congrArg some (ReplayBroker.getSnapshot_withBars prices _ _ pairs)) rfl
  | submitOrder request =>
    dsimp only [ReplayHost.answer, ReplayHost.takeId, ReplayHost.takeTime]
    rw [← ReplayHost.settle_withBars, ← ReplayBroker.submitOrder_withBars prices]
    rfl
  | closePosition id =>
    dsimp only [ReplayHost.answer, ReplayHost.takeId, ReplayHost.takeTime]
    rw [← ReplayHost.settle_withBars, ← ReplayBroker.closePosition_withBars prices]
    rfl
  | _ => rfl

theorem OnBar.play_withBars {α : Type} (onBar : OnBar configFile bars start outside bar host)
    (same : SameUntil count bars others) (inside : bar < count) (program : Cycle α) :
    program.play ReplayHost.answer (host.withBars others) =
      ((program.play ReplayHost.answer host).1, (program.play ReplayHost.answer host).2.1,
        (program.play ReplayHost.answer host).2.2.withBars others) :=
  program.play_image (fun _ call onBar => ⟨onBar.answer call, onBar.answer_withBars same inside call⟩)
    onBar

/-- From here on, days on which the series agree go the same way. -/
theorem OnBar.replayDays_withBars {platform : Platform} {divergence : DivergenceSource}
    (onBar : OnBar configFile bars start outside bar host)
    (same : SameUntil (bar + count) bars others) {remaining remaining' : Nat}
    (agree : min count remaining' = min count remaining) :
    (replayDays platform divergence remaining' (host.withBars others)).1.take count =
      (replayDays platform divergence remaining host).1.take count := by
  induction count generalizing bar host remaining remaining' with
  | zero => rfl
  | succ count ih =>
    cases remaining with
    | zero =>
      obtain rfl : remaining' = 0 := by omega
      rfl
    | succ remaining =>
      obtain ⟨remaining', rfl⟩ : ∃ fewer, remaining' = fewer + 1 :=
        Nat.exists_eq_succ_of_ne_zero (by omega)
      have today := onBar.play_withBars same (by omega) (runRealCycle platform divergence ⟨true⟩)
      have later := ih (onBar.play (runRealCycle platform divergence ⟨true⟩)).1.advance
        (by rwa [Nat.add_right_comm]) (show min count remaining' = min count remaining by omega)
      rw [replayDays_days, replayDays_days, today]
      change (if host.outside.calendarHolds host.clock = true then _ else _ :
        List (List CycleEvent)).take _ = _
      split
      · rw [List.take_succ_cons, List.take_succ_cons]
        refine congrArg _ ?_
        dsimp only
        split
        · exact later
        · rfl
      · rfl

end days

section replays
variable {platform : Platform} {divergence : DivergenceSource} {inputs : ReplayInputs}
  {pairConfig : PairConfig} {primaryHistory secondaryHistory : List Decimal} {count bar : Nat}

/-- The same replay of other closes. -/
def ReplayInputs.withHistories (inputs : ReplayInputs)
    (primaryHistory secondaryHistory : List Decimal) : ReplayInputs :=
  { inputs with primaryHistory, secondaryHistory }

theorem sameUntil_bars (primary : inputs.primaryHistory.take count = primaryHistory.take count)
    (secondary : inputs.secondaryHistory.take count = secondaryHistory.take count)
    (pairConfig : PairConfig) :
    SameUntil count (inputs.bars pairConfig)
      ((inputs.withHistories primaryHistory secondaryHistory).bars pairConfig) := by
  have nothing : SameUntil count [] [] := fun _ => rfl
  exact (nothing.insertSeries pairConfig.primary primary).insertSeries pairConfig.secondary secondary

theorem min_barCount (primary : inputs.primaryHistory.take count = primaryHistory.take count)
    (secondary : inputs.secondaryHistory.take count = secondaryHistory.take count) :
    min count ((inputs.withHistories primaryHistory secondaryHistory).barCount pairConfig) =
      min count (inputs.barCount pairConfig) := by
  have primary' := congrArg List.length primary
  have secondary' := congrArg List.length secondary
  rw [List.length_take, List.length_take] at primary' secondary'
  unfold ReplayInputs.barCount ReplayInputs.bars replayBars insertSeries ReplayInputs.withHistories
  by_cases same : pairConfig.primary = pairConfig.secondary
  · simp [same, commonBars, secondary']
  · simp [same, commonBars, List.min?_cons]
    omega

/-- No look-ahead: closes of later bars change nothing that a replay does before them. -/
theorem runReplay_noForesight (platform : Platform) (divergence : DivergenceSource)
    (primary : inputs.primaryHistory.take count = primaryHistory.take count)
    (secondary : inputs.secondaryHistory.take count = secondaryHistory.take count) :
    (runReplay platform divergence (inputs.withHistories primaryHistory secondaryHistory)).1.take count =
      (runReplay platform divergence inputs).1.take count := by
  cases loaded : Config.load inputs.configFile with
  | error failure =>
    unfold runReplay ReplayInputs.withHistories
    rw [loaded]
  | ok config =>
    cases first : config.pairs.head? with
    | none =>
      have unpaired : config.pairs = [] := List.head?_eq_none_iff.mp first
      unfold runReplay ReplayInputs.withHistories
      rw [loaded]
      simp only [unpaired]
    | some pairConfig =>
      have same := sameUntil_bars primary secondary pairConfig
      have loaded' : Config.load (inputs.withHistories primaryHistory secondaryHistory).configFile =
          .ok config := loaded
      rw [runReplay_days platform divergence loaded' first,
        runReplay_days platform divergence loaded first]
      exact (inputs.firstHost_onBar pairConfig).replayDays_withBars ((Nat.zero_add count).symm ▸ same)
        (min_barCount primary secondary)

/-- A third day changes nothing on the first two. -/
theorem thirdBar_noForesight :
    let longer := twoBars.withHistories [1.10, 1.12, 1.05] [1.25, 1.24, 1.30]
    (runReplay .winter secondarySwept longer).1.length = 3 ∧
      (runReplay .winter secondarySwept longer).1.take 2 =
        (runReplay .winter secondarySwept twoBars).1.take 2 :=
  ⟨by decide +kernel, runReplay_noForesight .winter secondarySwept rfl rfl⟩

end replays

end Oboobot.Daemon
