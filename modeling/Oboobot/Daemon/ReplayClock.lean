import Oboobot.Daemon.ReplayReports

/-! The two clocks of a replay: each bar's cycle reads the simulated one, while the
broker stamps its fills with the time outside. -/

namespace Oboobot.Daemon

open Domain SessionTime Strategy Risk Broker Interaction

/-- The positions that the reply to a call opens. -/
def ReplayHost.opened (host : ReplayHost) (call : Call) : List Position :=
  (host.answer call).2.broker.state.positions.drop host.broker.state.positions.length

/-- The replay as it stands when the cycle of a bar begins. -/
def ReplayInputs.hostAt (platform : Platform) (divergence : DivergenceSource)
    (inputs : ReplayInputs) (pairConfig : PairConfig) : Nat → ReplayHost
  | 0 => .start inputs.configFile (.new (inputs.bars pairConfig) (.fromDecimal 10000)) inputs.start
      inputs.outside
  | bar + 1 => ((runRealCycle platform divergence ⟨true⟩).play ReplayHost.answer
      (hostAt platform divergence inputs pairConfig bar)).2.2.advance

/-- What is open when the cycle of a bar begins. -/
def ReplayInputs.openAt (platform : Platform) (divergence : DivergenceSource)
    (inputs : ReplayInputs) (pairConfig : PairConfig) (bar : Nat) : List Position :=
  (inputs.hostAt platform divergence pairConfig bar).broker.state.positions

/-- What the cycle of a bar opens, each with the number of the reading of the outside
clock that its fill is made at. -/
def ReplayInputs.fillsAt (platform : Platform) (divergence : DivergenceSource)
    (inputs : ReplayInputs) (pairConfig : PairConfig) (bar : Nat) : List (Nat × Position) :=
  ((runRealCycle platform divergence ⟨true⟩).moments ReplayHost.answer
    (inputs.hostAt platform divergence pairConfig bar)).flatMap fun moment =>
      (moment.1.opened moment.2).map fun position => (moment.1.draws + 1, position)

/-- The position is that many simulated days old, and does not block its pair. -/
def AgesWithBars (now : Instant) (bars : Nat) (position : Position) : Prop :=
  now - position.entryTime = Duration.days bars ∧
    alreadyEnteredThisCycle position.pair [position] now = false

section fills

variable {host : ReplayHost} {call : Call} {position : Position}

/-- A reply adds one position, stamped with the time outside, or it adds none. -/
theorem ReplayHost.positions_answer (host : ReplayHost) (call : Call) :
    (∃ position, position.entryTime = host.outside.utcNow (host.draws + 1) ∧
      (host.answer call).2.broker.state.positions = host.broker.state.positions ++ [position]) ∨
    (host.answer call).2.broker.state.positions.Sublist host.broker.state.positions := by
  cases call with
  | submitOrder request =>
    cases close : host.broker.closeOf request.pair with
    | error failure =>
      refine .inr ?_
      simp [answer, takeId, takeTime, ReplayBroker.submitOrder, close, settle, bind, Except.bind]
    | ok price =>
      refine .inl ⟨?position, ?stamped, ?added⟩
      case added =>
        simp only [answer, takeId, takeTime, ReplayBroker.submitOrder, close, settle, bind,
          Except.bind]
        rfl
      case stamped => rfl
  | closePosition id =>
    refine .inr ?_
    cases found : host.broker.state.positions.find? fun position => position.positionId = id with
    | none => simp [answer, takeId, takeTime, ReplayBroker.closePosition, found, settle]
    | some position =>
      simp only [answer, takeId, takeTime, ReplayBroker.closePosition, found, settle]
      exact List.eraseP_sublist
  | _ => exact .inr (.refl _)

theorem ReplayHost.mem_opened (now : position ∈ (host.answer call).2.broker.state.positions)
    (new : position ∉ host.broker.state.positions) : position ∈ host.opened call := by
  rcases host.positions_answer call with ⟨added, _, same⟩ | fewer
  · rw [opened, same, List.drop_left]
    rw [same, List.mem_append] at now
    exact now.resolve_left new
  · exact absurd (fewer.subset now) new

theorem ReplayHost.entryTime_of_opened (opens : position ∈ host.opened call) :
    position.entryTime = host.outside.utcNow (host.draws + 1) := by
  rcases host.positions_answer call with ⟨added, stamped, same⟩ | fewer
  · rw [opened, same, List.drop_left, List.mem_singleton] at opens
    rw [opens, stamped]
  · rw [opened, List.drop_eq_nil_of_le fewer.length_le] at opens
    cases opens

end fills

section bars

variable {platform : Platform} {divergence : DivergenceSource} {inputs : ReplayInputs}
  {config : Config} {pairConfig : PairConfig} {position : Position} {bar draw : Nat}

theorem ReplayInputs.hostAt_onBar (platform : Platform) (divergence : DivergenceSource)
    (inputs : ReplayInputs) (pairConfig : PairConfig) (bar : Nat) :
    OnBar inputs.configFile (inputs.bars pairConfig) inputs.start inputs.outside bar
      (inputs.hostAt platform divergence pairConfig bar) := by
  induction bar with
  | zero => exact ⟨rfl, rfl, (Int.add_zero _).symm, rfl, rfl⟩
  | succ bar ih => exact (ih.play _).1.advance

/-- A day that a replay reaches is the cycle of its bar. -/
theorem replayDays_reached (remaining : Nat) {later : Nat} {events : List CycleEvent}
    (reached : (replayDays platform divergence remaining
      (inputs.hostAt platform divergence pairConfig bar)).1[later]? = some events) :
    events = ((runRealCycle platform divergence ⟨true⟩).play ReplayHost.answer
      (inputs.hostAt platform divergence pairConfig (bar + later))).1 := by
  induction remaining generalizing bar later with
  | zero => simp [replayDays] at reached
  | succ remaining ih =>
    rw [replayDays_days] at reached
    split at reached
    · cases later with
      | zero => exact (Option.some.inj reached).symm
      | succ later =>
        rw [List.getElem?_cons_succ] at reached
        split at reached
        · have next : bar + (later + 1) = bar + 1 + later := by omega
          rw [next]
          exact ih reached
        · cases reached
    · cases reached

theorem runReplay_reached (loaded : Config.load inputs.configFile = .ok config)
    (first : config.pairs.head? = some pairConfig) {later : Nat} {events : List CycleEvent}
    (reached : (runReplay platform divergence inputs).1[later]? = some events) :
    events = ((runRealCycle platform divergence ⟨true⟩).play ReplayHost.answer
      (inputs.hostAt platform divergence pairConfig later)).1 := by
  rw [runReplay_days platform divergence loaded first] at reached
  have fromFirst : (replayDays platform divergence (inputs.barCount pairConfig)
      (inputs.hostAt platform divergence pairConfig 0)).1[later]? = some events := reached
  have day := replayDays_reached _ fromFirst
  rwa [Nat.zero_add] at day

/-- A position that is open when a bar begins was opened in the cycle of an earlier one. -/
theorem exists_fill_of_open
    (still : position ∈ inputs.openAt platform divergence pairConfig bar) :
    ∃ earlier < bar, ∃ draw,
      (draw, position) ∈ inputs.fillsAt platform divergence pairConfig earlier := by
  induction bar with
  | zero => cases still
  | succ bar ih =>
    let isOpen (host : ReplayHost) : Prop := position ∈ host.broker.state.positions
    have now : isOpen ((runRealCycle platform divergence ⟨true⟩).play ReplayHost.answer
      (inputs.hostAt platform divergence pairConfig bar)).2.2 := still
    rcases Program.play_cases _ now with before | ⟨moment, occurs, new, comes⟩
    · obtain ⟨earlier, order, fill⟩ := ih before
      exact ⟨earlier, order.trans (Nat.lt_succ_self bar), fill⟩
    · refine ⟨bar, Nat.lt_succ_self bar, moment.1.draws + 1, ?_⟩
      refine List.mem_flatMap.mpr ⟨moment, occurs, ?_⟩
      exact List.mem_map_of_mem (ReplayHost.mem_opened comes new)

/-- A fill is stamped with the reading of the outside clock that it is made at. -/
theorem entryTime_of_fill
    (fill : (draw, position) ∈ inputs.fillsAt platform divergence pairConfig bar) :
    position.entryTime = inputs.outside.utcNow draw := by
  obtain ⟨moment, occurs, stamped⟩ := List.mem_flatMap.mp fill
  obtain ⟨opened, opens, same⟩ := List.mem_map.mp stamped
  cases same
  have onBar := ((inputs.hostAt_onBar platform divergence pairConfig bar).play _).2 moment occurs
  rw [ReplayHost.entryTime_of_opened opens, onBar.surroundings]

/-- The clock of a later bar is as many days ahead as there are bars in between. -/
theorem clock_sub_clock (platform : Platform) (divergence : DivergenceSource)
    (inputs : ReplayInputs) (pairConfig : PairConfig) {earlier later : Nat}
    (order : earlier < later) :
    (inputs.hostAt platform divergence pairConfig later).clock -
        (inputs.hostAt platform divergence pairConfig earlier).clock =
      Duration.days ((later - earlier : Nat) : Int) := by
  rw [(inputs.hostAt_onBar platform divergence pairConfig later).clock,
    (inputs.hostAt_onBar platform divergence pairConfig earlier).clock, Nat.cast_sub order.le]
  dsimp only [Duration, Duration.days, Duration.hours, Duration.minutes, Duration.seconds]
  ring

/-- A position that is whole days old does not block its pair. -/
theorem not_alreadyEntered_of_days {now : Int} {bars : Nat} (positive : 0 < bars)
    (age : now - position.entryTime = Duration.days bars) :
    alreadyEnteredThisCycle position.pair [position] now = false := by
  have old : ¬now - position.entryTime < Duration.minutes minMinutesBetweenEntriesSamePair := by
    rw [age]
    dsimp only [Duration, Duration.days, Duration.hours, Duration.minutes, Duration.seconds,
      minMinutesBetweenEntriesSamePair]
    omega
  simp [alreadyEnteredThisCycle, old]

/-- A wall clock that is not behind the start of the replay makes every position block its
pair, on every bar up to that day. -/
theorem alreadyEntered_of_fill {earlier later : Nat}
    (fill : (draw, position) ∈ inputs.fillsAt platform divergence pairConfig earlier)
    (ahead : inputs.today ≤ inputs.outside.utcNow draw) (asked : later ≤ inputs.days) :
    alreadyEnteredThisCycle position.pair [position]
      (inputs.hostAt platform divergence pairConfig later).clock = true := by
  have recent : (inputs.hostAt platform divergence pairConfig later).clock - position.entryTime <
      Duration.minutes minMinutesBetweenEntriesSamePair := by
    rw [(inputs.hostAt_onBar platform divergence pairConfig later).clock, entryTime_of_fill fill,
      ReplayInputs.start]
    generalize inputs.outside.utcNow draw = wall at ahead ⊢
    generalize inputs.today = today at ahead ⊢
    dsimp only [Instant, Duration, Duration.days, Duration.hours, Duration.minutes,
      Duration.seconds, minMinutesBetweenEntriesSamePair] at *
    omega
  simp [alreadyEnteredThisCycle, recent]

end bars

/-- The first position that the first day of a replay opens. -/
def firstFill (inputs : ReplayInputs) : Nat × Position :=
  (inputs.fillsAt .winter secondarySwept ⟨"EURUSD", "GBPUSD"⟩ 0).head?.getD
    (0, boughtPosition 0 "EURUSD" 0 0 inputs.start none)

theorem firstFill_mem {inputs : ReplayInputs}
    (opens : (inputs.fillsAt .winter secondarySwept ⟨"EURUSD", "GBPUSD"⟩ 0).isEmpty = false) :
    firstFill inputs ∈ inputs.fillsAt .winter secondarySwept ⟨"EURUSD", "GBPUSD"⟩ 0 := by
  unfold firstFill
  cases fills : inputs.fillsAt .winter secondarySwept ⟨"EURUSD", "GBPUSD"⟩ 0 with
  | nil => simp [fills] at opens
  | cons first rest => exact List.mem_cons_self

/-- The same two days, with the outside clock stopped at the first one. -/
def stoppedClock : ReplayInputs :=
  { twoBars with outside := { twoBars.outside with utcNow := fun _ => twoBars.start } }

end Oboobot.Daemon
