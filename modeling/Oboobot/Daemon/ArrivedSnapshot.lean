import Oboobot.Daemon.JournalContract
import Oboobot.Daemon.CycleContract
import Oboobot.Interaction.Composed

/-! A cycle asks for one snapshot, and trades on it with what it has reconciled. -/

namespace Oboobot.Daemon

open Domain SessionTime Strategy Risk Broker Interaction Daemon.Cycle

/-- Every call but the one for the snapshot. -/
def Call.isOther : Call → Prop
  | .getSnapshot _ => False
  | _ => True

theorem isOther_of_routine (call : Call) (routine : call.isRoutine) : call.isOther := by
  cases call with
  | getSnapshot _ => cases routine
  | _ => trivial

/-- The program does not ask for a snapshot. -/
abbrev AsksNothing {α : Type} (program : Cycle α) : Prop :=
  program.Yields Call.isOther fun _ => True

section phases

variable {platform : Platform} {divergence : DivergenceSource} {cli : Cli}

theorem asksNothing_bind {α β : Type} {program : Cycle α} {next : α → Cycle β}
    (first : AsksNothing program) (rest : ∀ value, AsksNothing (next value)) :
    AsksNothing (program >>= next) := by
  rw [AsksNothing, yields_bind]
  exact Program.Yields.weaken first fun value _ => rest value

theorem asksNothing_perform {call : Call} (other : call.isOther) :
    AsksNothing (Program.perform call : Cycle _) :=
  perform_yields other

theorem asksNothing_ofExcept {ε α : Type} (convert : ε → CycleError) (result : Except ε α) :
    AsksNothing (Program.ofExcept convert result : Cycle α) :=
  ofExcept_yields convert result

theorem asksNothing_foldlM {α Item : Type} {items : List Item} {body : α → Item → Cycle α}
    (round : ∀ state item, AsksNothing (body state item)) (state : α) :
    AsksNothing (items.foldlM body state) :=
  yields_foldlM (fun _ _ => True) (fun _ item _ state _ _ => round state item) state trivial

theorem killSwitchEngaged_asksNothing : AsksNothing killSwitchEngaged :=
  killSwitchEngaged_yields trivial

theorem reconcileAndNotify_asksNothing (locallyKnownPositions : List Position) :
    AsksNothing (reconcileAndNotify locallyKnownPositions) :=
  reconcileAndNotify_yields isOther_of_routine trivial (fun _ => trivial) locallyKnownPositions

theorem exitSweep_asksNothing (config : Config) (snapshot : BrokerSnapshot) (now : Instant)
    (states : List PairCycleState) (openPositions : List Position) :
    AsksNothing (exitSweep config snapshot now states openPositions) :=
  exitSweep_yields isOther_of_routine trivial (fun _ => trivial) (fun _ => trivial) config snapshot
    now states openPositions

theorem loadOrCaptureBias_asksNothing (timeframe : Timeframe) (symbol : String) (price : Decimal)
    (now : Instant) (holidays : HolidayProvider) :
    AsksNothing (loadOrCaptureBias platform timeframe symbol price now holidays) := by
  unfold loadOrCaptureBias
  refine asksNothing_bind ?_ fun level => asksNothing_bind (asksNothing_perform trivial) fun _ => trivial
  unfold loadOrCaptureLevel
  refine asksNothing_bind (asksNothing_perform trivial) fun reply => ?_
  refine asksNothing_bind (asksNothing_ofExcept _ _) fun onFile => ?_
  split
  · split
    · exact asksNothing_bind (asksNothing_perform trivial) fun reply =>
        asksNothing_bind (asksNothing_ofExcept _ _) fun _ => trivial
    · trivial
  · trivial

theorem submitApproved_asksNothing (snapshot : BrokerSnapshot) (openPositions : List Position)
    (signal : TradeSignal) (decision : RiskDecision) :
    AsksNothing (submitApproved snapshot openPositions signal decision) := by
  unfold submitApproved
  refine asksNothing_bind (asksNothing_perform trivial) fun orderId => ?_
  refine asksNothing_bind (asksNothing_perform trivial) fun reply => ?_
  refine asksNothing_bind (asksNothing_ofExcept _ _) fun order => ?_
  refine asksNothing_bind (asksNothing_perform trivial) fun _ => ?_
  refine asksNothing_bind (reconcileAndNotify_asksNothing _) fun positions => ?_
  refine asksNothing_bind (appendPositions_yields isOther_of_routine positions) fun _ => ?_
  exact asksNothing_bind (appendDecision_yields isOther_of_routine _ _ _) fun _ => trivial

theorem sizeAndSubmit_asksNothing (config : Config) (snapshot : BrokerSnapshot) (isTuesday : Bool)
    (state : PairCycleState) (openPositions : List Position) (signal : TradeSignal) :
    AsksNothing (sizeAndSubmit platform config snapshot isTuesday state openPositions signal) := by
  unfold sizeAndSubmit
  refine asksNothing_bind (asksNothing_perform trivial) fun reply => ?_
  refine asksNothing_bind (asksNothing_ofExcept _ _) fun equity => ?_
  refine asksNothing_bind (asksNothing_perform trivial) fun decisionId => ?_
  refine asksNothing_bind (asksNothing_ofExcept _ _) fun decision => ?_
  refine asksNothing_bind (asksNothing_perform trivial) fun _ => ?_
  split
  · exact submitApproved_asksNothing _ _ _ _
  · exact asksNothing_bind (appendDecision_yields isOther_of_routine _ _ _) fun _ => trivial

theorem evaluatePairSet_asksNothing (config : Config) (snapshot : BrokerSnapshot) (now : Instant)
    (isTuesday : Bool) (holidays : HolidayProvider) (openPositions : List Position)
    (state : PairCycleState) :
    AsksNothing (evaluatePairSet platform config snapshot now isTuesday holidays openPositions
      state) := by
  have recorded (pair outcome : String) (detail : Option String) (label : String) :
      AsksNothing (do
        appendDecision pair outcome detail
        return (openPositions, label) : Cycle (List Position × String)) :=
    asksNothing_bind (appendDecision_yields isOther_of_routine _ _ _) fun _ => trivial
  unfold evaluatePairSet
  refine asksNothing_bind (asksNothing_perform trivial) fun _ => ?_
  dsimp only
  split
  · refine asksNothing_bind (loadOrCaptureBias_asksNothing _ _ _ _ _) fun weeklyBias => ?_
    refine asksNothing_bind (loadOrCaptureBias_asksNothing _ _ _ _ _) fun dailyBias => ?_
    refine asksNothing_bind (asksNothing_perform trivial) fun traceId => ?_
    refine asksNothing_bind (asksNothing_perform trivial) fun signalId => ?_
    refine asksNothing_bind (asksNothing_perform trivial) fun timestamp => ?_
    split
    · exact recorded _ _ _ _
    · exact recorded _ _ _ _
    · split
      · exact recorded _ _ _ _
      · exact sizeAndSubmit_asksNothing _ _ _ _ _ _
  · exact recorded _ _ _ _

theorem considerEntries_asksNothing (config : Config) (snapshot : BrokerSnapshot) (now : Instant)
    (isTuesday : Bool) (holidays : HolidayProvider) (health : HealthMonitor)
    (states : List PairCycleState) (openPositions : List Position) :
    AsksNothing (considerEntries platform cli config snapshot now isTuesday holidays health states
      openPositions) := by
  have written := writeStatus_yields isOther_of_routine
  unfold considerEntries
  split
  · exact written _ _ _ _
  · refine asksNothing_bind (asksNothing_perform trivial) fun _ => ?_
    split
    · exact written _ _ _ _
    · split
      · exact written _ _ _ _
      · refine asksNothing_bind (asksNothing_foldlM (fun progress state => ?_) _)
          fun progress => written _ _ _ _
        exact asksNothing_bind (evaluatePairSet_asksNothing _ _ _ _ _ _ _) fun _ => trivial

theorem readPairSets_asksNothing (config : Config) (snapshot : BrokerSnapshot) (now : Instant) :
    AsksNothing (readPairSets platform divergence config snapshot now) :=
  (readPairSets_yields isOther_of_routine config snapshot now fun _ _ => trivial).weaken
    fun _ _ => trivial

theorem tradeOnSnapshot_asksNothing (config : Config) (snapshot : BrokerSnapshot)
    (health : HealthMonitor) (openPositions : List Position) :
    AsksNothing (tradeOnSnapshot platform divergence cli config snapshot health openPositions) := by
  unfold tradeOnSnapshot
  refine asksNothing_bind (asksNothing_perform trivial) fun now => ?_
  refine asksNothing_bind (hostHealth_yields isOther_of_routine _ _ _ _) fun health => ?_
  refine asksNothing_bind (convertStalenessLimits_yields trivial) fun _ => ?_
  refine asksNothing_bind (readPairSets_asksNothing _ _ _) fun readings => ?_
  exact asksNothing_bind (exitSweep_asksNothing _ _ _ _ _) fun positions =>
    considerEntries_asksNothing _ _ _ _ _ _ _ _

end phases

/-- The last thing a reconciliation does is to note its outcome. -/
theorem reconcileAndNotify_observes {locallyKnownPositions positions : List Position}
    {events : List CycleEvent}
    (trace : Trace (reconcileAndNotify locallyKnownPositions) events (.done positions)) :
    ∃ earlier, events = earlier ++ [⟨.observe (.reconciled positions), ()⟩] := by
  have noted {events : List CycleEvent} {openPositions : List Position}
      (trace : Trace (do
        observe (.reconciled openPositions)
        return openPositions : Cycle (List Position)) events (.done positions)) :
      events = [⟨.observe (.reconciled positions), ()⟩] := by
    cases trace with
    | answered reply rest =>
      cases rest
      rfl
  unfold reconcileAndNotify at trace
  obtain ⟨_, listed, _, rfl, _, trace⟩ := trace.bind_done
  obtain ⟨listing, checked, _, rfl, _, trace⟩ := trace.bind_done
  dsimp only at trace
  split at trace
  · exact ⟨listed ++ checked, by simp [noted trace]⟩
  · obtain ⟨_, notified, _, rfl, _, trace⟩ := trace.bind_done
    exact ⟨listed ++ (checked ++ notified), by simp [noted trace]⟩

theorem known_of_reconciled (earlier : List CycleEvent) (positions : List Position) (reply : Unit) :
    (Journal.ofEvents (earlier ++ [⟨.observe (.reconciled positions), reply⟩])).known = positions := by
  rw [Journal.ofEvents, List.foldl_append]
  rfl

/-- The only request for a snapshot is the one that comes first. -/
theorem request_at {α : Type} {requested symbols : List String} {before back : List CycleEvent}
    {reply : Reply (.getSnapshot symbols)} {outcome : Outcome CycleError α}
    {next : Reply (.getSnapshot requested) → Cycle α}
    (trace : Trace (perform (.getSnapshot requested) >>= next)
      (before ++ ⟨.getSnapshot symbols, reply⟩ :: back) outcome)
    (others : ∀ reply, AsksNothing (next reply)) :
    before = [] ∧ symbols = requested ∧ Trace (next reply) back outcome := by
  cases before with
  | nil =>
    cases trace with
    | answered reply rest => exact ⟨rfl, rfl, rest⟩
  | cons head before =>
    cases trace with
    | answered reply rest => exact absurd ((others reply).call_at rest) id

section cycle

variable {platform : Platform} {divergence : DivergenceSource} {cli : Cli} {config : Config}
  {before back : List CycleEvent} {symbols : List String} {snapshot : BrokerSnapshot}
  {outcome : Outcome CycleError Unit}

theorem configuredCycle_at
    (trace : Trace (configuredCycle platform divergence cli config)
      (before ++ ⟨.getSnapshot symbols, some (.ok snapshot)⟩ :: back) outcome) :
    ∃ earlier positions health, before = earlier ++ [⟨.observe (.reconciled positions), ()⟩] ∧
      symbols = allSymbols config.pairs ∧
      Trace (tradeOnSnapshot platform divergence cli config snapshot health positions) back
        outcome := by
  unfold configuredCycle at trace
  obtain ⟨reply, fetched, _, rfl, -, reads⟩ := trace.bind_at (asksNothing_perform trivial) id
  obtain ⟨records, given, _, rfl, -, reconciles⟩ := reads.bind_at (asksNothing_ofExcept _ _) id
  obtain ⟨positions, _, _, rfl, first, asks⟩ :=
    reconciles.bind_at (reconcileAndNotify_asksNothing records) id
  obtain ⟨rfl, rfl, trades⟩ := request_at asks fun reply => by
    rcases reply with _ | _ | snapshot
    · exact asksNothing_bind (asksNothing_perform trivial) fun _ =>
        writeStatus_yields isOther_of_routine _ _ _ _
    · exact asksNothing_bind (asksNothing_perform trivial) fun _ =>
        writeStatus_yields isOther_of_routine _ _ _ _
    · exact tradeOnSnapshot_asksNothing _ _ _ _
  obtain ⟨earlier, rfl⟩ := reconcileAndNotify_observes first
  exact ⟨fetched ++ (given ++ earlier), positions, _, by simp, rfl, trades⟩

/-- What follows the request for the snapshot trades on the one that arrived, with
the positions known by then. -/
theorem trade_after_snapshot
    (trace : Trace (runRealCycle platform divergence cli)
      (before ++ ⟨.getSnapshot symbols, some (.ok snapshot)⟩ :: back) outcome) :
    ∃ config health, symbols = allSymbols config.pairs ∧
      Trace (tradeOnSnapshot platform divergence cli config snapshot health
        (Journal.ofEvents before).known) back outcome := by
  unfold runRealCycle at trace
  obtain ⟨_, created, _, rfl, -, trace⟩ := trace.bind_at (asksNothing_perform trivial) id
  obtain ⟨_, checked, _, rfl, -, trace⟩ := trace.bind_at (asksNothing_ofExcept _ _) id
  obtain ⟨engaged, switched, _, rfl, -, trace⟩ := trace.bind_at killSwitchEngaged_asksNothing id
  split at trace
  · exact absurd ((writeStatus_yields isOther_of_routine _ _ _ _).call_at trace) id
  · obtain ⟨file, read, _, rfl, -, trace⟩ := trace.bind_at (asksNothing_perform trivial) id
    obtain ⟨config, loaded, _, rfl, -, trace⟩ := trace.bind_at (asksNothing_ofExcept _ _) id
    split at trace
    · have gaveUp : AsksNothing (Program.fail .noPairsConfigured : Cycle Unit) := trivial
      exact absurd (gaveUp.call_at trace) id
    · obtain ⟨earlier, positions, health, rfl, requested, trades⟩ := configuredCycle_at trace
      refine ⟨config, health, requested, ?_⟩
      simp only [← List.append_assoc, known_of_reconciled]
      exact trades

end cycle

end Oboobot.Daemon
