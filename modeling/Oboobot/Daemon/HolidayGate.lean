import Oboobot.Daemon.ArrivedSnapshot
import Oboobot.Daemon.Host
import Oboobot.SessionTime.NyClock

/-! The low-liquidity gate asks the calendar about the date in UTC, which late in the
evening is not the one in New York. -/

namespace Oboobot.Daemon

open Domain SessionTime Strategy Risk Broker Interaction Daemon.Cycle

def consideringOf : CycleEvent → Option (Instant × HealthMonitor)
  | ⟨.observe (.consideringEntries now health), _⟩ => some (now, health)
  | _ => none

/-- Where a run first considers new entries: when, in which health, and what follows. -/
def consideration : List CycleEvent → Option ((Instant × HealthMonitor) × List CycleEvent)
  | [] => none
  | event :: back => match consideringOf event with
    | some considering => some (considering, back)
    | none => consideration back

/-- The event evaluates a pair-set. -/
def evaluates : CycleEvent → Bool
  | ⟨.observe (.evaluating _), _⟩ => true
  | _ => false

/-- No pair-set is evaluated for a new entry. -/
def entriesBlocked (events : List CycleEvent) : Bool := !events.any evaluates

/-- Every call but the note that entries are considered. -/
def Call.precedesEntries : Call → Bool
  | .observe (.consideringEntries _ _) => false
  | _ => true

theorem precedesEntries_of_routine (call : Call) (routine : call.isRoutine) :
    call.precedesEntries = true := by
  cases call with
  | observe observation => cases routine
  | _ => rfl

theorem consideringOf_eq_none {event : CycleEvent} (precedes : event.call.precedesEntries = true) :
    consideringOf event = none := by
  obtain ⟨call, reply⟩ := event
  cases call with
  | observe observation =>
    cases observation with
    | consideringEntries _ _ => cases precedes
    | _ => rfl
  | _ => rfl

theorem consideration_append {front : List CycleEvent}
    (precede : ∀ event ∈ front, event.call.precedesEntries = true) (back : List CycleEvent) :
    consideration (front ++ back) = consideration back := by
  induction front with
  | nil => rfl
  | cons event front ih =>
    obtain ⟨first, rest⟩ := List.forall_mem_cons.mp precede
    rw [List.cons_append, consideration, consideringOf_eq_none first]
    exact ih rest

theorem not_evaluates_of_routine {event : CycleEvent} (routine : event.call.isRoutine) :
    evaluates event = false := by
  obtain ⟨call, reply⟩ := event
  cases call with
  | observe observation => cases routine
  | _ => rfl

section phases

variable {platform : Platform} {divergence : DivergenceSource} {cli : Cli} {config : Config}
  {snapshot : BrokerSnapshot} {time now : Instant} {monitor health : HealthMonitor}
  {states : List PairCycleState} {openPositions : List Position} {events back : List CycleEvent}
  {outcome : Outcome CycleError Unit}

theorem nowhere_of_precedes {α : Type} {program : Cycle α} {post : α → Prop}
    {outcome : Outcome CycleError α}
    (yields : program.Yields (fun call => call.precedesEntries = true) post)
    (trace : Trace program events outcome) : consideration events = none := by
  simpa [consideration] using consideration_append (yields.calls trace) []

/-- A part that does not consider entries has finished before they are. -/
theorem consideration_bind {α : Type} {program : Cycle α} {next : α → Cycle Unit}
    {post : α → Prop} {found : (Instant × HealthMonitor) × List CycleEvent}
    (trace : Trace (program >>= next) events outcome)
    (reaches : consideration events = some found)
    (yields : program.Yields (fun call => call.precedesEntries = true) post) :
    ∃ value later, post value ∧ Trace (next value) later outcome ∧
      consideration later = some found := by
  rcases trace.bind_cases with ⟨value, front, later, rfl, first, second⟩ | ⟨cut, _⟩
  · rw [consideration_append (yields.calls first)] at reaches
    exact ⟨value, later, yields.returns first, second, reaches⟩
  · rw [nowhere_of_precedes yields cut] at reaches
    cases reaches

/-- The gate blocks the entry loop exactly on the low-liquidity dates, as UTC counts them. -/
theorem considerEntries_blocked_iff {isTuesday : Bool} {holidays : HolidayProvider}
    (trace : Trace (considerEntries platform cli config snapshot time isTuesday holidays monitor
      states openPositions) events outcome)
    (reaches : consideration events = some ((now, health), back)) (ended : outcome ≠ .stopped)
    (healthy : allowsNewEntries health.currentState = true) (nonempty : states ≠ []) :
    entriesBlocked back = true ↔ holidays.isLowLiquidity (utcDateNaive now) = true := by
  unfold considerEntries at trace
  split at trace
  · rw [nowhere_of_precedes (writeStatus_yields precedesEntries_of_routine _ _ _ _) trace] at reaches
    cases reaches
  · cases trace with
    | stopped => exact absurd rfl ended
    | answered reply rest =>
      cases reaches
      simp only [healthy, Bool.not_true, Bool.false_eq_true, if_false] at rest
      split at rest
      · rename_i low
        have routine := (writeStatus_yields (fun _ given => given) _ _ _ _).calls rest
        refine iff_of_true ?_ low
        simpa [entriesBlocked] using fun event member =>
          not_evaluates_of_routine (routine event member)
      · rename_i liquid
        refine iff_of_false ?_ liquid
        obtain ⟨first, later, rfl⟩ := List.exists_cons_of_ne_nil nonempty
        cases rest with
        | stopped => exact absurd rfl ended
        | answered reply rest => simp [entriesBlocked, evaluates]

theorem tradeOnSnapshot_blocked_iff (configured : config.pairs ≠ [])
    (trace : Trace (tradeOnSnapshot platform divergence cli config snapshot monitor openPositions)
      events outcome)
    (reaches : consideration events = some ((now, health), back)) (ended : outcome ≠ .stopped)
    (healthy : allowsNewEntries health.currentState = true) :
    entriesBlocked back = true ↔
      staticHolidayProvider.isLowLiquidity (utcDateNaive now) = true := by
  unfold tradeOnSnapshot at trace
  obtain ⟨time, _, -, trace, reaches⟩ := consideration_bind trace reaches (perform_yields rfl)
  obtain ⟨checked, _, -, trace, reaches⟩ := consideration_bind trace reaches
    (hostHealth_yields precedesEntries_of_routine config snapshot time monitor)
  obtain ⟨_, _, -, trace, reaches⟩ := consideration_bind trace reaches
    (convertStalenessLimits_yields rfl)
  obtain ⟨readings, _, read, trace, reaches⟩ := consideration_bind trace reaches
    (readPairSets_yields precedesEntries_of_routine config snapshot time fun _ _ => rfl)
  obtain ⟨positions, _, -, trace, reaches⟩ := consideration_bind trace reaches
    (exitSweep_yields precedesEntries_of_routine rfl (fun _ => rfl) (fun _ => rfl) config snapshot
      time _ openPositions)
  refine considerEntries_blocked_iff trace reaches ended healthy ?_
  intro empty
  rw [← read, ← List.map_map, empty] at configured
  exact configured rfl

theorem configuredCycle_blocked_iff (configured : config.pairs ≠ [])
    (trace : Trace (configuredCycle platform divergence cli config) events outcome)
    (reaches : consideration events = some ((now, health), back)) (ended : outcome ≠ .stopped)
    (healthy : allowsNewEntries health.currentState = true) :
    entriesBlocked back = true ↔
      staticHolidayProvider.isLowLiquidity (utcDateNaive now) = true := by
  unfold configuredCycle at trace
  obtain ⟨_, _, -, trace, reaches⟩ := consideration_bind trace reaches (perform_yields rfl)
  obtain ⟨records, _, -, trace, reaches⟩ := consideration_bind trace reaches (ofExcept_yields _ _)
  obtain ⟨positions, _, -, trace, reaches⟩ := consideration_bind trace reaches
    (reconcileAndNotify_yields precedesEntries_of_routine rfl (fun _ => rfl) records)
  obtain ⟨arrived, _, -, trace, reaches⟩ := consideration_bind trace reaches (perform_yields rfl)
  split at trace
  · exact tradeOnSnapshot_blocked_iff configured trace reaches ended healthy
  · obtain ⟨_, _, -, trace, reaches⟩ := consideration_bind trace reaches (perform_yields rfl)
    rw [nowhere_of_precedes (writeStatus_yields precedesEntries_of_routine _ _ _ _) trace] at reaches
    cases reaches

theorem runRealCycle_blocked_iff (trace : Trace (runRealCycle platform divergence cli) events outcome)
    (reaches : consideration events = some ((now, health), back)) (ended : outcome ≠ .stopped)
    (healthy : allowsNewEntries health.currentState = true) :
    entriesBlocked back = true ↔
      staticHolidayProvider.isLowLiquidity (utcDateNaive now) = true := by
  unfold runRealCycle at trace
  obtain ⟨_, _, -, trace, reaches⟩ := consideration_bind trace reaches (perform_yields rfl)
  obtain ⟨_, _, -, trace, reaches⟩ := consideration_bind trace reaches (ofExcept_yields _ _)
  obtain ⟨engaged, _, -, trace, reaches⟩ := consideration_bind trace reaches
    (killSwitchEngaged_yields rfl)
  split at trace
  · rw [nowhere_of_precedes (writeStatus_yields precedesEntries_of_routine _ _ _ _) trace] at reaches
    cases reaches
  · obtain ⟨_, _, -, trace, reaches⟩ := consideration_bind trace reaches (perform_yields rfl)
    obtain ⟨config, _, -, trace, reaches⟩ :=
      consideration_bind trace reaches (ofExcept_yields _ _)
    split at trace
    · cases trace <;> cases reaches
    · rename_i configured
      exact configuredCycle_blocked_iff (by simpa using configured) trace reaches ended healthy

/-- The gate goes by the date in New York exactly if it is not late in the evening there,
or the calendar says the same of the next date. -/
theorem gate_followsNewYork_iff
    (trace : Trace (runRealCycle platform divergence cli) events outcome)
    (reaches : consideration events = some ((now, health), back)) (ended : outcome ≠ .stopped)
    (healthy : allowsNewEntries health.currentState = true) :
    (entriesBlocked back = true ↔
        staticHolidayProvider.isLowLiquidity (toNy platform.newYork now).dateNaive = true) ↔
      (platform.newYork.IsLateEvening now →
        staticHolidayProvider.isLowLiquidity ((toNy platform.newYork now).dateNaive + 1) =
          staticHolidayProvider.isLowLiquidity (toNy platform.newYork now).dateNaive) := by
  rw [runRealCycle_blocked_iff trace reaches ended healthy, utcDateNaive_eq platform.newYork now,
    ← Bool.eq_iff_iff]
  by_cases late : platform.newYork.IsLateEvening now
  · rw [if_pos late]
    exact ⟨fun same _ => same, fun same => same late⟩
  · rw [if_neg late, add_zero]
    exact iff_of_true rfl fun evening => absurd evening late

end phases

/-- The events of a forced cycle that nothing disturbs. -/
def forcedCycle (clock : Instant) : List CycleEvent :=
  ((runRealCycle .winter secondarySwept ⟨true⟩).play Host.answer
    { Host.fresh .default (quotedAt [("EURUSD", 1.10), ("GBPUSD", 1.25)]) with clock := clock }).1

def afterConsideration (clock : Instant) : List CycleEvent :=
  ((consideration (forcedCycle clock)).map Prod.snd).getD []

theorem reaches_of_considered {clock now : Instant} {health : HealthMonitor}
    (considered : (consideration (forcedCycle clock)).map Prod.fst = some (now, health)) :
    consideration (forcedCycle clock) = some ((now, health), afterConsideration clock) := by
  obtain ⟨found, reaches, same⟩ := Option.map_eq_some_iff.mp considered
  rw [afterConsideration, reaches, ← same]
  rfl

/-- 20:00 in New York on Christmas Day, with a day of low liquidity ahead. -/
def christmasEvening : Instant := Duration.days 19717 + Duration.hours 1

/-- 20:00 in New York on New Year's Day, with an ordinary day ahead. -/
def newYearsEvening : Instant := Duration.days 19724 + Duration.hours 1

theorem christmasEvening_followsNewYork :
    (entriesBlocked (afterConsideration christmasEvening) = true ↔
        staticHolidayProvider.isLowLiquidity
          (toNy Platform.winter.newYork christmasEvening).dateNaive = true) ↔
      (Platform.winter.newYork.IsLateEvening christmasEvening →
        staticHolidayProvider.isLowLiquidity
            ((toNy Platform.winter.newYork christmasEvening).dateNaive + 1) =
          staticHolidayProvider.isLowLiquidity
            (toNy Platform.winter.newYork christmasEvening).dateNaive) := by
  have considered : (consideration (forcedCycle christmasEvening)).map Prod.fst =
      some (christmasEvening, .new) := by decide +kernel
  exact gate_followsNewYork_iff (Program.play_trace _ _ _) (reaches_of_considered considered)
    (Program.play_finished _ _ _) rfl

/-- On New Year's evening new entries are considered after all. -/
theorem newYearsEvening_not_blocked :
    ¬∀ (platform : Platform) (divergence : DivergenceSource) (cli : Cli)
      (events : List CycleEvent) (outcome : Outcome CycleError Unit) (now : Instant)
      (health : HealthMonitor) (back : List CycleEvent),
      Trace (runRealCycle platform divergence cli) events outcome →
      consideration events = some ((now, health), back) → outcome ≠ .stopped →
      allowsNewEntries health.currentState = true →
      (entriesBlocked back = true ↔
        staticHolidayProvider.isLowLiquidity (toNy platform.newYork now).dateNaive = true) := by
  intro claimed
  have considered : (consideration (forcedCycle newYearsEvening)).map Prod.fst =
      some (newYearsEvening, .new) := by decide +kernel
  have blocked : entriesBlocked (afterConsideration newYearsEvening) = true :=
    (claimed .winter secondarySwept ⟨true⟩ _ _ _ _ _ (Program.play_trace _ _ _)
      (reaches_of_considered considered) (Program.play_finished _ _ _) rfl).mpr (by decide +kernel)
  revert blocked
  decide +kernel

end Oboobot.Daemon
