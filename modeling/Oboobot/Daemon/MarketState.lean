import Oboobot.Daemon.CycleContract
import Oboobot.Daemon.Host

/-! The divergence a cycle resolves, against the ranges that stood on file when
the cycle began. -/

namespace Oboobot.Daemon

open Domain SessionTime Strategy Broker Interaction

/-- The range on file when the cycle first read it. No write of the cycle comes earlier. -/
def firstRead (events : List CycleEvent) (file : String) : Option RollingBuffer :=
  match events with
  | [] => none
  | ⟨.readBuffer name, .ok current⟩ :: rest => if name = file then current else firstRead rest file
  | _ :: rest => firstRead rest file

/-- The ranges of a pair-set that stood on file. -/
structure StoredRanges where
  dailyPrimary : RollingBuffer
  dailySecondary : RollingBuffer
  sessionPrimary : RollingBuffer
  sessionSecondary : RollingBuffer
  deriving DecidableEq

def storedRanges (events : List CycleEvent) (pairConfig : PairConfig) : Option StoredRanges := do
  return {
    dailyPrimary := ← firstRead events (bufferDailyFile pairConfig.primary)
    dailySecondary := ← firstRead events (bufferDailyFile pairConfig.secondary)
    sessionPrimary := ← firstRead events (bufferSessionFile pairConfig.primary)
    sessionSecondary := ← firstRead events (bufferSessionFile pairConfig.secondary) }

namespace StoredRanges

/-- None of the four is expired. -/
def isCurrent (stored : StoredRanges) (now : Instant) : Bool :=
  [stored.dailyPrimary, stored.dailySecondary, stored.sessionPrimary,
    stored.sessionSecondary].all fun buffer => !buffer.isExpired now

/-- The fresh prices against the stored ranges. -/
def inputs (stored : StoredRanges) (primaryPrice secondaryPrice : Decimal) : DivergenceInputs where
  primaryPrice := primaryPrice
  secondaryPrice := secondaryPrice
  dailyPrimaryBuffer := stored.dailyPrimary.asBufferLevels
  dailySecondaryBuffer := stored.dailySecondary.asBufferLevels
  sessionPrimaryBuffer := stored.sessionPrimary.asBufferLevels
  sessionSecondaryBuffer := stored.sessionSecondary.asBufferLevels

/-- In neither timeframe did one asset alone go beyond its stored range. -/
def Confirms (stored : StoredRanges) (primaryPrice secondaryPrice : Decimal) : Prop :=
  Confirmed primaryPrice stored.dailyPrimary.asBufferLevels
      secondaryPrice stored.dailySecondary.asBufferLevels ∧
    Confirmed primaryPrice stored.sessionPrimary.asBufferLevels
      secondaryPrice stored.sessionSecondary.asBufferLevels

end StoredRanges

/-- What the cycle holds for a pair-set is what `evaluateSmt` says of `inputs`. -/
def Resolves (state : PairCycleState) (inputs : DivergenceInputs) : Prop :=
  state.resolvedDivergence = namedDivergence state.pairConfig (evaluateSmt inputs) ∧
    evaluateSmt state.divergenceInputs = evaluateSmt inputs

instance (state : PairCycleState) (inputs : DivergenceInputs) : Decidable (Resolves state inputs) :=
  inferInstanceAs (Decidable (_ ∧ _))

/-- Nothing is ever resolved: the ranges already hold the prices they are compared with. -/
theorem evaluateSmt_asComputed {snapshot : BrokerSnapshot} {state : PairCycleState}
    (read : ReadFrom asComputed snapshot state) : evaluateSmt state.divergenceInputs = none := by
  obtain ⟨inputs, inside, _, _, same⟩ := read.inputs
  rw [same]
  exact evaluateSmt_inside inside

theorem evaluateSmt_inputs_eq_none_iff (stored : StoredRanges)
    (primaryPrice secondaryPrice : Decimal) :
    evaluateSmt (stored.inputs primaryPrice secondaryPrice) = none ↔
      stored.Confirms primaryPrice secondaryPrice := by
  rw [evaluateSmt_eq_none_iff]
  exact and_congr (detectDivergence_eq_none_iff ..) (detectDivergence_eq_none_iff ..)

/-- The pair-set state that an event reports, with the time of its cycle. -/
def marketStateOf : CycleEvent → Option (Instant × PairCycleState)
  | ⟨.observe (.marketStateUpdated now state), _⟩ => some (now, state)
  | _ => none

theorem eq_of_marketStateOf {event : CycleEvent} {now : Instant} {state : PairCycleState}
    (reports : marketStateOf event = some (now, state)) :
    event = ⟨.observe (.marketStateUpdated now state), ()⟩ := by
  unfold marketStateOf at reports
  split at reports
  · cases reports
    rfl
  · cases reports

/-- If all four ranges were on file and current, the pair-set resolves what the
fresh bids show against them. -/
def ResolvesStored (before : List CycleEvent) (event : CycleEvent) : Prop :=
  ∀ update ∈ marketStateOf event, ∀ snapshot ∈ (Ledger.ofEvents before).snapshot,
    ∀ stored ∈ storedRanges before update.2.pairConfig, stored.isCurrent update.1 = true →
      Resolves update.2 (stored.inputs (bidOrZero snapshot update.2.pairConfig.primary)
        (bidOrZero snapshot update.2.pairConfig.secondary))

/-- If all four ranges were on file and current, the fresh bids confirm each other. -/
def ConfirmsStored (before : List CycleEvent) (event : CycleEvent) : Prop :=
  ∀ update ∈ marketStateOf event, ∀ snapshot ∈ (Ledger.ofEvents before).snapshot,
    ∀ stored ∈ storedRanges before update.2.pairConfig, stored.isCurrent update.1 = true →
      stored.Confirms (bidOrZero snapshot update.2.pairConfig.primary)
        (bidOrZero snapshot update.2.pairConfig.secondary)

instance (before : List CycleEvent) (event : CycleEvent) : Decidable (ResolvesStored before event) :=
  inferInstanceAs (Decidable (∀ update ∈ marketStateOf event, _))

/-- A cycle resolves what the stored ranges show exactly when they show no divergence. -/
theorem resolvesStored_iff_confirmsStored {platform : Platform} {cli : Cli}
    {before back : List CycleEvent} {event : CycleEvent} {outcome : Outcome CycleError Unit}
    (trace : Trace (runRealCycle platform asComputed cli) (before ++ event :: back) outcome) :
    ResolvesStored before event ↔ ConfirmsStored before event := by
  have promised := promised_of_trace trace
  refine forall_congr' fun ⟨now, state⟩ => forall_congr' fun reports => ?_
  rw [eq_of_marketStateOf reports] at promised
  obtain ⟨_, snapshot, _, read⟩ := promised
  have unseen := evaluateSmt_asComputed read
  refine forall_congr' fun snapshot => forall_congr' fun _ => forall_congr' fun stored =>
    forall_congr' fun _ => forall_congr' fun _ => ?_
  rw [← evaluateSmt_inputs_eq_none_iff]
  constructor
  · intro resolves
    rw [← resolves.2, unseen]
  · intro confirmed
    refine ⟨?_, by rw [unseen, confirmed]⟩
    rw [read.resolved, unseen, confirmed]

/-- EURUSD has fallen below both of its ranges, GBPUSD has held both of its own. -/
def sweptHost : Host :=
  let range (low high : Decimal) : RollingBuffer :=
    { high, low, resetsAt := wednesdayMorning + Duration.hours 3 }
  { Host.fresh .default (quotedAt [("EURUSD", 1.09), ("GBPUSD", 1.25)]) with
    buffers := .ofPairs [
      (bufferDailyFile "EURUSD", range 1.10 1.12),
      (bufferDailyFile "GBPUSD", range 1.24 1.26),
      (bufferSessionFile "EURUSD", range 1.10 1.12),
      (bufferSessionFile "GBPUSD", range 1.24 1.26)] }

theorem sweptHost_resolves_iff :
    Always (fun before event => ResolvesStored before event ↔ ConfirmsStored before event)
      ((runRealCycle .winter asComputed ⟨false⟩).play Host.answer sweptHost).1 := by
  intro before event back same
  have trace := (runRealCycle .winter asComputed ⟨false⟩).play_trace Host.answer sweptHost
  rw [same] at trace
  exact resolvesStored_iff_confirmsStored trace

/-- The sweep of EURUSD is not resolved. -/
theorem sweptHost_not_resolved :
    ¬∀ (platform : Platform) (cli : Cli) (events : List CycleEvent)
      (outcome : Outcome CycleError Unit),
      Trace (runRealCycle platform asComputed cli) events outcome →
      Always ResolvesStored events := by
  intro claimed
  have resolved := claimed .winter ⟨false⟩ _ _
    ((runRealCycle .winter asComputed ⟨false⟩).play_trace Host.answer sweptHost)
  revert resolved
  decide +kernel

end Oboobot.Daemon
