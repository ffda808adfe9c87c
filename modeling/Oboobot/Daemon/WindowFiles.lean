import Oboobot.Daemon.Cycle
import Oboobot.Strategy.RegimeBaseline

/-! The correlation windows and spread histories on file, and what a round of the
market-state loop makes of them. -/

namespace Oboobot.Daemon

open Domain SessionTime Strategy Risk Broker Interaction Daemon.Cycle

/-- The two kinds of windows in the state directory, by file name. -/
structure WindowFiles where
  correlations : BTreeMap CorrelationState
  spreadHistories : BTreeMap SpreadHistory

namespace WindowFiles

def putCorrelation (files : WindowFiles) (file : String) (state : CorrelationState) : WindowFiles :=
  { files with correlations := files.correlations.insert file state }

def putSpreadHistory (files : WindowFiles) (file : String) (history : SpreadHistory) :
    WindowFiles :=
  { files with spreadHistories := files.spreadHistories.insert file history }

/-- A read finds what is on file. A write that fails may have replaced it or not. -/
def Step (files : WindowFiles) : CycleEvent → WindowFiles → Prop
  | ⟨.readCorrelation file, .ok found⟩, after => found = files.correlations file ∧ after = files
  | ⟨.writeCorrelation file state, .ok ()⟩, after => after = files.putCorrelation file state
  | ⟨.writeCorrelation file state, .error _⟩, after =>
    after = files ∨ after = files.putCorrelation file state
  | ⟨.readSpreadHistory file, .ok found⟩, after =>
    found = files.spreadHistories file ∧ after = files
  | ⟨.writeSpreadHistory file history, .ok ()⟩, after => after = files.putSpreadHistory file history
  | ⟨.writeSpreadHistory file history, .error _⟩, after =>
    after = files ∨ after = files.putSpreadHistory file history
  | _, after => after = files

/-- A regime shift is only ever reported of a window on file that holds the baseline. -/
def Promise (files : WindowFiles) : Call → Prop
  | .notify (.correlationRegimeShift primary secondary shift) =>
    ∃ state, files.correlations (correlationFile primary secondary) = some state ∧
      state.baselineCoefficient = some shift.baseline
  | _ => True

end WindowFiles

def windowContract : Contract Call Reply WindowFiles where
  step := WindowFiles.Step
  promise := WindowFiles.Promise

/-- Calls that leave the windows alone and report nothing. -/
def Call.leavesWindows : Call → Bool
  | .readCorrelation _ | .writeCorrelation _ _ => false
  | .readSpreadHistory _ | .writeSpreadHistory _ _ => false
  | .notify _ => false
  | _ => true

theorem leavesWindows_meets {α : Type} {program : Cycle α} {post : α → Prop} {files : WindowFiles}
    (yields : program.Yields (fun call => call.leavesWindows = true) post) :
    program.Meets windowContract (fun value after => post value ∧ after = files)
      (fun _ _ => True) files := by
  have framed : program.Meets windowContract (fun value after => post value ∧ after = files)
      (fun _ after => after = files) files := by
    refine yields.frame ?_ ?_ rfl
    · rintro world call leaves rfl
      cases call with
      | notify message => cases leaves
      | _ => trivial
    · rintro world ⟨call, reply⟩ after leaves rfl step
      cases call <;> first | exact step | cases leaves
  exact framed.weaken (fun _ _ given => given) fun _ _ _ => trivial

/-- Record the samples one after the other. -/
def recordAll (state : CorrelationState) (samples : List (Decimal × Decimal)) (now : Instant) :
    CorrelationState :=
  samples.foldl (fun state sample => recordSample state sample.1 sample.2 now) state

/-- The window gains one live sample, after a backfill if it was empty. -/
def Gains (before : Option CorrelationState) (sample : Decimal × Decimal) (now : Instant)
    (after : CorrelationState) : Prop :=
  ∃ closes, ((before.getD .default).samples ≠ [] → closes = []) ∧
    after = recordSample (recordAll (before.getD .default) closes now) sample.1 sample.2 now

theorem recordAll_eq_steps (run : CorrelationRun) (samples : List (Decimal × Decimal))
    (now : Instant) :
    (samples.map fun sample => CorrelationStep.recordSample sample.1 sample.2 now).foldl
      CorrelationRun.step run = { run with memory := recordAll run.memory samples now } := by
  induction samples generalizing run with
  | nil => rfl
  | cons sample rest ih =>
    rw [List.map_cons, List.foldl_cons, ih]
    rfl

theorem recordAll_baselineCoefficient (state : CorrelationState)
    (samples : List (Decimal × Decimal)) (now : Instant) :
    (recordAll state samples now).baselineCoefficient = state.baselineCoefficient := by
  induction samples generalizing state with
  | nil => rfl
  | cons sample rest ih => exact ih _

namespace Gains

variable {before : Option CorrelationState} {sample : Decimal × Decimal} {now : Instant}
  {after : CorrelationState}

/-- In terms of the steps of a window, a cycle reloads, records and persists. -/
theorem steps {run : CorrelationRun} (gains : Gains run.file sample now after) :
    ∃ closes : List (Decimal × Decimal),
      let records := closes.map fun close => CorrelationStep.recordSample close.1 close.2 now
      ([CorrelationStep.reload] ++ records ++
        [CorrelationStep.recordSample sample.1 sample.2 now, CorrelationStep.persist]).foldl
        CorrelationRun.step run = ⟨after, some after⟩ := by
  obtain ⟨closes, _, rfl⟩ := gains
  refine ⟨closes, ?_⟩
  dsimp only
  rw [List.foldl_append, List.foldl_append, recordAll_eq_steps]
  rfl

theorem baselineCoefficient (gains : Gains before sample now after) :
    after.baselineCoefficient = (before.getD .default).baselineCoefficient := by
  obtain ⟨closes, _, rfl⟩ := gains
  exact recordAll_baselineCoefficient _ closes now

end Gains

section rounds

variable {platform : Platform} {divergence : DivergenceSource} {config : Config}
  {snapshot : BrokerSnapshot} {now : Instant} {files : WindowFiles}

theorem backfillCorrelation_leaves (primary secondary : String) :
    (backfillCorrelation primary secondary).Yields (fun call => call.leavesWindows = true)
      fun _ => True := by
  unfold backfillCorrelation
  simp only [yields_bind, yields_perform]
  refine ⟨rfl, fun reply => ?_⟩
  cases reply with
  | error failure => trivial
  | ok primaryHistory =>
    simp only [yields_bind, yields_perform]
    refine ⟨rfl, fun reply => ?_⟩
    cases reply <;> trivial

theorem seedCorrelation_leaves (primary secondary : String) (state : CorrelationState) :
    (seedCorrelation primary secondary now state).Yields (fun call => call.leavesWindows = true)
      fun seeded => ∃ closes, (state.samples ≠ [] → closes = []) ∧
        seeded = recordAll state closes now := by
  unfold seedCorrelation
  split
  · rename_i empty
    have blank := List.isEmpty_iff.mp empty
    rw [yields_bind]
    apply (backfillCorrelation_leaves primary secondary).weaken
    intro samples _
    cases samples with
    | ok closes => exact ⟨closes, fun filled => absurd blank filled, rfl⟩
    | error failure => exact ⟨[], fun _ => rfl, rfl⟩
  · exact ⟨[], fun _ => rfl, rfl⟩

theorem refreshBuffer_leaves (file : String)
    (update : Option RollingBuffer → Decimal → Instant → RollingBuffer) (price : Decimal) :
    (refreshBuffer file update price now).Yields (fun call => call.leavesWindows = true)
      fun _ => True := by
  unfold refreshBuffer
  simp only [yields_bind, yields_perform, yields_ofExcept, yields_pure]
  exact ⟨rfl, fun _ _ _ => ⟨rfl, fun _ _ _ => trivial⟩⟩

theorem recordCorrelation_meets (primary secondary : String) (primaryPrice secondaryPrice : Decimal) :
    (recordCorrelation platform config primary secondary primaryPrice secondaryPrice now).Meets
      windowContract
      (fun result after =>
        Gains (files.correlations (correlationFile primary secondary))
          (primaryPrice, secondaryPrice) now result.1 ∧
        after = files.putCorrelation (correlationFile primary secondary) result.1)
      (fun _ _ => True) files := by
  unfold recordCorrelation
  simp only [meets_bind, meets_perform, meets_ofExcept]
  refine ⟨trivial, fun reply world step => ⟨?_, fun _ _ => trivial⟩⟩
  intro stored same
  subst same
  obtain ⟨rfl, rfl⟩ := step
  apply (leavesWindows_meets (seedCorrelation_leaves primary secondary _)).weaken _
    fun _ _ _ => trivial
  rintro seeded world ⟨⟨closes, fresh, rfl⟩, rfl⟩
  have gains : Gains (world.correlations (correlationFile primary secondary))
      (primaryPrice, secondaryPrice) now _ := ⟨closes, fresh, rfl⟩
  simp only [meets_bind, meets_perform, meets_ofExcept]
  refine ⟨trivial, fun reply written step => ⟨?_, fun _ _ => trivial⟩⟩
  intro done same
  subst same
  obtain rfl : written = _ := step
  split
  · rename_i shift shifted
    rw [meets_bind, meets_perform]
    refine ⟨⟨_, if_pos rfl, ?_⟩, ?_⟩
    · exact baseline_of_detectRegimeShift shifted
    · rintro _ after rfl
      exact ⟨gains, rfl⟩
  · exact ⟨gains, rfl⟩

theorem recordSpread_meets (primary : String) (spread : Decimal) :
    (recordSpread primary spread now).Meets windowContract
      (fun result after =>
        result.1 = ((files.spreadHistories (spreadHistoryFile primary)).getD .default).record spread
          now ∧
        after = files.putSpreadHistory (spreadHistoryFile primary) result.1)
      (fun _ _ => True) files := by
  unfold recordSpread
  simp only [meets_bind, meets_perform, meets_ofExcept, meets_pure]
  refine ⟨trivial, fun reply world step => ⟨?_, fun _ _ => trivial⟩⟩
  intro stored same
  subst same
  obtain ⟨rfl, rfl⟩ := step
  refine ⟨trivial, fun reply written step => ⟨?_, fun _ _ => trivial⟩⟩
  intro done same
  subst same
  obtain rfl : written = _ := step
  exact ⟨rfl, rfl⟩

variable {pairConfig : PairConfig}

/-- What a round records for its pair-set: one sample in each of its two windows. -/
structure Round (files after : WindowFiles) (snapshot : BrokerSnapshot) (now : Instant)
    (pairConfig : PairConfig) (state : PairCycleState) : Prop where
  ofPair : state.pairConfig = pairConfig
  currentSpread : state.currentSpread = (snapshot.spreads pairConfig.primary).getD 0
  spreadHistory : state.spreadHistory =
    ((files.spreadHistories (spreadHistoryFile pairConfig.primary)).getD .default).record
      state.currentSpread now
  correlation : ∃ window,
    Gains (files.correlations (correlationFile pairConfig.primary pairConfig.secondary))
      (bidOrZero snapshot pairConfig.primary, bidOrZero snapshot pairConfig.secondary) now window ∧
    after = (files.putCorrelation (correlationFile pairConfig.primary pairConfig.secondary)
      window).putSpreadHistory (spreadHistoryFile pairConfig.primary) state.spreadHistory

theorem readPairSet_meets :
    (readPairSet platform divergence config snapshot now pairConfig).Meets windowContract
      (fun reading after => Round files after snapshot now pairConfig reading.state)
      (fun _ _ => True) files := by
  have refreshed (file : String) (update : Option RollingBuffer → Decimal → Instant → RollingBuffer)
      (price : Decimal) {β : Type} (next : RollingBuffer → Cycle β) (post : β → WindowFiles → Prop)
      (rest : ∀ buffer, (next buffer).Meets windowContract post (fun _ _ => True) files) :
      (refreshBuffer file update price now >>= next).Meets windowContract post
        (fun _ _ => True) files := by
    rw [meets_bind]
    apply (leavesWindows_meets (refreshBuffer_leaves file update price)).weaken _ fun _ _ _ => trivial
    rintro buffer after ⟨_, rfl⟩
    exact rest buffer
  unfold readPairSet
  refine refreshed _ _ _ _ _ fun dailyPrimary => ?_
  refine refreshed _ _ _ _ _ fun dailySecondary => ?_
  refine refreshed _ _ _ _ _ fun sessionPrimary => ?_
  refine refreshed _ _ _ _ _ fun sessionSecondary => ?_
  rw [meets_bind]
  apply (recordCorrelation_meets _ _ _ _).weaken _ fun _ _ _ => trivial
  rintro ⟨window, correlationLast⟩ world ⟨gains, rfl⟩
  rw [meets_bind]
  apply (recordSpread_meets _ _).weaken _ fun _ _ _ => trivial
  rintro ⟨history, spreadLast⟩ world ⟨recorded, rfl⟩
  rw [meets_bind, meets_perform]
  refine ⟨trivial, ?_⟩
  rintro _ after rfl
  exact ⟨rfl, rfl, recorded, window, gains, rfl⟩

/-- Each window on file has gained one sample of its own pair-set. -/
structure Sampled (files after : WindowFiles) (snapshot : BrokerSnapshot) (now : Instant)
    (pairConfig : PairConfig) : Prop where
  correlation : ∃ window,
    after.correlations (correlationFile pairConfig.primary pairConfig.secondary) = some window ∧
    Gains (files.correlations (correlationFile pairConfig.primary pairConfig.secondary))
      (bidOrZero snapshot pairConfig.primary, bidOrZero snapshot pairConfig.secondary) now window
  spreadHistory : after.spreadHistories (spreadHistoryFile pairConfig.primary) =
    some (((files.spreadHistories (spreadHistoryFile pairConfig.primary)).getD .default).record
      ((snapshot.spreads pairConfig.primary).getD 0) now)

/-- Two pair-sets that share neither kind of file. -/
def SeparateFiles (first second : PairConfig) : Prop :=
  correlationFile first.primary first.secondary ≠ correlationFile second.primary second.secondary ∧
    spreadHistoryFile first.primary ≠ spreadHistoryFile second.primary

/-- The pair-sets of the rounds so far are recorded, and no other windows are touched. -/
structure SampledSoFar (files after : WindowFiles) (snapshot : BrokerSnapshot) (now : Instant)
    (front : List PairConfig) : Prop where
  recorded : ∀ pairConfig ∈ front, Sampled files after snapshot now pairConfig
  correlations : ∀ file, (∀ pairConfig ∈ front,
    file ≠ correlationFile pairConfig.primary pairConfig.secondary) →
      after.correlations file = files.correlations file
  spreadHistories : ∀ file, (∀ pairConfig ∈ front, file ≠ spreadHistoryFile pairConfig.primary) →
    after.spreadHistories file = files.spreadHistories file

theorem SampledSoFar.round {front : List PairConfig} {world after : WindowFiles}
    {state : PairCycleState} (soFar : SampledSoFar files world snapshot now front)
    (separate : ∀ earlier ∈ front, SeparateFiles earlier pairConfig)
    (round : Round world after snapshot now pairConfig state) :
    SampledSoFar files after snapshot now (front ++ [pairConfig]) := by
  obtain ⟨window, gains, rfl⟩ := round.correlation
  rw [soFar.correlations _ fun earlier member => (separate earlier member).1.symm] at gains
  have history := round.spreadHistory
  rw [soFar.spreadHistories _ fun earlier member => (separate earlier member).2.symm,
    round.currentSpread] at history
  constructor
  · intro other member
    rcases List.mem_append.mp member with earlier | last
    · obtain ⟨apart, apartSpread⟩ := separate other earlier
      obtain ⟨old, onFile, gained⟩ := (soFar.recorded other earlier).correlation
      exact ⟨⟨old, (if_neg apart).trans onFile, gained⟩,
        (if_neg apartSpread).trans (soFar.recorded other earlier).spreadHistory⟩
    · obtain rfl := List.mem_singleton.mp last
      exact ⟨⟨window, if_pos rfl, gains⟩, (if_pos rfl).trans (congrArg some history)⟩
  · intro file other
    have apart := other pairConfig (List.mem_append_right _ List.mem_cons_self)
    exact (if_neg apart).trans
      (soFar.correlations file fun earlier member => other earlier (List.mem_append_left _ member))
  · intro file other
    have apart := other pairConfig (List.mem_append_right _ List.mem_cons_self)
    exact (if_neg apart).trans
      (soFar.spreadHistories file fun earlier member => other earlier (List.mem_append_left _ member))

/-- Where no two pair-sets share a file, the market-state loop adds one sample to each
of their windows, and touches no other. -/
theorem readPairSets_meets (separate : config.pairs.Pairwise SeparateFiles) :
    (readPairSets platform divergence config snapshot now).Meets windowContract
      (fun _ after => SampledSoFar files after snapshot now config.pairs)
      (fun _ _ => True) files := by
  unfold readPairSets
  apply meets_foldlM fun front _ after => SampledSoFar files after snapshot now front
  · intro front pairConfig back readings world same soFar
    rw [meets_bind]
    apply readPairSet_meets.weaken _ fun _ _ given => given
    intro reading after round
    refine soFar.round ?_ round
    intro earlier member
    rw [same] at separate
    exact (List.pairwise_append.mp separate).2.2 earlier member pairConfig List.mem_cons_self
  · exact ⟨List.forall_mem_nil _, fun _ _ => rfl, fun _ _ => rfl⟩

end rounds

end Oboobot.Daemon
