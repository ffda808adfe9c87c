import Oboobot.Daemon.MarketState
import Oboobot.Daemon.OpenPositionLimit
import Oboobot.Daemon.OpenedPositions
import Oboobot.Daemon.PhaseCalls

/-! What remains of the daemon while no divergence is ever resolved: it watches
its stops and targets, keeps its files, and opens nothing. -/

namespace Oboobot.Daemon

open Domain SessionTime Strategy Risk Broker Interaction Daemon.Cycle

/-- Calls of a cycle that acts on no signal. It asks for no equity, sends no order,
and reports a close as one for a stop or a target. -/
def Call.IsDormant : Call → Prop
  | .submitOrder _ | .getAccountEquity => False
  | .appendDecision record =>
    record.outcome ∈ ["spread_rejected", "no_divergence", "position_closed"]
  | .notify message => match message with
    | .openedPosition _ _ _ => False
    | .closedPosition _ reason => reason = .stopLoss ∨ reason = .takeProfit
    | _ => True
  | .observe observation => match observation with
    | .riskDecision _ _ _ _ => False
    | _ => True
  | _ => True

section kinds
variable (call : Call)

theorem isDormant_of_market (market : call.isMarket) : call.IsDormant := by
  cases call with
  | notify message => cases message <;> trivial
  | observe observation => cases observation <;> trivial
  | _ => trivial

theorem isDormant_of_housekeeping (keeps : call.isHousekeeping) : call.IsDormant := by
  cases call <;> trivial

theorem isDormant_of_trueOpen (captures : call.isTrueOpen) : call.IsDormant := by
  cases call with
  | observe observation => cases observation <;> trivial
  | _ => trivial

theorem isDormant_of_reconciling (compares : call.isReconciling) : call.IsDormant := by
  cases call with
  | notify message => cases message <;> trivial
  | observe observation => cases observation <;> trivial
  | _ => trivial

end kinds

variable {platform : Platform} {cli : Cli} {states : List PairCycleState}

theorem evaluateSmt_readings {snapshot : BrokerSnapshot} {readings : List PairReading}
    (read : ∀ reading ∈ readings, ReadFrom asComputed snapshot reading.state) :
    ∀ state ∈ readings.map PairReading.state, evaluateSmt state.divergenceInputs = none ∧
      state.resolvedDivergence = none := by
  intro state member
  obtain ⟨reading, present, rfl⟩ := List.mem_map.mp member
  have unseen := evaluateSmt_asComputed (read reading present)
  refine ⟨unseen, ?_⟩
  rw [(read reading present).resolved, unseen]
  rfl

theorem currentDivergences_unresolved
    (unresolved : ∀ state ∈ states, state.resolvedDivergence = none) :
    currentDivergences states = .ofPairs [] := by
  have empty : states.filterMap PairCycleState.resolvedDivergence = [] :=
    List.filterMap_eq_nil_iff.mpr unresolved
  rw [currentDivergences, empty]

/-- The bid of the position's pair has reached its stop or its target. -/
def ReachedBy (snapshot : BrokerSnapshot) (position : Position) (reason : ExitReason) : Prop :=
  ∃ quote, snapshot.prices position.pair = some quote ∧
    riskRewardExit position quote.bid = some reason

/-- Without a divergence, and without news, only a stop or a target flags a position. -/
theorem flaggedExits_reached (snapshot : BrokerSnapshot) (now : Instant)
    (openPositions : List Position) (unresolved : ∀ state ∈ states, state.resolvedDivergence = none) :
    ∀ exit ∈ flaggedExits snapshot now states openPositions, ∃ position ∈ openPositions,
      position.positionId = exit.positionId ∧ ReachedBy snapshot position exit.reason := by
  intro exit flagged
  obtain ⟨position, member, decided⟩ := List.mem_filterMap.mp flagged
  rw [currentDivergences_unresolved unresolved] at decided
  unfold exitDecision at decided
  obtain ⟨reason, found, rfl⟩ := Option.map_eq_some_iff.mp decided
  have quiet : smtContradictionExit position (.ofPairs []) = none := rfl
  have noNews : shouldExitForNews (NoNewsProvider.upcomingEvents now newsLeadTime) now
      newsLeadTime = false := rfl
  rw [noNews, quiet] at found
  split at found
  · rename_i hit
    cases found
    obtain ⟨price, priced, reached⟩ := Option.bind_eq_some_iff.mp hit
    obtain ⟨quote, quoted, rfl⟩ := Option.map_eq_some_iff.mp priced
    exact ⟨position, member, rfl, quote, quoted, reached⟩
  · cases found

theorem flaggedExits_reason (snapshot : BrokerSnapshot) (now : Instant)
    (openPositions : List Position) (unresolved : ∀ state ∈ states, state.resolvedDivergence = none) :
    ∀ exit ∈ flaggedExits snapshot now states openPositions,
      exit.reason = .stopLoss ∨ exit.reason = .takeProfit := by
  intro exit flagged
  obtain ⟨_, _, _, _, _, reached⟩ :=
    flaggedExits_reached snapshot now openPositions unresolved exit flagged
  exact riskRewardExit_reason reached

theorem exitSweep_dormant (config : Config) (snapshot : BrokerSnapshot) (now : Instant)
    (openPositions : List Position) (unresolved : ∀ state ∈ states, state.resolvedDivergence = none) :
    (exitSweep config snapshot now states openPositions).Yields Call.IsDormant fun _ => True := by
  have closes : ∀ exit ∈ flaggedExits snapshot now states openPositions,
      (closeFlagged config openPositions exit).Yields Call.IsDormant fun _ => True := by
    intro exit flagged
    unfold closeFlagged
    simp only [yields_bind, yields_perform]
    refine ⟨trivial, fun reply => ?_⟩
    cases reply with
    | error failure => trivial
    | ok order =>
      simp only [yields_bind, yields_perform]
      refine ⟨flaggedExits_reason snapshot now openPositions unresolved exit flagged, fun _ => ?_⟩
      refine appendDecision_calls isDormant_of_housekeeping fun record _ label => ?_
      simp [Call.IsDormant, label]
  unfold exitSweep
  rw [yields_bind]
  refine Program.Yields.weaken (yields_foldlM (fun _ _ => True) ?_ () trivial) fun _ _ => ?_
  · intro front exit back _ same _
    exact closes exit (by simp [same])
  · split
    · trivial
    · rw [yields_bind]
      refine (reconcileAndNotify_calls isDormant_of_reconciling openPositions).weaken
        fun positions _ => ?_
      rw [yields_bind]
      exact (appendPositions_calls isDormant_of_reconciling positions).weaken fun _ _ => trivial

theorem evaluatePairSet_dormant (config : Config) (snapshot : BrokerSnapshot) (now : Instant)
    (isTuesday : Bool) (holidays : HolidayProvider) (openPositions : List Position)
    {state : PairCycleState} (unseen : evaluateSmt state.divergenceInputs = none) :
    (evaluatePairSet platform config snapshot now isTuesday holidays openPositions state).Yields
      Call.IsDormant fun _ => True := by
  have recorded (outcome : String) (dormant : outcome = "spread_rejected" ∨ outcome = "no_divergence") :
      (appendDecision state.pairConfig.primary outcome none).Yields Call.IsDormant fun _ => True := by
    refine appendDecision_calls isDormant_of_housekeeping fun record _ label => ?_
    rcases dormant with rfl | rfl <;> simp [Call.IsDormant, label]
  unfold evaluatePairSet
  rw [yields_bind, yields_perform]
  refine ⟨trivial, fun _ => ?_⟩
  dsimp only
  split
  · rw [yields_bind]
    refine (loadOrCaptureBias_calls isDormant_of_trueOpen _ _ _ _ _).weaken fun weeklyBias _ => ?_
    rw [yields_bind]
    refine (loadOrCaptureBias_calls isDormant_of_trueOpen _ _ _ _ _).weaken fun dailyBias _ => ?_
    simp only [yields_bind, yields_perform, generateSignal, unseen]
    exact ⟨trivial, fun _ => ⟨trivial, fun _ => ⟨trivial, fun _ =>
      (recorded _ (.inr rfl)).weaken fun _ _ => trivial⟩⟩⟩
  · rw [yields_bind]
    exact (recorded _ (.inl rfl)).weaken fun _ _ => trivial

theorem considerEntries_dormant (config : Config) (snapshot : BrokerSnapshot) (now : Instant)
    (isTuesday : Bool) (holidays : HolidayProvider) (health : HealthMonitor)
    (openPositions : List Position)
    (unseen : ∀ state ∈ states, evaluateSmt state.divergenceInputs = none) :
    (considerEntries platform cli config snapshot now isTuesday holidays health states
      openPositions).Yields Call.IsDormant fun _ => True := by
  have looped : (entryLoop platform config snapshot now isTuesday holidays openPositions
      states).Yields Call.IsDormant fun _ => True := by
    refine yields_foldlM (fun _ _ => True) ?_ (openPositions, []) trivial
    intro front state back progress same _
    rw [yields_bind]
    exact (evaluatePairSet_dormant config snapshot now isTuesday holidays progress.1
      (unseen state (by simp [same]))).weaken fun _ _ => trivial
  unfold considerEntries
  split
  · exact writeStatus_calls isDormant_of_housekeeping _ _ _ _
  · rw [yields_bind, yields_perform]
    refine ⟨trivial, fun _ => ?_⟩
    split
    · exact writeStatus_calls isDormant_of_housekeeping _ _ _ _
    · split
      · exact writeStatus_calls isDormant_of_housekeeping _ _ _ _
      · rw [yields_bind]
        exact looped.weaken fun _ _ => writeStatus_calls isDormant_of_housekeeping _ _ _ _

theorem tradeOnSnapshot_dormant (config : Config) (snapshot : BrokerSnapshot)
    (health : HealthMonitor) (openPositions : List Position) :
    (tradeOnSnapshot platform asComputed cli config snapshot health openPositions).Yields
      Call.IsDormant fun _ => True := by
  unfold tradeOnSnapshot
  rw [yields_bind, yields_perform]
  refine ⟨trivial, fun now => ?_⟩
  rw [yields_bind]
  refine (hostHealth_calls isDormant_of_housekeeping _ _ _ _).weaken fun health _ => ?_
  rw [yields_bind]
  refine (convertStalenessLimits_yields trivial).weaken fun _ _ => ?_
  rw [yields_bind]
  refine (readPairSets_calls isDormant_of_market config snapshot now).weaken fun readings given => ?_
  have unseen := evaluateSmt_readings given.2
  rw [yields_bind]
  refine (exitSweep_dormant config snapshot now openPositions fun state member =>
    (unseen state member).2).weaken fun positions _ => ?_
  exact considerEntries_dormant config snapshot now _ _ _ positions fun state member =>
    (unseen state member).1

/-- With the divergence read as the source computes it, every invocation is dormant. -/
theorem configuredCycle_dormant (config : Config) :
    (configuredCycle platform asComputed cli config).Yields Call.IsDormant fun _ => True := by
  unfold configuredCycle
  simp only [yields_bind, yields_perform, yields_ofExcept]
  refine ⟨trivial, fun _ records _ => ?_⟩
  refine (reconcileAndNotify_calls isDormant_of_reconciling records).weaken
    fun openPositions _ => ⟨trivial, fun outcome => ?_⟩
  split
  · exact tradeOnSnapshot_dormant config _ _ openPositions
  · simp only [yields_bind, yields_perform]
    exact ⟨trivial, fun _ => writeStatus_calls isDormant_of_housekeeping _ _ _ _⟩

theorem runRealCycle_dormant :
    (runRealCycle platform asComputed cli).Yields Call.IsDormant fun _ => True := by
  refine runRealCycle_meets_of (fun _ => True) trivial ?_ (fun _ _ _ => trivial)
    (fun _ _ => writeStatus_calls isDormant_of_housekeeping _ _ _ _)
    (fun _ _ _ config _ _ _ => configuredCycle_dormant config)
  intro _ call opens _
  refine ⟨?_, fun _ _ _ => trivial⟩
  rcases opens with rfl | rfl | rfl <;> trivial

section closes

/-- The position with this id, as last listed, has reached its stop or its target at
the latest snapshot. -/
def ReachesLevel (ledger : Ledger) (id : Uuid) : Prop :=
  ∃ snapshot, ledger.snapshot = some snapshot ∧ ∃ position ∈ ledger.known,
    position.positionId = id ∧ ∃ reason, ReachedBy snapshot position reason

def CloseAllowed (ledger : Ledger) (call : Call) : Prop :=
  ∀ id, call = .closePosition id → ReachesLevel ledger id

/-- Calls that close nothing. -/
def Call.Spares (call : Call) : Prop := ∀ id, call ≠ .closePosition id

/-- Calls that close nothing and change neither the snapshot nor the known positions. -/
def Call.KeepsSweep (call : Call) : Prop :=
  call.Spares ∧ ∀ (ledger : Ledger) (reply : Reply call),
    (ledger.after ⟨call, reply⟩).snapshot = ledger.snapshot ∧
      (ledger.after ⟨call, reply⟩).known = ledger.known

theorem keepsSweep_of_market (call : Call) (market : call.isMarket) : call.KeepsSweep := by
  refine ⟨?_, fun ledger reply => ?_⟩
  · rintro id rfl
    cases market
  · cases call with
    | observe observation => cases observation <;> first | exact ⟨rfl, rfl⟩ | cases market
    | _ => first | exact ⟨rfl, rfl⟩ | cases market

theorem keepsSweep_of_housekeeping (call : Call) (keeps : call.isHousekeeping) : call.KeepsSweep := by
  refine ⟨?_, fun ledger reply => ?_⟩
  · rintro id rfl
    cases keeps
  · cases call <;> first | exact ⟨rfl, rfl⟩ | cases keeps

theorem keepsSweep_notify (message : Notification) : (Call.notify message).KeepsSweep := by
  refine ⟨?_, fun _ _ => ⟨rfl, rfl⟩⟩
  intro id same
  cases same

theorem keepsSweep_appendDecision (record : DecisionRecord) :
    (Call.appendDecision record).KeepsSweep := by
  refine ⟨?_, fun _ _ => ⟨rfl, rfl⟩⟩
  intro id same
  cases same

theorem spares_of_reconciling (call : Call) (compares : call.isReconciling) : call.Spares := by
  rintro id rfl
  cases compares

theorem spares_of_housekeeping (call : Call) (keeps : call.isHousekeeping) : call.Spares :=
  (keepsSweep_of_housekeeping call keeps).1

theorem spares_of_trueOpen (call : Call) (captures : call.isTrueOpen) : call.Spares := by
  rintro id rfl
  cases captures

theorem spares_of_ordering (call : Call) (orders : call.isOrdering) : call.Spares := by
  rintro id rfl
  cases orders

/-- What a cycle promises about its closes. -/
def closeContract : Contract Call Reply Ledger := monitor Ledger.after CloseAllowed

variable {ledger : Ledger} {config : Config} {snapshot : BrokerSnapshot}
  {openPositions : List Position} {α : Type} {program : Cycle α} {post : α → Prop}

theorem spares_meets (yields : program.Yields Call.Spares fun _ => True) :
    program.Meets closeContract (fun _ _ => True) (fun _ _ => True) ledger := by
  have framed : program.Meets closeContract (fun _ _ => True ∧ True) (fun _ _ => True) ledger :=
    yields.frame (fun _ _ spares _ id same => absurd same (spares id)) (fun _ _ _ _ _ _ => trivial)
      trivial
  exact framed.weaken (fun _ _ _ => trivial) fun _ _ _ => trivial

/-- What the sweep goes by: the snapshot, and the positions last listed. -/
structure Sweepable (ledger : Ledger) (snapshot : BrokerSnapshot) (openPositions : List Position) :
    Prop where
  snapshot : ledger.snapshot = some snapshot
  known : ledger.known = openPositions

theorem keepsSweep_meets (sweepable : Sweepable ledger snapshot openPositions)
    (yields : program.Yields Call.KeepsSweep post) :
    program.Meets closeContract
      (fun value after => post value ∧ Sweepable after snapshot openPositions) (fun _ _ => True)
      ledger := by
  have framed : program.Meets closeContract
      (fun value after => post value ∧ Sweepable after snapshot openPositions)
      (fun _ after => Sweepable after snapshot openPositions) ledger := by
    refine yields.frame (fun _ _ keeps _ id same => absurd same (keeps.1 id)) ?_ sweepable
    rintro world event _ keeps sweepable rfl
    obtain ⟨sameSnapshot, sameKnown⟩ := keeps.2 world event.reply
    exact ⟨sameSnapshot.trans sweepable.snapshot, sameKnown.trans sweepable.known⟩
  exact framed.weaken (fun _ _ given => given) fun _ _ _ => trivial

theorem closeFlagged_closes (sweepable : Sweepable ledger snapshot openPositions)
    {exit : ExitDecision} (reaches : ∃ position ∈ openPositions,
      position.positionId = exit.positionId ∧ ReachedBy snapshot position exit.reason) :
    (closeFlagged config openPositions exit).Meets closeContract
      (fun _ after => Sweepable after snapshot openPositions) (fun _ _ => True) ledger := by
  have reported (pair : String) : Program.Yields (do
      notify (.closedPosition exit.positionId exit.reason)
      appendDecision pair "position_closed" (some exit.reason.debug)) Call.KeepsSweep
      fun _ => True := by
    simp only [yields_bind, yields_perform]
    refine ⟨keepsSweep_notify _, fun _ => ?_⟩
    exact appendDecision_calls keepsSweep_of_housekeeping fun record _ _ =>
      keepsSweep_appendDecision record
  unfold closeFlagged
  rw [meets_bind]
  refine (meets_perform_monitor _).mpr ⟨?_, fun reply => ?_⟩
  · rintro id same
    cases same
    obtain ⟨position, member, named, reached⟩ := reaches
    exact ⟨snapshot, sweepable.snapshot, position, sweepable.known ▸ member, named, _, reached⟩
  · have still : Sweepable (ledger.after ⟨.closePosition exit.positionId, reply⟩) snapshot
        openPositions := ⟨sweepable.snapshot, sweepable.known⟩
    cases reply with
    | error failure => exact still
    | ok order =>
      exact (keepsSweep_meets still (reported _)).weaken (fun _ _ given => given.2)
        fun _ _ _ => trivial

theorem exitSweep_closes (sweepable : Sweepable ledger snapshot openPositions) (now : Instant)
    (unresolved : ∀ state ∈ states, state.resolvedDivergence = none) :
    (exitSweep config snapshot now states openPositions).Meets closeContract (fun _ _ => True)
      (fun _ _ => True) ledger := by
  have looped : ((flaggedExits snapshot now states openPositions).foldlM
      (fun _ exit => closeFlagged config openPositions exit) ()).Meets closeContract
      (fun _ after => Sweepable after snapshot openPositions) (fun _ _ => True) ledger := by
    refine meets_foldlM (fun _ _ world => Sweepable world snapshot openPositions) ?_ () sweepable
    intro front exit back _ world same sweepable
    exact closeFlagged_closes sweepable (flaggedExits_reached snapshot now openPositions unresolved
      exit (by simp [same]))
  unfold exitSweep
  rw [meets_bind]
  refine looped.weaken (fun _ world _ => ?_) fun _ _ _ => trivial
  split
  · trivial
  · refine spares_meets ?_
    rw [yields_bind]
    refine (reconcileAndNotify_calls spares_of_reconciling openPositions).weaken
      fun positions _ => ?_
    rw [yields_bind]
    exact (appendPositions_calls spares_of_reconciling positions).weaken fun _ _ => trivial

theorem tradeOnSnapshot_closes (health : HealthMonitor)
    (sweepable : Sweepable ledger snapshot openPositions) :
    (tradeOnSnapshot platform asComputed cli config snapshot health openPositions).Meets closeContract
      (fun _ _ => True) (fun _ _ => True) ledger := by
  unfold tradeOnSnapshot
  rw [meets_bind]
  refine (meets_perform_monitor _).mpr ⟨nofun, fun now => ?_⟩
  have clocked : Sweepable (ledger.after ⟨.clockNow, now⟩) snapshot openPositions :=
    ⟨sweepable.snapshot, sweepable.known⟩
  rw [meets_bind]
  refine (keepsSweep_meets clocked (hostHealth_calls keepsSweep_of_housekeeping ..)).weaken ?_
    fun _ _ _ => trivial
  rintro health world ⟨_, sweepable⟩
  rw [meets_bind]
  refine (keepsSweep_meets sweepable (convertStalenessLimits_yields
    ⟨nofun, fun _ _ => ⟨rfl, rfl⟩⟩)).weaken ?_ fun _ _ _ => trivial
  rintro _ world ⟨_, sweepable⟩
  rw [meets_bind]
  refine (keepsSweep_meets sweepable (readPairSets_calls keepsSweep_of_market ..)).weaken ?_
    fun _ _ _ => trivial
  rintro readings world ⟨⟨_, read⟩, sweepable⟩
  rw [meets_bind]
  refine (exitSweep_closes sweepable now fun state member =>
    (evaluateSmt_readings read state member).2).weaken ?_ fun _ _ _ => trivial
  intro positions world _
  exact spares_meets (considerEntries_calls spares_of_reconciling spares_of_housekeeping
    spares_of_ordering spares_of_trueOpen (fun _ => nofun) (fun _ => nofun) (fun _ _ => nofun) ..)

/-- A reconciliation leaves the list that it returns as the one known. -/
theorem reconcileAndNotify_known (locallyKnownPositions : List Position) :
    (reconcileAndNotify locallyKnownPositions).Meets closeContract
      (fun positions after => after.known = positions) (fun _ _ => True) ledger := by
  have noted (positions : List Position) (world : Ledger) : Program.Meets closeContract (do
      observe (.reconciled positions)
      return positions : Cycle (List Position)) (fun positions after => after.known = positions)
      (fun _ _ => True) world := by
    rw [meets_bind]
    exact (meets_perform_monitor _).mpr ⟨nofun, fun _ => rfl⟩
  unfold reconcileAndNotify
  rw [meets_bind]
  refine (meets_perform_monitor _).mpr ⟨nofun, fun reply => ?_⟩
  rw [meets_bind, meets_ofExcept]
  refine ⟨fun brokerPositions _ => ?_, fun _ _ => trivial⟩
  dsimp only
  split
  · exact noted _ _
  · rw [meets_bind]
    exact (meets_perform_monitor _).mpr ⟨nofun, fun _ => noted _ _⟩

theorem writeStatus_closes (health : HealthMonitor) (lastDecision : Option String) (paused : Bool) :
    (writeStatus openPositions health lastDecision paused).Meets closeContract (fun _ _ => True)
      (fun _ _ => True) ledger :=
  spares_meets (writeStatus_calls spares_of_housekeeping ..)

theorem configuredCycle_closes : (configuredCycle platform asComputed cli config).Meets
    closeContract (fun _ _ => True) (fun _ _ => True) ledger := by
  unfold configuredCycle
  rw [meets_bind]
  refine (meets_perform_monitor _).mpr ⟨nofun, fun reply => ?_⟩
  rw [meets_bind, meets_ofExcept]
  refine ⟨fun records _ => ?_, fun _ _ => trivial⟩
  rw [meets_bind]
  refine (reconcileAndNotify_known records).weaken ?_ fun _ _ _ => trivial
  intro openPositions reconciled known
  rw [meets_bind]
  refine (meets_perform_monitor _).mpr ⟨nofun, fun outcome => ?_⟩
  rcases outcome with _ | failure | snapshot
  · rw [checkBrokerHeartbeat, meets_bind]
    exact (meets_perform_monitor _).mpr ⟨nofun, fun _ => writeStatus_closes _ _ _⟩
  · rw [checkBrokerHeartbeat, meets_bind]
    exact (meets_perform_monitor _).mpr ⟨nofun, fun _ => writeStatus_closes _ _ _⟩
  · exact tradeOnSnapshot_closes _ ⟨rfl, known⟩

/-- Whatever was known before, an invocation of the code as it stands closes only
what has reached its stop or its target. -/
theorem runRealCycle_closes : (runRealCycle platform asComputed cli).Meets closeContract
    (fun _ _ => True) (fun _ _ => True) ledger := by
  refine runRealCycle_meets_of (fun _ => True) trivial ?_ (fun _ _ _ => trivial)
    (fun _ _ => writeStatus_closes _ _ _) (fun _ _ _ _ _ _ _ => configuredCycle_closes)
  intro ledger call opens _
  refine ⟨?_, fun _ _ _ => trivial⟩
  rintro id rfl
  simp at opens

end closes

/-- The ids open at the broker, and everything the invocations have done so far. -/
structure DormantWorld where
  book : Finset Uuid
  log : List CycleEvent

/-- The book as under `BookStep`, next to the log. -/
def dormantContract (limit : Nat) : Contract Call Reply DormantWorld where
  step world event after := BookStep limit world.book event after.book ∧
    after.log = world.log ++ [event]
  promise world call := call.IsDormant ∧ CloseAllowed (Ledger.ofEvents world.log) call

/-- The states of sequential invocations of the code as it stands. -/
def DormantReachable (limit : Nat) (initial : Finset Uuid) :
    Option (Cycle Unit) → DormantWorld → Prop :=
  Reachable (dormantContract limit)
    (fun program => ∃ platform cli, program = runRealCycle platform asComputed cli)
    (fun world after => after.book ⊆ world.book ∧ after.log = world.log)
    (fun world => world.book = initial ∧ world.log = [])

/-- Nothing but watching has been done: no id has joined the book, and a close was
only asked for where the position had reached its stop or its target. -/
structure OnlyWatched (initial : Finset Uuid) (world : DormantWorld) : Prop where
  book : world.book ⊆ initial
  log : ∀ event ∈ world.log, event.call.IsDormant
  closes : ∀ before id reply back, world.log = before ++ ⟨.closePosition id, reply⟩ :: back →
    ReachesLevel (Ledger.ofEvents before) id

theorem runRealCycle_onlyWatches {limit : Nat} (world : DormantWorld) :
    (runRealCycle platform asComputed cli).Meets (dormantContract limit) (fun _ _ => True)
      (fun _ _ => True) world := by
  let closing : Contract Call Reply DormantWorld :=
    { dormantContract limit with
      promise := fun world call => CloseAllowed (Ledger.ofEvents world.log) call }
  let related (ledger : Ledger) (world : DormantWorld) : Prop := ledger = Ledger.ofEvents world.log
  have promises : ∀ ledger world call, related ledger world → CloseAllowed ledger call →
      closing.promise world call := by
    rintro _ world call rfl allowed
    exact allowed
  have steps : ∀ ledger world event next, related ledger world → CloseAllowed ledger event.call →
      closing.step world event next → related (ledger.after event) next := by
    rintro _ world event next rfl _ ⟨_, logged⟩
    exact (logged ▸ Ledger.ofEvents_append_singleton world.log event).symm
  have closes : (runRealCycle platform asComputed cli).Meets closing (fun _ _ => True)
      (fun _ _ => True) world :=
    runRealCycle_closes.simulated promises steps (show related _ _ from rfl)
  exact closes.restricted runRealCycle_dormant

/-- However often the daemon is invoked, killed and invoked again, it only watches. -/
theorem onlyWatched_of_reachable {limit : Nat} {initial : Finset Uuid}
    {running : Option (Cycle Unit)} {world : DormantWorld}
    (reached : DormantReachable limit initial running world) : OnlyWatched initial world := by
  have initially : ∀ world : DormantWorld, world.book = initial ∧ world.log = [] →
      OnlyWatched initial world := by
    rintro world ⟨rfl, empty⟩
    exact ⟨subset_rfl, by simp [empty], fun _ _ _ _ same => by simp [empty] at same⟩
  refine (Reachable.invariant initially ?_ ?_ ?_ reached).1
  · rintro program world ⟨platform, cli, rfl⟩ _
    exact runRealCycle_onlyWatches world
  · rintro world event after watched ⟨dormant, allowed⟩ ⟨step, logged⟩
    have quiet : ∀ request, event.call ≠ .submitOrder request := by
      intro request sends
      rw [sends] at dormant
      exact dormant
    refine ⟨(step.subset quiet).trans watched.book, ?_, ?_⟩
    · rw [logged]
      intro other member
      rcases List.mem_append.mp member with earlier | last
      · exact watched.log other earlier
      · exact List.mem_singleton.mp last ▸ dormant
    · rw [logged]
      intro before id reply back same
      rcases List.eq_nil_or_concat' back with rfl | ⟨front, last, rfl⟩
      · obtain ⟨earlier, now⟩ := List.append_inj' same rfl
        cases now
        exact earlier ▸ allowed id rfl
      · have shape : world.log ++ [event] =
            (before ++ ⟨.closePosition id, reply⟩ :: front) ++ [last] := by simpa using same
        exact watched.closes before id reply front (List.append_inj' shape rfl).1
  · rintro world after watched ⟨smaller, same⟩
    exact ⟨smaller.trans watched.book, same ▸ watched.log, same ▸ watched.closes⟩

/-- The reply of a host, with the event added to its log. -/
def answerLogged (world : Host × List CycleEvent) (call : Call) :
    Reply call × Host × List CycleEvent :=
  let (reply, host) := world.1.answer call
  (reply, host, world.2 ++ [⟨call, reply⟩])

def dormantView (world : Host × List CycleEvent) : DormantWorld where
  book := world.1.bookIds
  log := world.2

theorem answerLogged_step {limit : Nat} (world : Host × List CycleEvent) (call : Call)
    (allows : world.1.Allows limit) :
    (dormantContract limit).step (dormantView world) ⟨call, (answerLogged world call).1⟩
      (dormantView (answerLogged world call).2) ∧ (answerLogged world call).2.1.Allows limit := by
  obtain ⟨step, still⟩ := world.1.answer_bookStep call allows
  exact ⟨⟨step, rfl⟩, still⟩

/-- EURUSD alone has swept its ranges, and a position on GBPUSD is below its stop. -/
def stoppedHost : Host :=
  { sweptHost with book := [boughtPosition 7 "GBPUSD" 1.27 100 wednesdayMorning (some 1.255)] }

/-- The stopped position is closed, and nothing else happens. -/
theorem stoppedHost_onlyWatched :
    let after := ((runRealCycle .winter asComputed ⟨false⟩).play answerLogged (stoppedHost, [])).2.2
    after.1.bookIds.card = 0 ∧ stoppedHost.bookIds.card = 1 ∧
      OnlyWatched stoppedHost.bookIds (dormantView after) := by
  intro after
  have allows : stoppedHost.Allows 5 := by
    intro config loaded
    have default : Config.load stoppedHost.configFile = .ok .default := by decide +kernel
    cases default.symm.trans loaded
    exact Nat.le_refl 5
  have launched : DormantReachable 5 stoppedHost.bookIds
      (some (runRealCycle .winter asComputed ⟨false⟩)) (dormantView (stoppedHost, [])) :=
    .launch (.start ⟨rfl, rfl⟩) ⟨_, _, rfl⟩
  have reached : DormantReachable 5 stoppedHost.bookIds none (dormantView after) :=
    (Reachable.played answerLogged_step allows launched).1
  exact ⟨by decide +kernel, by decide +kernel, onlyWatched_of_reachable reached⟩

end Oboobot.Daemon
