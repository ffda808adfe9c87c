import Oboobot.Interaction.Mirror
import Oboobot.Risk.Scaling
import Oboobot.Daemon.PhaseCalls
import Oboobot.Daemon.Host
import Oboobot.Daemon.Ledger
import Mathlib.Algebra.BigOperators.Ring.List

/-! The daemon on an account of another size: with the equity and every open position
multiplied, it does the same, with orders multiplied alike. -/

namespace Oboobot.Daemon

open Domain SessionTime Strategy Risk Broker Interaction Daemon.Cycle

variable (factor : Decimal)

def scaledLeg (leg : FillLeg) : FillLeg := { leg with size := factor * leg.size }

def scaledPosition (position : Position) : Position :=
  { position with
    legs := position.legs.map (scaledLeg factor)
    unrealizedPnl := factor * position.unrealizedPnl
    realizedPnl := factor * position.realizedPnl }

def scaledPositions (positions : List Position) : List Position :=
  positions.map (scaledPosition factor)

def scaledRequest (request : OrderRequest) : OrderRequest :=
  { request with size := factor * request.size }

def scaledOrder (order : Order) : Order :=
  { order with size := factor * order.size, filledSize := factor * order.filledSize }

def scaledNotification : Notification → Notification
  | .openedPosition direction pair size => .openedPosition direction pair (factor * size)
  | message => message

def scaledObservation : Observation → Observation
  | .reconciled openPositions => .reconciled (scaledPositions factor openPositions)
  | .riskDecision signal config context decision =>
    .riskDecision signal config (context.scaled factor) (scaledDecision factor decision)
  | observation => observation

def scaledCall : Call → Call
  | .appendPosition position => .appendPosition (scaledPosition factor position)
  | .submitOrder request => .submitOrder (scaledRequest factor request)
  | .notify message => .notify (scaledNotification factor message)
  | .observe observation => .observe (scaledObservation factor observation)
  | call => call

def scaledReply : (call : Call) → Reply call → Reply (scaledCall factor call)
  | .readPositions, reply => reply.map (scaledPositions factor)
  | .listOpenPositions, reply => reply.map (scaledPositions factor)
  | .closePosition _, reply => reply.map (scaledOrder factor)
  | .submitOrder _, reply => reply.map (scaledOrder factor)
  | .getAccountEquity, reply => reply.map (scaledUsd factor)
  | .createStateDir, reply => reply
  | .pausedFileExists, reply => reply
  | .readConfigFile, reply => reply
  | .appendPosition _, reply => reply
  | .appendDecision _, reply => reply
  | .readBuffer _, reply => reply
  | .writeBuffer _ _, reply => reply
  | .readCorrelation _, reply => reply
  | .writeCorrelation _ _, reply => reply
  | .readSpreadHistory _, reply => reply
  | .writeSpreadHistory _ _, reply => reply
  | .readTrueOpen _, reply => reply
  | .writeTrueOpen _ _, reply => reply
  | .writeStatus _, reply => reply
  | .getSnapshot _, reply => reply
  | .fetchHistoricalPrices _ _, reply => reply
  | .clockNow, reply => reply
  | .utcNow, reply => reply
  | .newUuid, reply => reply
  | .availableDiskMb, reply => reply
  | .residentMemoryMb, reply => reply
  | .notify _, reply => reply
  | .observe _, reply => reply

/-- Amounts of money and sizes multiplied; prices, times and all else as they are. -/
def scaling : Mirror Call Reply where
  onCall := scaledCall factor
  onReply := scaledReply factor

variable {factor}

/-- Calls in which no amount of money occurs. -/
def Call.isUnscaled : Call → Bool
  | .appendPosition _ | .submitOrder _ | .readPositions | .listOpenPositions => false
  | .closePosition _ | .getAccountEquity => false
  | .notify message => match message with
    | .openedPosition _ _ _ => false
    | _ => true
  | .observe observation => match observation with
    | .reconciled _ | .riskDecision _ _ _ _ => false
    | _ => true
  | _ => true

theorem scaling_fixes {call : Call} (unscaled : call.isUnscaled = true) :
    (scaling factor).Fixes call := by
  cases call with
  | appendPosition position => cases unscaled
  | submitOrder request => cases unscaled
  | readPositions => cases unscaled
  | listOpenPositions => cases unscaled
  | closePosition id => cases unscaled
  | getAccountEquity => cases unscaled
  | notify message =>
    cases message with
    | openedPosition direction pair size => cases unscaled
    | _ => exact ⟨rfl, fun _ => rfl⟩
  | observe observation =>
    cases observation with
    | reconciled openPositions => cases unscaled
    | riskDecision signal config context decision => cases unscaled
    | _ => exact ⟨rfl, fun _ => rfl⟩
  | _ => exact ⟨rfl, fun _ => rfl⟩

/-- A phase in which no amount of money occurs does the same on both accounts. -/
theorem mirrored_unscaled {α : Type} {program : Cycle α} {post : α → Prop}
    (yields : program.Yields (fun call => (scaling factor).Fixes call) post) :
    (scaling factor).Mirrored (fun value value' => value' = value ∧ post value) program program :=
  Mirror.mirrored_of_fixes yields

section positions
variable (positions : List Position)

theorem positionIds_scaled :
    positionIds (scaledPositions factor positions) = positionIds positions := by
  simp [positionIds, scaledPositions, scaledPosition, Function.comp_def]

theorem scaledPositions_filter (ids : List Uuid) :
    (scaledPositions factor positions).filter (fun position => position.positionId ∈ ids) =
      scaledPositions factor (positions.filter fun position => position.positionId ∈ ids) := by
  rw [scaledPositions, List.filter_map]
  rfl

theorem scaledPositions_filter_not (ids : List Uuid) :
    (scaledPositions factor positions).filter (fun position => position.positionId ∉ ids) =
      scaledPositions factor (positions.filter fun position => position.positionId ∉ ids) := by
  rw [scaledPositions, List.filter_map]
  rfl

def scaledReport (factor : Decimal) (report : ReconciliationReport) : ReconciliationReport where
  orphanedLocally := scaledPositions factor report.orphanedLocally
  unknownToLocal := scaledPositions factor report.unknownToLocal
  confirmed := scaledPositions factor report.confirmed

theorem reconcile_scaled (brokerPositions : List Position) :
    reconcile (scaledPositions factor brokerPositions) (scaledPositions factor positions) =
      scaledReport factor (reconcile brokerPositions positions) := by
  simp only [reconcile, positionIds_scaled, scaledPositions_filter, scaledPositions_filter_not]
  rfl

theorem isClean_scaledReport (report : ReconciliationReport) :
    (scaledReport factor report).isClean = report.isClean := by
  simp [ReconciliationReport.isClean, scaledReport, scaledPositions]

theorem applyReconciliation_scaled (report : ReconciliationReport) :
    applyReconciliation (scaledReport factor report) =
      scaledPositions factor (applyReconciliation report) :=
  List.map_append.symm

theorem flaggedExits_scaled (snapshot : BrokerSnapshot) (now : Instant)
    (states : List PairCycleState) :
    flaggedExits snapshot now states (scaledPositions factor positions) =
      flaggedExits snapshot now states positions := by
  simp only [flaggedExits, evaluateExits, scaledPositions, List.filterMap_map]
  rfl

theorem alreadyEntered_scaled (pair : String) (now : Instant) :
    alreadyEnteredThisCycle pair (scaledPositions factor positions) now =
      alreadyEnteredThisCycle pair positions now := by
  simp only [alreadyEnteredThisCycle, scaledPositions, List.any_map]
  rfl

theorem scaledPosition_size (factor : Decimal) (position : Position) :
    (scaledPosition factor position).size = factor * position.size := by
  simp only [Position.size, scaledPosition, List.map_map]
  exact List.sum_map_mul_left _ FillLeg.size factor

theorem addAt_scaled (exposure : BTreeMap Decimal) (currency : String) (amount : Decimal) :
    (scaledMap factor exposure).addAt currency (factor * amount) =
      scaledMap factor (exposure.addAt currency amount) := by
  funext other
  unfold BTreeMap.addAt BTreeMap.insert
  rw [scaledMap_getD, ← mul_add]
  by_cases same : other = currency
  · simp [scaledMap, same]
  · simp [scaledMap, same]

theorem addExposure_scaled (exposure : BTreeMap Decimal) (position : Position) :
    addExposure (scaledMap factor exposure) (scaledPosition factor position) =
      scaledMap factor (addExposure exposure position) := by
  have size := scaledPosition_size factor position
  unfold addExposure
  rw [show (scaledPosition factor position).pair = position.pair from rfl,
    show (scaledPosition factor position).direction = position.direction from rfl, size]
  cases currencyPair position.pair with
  | none => rfl
  | some symbols =>
    simp only [mul_left_comm _ factor, addAt_scaled]

theorem currencyExposureSnapshot_scaled :
    currencyExposureSnapshot (scaledPositions factor positions) =
      scaledMap factor (currencyExposureSnapshot positions) := by
  have from' (exposure : BTreeMap Decimal) :
      (scaledPositions factor positions).foldl addExposure (scaledMap factor exposure) =
        scaledMap factor (positions.foldl addExposure exposure) := by
    induction positions generalizing exposure with
    | nil => rfl
    | cons position rest ih =>
      rw [scaledPositions, List.map_cons, List.foldl_cons, List.foldl_cons, addExposure_scaled]
      exact ih _
  exact from' .empty

theorem correlatedExposure_scaled (config : Config) (state : PairCycleState)
    (signal : TradeSignal) :
    correlatedExposure config state (scaledPositions factor positions) signal =
      factor * correlatedExposure config state positions signal := by
  unfold correlatedExposure
  split
  · have other : (scaledPositions factor positions).filter
        (fun position => position.pair = otherPair state signal) =
          scaledPositions factor (positions.filter
            fun position => position.pair = otherPair state signal) := by
      rw [scaledPositions, List.filter_map]
      rfl
    rw [other, scaledPositions, List.map_map, ← List.sum_map_mul_left]
    exact congrArg List.sum (List.map_congr_left fun position _ => scaledPosition_size factor position)
  · rw [mul_zero]

theorem riskContext_scaled (config : Config) (snapshot : BrokerSnapshot) (isTuesday : Bool)
    (state : PairCycleState) (signal : TradeSignal) (equity : Usd) :
    riskContext config snapshot isTuesday state (scaledPositions factor positions) signal
        (scaledUsd factor equity) =
      (riskContext config snapshot isTuesday state positions signal equity).scaled factor := by
  have nothing : scaledUsd factor .zero = .zero := by
    simp [scaledUsd, Usd.zero, Usd.fromDecimal, Usd.asDecimal]
  simp only [riskContext, RiskContext.scaled, currencyExposureSnapshot_scaled,
    correlatedExposure_scaled, nothing]
  simp [scaledPositions]

end positions

section phases
variable {platform : Platform} {divergence : DivergenceSource} (openPositions : List Position)

/-- What corresponds to the positions that a phase returns. -/
abbrev SameScaled (factor : Decimal) (positions positions' : List Position) : Prop :=
  positions' = scaledPositions factor positions

theorem perform_mirrored (call : Call) :
    (scaling factor).Mirrored (fun reply reply' => reply' = scaledReply factor call reply)
      (perform call) (perform (scaledCall factor call)) :=
  Mirror.mirrored_perform call

theorem perform_unscaled (call : Call) (unscaled : call.isUnscaled = true) :
    (scaling factor).Mirrored (fun reply reply' => reply' = reply) (perform call)
      (perform call) := by
  have fixed : (perform call : Cycle _).Yields (fun call => (scaling factor).Fixes call)
      fun _ => True :=
    (yields_perform call).mpr ⟨scaling_fixes unscaled, fun _ => trivial⟩
  exact (mirrored_unscaled fixed).weaken fun _ _ same => same.1

theorem fixes_of_housekeeping (call : Call) (keeps : call.isHousekeeping) :
    (scaling factor).Fixes call := by
  refine scaling_fixes ?_
  cases call <;> first | rfl | cases keeps

theorem fixes_of_trueOpen (call : Call) (captures : call.isTrueOpen) :
    (scaling factor).Fixes call := by
  refine scaling_fixes ?_
  cases call with
  | observe observation => cases observation <;> first | rfl | cases captures
  | _ => first | rfl | cases captures

theorem fixes_of_market (call : Call) (market : call.isMarket) : (scaling factor).Fixes call := by
  refine scaling_fixes ?_
  cases call with
  | notify message => cases message <;> first | rfl | cases market
  | observe observation => cases observation <;> first | rfl | cases market
  | _ => first | rfl | cases market

theorem appendDecision_mirrored (pair outcome : String) (detail : Option String) :
    (scaling factor).Mirrored (fun _ _ => True) (appendDecision pair outcome detail)
      (appendDecision pair outcome detail) :=
  (mirrored_unscaled (appendDecision_calls fixes_of_housekeeping
    fun _ _ _ => scaling_fixes rfl)).weaken fun _ _ _ => trivial

theorem writeStatus_mirrored (health : HealthMonitor) (lastDecision : Option String)
    (paused : Bool) :
    (scaling factor).Mirrored (fun _ _ => True)
      (writeStatus openPositions health lastDecision paused)
      (writeStatus (scaledPositions factor openPositions) health lastDecision paused) := by
  have same : writeStatus (scaledPositions factor openPositions) health lastDecision paused =
      writeStatus openPositions health lastDecision paused := by
    unfold writeStatus
    rw [show (scaledPositions factor openPositions).length = openPositions.length from
      List.length_map _]
  rw [same]
  exact (mirrored_unscaled (writeStatus_calls fixes_of_housekeeping _ _ _ _)).weaken
    fun _ _ _ => trivial

theorem appendPositions_mirrored :
    (scaling factor).Mirrored (fun _ _ => True) (appendPositions openPositions)
      (appendPositions (scaledPositions factor openPositions)) := by
  have listed : List.Forall₂ (fun position position' => position' = scaledPosition factor position)
      openPositions (scaledPositions factor openPositions) :=
    List.forall₂_map_right_iff.mpr (List.forall₂_same.mpr fun _ _ => rfl)
  refine Mirror.Mirrored.foldlM listed (fun _ _ position position' _ corresponds => ?_) trivial
  subst corresponds
  refine (perform_mirrored (.appendPosition position)).bind ?_
  intro reply reply' same
  cases same
  cases reply with
  | error failure => exact .fail _
  | ok done => exact .done trivial

theorem reconcileAndNotify_mirrored :
    (scaling factor).Mirrored (SameScaled factor) (reconcileAndNotify openPositions)
      (reconcileAndNotify (scaledPositions factor openPositions)) := by
  unfold reconcileAndNotify
  refine (perform_mirrored .listOpenPositions).bind fun reply reply' same => ?_
  subst same
  refine (Mirror.mirrored_ofExcept (scaledPositions factor) reply).bind
    fun listing listing' same => ?_
  subst same
  rw [reconcile_scaled]
  have noted : (scaling factor).Mirrored (SameScaled factor) (do
        observe (.reconciled (applyReconciliation (reconcile listing openPositions)))
        return applyReconciliation (reconcile listing openPositions) : Cycle (List Position)) (do
        observe (.reconciled (applyReconciliation
          (scaledReport factor (reconcile listing openPositions))))
        return applyReconciliation (scaledReport factor (reconcile listing openPositions))) := by
    rw [applyReconciliation_scaled]
    exact (perform_mirrored (.observe (.reconciled _))).bind fun _ _ _ => .done rfl
  dsimp only
  rw [isClean_scaledReport, show (scaledReport factor (reconcile listing
      openPositions)).orphanedLocally.length = (reconcile listing openPositions).orphanedLocally.length
      from List.length_map _, show (scaledReport factor (reconcile listing
      openPositions)).unknownToLocal.length = (reconcile listing openPositions).unknownToLocal.length
      from List.length_map _]
  split
  · exact noted
  · exact (perform_mirrored (.notify (.reconciliationMismatch _ _))).bind fun _ _ _ => noted

theorem closeFlagged_mirrored (config : Config) (exit : ExitDecision) :
    (scaling factor).Mirrored (fun _ _ => True) (closeFlagged config openPositions exit)
      (closeFlagged config (scaledPositions factor openPositions) exit) := by
  have closed : ((scaledPositions factor openPositions).find? fun position =>
      position.positionId = exit.positionId).map Position.pair =
        (openPositions.find? fun position => position.positionId = exit.positionId).map
          Position.pair := by
    rw [scaledPositions, List.find?_map, Option.map_map]
    rfl
  refine (perform_mirrored (.closePosition exit.positionId)).bind ?_
  intro reply reply' same
  subst same
  cases reply with
  | error failure => exact .done trivial
  | ok order =>
    refine (perform_mirrored (.notify (.closedPosition exit.positionId exit.reason))).bind ?_
    intro _ _ _
    dsimp only
    rw [closed]
    exact appendDecision_mirrored ..

theorem exitSweep_mirrored (config : Config) (snapshot : BrokerSnapshot) (now : Instant)
    (states : List PairCycleState) :
    (scaling factor).Mirrored (SameScaled factor)
      (exitSweep config snapshot now states openPositions)
      (exitSweep config snapshot now states (scaledPositions factor openPositions)) := by
  unfold exitSweep
  rw [flaggedExits_scaled]
  have closed (exits : List ExitDecision) : (scaling factor).Mirrored (fun _ _ => True)
      (exits.foldlM (fun _ exit => closeFlagged config openPositions exit) ())
      (exits.foldlM (fun _ exit => closeFlagged config (scaledPositions factor openPositions) exit)
        ()) :=
    .foldlM (List.forall₂_same.mpr fun _ _ => rfl)
      (fun _ _ exit _ _ same => same ▸ closeFlagged_mirrored openPositions config exit) trivial
  refine (closed _).bind fun _ _ _ => ?_
  split
  · exact .done rfl
  · refine (reconcileAndNotify_mirrored openPositions).bind fun reconciled _ same => ?_
    subst same
    exact (appendPositions_mirrored reconciled).bind fun _ _ _ => .done rfl

/-- What corresponds to the positions and the label that a phase returns. -/
abbrev SameProgress (factor : Decimal) {Label : Type}
    (progress progress' : List Position × Label) : Prop :=
  progress' = (scaledPositions factor progress.1, progress.2)

theorem submitApproved_mirrored (snapshot : BrokerSnapshot) (signal : TradeSignal)
    (decision : RiskDecision) :
    (scaling factor).Mirrored (SameProgress factor)
      (submitApproved snapshot openPositions signal decision)
      (submitApproved snapshot (scaledPositions factor openPositions) signal
        (scaledDecision factor decision)) := by
  refine (perform_unscaled .newUuid rfl).bind fun orderId _ same => ?_
  subst same
  refine (perform_mirrored (.submitOrder _)).bind fun reply _ same => ?_
  subst same
  refine (Mirror.mirrored_ofExcept (scaledOrder factor) reply).bind fun _ _ _ => ?_
  refine (perform_mirrored (.notify (.openedPosition _ _ _))).bind fun _ _ _ => ?_
  refine (reconcileAndNotify_mirrored openPositions).bind fun reconciled _ same => ?_
  subst same
  refine (appendPositions_mirrored reconciled).bind fun _ _ _ => ?_
  exact (appendDecision_mirrored ..).bind fun _ _ _ => .done rfl

theorem sizeAndSubmit_mirrored (positive : 0 < factor) (config : Config)
    (snapshot : BrokerSnapshot) (isTuesday : Bool) (state : PairCycleState)
    (signal : TradeSignal) :
    (scaling factor).Mirrored (SameProgress factor)
      (sizeAndSubmit platform config snapshot isTuesday state openPositions signal)
      (sizeAndSubmit platform config snapshot isTuesday state (scaledPositions factor openPositions)
        signal) := by
  refine (perform_mirrored .getAccountEquity).bind fun reply _ same => ?_
  subst same
  refine (Mirror.mirrored_ofExcept (scaledUsd factor) reply).bind fun equity _ same => ?_
  subst same
  dsimp only
  rw [riskContext_scaled]
  refine (perform_unscaled .newUuid rfl).bind fun decisionId _ same => ?_
  subst same
  rw [evaluate_scaled _ _ _ positive]
  refine (Mirror.mirrored_ofExcept (scaledDecision factor) _).bind fun decision _ same => ?_
  subst same
  refine (perform_mirrored (.observe (.riskDecision _ _ _ _))).bind fun _ _ _ => ?_
  rw [show (scaledDecision factor decision).approved = decision.approved from rfl]
  split
  · exact submitApproved_mirrored openPositions snapshot signal decision
  · exact (appendDecision_mirrored ..).bind fun _ _ _ => .done rfl

theorem loadOrCaptureBias_mirrored (timeframe : Timeframe) (symbol : String) (price : Decimal)
    (now : Instant) (holidays : HolidayProvider) :
    (scaling factor).Mirrored (fun bias bias' => bias' = bias)
      (loadOrCaptureBias platform timeframe symbol price now holidays)
      (loadOrCaptureBias platform timeframe symbol price now holidays) :=
  (mirrored_unscaled (loadOrCaptureBias_calls fixes_of_trueOpen ..)).weaken
    fun _ _ same => same.1

theorem evaluatePairSet_mirrored (positive : 0 < factor) (config : Config)
    (snapshot : BrokerSnapshot) (now : Instant) (isTuesday : Bool) (holidays : HolidayProvider)
    (state : PairCycleState) :
    (scaling factor).Mirrored (SameProgress factor)
      (evaluatePairSet platform config snapshot now isTuesday holidays openPositions state)
      (evaluatePairSet platform config snapshot now isTuesday holidays
        (scaledPositions factor openPositions) state) := by
  have labelled (pair outcome : String) (detail : Option String) :
      (scaling factor).Mirrored (SameProgress factor) (do
          appendDecision pair outcome detail
          return (openPositions, outcome) : Cycle (List Position × String)) (do
          appendDecision pair outcome detail
          return (scaledPositions factor openPositions, outcome)) :=
    (appendDecision_mirrored pair outcome detail).bind fun _ _ _ => .done rfl
  unfold evaluatePairSet
  refine (perform_mirrored (.observe (.evaluating state))).bind fun _ _ _ => ?_
  dsimp only
  split
  · refine (loadOrCaptureBias_mirrored ..).bind fun weeklyBias _ same => ?_
    subst same
    refine (loadOrCaptureBias_mirrored ..).bind fun dailyBias _ same => ?_
    subst same
    refine (perform_unscaled .newUuid rfl).bind fun traceId _ same => ?_
    subst same
    refine (perform_unscaled .newUuid rfl).bind fun signalId _ same => ?_
    subst same
    refine (perform_unscaled .utcNow rfl).bind fun timestamp _ same => ?_
    subst same
    split
    · exact labelled ..
    · exact labelled ..
    · rw [alreadyEntered_scaled]
      split
      · exact labelled ..
      · exact sizeAndSubmit_mirrored openPositions positive config snapshot isTuesday state _
  · exact labelled ..

theorem entryLoop_mirrored (positive : 0 < factor) (config : Config) (snapshot : BrokerSnapshot)
    (now : Instant) (isTuesday : Bool) (holidays : HolidayProvider)
    (states : List PairCycleState) :
    (scaling factor).Mirrored (SameProgress factor)
      (entryLoop platform config snapshot now isTuesday holidays openPositions states)
      (entryLoop platform config snapshot now isTuesday holidays
        (scaledPositions factor openPositions) states) := by
  refine .foldlM (List.forall₂_same.mpr fun _ _ => rfl) (fun progress _ state _ same listed => ?_) rfl
  subst same listed
  refine (evaluatePairSet_mirrored progress.1 positive ..).bind fun evaluated _ same => ?_
  subst same
  exact .done rfl

theorem considerEntries_mirrored (positive : 0 < factor) (cli : Cli) (config : Config)
    (snapshot : BrokerSnapshot) (now : Instant) (isTuesday : Bool) (holidays : HolidayProvider)
    (health : HealthMonitor) (states : List PairCycleState) :
    (scaling factor).Mirrored (fun _ _ => True)
      (considerEntries platform cli config snapshot now isTuesday holidays health states
        openPositions)
      (considerEntries platform cli config snapshot now isTuesday holidays health states
        (scaledPositions factor openPositions)) := by
  unfold considerEntries
  split
  · exact writeStatus_mirrored ..
  · refine (perform_mirrored (.observe (.consideringEntries now health))).bind fun _ _ _ => ?_
    split
    · exact writeStatus_mirrored ..
    · split
      · exact writeStatus_mirrored ..
      · refine (entryLoop_mirrored openPositions positive ..).bind fun progress _ same => ?_
        subst same
        exact writeStatus_mirrored ..

theorem tradeOnSnapshot_mirrored (positive : 0 < factor) (cli : Cli) (config : Config)
    (snapshot : BrokerSnapshot) (health : HealthMonitor) :
    (scaling factor).Mirrored (fun _ _ => True)
      (tradeOnSnapshot platform divergence cli config snapshot health openPositions)
      (tradeOnSnapshot platform divergence cli config snapshot health
        (scaledPositions factor openPositions)) := by
  refine (perform_unscaled .clockNow rfl).bind fun now _ same => ?_
  subst same
  refine (mirrored_unscaled (hostHealth_calls fixes_of_housekeeping ..)).bind
    fun checked _ same => ?_
  obtain ⟨same, _⟩ := same
  subst same
  refine (mirrored_unscaled (convertStalenessLimits_yields (scaling_fixes rfl))).bind
    fun _ _ _ => ?_
  refine (mirrored_unscaled (readPairSets_calls fixes_of_market ..)).bind fun readings _ same => ?_
  obtain ⟨same, _⟩ := same
  subst same
  refine (exitSweep_mirrored openPositions ..).bind fun remaining _ same => ?_
  subst same
  exact considerEntries_mirrored remaining positive ..

end phases

section runs
variable {platform : Platform} {divergence : DivergenceSource}

theorem configuredCycle_mirrored (positive : 0 < factor) (cli : Cli) (config : Config) :
    (scaling factor).Mirrored (fun _ _ => True) (configuredCycle platform divergence cli config)
      (configuredCycle platform divergence cli config) := by
  refine (perform_mirrored .readPositions).bind fun reply _ same => ?_
  subst same
  refine (Mirror.mirrored_ofExcept (scaledPositions factor) reply).bind fun recorded _ same => ?_
  subst same
  refine (reconcileAndNotify_mirrored recorded).bind fun openPositions _ same => ?_
  subst same
  refine (perform_unscaled (.getSnapshot _) rfl).bind fun outcome _ same => ?_
  subst same
  split
  · exact tradeOnSnapshot_mirrored openPositions positive ..
  · refine (perform_mirrored (.notify (.heartbeatFailed _))).bind fun _ _ _ => ?_
    exact writeStatus_mirrored ..

theorem ofExcept_unscaled {α ε : Type} (convert : ε → CycleError) (result : Except ε α) :
    (scaling factor).Mirrored (fun value value' => value' = value)
      (Program.ofExcept convert result : Cycle α) (Program.ofExcept convert result) := by
  cases result with
  | error failure => exact .fail _
  | ok value => exact .done rfl

theorem runRealCycle_mirrored (positive : 0 < factor) (cli : Cli) :
    (scaling factor).Mirrored (fun _ _ => True) (runRealCycle platform divergence cli)
      (runRealCycle platform divergence cli) := by
  refine (perform_unscaled .createStateDir rfl).bind fun _ reply same => ?_
  subst same
  refine (ofExcept_unscaled _ reply).bind fun _ _ _ => ?_
  refine (mirrored_unscaled (killSwitchEngaged_yields (scaling_fixes rfl))).bind
    fun engaged _ same => ?_
  obtain ⟨same, _⟩ := same
  subst same
  split
  · exact writeStatus_mirrored [] ..
  · refine (perform_unscaled .readConfigFile rfl).bind fun _ contents same => ?_
    subst same
    refine (ofExcept_unscaled _ (Config.load contents)).bind fun _ config same => ?_
    subst same
    split
    · exact .fail _
    · exact configuredCycle_mirrored positive cli config

/-- On an account with other amounts, in the same proportions, the daemon does the same: each
invocation turns into one whose replies and whose orders are scaled alike. -/
theorem scaled_trace (positive : 0 < factor) {cli : Cli} {events : List CycleEvent}
    {outcome : Outcome CycleError Unit}
    (trace : Trace (runRealCycle platform divergence cli) events outcome) :
    Trace (runRealCycle platform divergence cli) (events.map (scaling factor).onEvent) outcome := by
  obtain ⟨outcome', ends, image⟩ := (runRealCycle_mirrored positive cli).trace trace
  cases ends with
  | done => exact image
  | failed failure => exact image
  | stopped => exact image

/-- The invocation in which a swept secondary leads to an order. -/
def sweptRun : List CycleEvent × Outcome CycleError Unit × Host :=
  (runRealCycle .winter secondarySwept ⟨false⟩).play Host.answer
    (Host.fresh .default (quotedAt [("EURUSD", 1.10), ("GBPUSD", 1.20)]))

theorem sweptRun_scaled :
    ((sweptRun.1.filterMap orderOf).map OrderRequest.size).length = 1 ∧
      Trace (runRealCycle .winter secondarySwept ⟨false⟩) (sweptRun.1.map (scaling 2).onEvent)
        sweptRun.2.1 :=
  ⟨by decide +kernel, scaled_trace (by norm_num) (Program.play_trace _ _ _)⟩

end runs

end Oboobot.Daemon
