import Oboobot.Daemon.PhaseCalls
import Oboobot.Daemon.Host
import Oboobot.Interaction.Composed

/-! The trades that an invocation makes, against the records of them that it
leaves in the decisions log. -/

namespace Oboobot.Daemon

open Domain SessionTime Strategy Risk Broker Interaction Daemon.Cycle

/-- The pairs of the accepted orders and closes of an invocation so far, and of the
records that name one. -/
structure Audit where
  known : List Position
  opened : List String
  closed : List String
  openedRecords : List String
  closedRecords : List String

namespace Audit

def empty : Audit where
  known := []
  opened := []
  closed := []
  openedRecords := []
  closedRecords := []

/-- The pair of the open position with this id. -/
def pairOf (positions : List Position) (id : Uuid) : String :=
  ((positions.find? fun position => position.positionId = id).map Position.pair).getD ""

def record (audit : Audit) (decision : DecisionRecord) : Audit :=
  if decision.outcome = "order_submitted" then
    { audit with openedRecords := audit.openedRecords ++ [decision.pair] }
  else if decision.outcome = "position_closed" then
    { audit with closedRecords := audit.closedRecords ++ [decision.pair] }
  else audit

def after (audit : Audit) : CycleEvent → Audit
  | ⟨.observe (.reconciled openPositions), _⟩ => { audit with known := openPositions }
  | ⟨.submitOrder request, .ok _⟩ => { audit with opened := audit.opened ++ [request.pair] }
  | ⟨.closePosition id, .ok _⟩ =>
    { audit with closed := audit.closed ++ [pairOf audit.known id] }
  | ⟨.appendDecision decision, .ok _⟩ => audit.record decision
  | _ => audit

def ofEvents (events : List CycleEvent) : Audit := events.foldl after empty

/-- Every trade has its record. -/
structure Settled (audit : Audit) : Prop where
  opened : audit.openedRecords = audit.opened
  closed : audit.closedRecords = audit.closed

/-- The records are those of the first trades, and at most one trade has none. -/
structure Sound (audit : Audit) : Prop where
  opened : audit.openedRecords <+: audit.opened
  closed : audit.closedRecords <+: audit.closed
  lag : audit.opened.length + audit.closed.length ≤
    audit.openedRecords.length + audit.closedRecords.length + 1

theorem Settled.sound {audit : Audit} (settled : audit.Settled) : audit.Sound where
  opened := settled.opened ▸ List.prefix_rfl
  closed := settled.closed ▸ List.prefix_rfl
  lag := by rw [settled.opened, settled.closed]; exact Nat.le_succ _

/-- Whatever a call comes to, the records stay sound. -/
def contract : Contract Call Reply Audit :=
  monitor after fun audit call => ∀ reply, (audit.after ⟨call, reply⟩).Sound

end Audit

/-- Calls that are no trade and no record of one. -/
def Call.isUnaudited : Call → Bool
  | .submitOrder _ | .closePosition _ | .appendDecision _ => false
  | .observe observation => match observation with
    | .reconciled _ => false
    | _ => true
  | _ => true

theorem Audit.after_unaudited (audit : Audit) {call : Call} (unaudited : call.isUnaudited)
    (reply : Reply call) : audit.after ⟨call, reply⟩ = audit := by
  cases call with
  | submitOrder _ | closePosition _ | appendDecision _ => cases unaudited
  | observe observation =>
    cases observation with
    | reconciled _ => cases unaudited
    | _ => rfl
  | _ => rfl

section kinds
variable (call : Call)

theorem isUnaudited_of_market (market : call.isMarket) : call.isUnaudited := by
  cases call with
  | observe observation => cases observation <;> first | rfl | cases market
  | _ => first | rfl | cases market

theorem isUnaudited_of_housekeeping (keeps : call.isHousekeeping) : call.isUnaudited := by
  cases call <;> first | rfl | cases keeps

theorem isUnaudited_of_trueOpen (captures : call.isTrueOpen) : call.isUnaudited := by
  cases call with
  | observe observation => cases observation <;> first | rfl | cases captures
  | _ => first | rfl | cases captures

end kinds

variable {platform : Platform} {divergence : DivergenceSource} {cli : Cli} {α : Type}
  {audit : Audit}

/-- A program of unaudited calls is framed by the audit. -/
theorem unaudited_meets {program : Cycle α} {post : α → Prop}
    (yields : program.Yields (fun call => call.isUnaudited) post) (sound : audit.Sound) :
    program.Meets Audit.contract (fun value after => post value ∧ after = audit)
      (fun _ _ => True) audit := by
  have framed : program.Meets Audit.contract (fun value after => post value ∧ after = audit)
      (fun _ after => after = audit) audit := by
    refine yields.frame ?_ ?_ rfl
    · rintro world call unaudited rfl reply
      rwa [world.after_unaudited unaudited]
    · rintro world event next unaudited rfl step
      exact step.trans (world.after_unaudited unaudited event.reply)
  exact framed.weaken (fun _ _ given => given) fun _ _ _ => trivial

/-- A call that the audit has no interest in. -/
theorem meets_unaudited {call : Call} {next : Reply call → Cycle α} {post : α → Audit → Prop}
    {failed : CycleError → Audit → Prop} (sound : audit.Sound) (unaudited : call.isUnaudited)
    (rest : ∀ reply, (next reply).Meets Audit.contract post failed audit) :
    (perform call >>= next).Meets Audit.contract post failed audit := by
  rw [meets_bind, Audit.contract, meets_perform_monitor]
  refine ⟨fun reply => ?_, fun reply => ?_⟩
  · rwa [audit.after_unaudited unaudited]
  · rw [audit.after_unaudited unaudited]
    exact rest reply

theorem Audit.Sound.know (sound : audit.Sound) (positions : List Position) :
    ({ audit with known := positions } : Audit).Sound :=
  ⟨sound.opened, sound.closed, sound.lag⟩

theorem reconcileAndNotify_audit (sound : audit.Sound) (locallyKnownPositions : List Position) :
    (reconcileAndNotify locallyKnownPositions).Meets Audit.contract
      (fun positions after => after = { audit with known := positions })
      (fun _ _ => True) audit := by
  have tail (openPositions : List Position) : (do
      observe (.reconciled openPositions)
      pure openPositions : Cycle (List Position)).Meets Audit.contract
        (fun positions after => after = { audit with known := positions }) (fun _ _ => True)
        audit := by
    simp only [meets_bind, Audit.contract, meets_perform_monitor, meets_pure]
    exact ⟨fun _ => sound.know openPositions, fun _ => rfl⟩
  unfold reconcileAndNotify
  refine meets_unaudited sound rfl fun reply => ?_
  rw [meets_bind, meets_ofExcept]
  refine ⟨fun listing _ => ?_, fun _ _ => trivial⟩
  dsimp only
  split
  · exact tail _
  · exact meets_unaudited sound rfl fun _ => tail _

theorem appendPositions_audit (sound : audit.Sound) (openPositions : List Position) :
    (appendPositions openPositions).Meets Audit.contract (fun _ after => after = audit)
      (fun _ _ => True) audit := by
  have unaudited : (appendPositions openPositions).Yields (fun call => call.isUnaudited)
      fun _ => True := by
    refine yields_foldlM (fun _ _ => True) ?_ () trivial
    intro _ position _ _ _ _
    simp only [yields_bind, yields_perform, yields_ofExcept]
    exact ⟨rfl, fun _ _ _ => trivial⟩
  exact (unaudited_meets unaudited sound).weaken (fun _ _ given => given.2) fun _ _ given => given

/-- A record goes down as such, and whatever keeps the audit sound may be recorded. -/
theorem appendDecision_audit {pair outcome : String} {detail : Option String} (sound : audit.Sound)
    (recorded : ∀ decision : DecisionRecord, decision.pair = pair → decision.outcome = outcome →
      (audit.record decision).Sound) :
    (appendDecision pair outcome detail).Meets Audit.contract
      (fun _ after => ∃ decision : DecisionRecord, decision.pair = pair ∧
        decision.outcome = outcome ∧ after = audit.record decision) (fun _ _ => True) audit := by
  obtain ⟨recordAt, names, appends⟩ := appendDecision_eq pair outcome detail
  rw [appends]
  simp only [meets_bind, Audit.contract, meets_perform_monitor, meets_ofExcept]
  refine ⟨fun _ => sound, fun timestamp => ?_⟩
  obtain ⟨ofPair, label⟩ := names timestamp
  refine ⟨fun reply => ?_, fun reply => ⟨?_, fun _ _ => trivial⟩⟩
  · cases reply with
    | error failure => exact sound
    | ok appended => exact recorded _ ofPair label
  · rintro appended rfl
    exact ⟨recordAt timestamp, ofPair, label, rfl⟩

/-- Records that name no trade are not the audit's business. -/
theorem appendDecision_other {pair outcome : String} {detail : Option String} (sound : audit.Sound)
    (other : outcome ≠ "order_submitted" ∧ outcome ≠ "position_closed") :
    (appendDecision pair outcome detail).Meets Audit.contract (fun _ after => after = audit)
      (fun _ _ => True) audit := by
  have same (decision : DecisionRecord) (label : decision.outcome = outcome) :
      audit.record decision = audit := by
    rw [Audit.record, if_neg (label ▸ other.1), if_neg (label ▸ other.2)]
  refine (appendDecision_audit sound ?_).weaken ?_ fun _ _ _ => trivial
  · intro decision _ label
    rwa [same decision label]
  · rintro _ _ ⟨decision, _, label, rfl⟩
    exact same decision label

/-- Between two trades: all of them recorded, and these are the positions known. -/
structure InStep (audit : Audit) (openPositions : List Position) : Prop extends audit.Settled where
  known : audit.known = openPositions

theorem pairOf_eq {positions : List Position} {id : Uuid} (member : id ∈ positionIds positions)
    (other : String) :
    ((positions.find? fun position => position.positionId = id).map Position.pair).getD other =
      Audit.pairOf positions id := by
  obtain ⟨position, present, same⟩ := List.mem_map.mp member
  have found : (positions.find? fun position => position.positionId = id).isSome := by
    rw [List.find?_isSome]
    exact ⟨position, present, by simpa using same⟩
  obtain ⟨first, found⟩ := Option.isSome_iff_exists.mp found
  simp [Audit.pairOf, found]

/-- One more trade, on this pair, and its record still to come. -/
structure Pending (audit : Audit) (opened closed : List String) : Prop where
  opened : audit.opened = audit.openedRecords ++ opened
  closed : audit.closed = audit.closedRecords ++ closed

theorem Pending.sound {opened closed : List String} (pending : Pending audit opened closed)
    (few : opened.length + closed.length ≤ 1) : audit.Sound where
  opened := ⟨opened, pending.opened.symm⟩
  closed := ⟨closed, pending.closed.symm⟩
  lag := by
    rw [pending.opened, pending.closed, List.length_append, List.length_append]
    omega

/-- A close is followed by its record. -/
theorem record_closed {pair : String} (pending : Pending audit [] [pair]) {decision : DecisionRecord}
    (ofPair : decision.pair = pair) (label : decision.outcome = "position_closed") :
    (audit.record decision).Settled ∧ (audit.record decision).known = audit.known := by
  have recorded : audit.record decision =
      { audit with closedRecords := audit.closedRecords ++ [pair] } := by
    rw [Audit.record, if_neg (by rw [label]; decide), if_pos label, ofPair]
  rw [recorded]
  exact ⟨⟨by simpa using pending.opened.symm, pending.closed.symm⟩, rfl⟩

/-- An order is followed by its record. -/
theorem record_opened {pair : String} (pending : Pending audit [pair] []) {decision : DecisionRecord}
    (ofPair : decision.pair = pair) (label : decision.outcome = "order_submitted") :
    (audit.record decision).Settled ∧ (audit.record decision).known = audit.known := by
  have recorded : audit.record decision =
      { audit with openedRecords := audit.openedRecords ++ [pair] } := by
    rw [Audit.record, if_pos label, ofPair]
  rw [recorded]
  exact ⟨⟨pending.opened.symm, by simpa using pending.closed.symm⟩, rfl⟩

theorem closeFlagged_audit {openPositions : List Position} (inStep : InStep audit openPositions)
    (config : Config) {exit : ExitDecision} (flagged : exit.positionId ∈ positionIds openPositions) :
    (closeFlagged config openPositions exit).Meets Audit.contract
      (fun _ after => InStep after openPositions) (fun _ _ => True) audit := by
  let closed : Audit := { audit with
    closed := audit.closed ++ [Audit.pairOf openPositions exit.positionId] }
  have closes (order : Order) : audit.after ⟨.closePosition exit.positionId, .ok order⟩ = closed := by
    simp only [Audit.after, inStep.known, closed]
  have pending : Pending closed [] [Audit.pairOf openPositions exit.positionId] :=
    ⟨by simp [closed, inStep.opened], by simp [closed, inStep.toSettled.closed]⟩
  have sound := pending.sound (Nat.le_refl 1)
  unfold closeFlagged
  rw [meets_bind, Audit.contract, meets_perform_monitor]
  refine ⟨fun reply => ?_, fun reply => ?_⟩
  · cases reply with
    | error failure => exact inStep.toSettled.sound
    | ok order => rwa [closes]
  · cases reply with
    | error failure => exact inStep
    | ok order =>
      rw [closes]
      dsimp only
      rw [pairOf_eq flagged]
      refine meets_unaudited sound rfl fun _ => ?_
      refine (appendDecision_audit sound ?_).weaken ?_ fun _ _ _ => trivial
      · exact fun decision ofPair label => (record_closed pending ofPair label).1.sound
      · rintro _ _ ⟨decision, ofPair, label, rfl⟩
        obtain ⟨settled, known⟩ := record_closed pending ofPair label
        exact ⟨settled, known.trans inStep.known⟩

theorem exitSweep_audit {openPositions : List Position} (inStep : InStep audit openPositions)
    (config : Config) (snapshot : BrokerSnapshot) (now : Instant) (states : List PairCycleState) :
    (exitSweep config snapshot now states openPositions).Meets Audit.contract
      (fun positions after => InStep after positions) (fun _ _ => True) audit := by
  have member : ∀ exit ∈ flaggedExits snapshot now states openPositions,
      exit.positionId ∈ positionIds openPositions := by
    intro exit flagged
    exact (evaluateExits_sublist _ _ _ _ _ _).subset (List.mem_map_of_mem flagged)
  have swept : ((flaggedExits snapshot now states openPositions).foldlM (fun _ exit =>
      closeFlagged config openPositions exit) ()).Meets Audit.contract
        (fun _ after => InStep after openPositions) (fun _ _ => True) audit := by
    refine meets_foldlM (fun _ _ after => InStep after openPositions) ?_ () inStep
    intro front exit back _ world same inStep
    exact closeFlagged_audit inStep config (member exit (by simp [same]))
  unfold exitSweep
  rw [meets_bind]
  refine swept.weaken ?_ fun _ _ _ => trivial
  intro _ after inStep
  split
  · exact inStep
  · rw [meets_bind]
    refine (reconcileAndNotify_audit inStep.toSettled.sound openPositions).weaken ?_
      fun _ _ _ => trivial
    rintro positions _ rfl
    rw [meets_bind]
    refine (appendPositions_audit (inStep.toSettled.sound.know positions) positions).weaken ?_
      fun _ _ _ => trivial
    rintro _ _ rfl
    exact ⟨⟨inStep.opened, inStep.toSettled.closed⟩, rfl⟩

theorem submitApproved_audit {openPositions : List Position} (inStep : InStep audit openPositions)
    (snapshot : BrokerSnapshot) (signal : TradeSignal) (decision : RiskDecision) :
    (submitApproved snapshot openPositions signal decision).Meets Audit.contract
      (fun progress after => InStep after progress.1) (fun _ _ => True) audit := by
  have settled := inStep.toSettled
  let opened : Audit := { audit with opened := audit.opened ++ [signal.pair] }
  have pending : Pending opened [signal.pair] [] :=
    ⟨by simp [opened, settled.opened], by simp [opened, settled.closed]⟩
  have sound := pending.sound (Nat.le_refl 1)
  unfold submitApproved
  refine meets_unaudited settled.sound rfl fun orderId => ?_
  simp only [meets_bind, Audit.contract, meets_perform_monitor, meets_ofExcept]
  refine ⟨fun reply => ?_, fun reply => ⟨?_, fun _ _ => trivial⟩⟩
  · cases reply with
    | error failure => exact settled.sound
    | ok order => exact sound
  · rintro order rfl
    refine ⟨fun _ => sound, fun _ => ?_⟩
    refine (reconcileAndNotify_audit sound openPositions).weaken ?_ fun _ _ _ => trivial
    rintro positions _ rfl
    rw [meets_bind]
    refine (appendPositions_audit (sound.know positions) positions).weaken ?_ fun _ _ _ => trivial
    rintro _ _ rfl
    have pending' : Pending { opened with known := positions } [signal.pair] [] :=
      ⟨pending.opened, pending.closed⟩
    rw [meets_bind]
    refine (appendDecision_audit (sound.know positions) ?_).weaken ?_ fun _ _ _ => trivial
    · exact fun decision ofPair label => (record_opened pending' ofPair label).1.sound
    · rintro _ _ ⟨decision, ofPair, label, rfl⟩
      exact ⟨(record_opened pending' ofPair label).1, (record_opened pending' ofPair label).2⟩

/-- A turn that ends with a label of its own, without a trade. -/
theorem label_audit {openPositions : List Position} (inStep : InStep audit openPositions)
    {pair outcome : String} {detail : Option String}
    (other : outcome ≠ "order_submitted" ∧ outcome ≠ "position_closed") :
    Program.Meets Audit.contract (do
        appendDecision pair outcome detail
        return (openPositions, outcome))
      (fun progress after => InStep after progress.1) (fun _ _ => True) audit := by
  rw [meets_bind]
  refine (appendDecision_other inStep.toSettled.sound other).weaken ?_ fun _ _ _ => trivial
  rintro _ _ rfl
  exact inStep

theorem sizeAndSubmit_audit {openPositions : List Position} (inStep : InStep audit openPositions)
    (config : Config) (snapshot : BrokerSnapshot) (isTuesday : Bool) (state : PairCycleState)
    (signal : TradeSignal) :
    (sizeAndSubmit platform config snapshot isTuesday state openPositions signal).Meets Audit.contract
      (fun progress after => InStep after progress.1) (fun _ _ => True) audit := by
  have sound := inStep.toSettled.sound
  unfold sizeAndSubmit
  refine meets_unaudited sound rfl fun reply => ?_
  rw [meets_bind, meets_ofExcept]
  refine ⟨fun equity _ => ?_, fun _ _ => trivial⟩
  refine meets_unaudited sound rfl fun decisionId => ?_
  rw [meets_bind, meets_ofExcept]
  refine ⟨fun decision _ => ?_, fun _ _ => trivial⟩
  refine meets_unaudited sound rfl fun _ => ?_
  split
  · exact submitApproved_audit inStep snapshot signal decision
  · exact label_audit inStep (by decide)

theorem evaluatePairSet_audit {openPositions : List Position} (inStep : InStep audit openPositions)
    (config : Config) (snapshot : BrokerSnapshot) (now : Instant) (isTuesday : Bool)
    (holidays : HolidayProvider) (state : PairCycleState) :
    (evaluatePairSet platform config snapshot now isTuesday holidays openPositions state).Meets
      Audit.contract (fun progress after => InStep after progress.1) (fun _ _ => True) audit := by
  have sound := inStep.toSettled.sound
  unfold evaluatePairSet
  refine meets_unaudited sound rfl fun _ => ?_
  dsimp only
  split
  · rw [meets_bind]
    refine (unaudited_meets (loadOrCaptureBias_calls isUnaudited_of_trueOpen _ _ _ _ _)
      sound).weaken ?_ fun _ _ _ => trivial
    rintro weeklyBias _ ⟨_, rfl⟩
    rw [meets_bind]
    refine (unaudited_meets (loadOrCaptureBias_calls isUnaudited_of_trueOpen _ _ _ _ _)
      sound).weaken ?_ fun _ _ _ => trivial
    rintro dailyBias _ ⟨_, rfl⟩
    refine meets_unaudited sound rfl fun traceId => ?_
    refine meets_unaudited sound rfl fun signalId => ?_
    refine meets_unaudited sound rfl fun timestamp => ?_
    split
    · exact label_audit inStep (by decide)
    · exact label_audit inStep (by decide)
    · split
      · exact label_audit inStep (by decide)
      · exact sizeAndSubmit_audit inStep config snapshot isTuesday state _
  · exact label_audit inStep (by decide)

/-- Writing the status ends an invocation with every trade recorded. -/
theorem writeStatus_audit (settled : audit.Settled) (openPositions : List Position)
    (health : HealthMonitor) (lastDecision : Option String) (paused : Bool) :
    (writeStatus openPositions health lastDecision paused).Meets Audit.contract
      (fun _ after => after.Settled) (fun _ _ => True) audit := by
  refine (unaudited_meets (writeStatus_calls isUnaudited_of_housekeeping _ _ _ _)
    settled.sound).weaken ?_ fun _ _ _ => trivial
  rintro _ _ ⟨_, rfl⟩
  exact settled

theorem considerEntries_audit {openPositions : List Position} (inStep : InStep audit openPositions)
    (config : Config) (snapshot : BrokerSnapshot) (now : Instant) (isTuesday : Bool)
    (holidays : HolidayProvider) (health : HealthMonitor) (states : List PairCycleState) :
    (considerEntries platform cli config snapshot now isTuesday holidays health states
      openPositions).Meets Audit.contract (fun _ after => after.Settled) (fun _ _ => True) audit := by
  have sound := inStep.toSettled.sound
  have looped : (entryLoop platform config snapshot now isTuesday holidays openPositions
      states).Meets Audit.contract (fun progress after => InStep after progress.1)
        (fun _ _ => True) audit := by
    refine meets_foldlM (fun _ (progress : List Position × List String) after =>
      InStep after progress.1) ?_ (openPositions, []) inStep
    intro front state back progress world _ inStep
    rw [meets_bind]
    exact (evaluatePairSet_audit inStep config snapshot now isTuesday holidays state).weaken
      (fun _ _ handedOn => handedOn) fun _ _ _ => trivial
  unfold considerEntries
  split
  · exact writeStatus_audit inStep.toSettled _ _ _ _
  · refine meets_unaudited sound rfl fun _ => ?_
    split
    · exact writeStatus_audit inStep.toSettled _ _ _ _
    · split
      · exact writeStatus_audit inStep.toSettled _ _ _ _
      · rw [meets_bind]
        refine looped.weaken ?_ fun _ _ _ => trivial
        intro progress after handedOn
        exact writeStatus_audit handedOn.toSettled _ _ _ _

theorem tradeOnSnapshot_audit {openPositions : List Position} (inStep : InStep audit openPositions)
    (config : Config) (snapshot : BrokerSnapshot) (health : HealthMonitor) :
    (tradeOnSnapshot platform divergence cli config snapshot health openPositions).Meets
      Audit.contract (fun _ after => after.Settled) (fun _ _ => True) audit := by
  have sound := inStep.toSettled.sound
  unfold tradeOnSnapshot
  refine meets_unaudited sound rfl fun now => ?_
  rw [meets_bind]
  refine (unaudited_meets (hostHealth_calls isUnaudited_of_housekeeping _ _ _ _) sound).weaken ?_
    fun _ _ _ => trivial
  rintro health _ ⟨_, rfl⟩
  rw [meets_bind]
  refine (unaudited_meets (convertStalenessLimits_yields rfl)
    sound).weaken ?_ fun _ _ _ => trivial
  rintro _ _ ⟨_, rfl⟩
  rw [meets_bind]
  refine (unaudited_meets (readPairSets_calls isUnaudited_of_market config snapshot now)
    sound).weaken ?_ fun _ _ _ => trivial
  rintro readings _ ⟨_, rfl⟩
  rw [meets_bind]
  refine (exitSweep_audit inStep config snapshot now _).weaken ?_ fun _ _ _ => trivial
  intro positions after inStep
  exact considerEntries_audit inStep config snapshot now _ _ _ _

/-- An invocation leaves the records of its trades as it makes them. -/
theorem runRealCycle_audit : (runRealCycle platform divergence cli).Meets Audit.contract
    (fun _ after => after.Settled) (fun _ _ => True) .empty := by
  have settled : Audit.empty.Settled := ⟨rfl, rfl⟩
  have sound := settled.sound
  have configured (config : Config) : (configuredCycle platform divergence cli config).Meets
      Audit.contract (fun _ after => after.Settled) (fun _ _ => True) .empty := by
    unfold configuredCycle
    refine meets_unaudited sound rfl fun reply => ?_
    rw [meets_bind, meets_ofExcept]
    refine ⟨fun records _ => ?_, fun _ _ => trivial⟩
    rw [meets_bind]
    refine (reconcileAndNotify_audit sound records).weaken ?_ fun _ _ _ => trivial
    rintro openPositions _ rfl
    have settled' : ({ Audit.empty with known := openPositions } : Audit).Settled := ⟨rfl, rfl⟩
    refine meets_unaudited settled'.sound rfl fun outcome => ?_
    split
    · exact tradeOnSnapshot_audit ⟨settled', rfl⟩ config _ _
    · refine meets_unaudited settled'.sound rfl fun _ => ?_
      exact writeStatus_audit settled' _ _ _ _
  refine runRealCycle_meets_of (fun audit => audit = .empty) rfl ?_ (fun _ _ _ => trivial) ?_ ?_
  · rintro _ call opens rfl
    have unaudited : call.isUnaudited = true := by rcases opens with rfl | rfl | rfl <;> rfl
    refine ⟨fun reply => ?_, fun reply _ step => step.trans (Audit.empty.after_unaudited unaudited reply)⟩
    rwa [Audit.empty.after_unaudited unaudited]
  · rintro _ rfl
    exact writeStatus_audit settled _ _ _ _
  · rintro _ _ _ config _ _ rfl
    exact configured config

/-- In every run of an invocation, killed or not, the decisions log names the pairs of
the first orders and closes that the broker accepted, in order, and leaves out at
most one; an invocation that finishes leaves out none. -/
theorem trades_recorded {events : List CycleEvent} {outcome : Outcome CycleError Unit}
    (trace : Trace (runRealCycle platform divergence cli) events outcome) :
    (Audit.ofEvents events).Sound ∧ (outcome = .done () → (Audit.ofEvents events).Settled) := by
  have steps : Steps Audit.contract.step .empty events (Audit.ofEvents events) := by
    unfold Audit.contract Audit.ofEvents
    exact steps_monitor events _
  have settled : Audit.empty.Settled := ⟨rfl, rfl⟩
  constructor
  · refine runRealCycle_audit.kept Audit.Sound ?_ settled.sound trace steps
    rintro world event _ _ promised rfl
    exact promised event.reply
  · rintro rfl
    exact runRealCycle_audit.ends_done trace steps

/-- An invocation that opens a position on GBPUSD records it. -/
theorem openedPosition_recorded :
    let audit := Audit.ofEvents ((runRealCycle .winter secondarySwept ⟨false⟩).play Host.answer
      (Host.fresh .default (quotedAt [("EURUSD", 1.10), ("GBPUSD", 1.20)]))).1
    audit.opened.length = 1 ∧ audit.Settled := by
  intro audit
  have finished : ((runRealCycle .winter secondarySwept ⟨false⟩).play Host.answer
      (Host.fresh .default (quotedAt [("EURUSD", 1.10), ("GBPUSD", 1.20)]))).2.1.isDone = true := by
    decide +kernel
  refine ⟨by decide +kernel, ?_⟩
  exact (trades_recorded (Program.play_trace _ _ _)).2 (Outcome.eq_done finished)

end Oboobot.Daemon
