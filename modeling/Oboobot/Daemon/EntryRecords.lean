import Oboobot.Daemon.Host
import Oboobot.Daemon.JournalContract
import Oboobot.Daemon.OrderLevels

/-! What the turns of the entry loop leave in the decisions log. -/

namespace Oboobot.Daemon

open Domain SessionTime Strategy Risk Broker Interaction Daemon.Cycle

namespace Evaluation

def spreadPasses (platform : Platform) (config : Config) (evaluation : Evaluation) : Bool :=
  evaluation.state.spreadHistory.passesFilter evaluation.state.currentSpread
    ((config.risk.spreadMultiplier.toDecimal platform.conversion).getD (3 / 2))

/-- A divergence that the spread filter and the true open gate let through. -/
def Signals (platform : Platform) (config : Config) (evaluation : Evaluation) (pair : String) : Prop :=
  ∃ target direction tier weeklyBias dailyBias,
    evaluation.spreadPasses platform config = true ∧
    evaluateSmt evaluation.state.divergenceInputs = some (target, direction, tier) ∧
    evaluation.biases = [weeklyBias, dailyBias] ∧
    trueOpenGate weeklyBias dailyBias direction = .ok () ∧
    pair = target.pair evaluation.state.pairConfig.primary evaluation.state.pairConfig.secondary

/-- The six ways a turn can end, with the pair and the outcome that name each. -/
inductive Ends (platform : Platform) (config : Config) (now : Instant) (evaluation : Evaluation) :
    String → String → Prop
  | spreadRejected (wide : evaluation.spreadPasses platform config = false) :
      Ends platform config now evaluation evaluation.state.pairConfig.primary "spread_rejected"
  | noDivergence (narrow : evaluation.spreadPasses platform config = true)
      (agree : evaluateSmt evaluation.state.divergenceInputs = none) :
      Ends platform config now evaluation evaluation.state.pairConfig.primary "no_divergence"
  | gateRejected {target : TradeTarget} {direction : Direction} {tier : Tier}
      {weeklyBias dailyBias : Bias} {reason : RejectionReason}
      (narrow : evaluation.spreadPasses platform config = true)
      (diverges : evaluateSmt evaluation.state.divergenceInputs = some (target, direction, tier))
      (biases : evaluation.biases = [weeklyBias, dailyBias])
      (shut : trueOpenGate weeklyBias dailyBias direction = .error reason) :
      Ends platform config now evaluation evaluation.state.pairConfig.primary "gate_rejected"
  | collisionSkip {pair : String} (signals : evaluation.Signals platform config pair)
      (entered : alreadyEnteredThisCycle pair evaluation.known now = true) :
      Ends platform config now evaluation pair "collision_skip"
  | riskRejected {pair : String} {decision : RiskDecision}
      (signals : evaluation.Signals platform config pair)
      (free : alreadyEnteredThisCycle pair evaluation.known now = false)
      (decided : evaluation.decision = some decision) (refused : decision.approved = false) :
      Ends platform config now evaluation pair "risk_rejected"
  | orderSubmitted {pair : String} {decision : RiskDecision}
      (signals : evaluation.Signals platform config pair)
      (free : alreadyEnteredThisCycle pair evaluation.known now = false)
      (decided : evaluation.decision = some decision) (approved : decision.approved = true)
      (accepted : evaluation.ordered = true) :
      Ends platform config now evaluation pair "order_submitted"

/-- Exactly one record is left, and it names what happened. -/
def Recorded (platform : Platform) (config : Config) (now : Instant) (evaluation : Evaluation) :
    Prop :=
  ∃ record, evaluation.records = [record] ∧
    evaluation.Ends platform config now record.pair record.outcome ∧
    (evaluation.ordered = true → record.outcome = "order_submitted")

theorem Ends.recording {platform : Platform} {config : Config} {now : Instant}
    {evaluation : Evaluation} {pair outcome : String}
    (ends : evaluation.Ends platform config now pair outcome)
    (records : List DecisionRecord) :
    Ends platform config now { evaluation with records := records } pair outcome := by
  cases ends with
  | spreadRejected wide => exact .spreadRejected wide
  | noDivergence narrow agree => exact .noDivergence narrow agree
  | gateRejected narrow diverges biases shut => exact .gateRejected narrow diverges biases shut
  | collisionSkip signals entered => exact .collisionSkip signals entered
  | riskRejected signals free decided refused => exact .riskRejected signals free decided refused
  | orderSubmitted signals free decided approved accepted =>
    exact .orderSubmitted signals free decided approved accepted

theorem Ends.mem_entryOutcomes {platform : Platform} {config : Config} {now : Instant}
    {evaluation : Evaluation} {pair outcome : String}
    (ends : evaluation.Ends platform config now pair outcome) :
    outcome ∈ entryOutcomes := by
  cases ends <;> simp [entryOutcomes]

end Evaluation

/-- The journal within a turn of the entry loop that began at `since`. -/
structure Turn (since journal : Journal) (openPositions : List Position) (evaluation : Evaluation) :
    Prop extends Calm journal openPositions where
  paused : journal.paused = since.paused
  listed : since.listings <+: journal.listings
  evaluations : journal.evaluations = since.evaluations ++ [evaluation]

/-- The invocation gave up within a turn that had left no record. -/
def Cut (since journal : Journal) : Prop :=
  Abandoned journal ∧ ∃ evaluation, journal.evaluations = since.evaluations ++ [evaluation] ∧
    evaluation.records = []

/-- The turn is over and left its record. -/
def Over (platform : Platform) (config : Config) (now : Instant) (since journal : Journal)
    (state : PairCycleState) (openPositions : List Position) : Prop :=
  ∃ evaluation, Turn since journal openPositions evaluation ∧ evaluation.state = state ∧
    evaluation.Recorded platform config now

section turn

variable {platform : Platform} {config : Config} {snapshot : BrokerSnapshot} {now : Instant}
  {since journal : Journal} {openPositions : List Position} {evaluation : Evaluation}

theorem Turn.cut (turn : Turn since journal openPositions evaluation)
    (blank : evaluation.records = []) : Cut since { journal with failed := true } :=
  ⟨turn.abandon, evaluation, turn.evaluations, blank⟩

theorem Turn.amend (turn : Turn since journal openPositions evaluation)
    (change : Evaluation → Evaluation) :
    Turn since (journal.amend change) openPositions (change evaluation) := by
  rw [Journal.amend_eq turn.evaluations]
  exact {
    running := turn.running
    read := turn.read
    unwritten := turn.unwritten
    known := turn.known
    reconciles := turn.reconciles
    settled := turn.settled
    paused := turn.paused
    listed := turn.listed
    evaluations := rfl }

theorem loadOrCaptureBias_turn (turn : Turn since journal openPositions evaluation)
    (blank : evaluation.records = []) (timeframe : Timeframe) (symbol : String) (price : Decimal)
    (holidays : HolidayProvider) :
    (loadOrCaptureBias platform timeframe symbol price now holidays).Meets Journal.contract
      (fun bias after => Turn since after openPositions
        { evaluation with biases := evaluation.biases ++ [bias] })
      (fun _ after => Cut since after) journal := by
  unfold loadOrCaptureBias
  rw [meets_bind]
  apply (loadOrCaptureLevel_silent _ _ _ _ _ _ journal turn.running).weaken
  · rintro level current rfl
    rw [meets_bind, Journal.contract, meets_perform_monitor]
    refine ⟨⟨turn.running, trivial⟩, ?_⟩
    intro observed
    have noted : current.after ⟨.observe (.trueOpenBias timeframe symbol price level
        (impliedBias price level)), observed⟩ = current.amend fun evaluation =>
          { evaluation with biases := evaluation.biases ++ [impliedBias price level] } := by
      simp [Journal.after, Journal.note, passesOn, Journal.amend]
    rw [noted]
    exact turn.amend _
  · rintro _ _ rfl
    exact turn.cut blank

/-- The end of a turn. -/
theorem appendDecision_turn (turn : Turn since journal openPositions evaluation)
    (blank : evaluation.records = []) {pair outcome : String}
    (ends : evaluation.Ends platform config now pair outcome)
    (ordered : evaluation.ordered = true → outcome = "order_submitted") (detail : Option String) :
    (do
      appendDecision pair outcome detail
      return (openPositions, outcome) : Cycle (List Position × String)).Meets Journal.contract
        (fun result after => Over platform config now since after evaluation.state result.1)
        (fun _ after => Cut since after) journal := by
  rw [meets_bind]
  have named : if journal.evaluations = [] then outcome = "position_closed"
      else outcome ∈ entryOutcomes := by
    rw [if_neg (by simp [turn.evaluations])]
    exact ends.mem_entryOutcomes
  apply (appendDecision_amends turn.running pair outcome detail named).weaken
  · rintro _ _ ⟨record, rfl, rfl, rfl⟩
    refine ⟨_, turn.amend _, rfl, record, ?_, ends.recording _, ordered⟩
    rw [blank, List.nil_append]
  · rintro _ _ rfl
    exact turn.cut blank

theorem submitApproved_turn (turn : Turn since journal openPositions evaluation)
    (blank : evaluation.records = []) {signal : TradeSignal} {decision : RiskDecision}
    (ends : Evaluation.Ends platform config now { evaluation with ordered := true } signal.pair
      "order_submitted") :
    (submitApproved snapshot openPositions signal decision).Meets Journal.contract
      (fun result after => Over platform config now since after evaluation.state result.1)
      (fun _ after => Cut since after) journal := by
  unfold submitApproved
  apply meets_mild turn.running rfl fun _ => rfl
  intro orderId
  rw [meets_bind, Journal.contract, meets_perform_monitor]
  refine ⟨⟨turn.running, turn.settled⟩, ?_⟩
  intro reply
  cases reply with
  | error failure =>
    refine ⟨⟨?_, turn.unwritten⟩, evaluation, turn.evaluations, blank⟩
    simp [Journal.after, passesOn]
  | ok order =>
    have accepted : journal.after ⟨.submitOrder (orderRequest orderId snapshot signal decision),
        .ok order⟩ = { journal with
          acted := true
          everActed := true
          evaluations := since.evaluations ++ [{ evaluation with ordered := true }] } := by
      simp only [Journal.after, Journal.note, passesOn, isFailure_ok, Bool.or_false, Journal.amend,
        turn.evaluations, List.modifyLast_concat]
    rw [accepted]
    let ordered : Journal := { journal with
      acted := true
      everActed := true
      evaluations := since.evaluations ++ [{ evaluation with ordered := true }] }
    have underway : Underway ordered openPositions :=
      ⟨turn.running, turn.read, turn.unwritten, turn.known, turn.reconciles⟩
    refine meets_mild underway.running rfl (fun _ => rfl) fun notified => ?_
    rw [meets_bind]
    apply (reconcileAndNotify_settles underway).weaken
    · rintro positions settled ⟨calm, frame, listing, listed⟩
      have still : Turn since settled positions { evaluation with ordered := true } := {
        toCalm := calm
        paused := (congrArg (fun frame => frame.1) frame).trans turn.paused
        listed := turn.listed.trans ⟨[listing], listed.symm⟩
        evaluations := congrArg (fun frame => frame.2.2.1) frame }
      have acted : settled.everActed = true := congrArg (fun frame => frame.2.1) frame
      rw [meets_bind]
      apply (appendPositions_keeps still.running acted still.settled positions).weaken
      · rintro _ _ rfl
        exact appendDecision_turn still blank ends (fun _ => rfl) none
      · rintro _ _ rfl
        exact still.cut blank
    · rintro _ after ⟨abandoned, frame⟩
      exact ⟨abandoned, { evaluation with ordered := true }, congrArg (fun frame => frame.2.2.1) frame,
        blank⟩

theorem sizeAndSubmit_turn (turn : Turn since journal openPositions evaluation)
    (blank : evaluation.records = []) (unordered : evaluation.ordered = false)
    {signal : TradeSignal} (signals : evaluation.Signals platform config signal.pair)
    (free : alreadyEnteredThisCycle signal.pair evaluation.known now = false) (isTuesday : Bool)
    (state : PairCycleState) :
    (sizeAndSubmit platform config snapshot isTuesday state openPositions signal).Meets Journal.contract
      (fun result after => Over platform config now since after evaluation.state result.1)
      (fun _ after => Cut since after) journal := by
  unfold sizeAndSubmit
  rw [meets_bind, Journal.contract, meets_perform_monitor]
  refine ⟨⟨turn.running, trivial⟩, ?_⟩
  intro reply
  cases reply with
  | error failure =>
    refine ⟨⟨?_, turn.unwritten⟩, evaluation, turn.evaluations, blank⟩
    simp [Journal.after, passesOn]
  | ok equity =>
    have same : journal.after ⟨.getAccountEquity, .ok equity⟩ = journal := by
      simp [Journal.after, Journal.note, passesOn]
    rw [same]
    refine meets_mild turn.running rfl (fun _ => rfl) fun decisionId => ?_
    obtain ⟨decision, evaluated⟩ := evaluate_decides platform.conversion signal
      (riskConfig platform.conversion config)
      (riskContext config snapshot isTuesday state openPositions signal equity) decisionId
    rw [evaluated, meets_bind]
    have noted : journal.after ⟨.observe (.riskDecision signal
        (riskConfig platform.conversion config) (riskContext config snapshot isTuesday state openPositions signal equity) decision), ()⟩ =
          journal.amend fun evaluation => { evaluation with decision := some decision } := by
      simp [Journal.after, Journal.note, passesOn, Journal.amend]
    have decided := turn.amend fun evaluation => { evaluation with decision := some decision }
    refine ⟨⟨turn.running, trivial⟩, ?_⟩
    rintro observed _ rfl
    rw [noted]
    split
    · rename_i approved
      exact submitApproved_turn decided blank (.orderSubmitted signals free rfl approved rfl)
    · rename_i unapproved
      have refused : decision.approved = false := by simpa using unapproved
      exact appendDecision_turn decided blank (.riskRejected signals free rfl refused)
        (fun ordered => absurd ordered (by simp [unordered]))
        (some (decision.rejectionReason.getD ""))

/-- The turn of one pair-set, from its beginning to its record. -/
theorem evaluatePairSet_turn (calm : Calm journal openPositions) (isTuesday : Bool)
    (holidays : HolidayProvider) (state : PairCycleState) :
    (evaluatePairSet platform config snapshot now isTuesday holidays openPositions state).Meets
      Journal.contract (fun result after => Over platform config now journal after state result.1)
      (fun _ after => Cut journal after) journal := by
  unfold evaluatePairSet
  dsimp only
  rw [meets_bind, Journal.contract, meets_perform_monitor]
  refine ⟨⟨calm.running, trivial⟩, ?_⟩
  intro observed
  have noted : journal.after ⟨.observe (.evaluating state), observed⟩ = { journal with
      evaluations := journal.evaluations ++ [.begun state openPositions] } := by
    simp [Journal.after, Journal.note, passesOn, calm.known]
  rw [noted]
  let begun : Journal := { journal with
    evaluations := journal.evaluations ++ [.begun state openPositions] }
  have turn : Turn journal begun openPositions (.begun state openPositions) := {
    toUnderway := ⟨calm.running, calm.read, calm.unwritten, calm.known, calm.reconciles⟩
    settled := calm.settled
    paused := rfl
    listed := List.prefix_rfl
    evaluations := rfl }
  have unordered : ∀ outcome, (Evaluation.begun state openPositions).ordered = true →
      outcome = "order_submitted" := fun _ ordered => absurd ordered Bool.false_ne_true
  split
  · rename_i narrow
    rw [meets_bind]
    apply (loadOrCaptureBias_turn turn rfl _ _ _ _).weaken _ fun _ _ cut => cut
    intro weeklyBias weekly turn
    rw [meets_bind]
    apply (loadOrCaptureBias_turn turn rfl _ _ _ _).weaken _ fun _ _ cut => cut
    intro dailyBias current turn
    let evaluation : Evaluation :=
      { Evaluation.begun state openPositions with biases := [weeklyBias, dailyBias] }
    have turn : Turn journal current openPositions evaluation := turn
    have narrow : evaluation.spreadPasses platform config = true := narrow
    refine meets_mild turn.running rfl (fun _ => rfl) fun traceId => ?_
    refine meets_mild turn.running rfl (fun _ => rfl) fun signalId => ?_
    refine meets_mild turn.running rfl (fun _ => rfl) fun timestamp => ?_
    split
    · rename_i generated
      have agree : evaluateSmt evaluation.state.divergenceInputs = none :=
        evaluateSmt_of_noDivergence generated
      exact appendDecision_turn turn rfl (.noDivergence narrow agree) (unordered _) none
    · rename_i invalidated generated
      obtain ⟨target, tier, diverges, shut⟩ := generateSignal_rejected generated
      have ends : evaluation.Ends platform config now state.pairConfig.primary "gate_rejected" :=
        .gateRejected narrow diverges rfl shut
      exact appendDecision_turn turn rfl ends (unordered _) (some invalidated.rejectionReason.debug)
    · rename_i signal generated
      obtain ⟨opened, target, diverges, pair⟩ := generateSignal_signal generated
      have signals : evaluation.Signals platform config signal.pair :=
        ⟨target, signal.direction, signal.tier, weeklyBias, dailyBias, narrow, diverges, rfl, opened,
          pair⟩
      split
      · rename_i entered
        exact appendDecision_turn turn rfl (.collisionSkip signals entered) (unordered _) none
      · rename_i notEntered
        have free : alreadyEnteredThisCycle signal.pair evaluation.known now = false :=
          Bool.eq_false_of_not_eq_true notEntered
        exact sizeAndSubmit_turn turn rfl rfl signals free isTuesday state
  · rename_i wide
    have ends : (Evaluation.begun state openPositions).Ends platform config now state.pairConfig.primary
        "spread_rejected" := .spreadRejected (Bool.eq_false_of_not_eq_true wide)
    exact appendDecision_turn turn rfl ends (unordered _) none

/-- The loop since `since` has taken the turns of `states`, and all left their records. -/
structure Looped (platform : Platform) (config : Config) (now : Instant) (since journal : Journal)
    (states : List PairCycleState) (openPositions : List Position) : Prop
    extends Calm journal openPositions where
  paused : journal.paused = since.paused
  listed : since.listings <+: journal.listings
  turns : ∃ turns, journal.evaluations = since.evaluations ++ turns ∧
    turns.map Evaluation.state = states ∧ ∀ evaluation ∈ turns, evaluation.Recorded platform config now

theorem Looped.extend {final : Journal} {states : List PairCycleState} {state : PairCycleState}
    {stillOpen : List Position} (looped : Looped platform config now since journal states openPositions)
    (ended : Over platform config now journal final state stillOpen) :
    Looped platform config now since final (states ++ [state]) stillOpen := by
  obtain ⟨turns, earlier, inTurn, recorded⟩ := looped.turns
  obtain ⟨evaluation, turn, rfl, last⟩ := ended
  refine {
    toCalm := turn.toCalm
    paused := turn.paused.trans looped.paused
    listed := looped.listed.trans turn.listed
    turns := ⟨turns ++ [evaluation], ?_, ?_, ?_⟩ }
  · rw [turn.evaluations, earlier, List.append_assoc]
  · rw [List.map_append, inTurn]
    rfl
  · rw [List.forall_mem_append]
    exact ⟨recorded, by simpa using last⟩

theorem entryLoop_turns (calm : Calm journal openPositions) (isTuesday : Bool)
    (holidays : HolidayProvider) (states : List PairCycleState) :
    (entryLoop platform config snapshot now isTuesday holidays openPositions states).Meets
      Journal.contract (fun result after => Looped platform config now journal after states result.1)
      (fun _ after => Abandoned after ∧ ∃ evaluation ∈ after.evaluations, evaluation.records = [])
      journal := by
  apply meets_foldlM fun front (progress : List Position × List String) after =>
    Looped platform config now journal after front progress.1
  · intro front state back progress current _ looped
    rw [meets_bind]
    apply (evaluatePairSet_turn looped.toCalm isTuesday holidays state).weaken
    · exact fun _ _ ended => looped.extend ended
    · rintro _ after ⟨abandoned, evaluation, same, blank⟩
      exact ⟨abandoned, evaluation, by simp [same], blank⟩
  · exact {
      toCalm := calm
      paused := rfl
      listed := List.prefix_rfl
      turns := ⟨[], by simp, rfl, by simp⟩ }

end turn

namespace Journal

/-- The journal of a loop that starts with these open positions. -/
def holding (openPositions : List Position) : Journal :=
  { empty with read := true, records := openPositions, known := openPositions }

theorem failed_foldl (events : List CycleEvent) (journal : Journal) :
    (events.foldl after journal).failed = (journal.failed || events.any passesOn) := by
  induction events generalizing journal with
  | nil => simp
  | cons event events ih => rw [List.foldl_cons, ih, List.any_cons, ← Bool.or_assoc]; rfl

end Journal

/-- The turns that these events of an entry loop make up. -/
def turnsOf (openPositions : List Position) (events : List CycleEvent) : List Evaluation :=
  (events.foldl Journal.after (.holding openPositions)).evaluations

/-- Every turn of an entry loop leaves exactly one record that names what happened,
unless a call of the loop fails with an error that is passed on. -/
theorem turns_recorded_iff {platform : Platform} {config : Config} {snapshot : BrokerSnapshot}
    {now : Instant} {isTuesday : Bool} {holidays : HolidayProvider} {openPositions : List Position}
    {states : List PairCycleState} {events : List CycleEvent}
    {outcome : Outcome CycleError (List Position × List String)}
    (trace : Trace (entryLoop platform config snapshot now isTuesday holidays openPositions states)
      events outcome) (finished : outcome ≠ .stopped) :
    (∀ evaluation ∈ turnsOf openPositions events, evaluation.Recorded platform config now) ↔
      ∀ event ∈ events, passesOn event = false := by
  have calm : Calm (.holding openPositions) openPositions := ⟨⟨rfl, rfl, rfl, rfl, rfl⟩, rfl⟩
  have steps : Steps Journal.contract.step (.holding openPositions) events
      (events.foldl Journal.after (.holding openPositions)) := steps_monitor events _
  have failed := Journal.failed_foldl events (.holding openPositions)
  cases outcome with
  | stopped => exact absurd rfl finished
  | done result =>
    have looped := (entryLoop_turns calm isTuesday holidays states).ends_done trace steps
    obtain ⟨turns, same, _, recorded⟩ := looped.turns
    rw [looped.running] at failed
    refine iff_of_true ?_ ?_
    · rw [turnsOf, same]
      exact recorded
    · simpa [Journal.holding, Journal.empty] using failed.symm
  | failed failure =>
    obtain ⟨abandoned, evaluation, member, blank⟩ :=
      (entryLoop_turns calm isTuesday holidays states).ends_failed trace steps
    rw [abandoned.failed] at failed
    refine iff_of_false ?_ ?_
    · intro recorded
      obtain ⟨record, left, _⟩ := recorded evaluation member
      rw [blank] at left
      cases left
    · intro mild
      have noFailure : events.any passesOn = false := by simpa using mild
      simp [Journal.holding, Journal.empty, noFailure] at failed

/-- Two pair-sets of the same symbols: the first is ordered, the second collides with it. -/
def sweptTwice : Cycle (List Position × List String) :=
  entryLoop .winter .default sweptSnapshot wednesdayMorning false staticHolidayProvider []
    [sweptSecondary, sweptSecondary]

theorem sweptTwice_recorded :
    let events := (sweptTwice.play Host.answer (.fresh .default .empty)).1
    (turnsOf [] events).length = 2 ∧
      ((∀ evaluation ∈ turnsOf [] events, evaluation.Recorded .winter .default wednesdayMorning) ↔
        ∀ event ∈ events, passesOn event = false) := by
  intro events
  have trace := sweptTwice.play_trace Host.answer (.fresh .default .empty)
  exact ⟨by decide +kernel, turns_recorded_iff trace (sweptTwice.play_finished _ _)⟩

/-- A broker that refuses every order. -/
def refuseOrders (host : Host) : (call : Call) → Reply call × Host
  | .submitOrder _ => (.error (.rejected "insufficient margin"), host)
  | call => host.answer call

/-- A refused order leaves a turn without a record. -/
theorem refusedOrder_unrecorded :
    ¬∀ (platform : Platform) (config : Config) (snapshot : BrokerSnapshot) (now : Instant)
      (isTuesday : Bool) (holidays : HolidayProvider) (openPositions : List Position)
      (states : List PairCycleState) (events : List CycleEvent)
      (outcome : Outcome CycleError (List Position × List String)),
      Trace (entryLoop platform config snapshot now isTuesday holidays openPositions states)
        events outcome → outcome ≠ .stopped →
      ∀ evaluation ∈ turnsOf openPositions events, evaluation.Recorded platform config now := by
  intro claimed
  let host := Host.fresh .default .empty
  have recorded := claimed .winter .default sweptSnapshot wednesdayMorning false staticHolidayProvider
    [] [sweptSecondary, sweptSecondary] _ _ (sweptTwice.play_trace refuseOrders host)
    (sweptTwice.play_finished refuseOrders host)
  have blank : ∃ evaluation ∈ turnsOf [] (sweptTwice.play refuseOrders host).1,
      evaluation.records = [] := by decide +kernel
  obtain ⟨evaluation, member, none⟩ := blank
  obtain ⟨record, left, _⟩ := recorded evaluation member
  rw [none] at left
  cases left

end Oboobot.Daemon
