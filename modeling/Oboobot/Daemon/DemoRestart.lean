import Oboobot.Daemon.Demo
import Oboobot.Daemon.Host

/-! The walkthrough killed anywhere: how far the positions on file can be behind the
broker's, and what a restart finds. -/

namespace Oboobot.Daemon

open Domain SessionTime Strategy Risk Broker Interaction

/-- The broker double, and the records of `positions.cursor`. -/
structure DemoWorld where
  broker : MockBroker
  cursor : List Position

/-- An append that fails may still have left its record. A file that was not there to be
removed is not there afterwards either. -/
def DemoStep (world : DemoWorld) (event : DemoEvent) (after : DemoWorld) : Prop :=
  match event with
  | ⟨.removePositions, _⟩ => after = { world with cursor := [] }
  | ⟨.readPositions, .ok records⟩ => records = world.cursor ∧ after = world
  | ⟨.appendPosition position, .ok _⟩ =>
    after = { world with cursor := world.cursor ++ [position] }
  | ⟨.appendPosition position, .error _⟩ =>
    after = world ∨ after = { world with cursor := world.cursor ++ [position] }
  | ⟨.broker call, reply⟩ =>
    MockStep world.broker ⟨call, reply⟩ after.broker ∧ after.cursor = world.cursor
  | _ => after = world

namespace DemoWorld

def brokerIds (world : DemoWorld) : List Uuid := positionIds world.broker.positions.values

def filedIds (world : DemoWorld) : List Uuid := positionIds world.cursor

/-- Every position on file is open, and at most one open position is not on file. -/
structure NearlyFiled (equity : Usd) (world : DemoWorld) : Prop where
  open' : ∀ id ∈ world.filedIds, id ∈ world.brokerIds
  missing : (world.brokerIds.filter (· ∉ world.filedIds)).length ≤ 1
  few : world.broker.positions.values.length ≤ Demo.demoRiskConfig.maxOpenPositions
  equity : world.broker.equity = equity

/-- File, broker and memory name the same positions. -/
structure InStep (equity : Usd) (openPositions : List Position) (world : DemoWorld) : Prop where
  filed : SameIds world.filedIds world.brokerIds
  known : openPositions.Perm world.broker.positions.values
  few : world.broker.positions.values.length ≤ Demo.demoRiskConfig.maxOpenPositions
  equity : world.broker.equity = equity

end DemoWorld

/-- When each call is made. -/
def DemoPromise (equity : Usd) (world : DemoWorld) : DemoCall → Prop
  | .removePositions => world.broker.positions.values = [] ∧ world.broker.equity = equity
  | .appendPosition position =>
    world.NearlyFiled equity ∧ position.positionId ∈ world.brokerIds
  | .broker (.submitOrder _) => ∃ openPositions, world.InStep equity openPositions ∧
    openPositions.length < Demo.demoRiskConfig.maxOpenPositions
  | .broker call => world.NearlyFiled equity ∧ call.IsQuiet
  | _ => True

def demoContract (equity : Usd) : Contract DemoCall DemoReply DemoWorld where
  step := DemoStep
  promise := DemoPromise equity

section steps
variable {equity : Usd} {world after : DemoWorld} {openPositions : List Position}

theorem DemoWorld.filedIds_append (world : DemoWorld) (position : Position) :
    DemoWorld.filedIds { world with cursor := world.cursor ++ [position] } =
      world.filedIds ++ [position.positionId] := List.map_append

theorem DemoWorld.NearlyFiled.appended (filed : world.NearlyFiled equity) {position : Position}
    (member : position.positionId ∈ world.brokerIds) :
    DemoWorld.NearlyFiled equity { world with cursor := world.cursor ++ [position] } where
  open' id filed' := by
    rw [world.filedIds_append] at filed'
    rcases List.mem_append.mp filed' with before | last
    · exact filed.open' id before
    · exact List.mem_singleton.mp last ▸ member
  missing := by
    rw [world.filedIds_append]
    refine (List.Sublist.length_le ?_).trans filed.missing
    refine List.monotone_filter_right _ fun other => ?_
    simp only [List.mem_append, not_or, decide_eq_true_eq]
    exact fun apart => apart.1
  few := filed.few
  equity := filed.equity

theorem DemoWorld.InStep.missing (inStep : world.InStep equity openPositions) :
    world.brokerIds.filter (· ∉ world.filedIds) = [] := by
  rw [List.filter_eq_nil_iff]
  intro id listed
  simpa using (inStep.filed id).mpr listed

theorem DemoWorld.InStep.nearlyFiled (inStep : world.InStep equity openPositions) :
    world.NearlyFiled equity where
  open' id filed := (inStep.filed id).mp filed
  missing := by
    rw [inStep.missing]
    exact Nat.zero_le 1
  few := inStep.few
  equity := inStep.equity

/-- A quiet call of the double changes nothing that matters here. -/
theorem quiet_step {call : MockCall} {reply : MockReply call} (quiet : call.IsQuiet)
    (step : DemoStep world ⟨.broker call, reply⟩ after) :
    ∃ orders callCount, after = { world with broker := { world.broker with orders, callCount } } := by
  obtain ⟨orders, callCount, same⟩ := MockStep.quiet quiet step.1
  refine ⟨orders, callCount, ?_⟩
  obtain ⟨broker, cursor⟩ := after
  obtain rfl : broker = _ := same
  obtain rfl : cursor = _ := step.2
  rfl

/-- An order opens at most one position, and moves no money. -/
theorem submitOrder_step {request : OrderRequest} {reply : Except BrokerError Order}
    (inStep : world.InStep equity openPositions)
    (room : openPositions.length < Demo.demoRiskConfig.maxOpenPositions)
    (step : DemoStep world ⟨.broker (.submitOrder request), reply⟩ after) :
    after.NearlyFiled equity := by
  obtain ⟨broker, cursor⟩ := after
  obtain rfl : cursor = world.cursor := step.2
  rcases MockStep.submitOrder_cases step.1 with ⟨_, _, _, _, _, _, _, same⟩ |
    ⟨_, draws, fresh, _, same⟩
  · obtain rfl : broker = _ := same
    exact ⟨inStep.nearlyFiled.open', inStep.nearlyFiled.missing, inStep.few, inStep.equity⟩
  · obtain rfl : broker = _ := same
    have joined : (world.broker.positions.insert
        (world.broker.counted.filledPosition request draws)).values =
          world.broker.positions.values ++ [world.broker.counted.filledPosition request draws] :=
      Filed.values_insert fresh
    have ids : DemoWorld.brokerIds ⟨(world.broker.counted.fill request draws).2, world.cursor⟩ =
        world.brokerIds ++ [draws.id] := by
      simp only [DemoWorld.brokerIds, positionIds, MockBroker.fill, MockBroker.counted] at joined ⊢
      rw [joined, List.map_append]
      rfl
    have same : DemoWorld.filedIds ⟨(world.broker.counted.fill request draws).2, world.cursor⟩ =
        world.filedIds := rfl
    refine ⟨fun id filed => ?_, ?_, ?_, inStep.equity⟩
    · rw [ids]
      exact List.mem_append_left _ ((inStep.filed id).mp filed)
    · rw [ids, same, List.filter_append, inStep.missing, List.nil_append]
      exact List.length_filter_le _ _
    · have size := inStep.known.length_eq
      refine (congrArg List.length joined).trans_le ?_
      rw [List.length_append, List.length_singleton, ← size]
      exact room

/-- Once the old file is gone, a promised step leaves the file nearly complete. -/
theorem nearlyFiled_step {event : DemoEvent} (promised : DemoPromise equity world event.call)
    (step : DemoStep world event after) : after = world ∨ after.NearlyFiled equity := by
  obtain ⟨call, reply⟩ := event
  cases call with
  | removePositions =>
    obtain ⟨empty, same⟩ := promised
    obtain rfl : after = _ := step
    have unlisted : DemoWorld.brokerIds { world with cursor := [] } = [] :=
      congrArg positionIds empty
    refine .inr ⟨fun id filed => (List.not_mem_nil filed).elim, ?_, ?_, same⟩
    · rw [unlisted]
      exact Nat.zero_le 1
    · exact (congrArg List.length empty).trans_le (Nat.zero_le _)
  | readPositions =>
    cases reply with
    | error failure => exact .inl step
    | ok records => exact .inl step.2
  | appendPosition position =>
    obtain ⟨filed, member⟩ := promised
    cases reply with
    | error failure =>
      rcases step with rfl | rfl
      · exact .inl rfl
      · exact .inr (filed.appended member)
    | ok done =>
      obtain rfl : after = _ := step
      exact .inr (filed.appended member)
  | broker call =>
    by_cases quiet : call.IsQuiet
    · obtain ⟨orders, callCount, rfl⟩ := quiet_step quiet step
      have filed : world.NearlyFiled equity := by
        cases call with
        | submitOrder request => cases quiet
        | _ => exact promised.1
      exact .inr ⟨filed.open', filed.missing, filed.few, filed.equity⟩
    · cases call with
      | submitOrder request =>
        obtain ⟨openPositions, inStep, room⟩ := promised
        exact .inr (submitOrder_step inStep room step)
      | _ => exact absurd promised.2 quiet
  | _ => exact .inl step

end steps

section program
variable {equity : Usd} {world : DemoWorld} {α : Type} {post : α → DemoWorld → Prop}

/-- What ends early ends anywhere. -/
abbrev DemoMeets (equity : Usd) (program : Demo α) (post : α → DemoWorld → Prop)
    (world : DemoWorld) : Prop :=
  program.Meets (demoContract equity) post (fun _ _ => True) world

theorem meets_persisted (result : Except Persistence.PersistenceError α)
    (rest : ∀ value, result = .ok value → post value world) :
    DemoMeets equity (Demo.persisted result) post world :=
  (meets_ofExcept ..).mpr ⟨rest, fun _ _ => trivial⟩

theorem meets_brokered (result : Except BrokerError α)
    (rest : ∀ value, result = .ok value → post value world) :
    DemoMeets equity (Demo.brokered result) post world :=
  (meets_ofExcept ..).mpr ⟨rest, fun _ _ => trivial⟩

/-- A quiet call of the double keeps file, broker and memory in step. -/
theorem meets_quiet {call : MockCall} {openPositions : List Position} (quiet : call.IsQuiet)
    {post : MockReply call → DemoWorld → Prop} (inStep : world.InStep equity openPositions)
    (rest : ∀ reply after, after.InStep equity openPositions →
      DemoStep world ⟨.broker call, reply⟩ after → post reply after) :
    DemoMeets equity (Demo.perform (.broker call)) post world := by
  refine ⟨?_, fun reply after step => rest reply after ?_ step⟩
  · cases call with
    | submitOrder request => cases quiet
    | _ => exact ⟨inStep.nearlyFiled, quiet⟩
  · obtain ⟨orders, callCount, rfl⟩ := quiet_step quiet step
    exact ⟨inStep.filed, inStep.known, inStep.few, inStep.equity⟩

/-- All that is open is put on file. -/
theorem Demo.appendPositions_meets {openPositions : List Position} (filed : world.NearlyFiled equity)
    (known : openPositions.Perm world.broker.positions.values) :
    DemoMeets equity (Demo.appendPositions openPositions)
      (fun _ after => after.InStep equity openPositions) world := by
  have loop : DemoMeets equity (Demo.appendPositions openPositions)
      (fun _ after => after.NearlyFiled equity ∧ after.broker = world.broker ∧
        ∀ id ∈ positionIds openPositions, id ∈ after.filedIds) world := by
    refine meets_foldlM (fun front _ (after : DemoWorld) => after.NearlyFiled equity ∧
      after.broker = world.broker ∧ ∀ id ∈ positionIds front, id ∈ after.filedIds) ?_ ()
      ⟨filed, rfl, fun id member => (List.not_mem_nil member).elim⟩
    intro front position back _ after split kept
    obtain ⟨near, same, covered⟩ := kept
    have member : position.positionId ∈ after.brokerIds := by
      rw [DemoWorld.brokerIds, same]
      refine List.mem_map_of_mem (known.mem_iff.mp ?_)
      simp [split]
    rw [meets_bind, meets_perform]
    refine ⟨⟨near, member⟩, fun reply final step => meets_persisted _ fun value ok => ?_⟩
    subst ok
    obtain rfl : final = _ := step
    refine ⟨near.appended member, same, fun id listed => ?_⟩
    rw [after.filedIds_append]
    rw [positionIds, List.map_append, List.mem_append] at listed
    rcases listed with before | last
    · exact List.mem_append_left _ (covered id before)
    · exact List.mem_append_right _ last
  refine loop.weaken ?_ fun _ _ _ => trivial
  intro _ after kept
  obtain ⟨near, same, covered⟩ := kept
  refine ⟨fun id => ⟨near.open' id, fun listed => ?_⟩, same ▸ known, near.few, near.equity⟩
  refine covered id ?_
  rw [DemoWorld.brokerIds, same] at listed
  exact (known.map Position.positionId).mem_iff.mpr listed

variable {openPositions : List Position} (platform : Platform) (assistant : AssistantEngine)

/-- A call that neither the broker nor the file sees. -/
theorem meets_unseen {call : DemoCall} {post : DemoReply call → DemoWorld → Prop}
    (unseen : call = .newUuid ∨ call = .utcNow ∨ ∃ record, call = .appendRecommendation record)
    (rest : ∀ reply, post reply world) : DemoMeets equity (Demo.perform call) post world := by
  rcases unseen with rfl | rfl | ⟨record, rfl⟩ <;> refine ⟨trivial, fun reply after step => ?_⟩ <;>
    obtain rfl : after = world := step <;> exact rest reply

theorem Demo.recordRecommendation_meets {recommendation : Recommendation}
    (start : world.InStep equity openPositions) :
    DemoMeets equity (Demo.recordRecommendation recommendation)
      (fun _ after => after.InStep equity openPositions) world := by
  unfold Demo.recordRecommendation
  rw [DemoMeets, meets_bind]
  refine meets_unseen (.inr (.inl rfl)) fun timestamp => ?_
  rw [meets_bind]
  exact meets_unseen (.inr (.inr ⟨_, rfl⟩)) fun reply => meets_persisted _ fun _ _ => start

theorem Demo.recordAll_meets (recommendations : List Recommendation)
    (start : world.InStep equity openPositions) :
    DemoMeets equity (recommendations.foldlM (fun _ recommendation =>
      Demo.recordRecommendation recommendation) ())
      (fun _ after => after.InStep equity openPositions) world :=
  meets_foldlM (fun _ _ (after : DemoWorld) => after.InStep equity openPositions)
    (fun _ _ _ _ _ _ inStep => Demo.recordRecommendation_meets inStep) () start

theorem Demo.submitApproved_meets {snapshot : BrokerSnapshot} {signal : TradeSignal}
    {decision : RiskDecision} (start : world.InStep equity openPositions)
    (room : openPositions.length < Demo.demoRiskConfig.maxOpenPositions) :
    DemoMeets equity (Demo.submitApproved snapshot signal decision)
      (fun openPositions after => after.InStep equity openPositions) world := by
  unfold Demo.submitApproved
  rw [DemoMeets, meets_bind]
  refine meets_unseen (.inl rfl) fun orderId => ?_
  rw [meets_bind, meets_perform]
  refine ⟨⟨openPositions, start, room⟩, fun submitted ordered step => ?_⟩
  have filed := submitOrder_step start room step
  rw [meets_bind]
  refine meets_brokered _ fun order _ => ?_
  rw [meets_bind, meets_perform]
  refine ⟨⟨filed, trivial⟩, fun reply listed step => ?_⟩
  rw [meets_bind]
  refine meets_brokered _ fun listing ok => ?_
  obtain ⟨⟨counted, _, same, perm⟩, unchanged⟩ := step
  obtain ⟨broker, cursor⟩ := listed
  obtain rfl : cursor = _ := unchanged
  obtain rfl : broker = _ := counted
  cases ok.symm.trans same
  have still : DemoWorld.NearlyFiled equity ⟨ordered.broker.counted, ordered.cursor⟩ :=
    ⟨filed.open', filed.missing, filed.few, filed.equity⟩
  rw [meets_bind]
  exact (Demo.appendPositions_meets still perm).weaken (fun _ _ inStep => inStep) fun _ _ _ => trivial

theorem Demo.sizeAndSubmit_meets {cycle : Demo.ScriptedCycle} {snapshot : BrokerSnapshot}
    {signal : TradeSignal} (start : world.InStep equity openPositions) :
    DemoMeets equity (Demo.sizeAndSubmit platform cycle snapshot openPositions signal)
      (fun openPositions after => after.InStep equity openPositions) world := by
  unfold Demo.sizeAndSubmit
  rw [DemoMeets, meets_bind]
  refine meets_quiet (by trivial) start fun reply asked inStep _ => ?_
  rw [meets_bind]
  refine meets_brokered _ fun equity' _ => ?_
  dsimp only
  rw [meets_bind]
  refine meets_unseen (.inl rfl) fun decisionId => ?_
  rw [meets_bind, meets_ofExcept]
  refine ⟨fun decision evaluated => ?_, fun _ _ => trivial⟩
  split
  · rename_i approved
    obtain ⟨_, gates, _⟩ := evaluate_approved evaluated approved
    exact Demo.submitApproved_meets inStep gates.openPositions
  · exact inStep

theorem Demo.runCycle_meets {cycle : Demo.ScriptedCycle} (start : world.InStep equity openPositions) :
    DemoMeets equity (Demo.runCycle platform assistant openPositions cycle)
      (fun openPositions after => after.InStep equity openPositions) world := by
  unfold Demo.runCycle
  split
  · exact start
  · rw [DemoMeets, meets_bind]
    refine meets_quiet (by trivial) start fun reply captured inStep _ => ?_
    rw [meets_bind]
    refine meets_brokered _ fun snapshot _ => ?_
    rw [meets_bind]
    refine meets_unseen (.inl rfl) fun eventId => ?_
    dsimp only
    rw [meets_bind]
    refine (Demo.recordAll_meets (assistant _) inStep).weaken (fun _ after inStep => ?_) fun _ _ _ => trivial
    rw [meets_bind]
    refine meets_unseen (.inl rfl) fun traceId => ?_
    rw [meets_bind]
    refine meets_unseen (.inl rfl) fun signalId => ?_
    rw [meets_bind]
    refine meets_unseen (.inr (.inl rfl)) fun timestamp => ?_
    split
    · exact inStep
    · exact inStep
    · exact Demo.sizeAndSubmit_meets platform inStep

/-- What a restart finds after all cycles: nothing to adopt and nothing to drop. -/
structure CleanRestart (report : Demo.RestartReport) (world : DemoWorld) : Prop where
  clean : report.clean = true
  kept : report.reconciledAfterRestart = report.recoveredFromDisk
  remembered : report.openBeforeRestart = world.broker.positions.values.length

/-- A restart that reads the file and asks the broker. -/
theorem cleanRestart_of_inStep {recovered listing : List Position} {after : DemoWorld}
    (inStep : world.InStep equity openPositions) (read : recovered = world.cursor)
    (listed : listing.Perm world.broker.positions.values)
    (same : after.broker.positions = world.broker.positions) :
    CleanRestart {
      openBeforeRestart := openPositions.length
      recoveredFromDisk := recovered.length
      reconciledAfterRestart := (applyReconciliation (reconcile listing recovered)).length
      clean := (reconcile listing recovered).isClean } after := by
  subst read
  have ids : SameIds (positionIds listing) (positionIds world.cursor) := by
    intro id
    exact (listed.map Position.positionId).mem_iff.trans (inStep.filed id).symm
  have clean := (isClean_iff listing world.cursor).mpr ids
  have adopted : (reconcile listing world.cursor).unknownToLocal = [] := by
    simpa using (Bool.and_eq_true_iff.mp clean).2
  have confirmed : (reconcile listing world.cursor).confirmed = world.cursor := by
    refine List.filter_eq_self.mpr fun position member => ?_
    simpa using (ids position.positionId).mpr (List.mem_map_of_mem member)
  refine ⟨clean, ?_, ?_⟩
  · simp [applyReconciliation, adopted, confirmed]
  · rw [same]
    exact inStep.known.length_eq

theorem Demo.walkthrough_meets (cycles : List Demo.ScriptedCycle)
    (fresh : world.broker.positions.values = []) :
    DemoMeets world.broker.equity (Demo.walkthrough platform assistant cycles) CleanRestart world := by
  unfold Demo.walkthrough
  rw [DemoMeets, meets_bind, meets_perform]
  refine ⟨trivial, fun made after step => ?_⟩
  obtain rfl : after = world := step
  rw [meets_bind]
  refine meets_persisted _ fun _ _ => ?_
  rw [meets_bind, meets_perform]
  refine ⟨⟨fresh, rfl⟩, fun removed after' step => ?_⟩
  obtain rfl : after' = _ := step
  have start : DemoWorld.InStep after.broker.equity [] { after with cursor := [] } := by
    refine ⟨fun id => ?_, ?_, ?_, rfl⟩
    · simp [DemoWorld.filedIds, DemoWorld.brokerIds, positionIds, fresh]
    · simp [fresh]
    · simp [fresh]
  rw [meets_bind, meets_perform]
  refine ⟨trivial, fun reply read step => ?_⟩
  rw [meets_bind]
  refine meets_persisted _ fun known ok => ?_
  subst ok
  obtain ⟨rfl, rfl⟩ := step
  rw [meets_bind]
  refine meets_quiet (by trivial) start fun reply listed inStep step => ?_
  rw [meets_bind]
  refine meets_brokered _ fun brokerPositions ok => ?_
  obtain ⟨⟨_, listing, same, perm⟩, _⟩ := step
  cases ok.symm.trans same
  obtain rfl : brokerPositions = [] := List.perm_nil.mp (fresh ▸ perm)
  dsimp only
  rw [meets_bind]
  have cycled : DemoMeets after.broker.equity (cycles.foldlM (Demo.runCycle platform assistant)
      (applyReconciliation (reconcile [] [])))
      (fun openPositions later => later.InStep after.broker.equity openPositions) listed :=
    meets_foldlM (fun _ openPositions (later : DemoWorld) =>
      later.InStep after.broker.equity openPositions)
      (fun _ _ _ _ _ _ inStep => Demo.runCycle_meets platform assistant inStep) _ inStep
  refine cycled.weaken (fun openPositions later inStep => ?_) fun _ _ _ => trivial
  rw [meets_bind, meets_perform]
  refine ⟨trivial, fun reply read step => ?_⟩
  rw [meets_bind]
  refine meets_persisted _ fun recovered ok => ?_
  subst ok
  obtain ⟨recoveredSame, rfl⟩ := step
  rw [meets_bind]
  refine meets_quiet (by trivial) inStep fun reply final _ step => ?_
  rw [meets_bind]
  refine meets_brokered _ fun listing ok => ?_
  obtain ⟨⟨counted, _, same, perm⟩, _⟩ := step
  cases ok.symm.trans same
  exact cleanRestart_of_inStep inStep recoveredSame perm (counted ▸ rfl)

end program

section runs
variable {start final : DemoWorld} {platform : Platform} {assistant : AssistantEngine}
  {cycles : List Demo.ScriptedCycle} {events : List DemoEvent}
  {outcome : Outcome DemoError Demo.RestartReport}

/-- Whatever the script of cycles and of broker responses, and wherever the walkthrough
stops: every position on file is open, at most one open position is not on file, no more
are open than the limit, and no money has moved; a walkthrough that finishes has found a
clean restart. -/
theorem walkthrough_restarts (fresh : start.broker.positions.values = [])
    (trace : Trace (Demo.walkthrough platform assistant cycles) events outcome)
    (steps : Steps DemoStep start events final) :
    (final = start ∨ final.NearlyFiled start.broker.equity) ∧
      ∀ report, outcome = .done report → CleanRestart report final := by
  have meets := Demo.walkthrough_meets platform assistant cycles fresh
  constructor
  · refine meets.kept (fun world => world = start ∨ world.NearlyFiled start.broker.equity) ?_
      (.inl rfl) trace steps
    intro world event after kept promised step
    rcases nearlyFiled_step promised step with rfl | filed
    · exact kept
    · exact .inr filed
  · rintro report rfl
    exact meets.ends_done trace steps

end runs

/-- The double on its own, drawing the given id and time. It lists in the order of its maps. -/
def answerMock (broker : MockBroker) (draws : Draws) : (call : MockCall) → MockReply call × MockBroker
  | .queueSubmitOrderResponse response => ((), broker.queueSubmitOrderResponse response)
  | .forgetPosition id => (broker.positions.get? id, broker.forgetPosition id)
  | .insertPosition position =>
    (broker.positions.get? position.positionId, broker.insertPosition position)
  | .getSnapshot pairs =>
    let (snapshot, broker) := broker.getSnapshot pairs draws
    (.ok snapshot, broker)
  | .submitOrder request => broker.submitOrder request draws
  | .cancelOrder orderId => broker.cancelOrder orderId
  | .closePosition positionId => broker.closePosition positionId draws
  | .getAccountEquity => (.ok broker.equity, broker.counted)
  | .listOpenPositions => (.ok broker.positions.values, broker.counted)
  | .listOpenOrders => (.ok broker.orders.values, broker.counted)
  | .fetchHistoricalPrices _ _ => (.error (.notImplemented
      "fetch_historical_prices is not implemented for this broker"), broker)

/-- A directory that works, and ids that count up. -/
structure DemoHost where
  world : DemoWorld
  nextId : Nat

def DemoHost.draws (host : DemoHost) : Draws where
  id := .ofNat 128 host.nextId
  clock _ := 0

def DemoHost.answer (host : DemoHost) : (call : DemoCall) → DemoReply call × DemoHost
  | .createStateDir => (.ok (), host)
  | .removePositions => (.ok (), { host with world := { host.world with cursor := [] } })
  | .readPositions => (.ok host.world.cursor, host)
  | .appendPosition position => (.ok (), { host with
      world := { host.world with cursor := host.world.cursor ++ [position] } })
  | .appendRecommendation _ => (.ok (), host)
  | .broker call =>
    let (reply, broker) := answerMock host.world.broker host.draws call
    (reply, { world := { host.world with broker }, nextId := host.nextId + 1 })
  | .newUuid => (.ofNat 128 host.nextId, { host with nextId := host.nextId + 1 })
  | .utcNow => (0, host)

theorem DemoHost.answer_step (host : DemoHost) (call : DemoCall)
    (fresh : (host.world.broker.positions.get? host.draws.id).isNone = true) :
    DemoStep host.world ⟨call, (host.answer call).1⟩ (host.answer call).2.world := by
  cases call with
  | readPositions => exact ⟨rfl, rfl⟩
  | broker call =>
    refine ⟨?_, rfl⟩
    cases call with
    | queueSubmitOrderResponse response => rfl
    | forgetPosition id => exact ⟨rfl, rfl⟩
    | insertPosition position => exact ⟨rfl, rfl⟩
    | getSnapshot pairs => exact ⟨host.draws, rfl, rfl⟩
    | submitOrder request => exact ⟨host.draws, Option.isNone_iff_eq_none.mp fresh, rfl⟩
    | cancelOrder orderId => rfl
    | closePosition positionId => exact ⟨host.draws, rfl⟩
    | getAccountEquity => exact ⟨rfl, rfl⟩
    | listOpenPositions => exact ⟨rfl, _, rfl, .refl _⟩
    | listOpenOrders => exact ⟨rfl, _, rfl, .refl _⟩
    | fetchHistoricalPrices pair days => exact ⟨rfl, rfl⟩
  | _ => rfl

def demoHost : DemoHost where
  world := { broker := .new (.fromDecimal 10000) 1.1, cursor := [] }
  nextId := 1

/-- The walkthrough of the source opens one position and finds it again. -/
theorem runDemo_restarts :
    let played := (Demo.runDemo .winter).play DemoHost.answer demoHost
    ∃ report, played.2.1 = .done report ∧ report.recoveredFromDisk = 1 ∧
      CleanRestart report played.2.2.world := by
  intro played
  have fresh : ((Demo.runDemo .winter).moments DemoHost.answer demoHost).all (fun moment =>
      (moment.1.world.broker.positions.get? moment.1.draws.id).isNone) = true := by decide +kernel
  have steps : Steps DemoStep demoHost.world played.1 played.2.2.world :=
    Steps.played_moments _ _ fun moment member =>
      moment.1.answer_step moment.2 (List.all_eq_true.mp fresh moment member)
  have recovered : played.2.1.value?.map Demo.RestartReport.recoveredFromDisk = some 1 := by
    decide +kernel
  obtain ⟨report, finished, one⟩ := Option.map_eq_some_iff.mp recovered
  have ended := Outcome.value?_eq_some.mp finished
  have trace : Trace (Demo.runDemo .winter) played.1 played.2.1 := Program.play_trace ..
  exact ⟨report, ended, one, (walkthrough_restarts rfl trace steps).2 report ended⟩

end Oboobot.Daemon
