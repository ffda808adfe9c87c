import Oboobot.Daemon.ReplayReports
import Oboobot.Daemon.TradeRecords

/-! The trades that a replay reports, against the positions its broker is left with. -/

namespace Oboobot.Daemon

open Domain SessionTime Strategy Risk Broker Interaction

/-- The records with this outcome. -/
def labelled (decisions : List DecisionRecord) (outcome : String) : Nat :=
  decisions.countP fun decision => decide (decision.outcome = outcome)

theorem labelled_append (decisions : List DecisionRecord) (decision : DecisionRecord)
    (outcome : String) : labelled (decisions ++ [decision]) outcome =
      labelled decisions outcome + if decision.outcome = outcome then 1 else 0 := by
  simp [labelled, List.countP_append, List.countP_cons]

theorem decisionCounts_eq_labelled (decisions : List DecisionRecord) (outcome : String) :
    (decisionCounts decisions outcome).getD 0 = labelled decisions outcome := by
  have counted := entryCount_decisionCounts decisions (List.nodup_singleton outcome)
  simpa [entryCount, labelled] using counted

/-- What a cycle's audit says of the replay it was played against. -/
structure Mirrors (before host : ReplayHost) (audit : Audit) : Prop where
  opened : labelled host.decisions "order_submitted" =
    labelled before.decisions "order_submitted" + audit.openedRecords.length
  closed : labelled host.decisions "position_closed" =
    labelled before.decisions "position_closed" + audit.closedRecords.length
  book : host.broker.state.positions.length + audit.closed.length =
    before.broker.state.positions.length + audit.opened.length
  equity : host.broker.startingEquity = before.broker.startingEquity
  realized : audit.closed = [] →
    host.broker.state.realizedPnlTotal = before.broker.state.realizedPnlTotal

theorem mirrors_refl (host : ReplayHost) : Mirrors host host .empty :=
  ⟨rfl, rfl, rfl, rfl, fun _ => rfl⟩

variable {before host : ReplayHost} {audit : Audit}

/-- A reply that neither trades nor records changes nothing that is mirrored. -/
theorem Mirrors.keep {after : ReplayHost} (mirrors : Mirrors before host audit)
    (decisions : after.decisions = host.decisions) (broker : after.broker = host.broker) :
    Mirrors before after audit :=
  ⟨decisions ▸ mirrors.opened, decisions ▸ mirrors.closed, broker ▸ mirrors.book,
    broker ▸ mirrors.equity, broker ▸ mirrors.realized⟩

theorem Mirrors.record (mirrors : Mirrors before host audit) (decision : DecisionRecord) :
    Mirrors before { host with decisions := host.decisions ++ [decision] } (audit.record decision) := by
  have opened := mirrors.opened
  have closed := mirrors.closed
  unfold Audit.record
  split
  · rename_i label
    have other : decision.outcome ≠ "position_closed" := by rw [label]; decide
    refine ⟨?_, ?_, mirrors.book, mirrors.equity, mirrors.realized⟩
    · simp only [labelled_append, if_pos label, List.length_append, List.length_singleton]
      omega
    · simpa [labelled_append, other] using closed
  · rename_i other
    split
    · rename_i label
      refine ⟨?_, ?_, mirrors.book, mirrors.equity, mirrors.realized⟩
      · simpa [labelled_append, other] using opened
      · simp only [labelled_append, if_pos label, List.length_append, List.length_singleton]
        omega
    · rename_i other'
      refine ⟨?_, ?_, mirrors.book, mirrors.equity, mirrors.realized⟩
      · simpa [labelled_append, other] using opened
      · simpa [labelled_append, other'] using closed

theorem ReplayBroker.submitOrder_state {broker after : ReplayBroker} {id : Uuid} {now : Instant}
    {request : OrderRequest} {order : Order}
    (submitted : broker.submitOrder id now request = .ok (order, after)) :
    ∃ position, after = { broker with
      state := { broker.state with positions := broker.state.positions ++ [position] } } := by
  unfold ReplayBroker.submitOrder at submitted
  cases close : broker.closeOf request.pair with
  | error failure =>
    rw [close] at submitted
    cases submitted
  | ok price =>
    rw [close] at submitted
    cases submitted
    exact ⟨_, rfl⟩

theorem ReplayBroker.closePosition_state {broker after : ReplayBroker} {orderId id : Uuid}
    {now : Instant} {order : Order}
    (closed : broker.closePosition orderId now id = .ok (order, after)) :
    after.state.positions.length + 1 = broker.state.positions.length ∧
      after.startingEquity = broker.startingEquity := by
  unfold ReplayBroker.closePosition at closed
  split at closed
  · cases closed
  · rename_i position found
    cases closed
    refine ⟨?_, rfl⟩
    have present := List.mem_of_find?_eq_some found
    have shorter := List.length_eraseP_of_mem present (List.find?_some found)
    have nonempty : 0 < broker.state.positions.length := List.length_pos_of_mem present
    dsimp only
    omega

theorem Mirrors.answer (mirrors : Mirrors before host audit) (call : Call) :
    Mirrors before (host.answer call).2 (audit.after ⟨call, (host.answer call).1⟩) := by
  cases call with
  | appendDecision decision => exact mirrors.record decision
  | submitOrder request =>
    simp only [ReplayHost.answer, ReplayHost.takeId, ReplayHost.takeTime]
    cases submitted : host.broker.submitOrder (host.outside.newUuid host.draws)
        (host.outside.utcNow (host.draws + 1)) request with
    | error failure => exact mirrors.keep rfl rfl
    | ok filled =>
      obtain ⟨order, after⟩ := filled
      obtain ⟨position, rfl⟩ := ReplayBroker.submitOrder_state submitted
      have book := mirrors.book
      refine ⟨mirrors.opened, mirrors.closed, ?_, mirrors.equity, mirrors.realized⟩
      simp only [ReplayHost.settle, Audit.after, List.length_append, List.length_singleton]
      omega
  | closePosition id =>
    simp only [ReplayHost.answer, ReplayHost.takeId, ReplayHost.takeTime]
    cases closed : host.broker.closePosition (host.outside.newUuid host.draws)
        (host.outside.utcNow (host.draws + 1)) id with
    | error failure => exact mirrors.keep rfl rfl
    | ok filled =>
      obtain ⟨order, after⟩ := filled
      obtain ⟨shorter, equity⟩ := ReplayBroker.closePosition_state closed
      have book := mirrors.book
      refine ⟨mirrors.opened, mirrors.closed, ?_, equity.trans mirrors.equity, ?_⟩
      · simp only [ReplayHost.settle, Audit.after, List.length_append, List.length_singleton]
        omega
      · intro none'
        simp [ReplayHost.settle, Audit.after] at none'
  | observe observation =>
    cases observation with
    | reconciled positions =>
      exact ⟨mirrors.opened, mirrors.closed, mirrors.book, mirrors.equity, mirrors.realized⟩
    | _ => exact mirrors.keep rfl rfl
  | _ => exact mirrors.keep rfl rfl

theorem Mirrors.play {α : Type} (mirrors : Mirrors before host audit) (program : Cycle α) :
    Mirrors before (program.play ReplayHost.answer host).2.2
      ((program.play ReplayHost.answer host).1.foldl Audit.after audit) := by
  induction program generalizing host audit with
  | done value => exact mirrors
  | fail failure => exact mirrors
  | request call next ih => exact ih _ (mirrors.answer call)

/-- Every position opened so far has been closed or is still open, and the equity has
only moved if one was closed. -/
structure TradesBalance (host : ReplayHost) : Prop where
  book : labelled host.decisions "order_submitted" =
    labelled host.decisions "position_closed" + host.broker.state.positions.length
  equity : labelled host.decisions "position_closed" = 0 → host.broker.state.realizedPnlTotal = 0

theorem TradesBalance.day (balance : TradesBalance before) (mirrors : Mirrors before host audit)
    (settled : audit.Settled) : TradesBalance host where
  book := by
    have book := mirrors.book
    rw [mirrors.opened, mirrors.closed, settled.opened, settled.closed, balance.book]
    omega
  equity := by
    intro unclosed
    rw [mirrors.closed, settled.closed] at unclosed
    obtain ⟨earlier, today⟩ := Nat.add_eq_zero_iff.mp unclosed
    rw [mirrors.realized (List.length_eq_zero_iff.mp today), balance.equity earlier]

theorem TradesBalance.advance (balance : TradesBalance host) : TradesBalance host.advance :=
  ⟨balance.book, balance.equity⟩

variable {platform : Platform} {divergence : DivergenceSource}

/-- A day that runs to its end. -/
theorem TradesBalance.played (balance : TradesBalance host)
    (finished : ((runRealCycle platform divergence ⟨true⟩).play ReplayHost.answer host).2.1.isDone =
      true) :
    TradesBalance ((runRealCycle platform divergence ⟨true⟩).play ReplayHost.answer host).2.2 := by
  have mirrors := (mirrors_refl host).play (runRealCycle platform divergence ⟨true⟩)
  refine balance.day mirrors ?_
  have trace := (runRealCycle platform divergence ⟨true⟩).play_trace ReplayHost.answer host
  rw [Outcome.eq_done finished] at trace
  refine runRealCycle_audit.ends_done trace ?_
  unfold Audit.contract
  exact steps_monitor _ _

/-- What every finished day keeps, a replay that finishes keeps. -/
theorem replayDays_keeps {invariant : ReplayHost → Prop}
    (day : ∀ host, invariant host →
      ((runRealCycle platform divergence ⟨true⟩).play ReplayHost.answer host).2.1.isDone = true →
      invariant ((runRealCycle platform divergence ⟨true⟩).play ReplayHost.answer host).2.2)
    (advance : ∀ host, invariant host → invariant host.advance) {remaining : Nat}
    {events : List (List CycleEvent)} {final : ReplayHost}
    (replayed : replayDays platform divergence remaining host = (events, .ok final))
    (start : invariant host) : invariant final := by
  induction remaining generalizing host events with
  | zero =>
    cases replayed
    exact start
  | succ remaining ih =>
    have finished := (runRealCycle platform divergence ⟨true⟩).play_finished ReplayHost.answer host
    have kept := day host start
    unfold replayDays at replayed
    rcases shape : (runRealCycle platform divergence ⟨true⟩).play ReplayHost.answer host with
      ⟨today, outcome, after⟩
    rw [shape] at replayed finished kept
    split at replayed
    · cases outcome with
      | failed failure => cases replayed
      | stopped => exact absurd rfl finished
      | done value =>
        by_cases last : remaining = 0
        · simp only [if_pos last, Prod.mk.injEq, Except.ok.injEq] at replayed
          exact replayed.2 ▸ kept rfl
        · simp only [if_neg last, Prod.mk.injEq] at replayed
          exact ih (Prod.ext rfl replayed.2) (advance after (kept rfl))
    · cases replayed

/-- A replay that finishes has balanced its trades. -/
theorem replayDays_balance {remaining : Nat} {events : List (List CycleEvent)} {final : ReplayHost}
    (replayed : replayDays platform divergence remaining host = (events, .ok final))
    (balance : TradesBalance host) : TradesBalance final :=
  replayDays_keeps (fun _ balance finished => balance.played finished) (fun _ => .advance) replayed
    balance

theorem tradesBalance_start (configFile : ConfigFile) (bars : List (String × List Decimal))
    (equity : Usd) (clock : Instant) (outside : Outside) :
    TradesBalance (.start configFile (.new bars equity) clock outside) :=
  ⟨rfl, fun _ => rfl⟩

/-- A finished replay of a fresh broker, and its report. -/
structure Reports (platform : Platform) (divergence : DivergenceSource) (inputs : ReplayInputs)
    (pairConfig : PairConfig) (events : List (List CycleEvent)) (final : ReplayHost)
    (report : ReplayReport) : Prop where
  replayed : replayDays platform divergence (inputs.barCount pairConfig)
    (.start inputs.configFile (.new (inputs.bars pairConfig) (.fromDecimal 10000)) inputs.start
      inputs.outside) = (events, .ok final)
  report : report = final.report pairConfig (inputs.barCount pairConfig)

theorem reports_of_runReplay {inputs : ReplayInputs} {events : List (List CycleEvent)}
    {report : ReplayReport}
    (replayed : runReplay platform divergence inputs = (events, .ok report)) :
    ∃ pairConfig final, Reports platform divergence inputs pairConfig events final report := by
  unfold runReplay at replayed
  split at replayed
  · cases replayed
  · rename_i config loaded
    split at replayed
    · cases replayed
    · rename_i pairConfig rest pairs
      dsimp only at replayed
      split at replayed
      · cases replayed
      · split at replayed
        · cases replayed
        · rename_i days final runs
          cases replayed
          exact ⟨pairConfig, final, runs, rfl⟩

/-- What a finished replay says about its trades. -/
structure BalancedReport (final : ReplayHost) (report : ReplayReport) : Prop where
  trades : report.tradesOpened = report.tradesClosed + final.broker.state.positions.length
  equity : report.tradesClosed = 0 → report.endingEquity = report.startingEquity

/-- Whatever the divergences and the prices, a finished replay reports as many trades
opened as it reports closed and leaves open at its broker, and an equity that has
moved only if it reports a trade closed. -/
theorem runReplay_balanced {inputs : ReplayInputs} {events : List (List CycleEvent)}
    {report : ReplayReport}
    (replayed : runReplay platform divergence inputs = (events, .ok report)) :
    ∃ pairConfig final, Reports platform divergence inputs pairConfig events final report ∧
      BalancedReport final report := by
  obtain ⟨pairConfig, final, reports⟩ := reports_of_runReplay replayed
  have balance := replayDays_balance reports.replayed (tradesBalance_start ..)
  refine ⟨pairConfig, final, reports, ?_⟩
  rw [reports.report]
  constructor
  · simp only [ReplayHost.report, decisionCounts_eq_labelled]
    exact balance.book
  · intro unclosed
    simp only [ReplayHost.report, decisionCounts_eq_labelled] at unclosed
    simp [ReplayHost.report, ReplayBroker.getAccountEquity, Usd.fromDecimal, Usd.asDecimal,
      balance.equity unclosed]

/-- Three days on which EURUSD rises far enough to reach a target. -/
def threeBars : ReplayInputs :=
  { twoBars with
    primaryHistory := [1.10, 1.20, 1.21]
    secondaryHistory := [1.25, 1.20, 1.40]
    days := 3 }

/-- Two positions are opened on these days, one of which reaches its target. -/
theorem threeBars_balanced : ∃ events report pairConfig final,
    report.tradesOpened = 2 ∧ report.tradesClosed = 1 ∧
      Reports .winter secondarySwept threeBars pairConfig events final report ∧
      BalancedReport final report := by
  have counted : ((runReplay .winter secondarySwept threeBars).2.toOption.map fun report =>
      (report.tradesOpened, report.tradesClosed)) = some (2, 1) := by decide +kernel
  rcases shape : runReplay .winter secondarySwept threeBars with ⟨events, failure | report⟩
  · rw [shape] at counted
    cases counted
  · rw [shape] at counted
    obtain ⟨pairConfig, final, reports, balanced⟩ := runReplay_balanced shape
    simp only [Except.toOption, Option.map_some, Option.some.injEq, Prod.mk.injEq] at counted
    exact ⟨events, report, pairConfig, final, counted.1, counted.2, reports, balanced⟩

end Oboobot.Daemon
