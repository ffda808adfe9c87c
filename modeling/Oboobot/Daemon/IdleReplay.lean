import Oboobot.Daemon.Dormant
import Oboobot.Daemon.ReplayTrades
import Oboobot.Daemon.SteadySpreads

/-! What a replay of the code as it stands can report: the divergence it computes is
never there, and its synthetic spread never changes. -/

namespace Oboobot.Daemon

open Domain SessionTime Strategy Risk Broker Interaction

/-- The spread of every replayed quote. -/
def replaySpread : String → Decimal := fun _ => syntheticSpread

/-- A replay that has stored its own spread only, and recorded nothing but watching. -/
structure Idle (host : ReplayHost) : Prop where
  spreads : Steady replaySpread host.directory.spreadHistories
  decisions : ∀ decision ∈ host.decisions,
    decision.outcome = "no_divergence" ∨ decision.outcome = "position_closed"

variable {host : ReplayHost}

theorem ofPairs_synthetic {closes : List (String × Decimal)} {symbol : String}
    (member : symbol ∈ closes.map Prod.fst) :
    BTreeMap.ofPairs (closes.map fun close => (close.1, syntheticSpread)) symbol =
      some syntheticSpread := by
  obtain ⟨close, present, rfl⟩ := List.mem_map.mp member
  obtain ⟨last, found⟩ := BTreeMap.exists_ofPairs
    (List.mem_map_of_mem (f := fun close : String × Decimal => (close.1, syntheticSpread)) present)
  obtain ⟨other, _, same⟩ := List.mem_map.mp (BTreeMap.mem_of_ofPairs found)
  rw [found, (Prod.mk.inj same).2]

theorem fst_closes {broker : ReplayBroker} {pairs : List String} {closes : List (String × Decimal)}
    (priced : broker.closes pairs = .ok closes) : closes.map Prod.fst = pairs := by
  induction pairs generalizing closes with
  | nil =>
    cases priced
    rfl
  | cons pair rest ih =>
    have first : broker.closes (pair :: rest) = (do
        let close ← broker.closeOf pair
        let later ← broker.closes rest
        return (pair, close) :: later) := by
      simp [ReplayBroker.closes, List.mapM_cons]
    rw [first] at priced
    cases close : broker.closeOf pair with
    | error failure =>
      rw [close] at priced
      cases priced
    | ok price =>
      rw [close] at priced
      cases later : broker.closes rest with
      | error failure =>
        rw [later] at priced
        cases priced
      | ok others =>
        rw [later] at priced
        cases priced
        exact congrArg (List.cons pair) (ih later)

/-- Every snapshot of a replay quotes what it was asked for at the synthetic spread. -/
theorem getSnapshot_spreads {broker : ReplayBroker} {id : Uuid} {timestamp : Instant}
    {pairs : List String} {snapshot : BrokerSnapshot}
    (arrived : broker.getSnapshot id timestamp pairs = .ok snapshot) :
    ∀ symbol ∈ pairs, snapshot.spreads symbol = some syntheticSpread := by
  unfold ReplayBroker.getSnapshot at arrived
  cases priced : broker.closes pairs with
  | error failure =>
    rw [priced] at arrived
    cases arrived
  | ok closes =>
    rw [priced] at arrived
    cases arrived
    intro symbol member
    exact ofPairs_synthetic ((fst_closes priced).symm ▸ member)

theorem ReplayHost.directory_settle (host : ReplayHost)
    (result : Except BrokerError (Order × ReplayBroker)) :
    (host.settle result).2.directory = host.directory := by
  cases result <;> rfl

/-- What a replay replies, a broker whose spread never changes may reply. -/
theorem ReplayHost.answer_steadyStep (host : ReplayHost) (call : Call) :
    SteadyStep replaySpread host.directory.spreadHistories ⟨call, (host.answer call).1⟩
      (host.answer call).2.directory.spreadHistories := by
  cases call with
  | getSnapshot symbols =>
    cases arrived : host.broker.getSnapshot (host.outside.newUuid host.draws)
        (host.outside.utcNow (host.draws + 1)) symbols with
    | error failure =>
      have reply : (host.answer (.getSnapshot symbols)).1 = some (.error failure) := congrArg some arrived
      rw [reply]
      exact rfl
    | ok snapshot =>
      have reply : (host.answer (.getSnapshot symbols)).1 = some (.ok snapshot) := congrArg some arrived
      rw [reply]
      exact ⟨getSnapshot_spreads arrived, rfl⟩
  | readSpreadHistory _ => exact ⟨rfl, rfl⟩
  | submitOrder request =>
    exact congrArg Host.spreadHistories (ReplayHost.directory_settle host.takeId.2.takeTime.2 _)
  | closePosition id =>
    exact congrArg Host.spreadHistories (ReplayHost.directory_settle host.takeId.2.takeTime.2 _)
  | _ => exact rfl

/-- A record is the only thing that a reply adds to the decisions. -/
theorem ReplayHost.answer_decisions (host : ReplayHost) (call : Call)
    {decision : DecisionRecord} (member : decision ∈ (host.answer call).2.decisions) :
    decision ∈ host.decisions ∨ call = .appendDecision decision := by
  cases call with
  | appendDecision record =>
    rcases List.mem_append.mp member with earlier | last
    · exact .inl earlier
    · exact .inr (congrArg _ (List.mem_singleton.mp last).symm)
  | submitOrder request =>
    exact .inl (ReplayHost.decisions_settle host.takeId.2.takeTime.2 _ ▸ member)
  | closePosition id =>
    exact .inl (ReplayHost.decisions_settle host.takeId.2.takeTime.2 _ ▸ member)
  | _ => exact .inl member

/-- The world of a cycle that keeps its spreads steady and is dormant. -/
def Follows (host : ReplayHost) (worlds : SpreadFiles × Unit) : Prop :=
  worlds.1 = host.directory.spreadHistories ∧ Idle host

/-- One reply to such a cycle. -/
theorem Follows.answer {host : ReplayHost} {worlds : SpreadFiles × Unit} {call : Call}
    (follows : Follows host worlds)
    (promised : ((steadyContract replaySpread).both (anyReply Call.IsDormant)).promise worlds call) :
    ∃ after, ((steadyContract replaySpread).both (anyReply Call.IsDormant)).step worlds
      ⟨call, (host.answer call).1⟩ after ∧ Follows (host.answer call).2 after := by
  obtain ⟨files, nothing⟩ := worlds
  obtain ⟨rfl, idle⟩ := follows
  obtain ⟨promised, dormant⟩ := promised
  have step := host.answer_steadyStep call
  refine ⟨⟨_, nothing⟩, ⟨step, trivial⟩, rfl, idle.spreads.step promised step, ?_⟩
  intro decision member
  rcases host.answer_decisions call member with earlier | rfl
  · exact idle.decisions decision earlier
  · have passed : decision.outcome ≠ "spread_rejected" := promised
    have labels : decision.outcome ∈ ["spread_rejected", "no_divergence", "position_closed"] :=
      dormant
    simpa [passed] using labels

variable {platform : Platform}

theorem Idle.played (idle : Idle host) :
    Idle ((runRealCycle platform asComputed ⟨true⟩).play ReplayHost.answer host).2.2 := by
  have nonneg : ∀ symbol, 0 ≤ replaySpread symbol := by
    intro symbol
    norm_num [replaySpread, syntheticSpread]
  have steady : (runRealCycle platform asComputed ⟨true⟩).Meets (steadyContract replaySpread)
      (fun _ _ => True) (fun _ _ => True) host.directory.spreadHistories :=
    runRealCycle_steady nonneg idle.spreads
  have meets := steady.both runRealCycle_dormant
  have start : Follows host (host.directory.spreadHistories, ()) := ⟨rfl, idle⟩
  obtain ⟨final, reached, _, _⟩ := meets.played (fun _ _ _ => Follows.answer) start
  exact reached.2

theorem idle_start (configFile : ConfigFile) (broker : ReplayBroker) (clock : Instant)
    (outside : Outside) : Idle (.start configFile broker clock outside) :=
  ⟨fun _ _ found => (by cases found), List.forall_mem_nil _⟩

theorem labelled_eq_zero {decisions : List DecisionRecord} {outcome : String}
    (absent : ∀ decision ∈ decisions, decision.outcome ≠ outcome) : labelled decisions outcome = 0 := by
  rw [labelled, List.countP_eq_zero]
  intro decision member same
  exact absent decision member (of_decide_eq_true same)

/-- A report of nothing but watching. -/
structure IdleReport (report : ReplayReport) : Prop where
  opened : report.tradesOpened = 0
  closed : report.tradesClosed = 0
  equity : report.endingEquity = report.startingEquity
  counts : ∀ outcome, outcome ≠ "no_divergence" → (report.decisionCounts outcome).getD 0 = 0

/-- With the divergences that the code computes, whatever the closes, a replay that
finishes reports no trade, an equity that has not moved, and no other decision than
that there was no divergence. -/
theorem runReplay_idle {inputs : ReplayInputs} {events : List (List CycleEvent)}
    {report : ReplayReport}
    (replayed : runReplay platform asComputed inputs = (events, .ok report)) : IdleReport report := by
  obtain ⟨pairConfig, final, reports⟩ := reports_of_runReplay replayed
  have balance := replayDays_balance reports.replayed (tradesBalance_start ..)
  have idle := replayDays_keeps (fun _ idle _ => idle.played) (fun _ idle => ⟨idle.spreads,
    idle.decisions⟩) reports.replayed (idle_start ..)
  have unopened : labelled final.decisions "order_submitted" = 0 := by
    refine labelled_eq_zero fun decision member => ?_
    rcases idle.decisions decision member with same | same <;> rw [same] <;> decide
  obtain ⟨unclosed, _⟩ := Nat.add_eq_zero_iff.mp (balance.book.symm.trans unopened)
  rw [reports.report]
  constructor
  · simp only [ReplayHost.report, decisionCounts_eq_labelled, unopened]
  · simp only [ReplayHost.report, decisionCounts_eq_labelled, unclosed]
  · simp [ReplayHost.report, ReplayBroker.getAccountEquity, Usd.fromDecimal, Usd.asDecimal,
      balance.equity unclosed]
  · intro outcome other
    rw [ReplayHost.report, decisionCounts_eq_labelled]
    by_cases closing : outcome = "position_closed"
    · rw [closing, unclosed]
    · refine labelled_eq_zero fun decision member same => ?_
      rcases idle.decisions decision member with label | label
      · exact other (same.symm.trans label)
      · exact closing (same.symm.trans label)

/-- Two days are replayed, and the pair-set is evaluated on each. -/
theorem twoBars_idle : ∃ events report, (report.decisionCounts "no_divergence") = some 2 ∧
    runReplay .winter asComputed twoBars = (events, .ok report) ∧ IdleReport report := by
  have counted : ((runReplay .winter asComputed twoBars).2.toOption.map fun report =>
      report.decisionCounts "no_divergence") = some (some 2) := by decide +kernel
  rcases shape : runReplay .winter asComputed twoBars with ⟨events, failure | report⟩
  · rw [shape] at counted
    cases counted
  · rw [shape] at counted
    exact ⟨events, report, Option.some.inj counted, rfl, runReplay_idle shape⟩

end Oboobot.Daemon
