import Oboobot.Daemon.Replay
import Oboobot.Daemon.SimulatedDay
import Oboobot.Interaction.Composed
import Mathlib.Algebra.BigOperators.Group.List.Basic
import Mathlib.Data.List.Induction

/-! Which simulated days of a replay evaluate the first pair-set, and how far the
report depends on the pair-sets after it. -/

namespace Oboobot.Daemon

open Domain SessionTime Strategy Risk Broker Interaction

section counts

/-- How many of the counted records have one of these outcomes. -/
def entryCount (counts : BTreeMap Nat) (outcomes : List String) : Nat :=
  (outcomes.map fun outcome => (counts outcome).getD 0).sum

theorem entryCount_insert (counts : BTreeMap Nat) (outcome : String) {outcomes : List String}
    (distinct : outcomes.Nodup) :
    entryCount (counts.insert outcome ((counts outcome).getD 0 + 1)) outcomes =
      entryCount counts outcomes + if outcome ∈ outcomes then 1 else 0 := by
  induction outcomes with
  | nil => rfl
  | cons first rest ih =>
    obtain ⟨fresh, distinct⟩ := List.nodup_cons.mp distinct
    have later := ih distinct
    unfold entryCount at later ⊢
    rw [List.map_cons, List.map_cons, List.sum_cons, List.sum_cons, later]
    by_cases same : first = outcome
    · subst same
      simp [BTreeMap.insert, fresh]
      omega
    · have other : outcome ∈ first :: rest ↔ outcome ∈ rest := by simp [Ne.symm same]
      simp only [BTreeMap.insert, same, if_false, other]
      omega

theorem entryCount_decisionCounts (decisions : List DecisionRecord) {outcomes : List String}
    (distinct : outcomes.Nodup) : entryCount (decisionCounts decisions) outcomes =
      decisions.countP fun decision => decide (decision.outcome ∈ outcomes) := by
  induction decisions using List.reverseRecOn with
  | nil => simp [entryCount, decisionCounts, BTreeMap.empty]
  | append_singleton earlier decision ih =>
    have counted : decisionCounts (earlier ++ [decision]) = (decisionCounts earlier).insert
        decision.outcome ((decisionCounts earlier decision.outcome).getD 0 + 1) := by
      simp [decisionCounts]
    rw [counted, entryCount_insert _ _ distinct, ih, List.countP_append]
    simp [List.countP_cons]

/-- The records of the turns that an invocation has begun. -/
def Journal.recordCount (journal : Journal) : Nat :=
  (journal.evaluations.map fun evaluation => evaluation.records.length).sum

theorem Journal.recordCount_amend (journal : Journal) {change : Evaluation → Evaluation}
    (kept : ∀ evaluation, (change evaluation).records = evaluation.records) :
    (journal.amend change).recordCount = journal.recordCount := by
  rcases List.eq_nil_or_concat' journal.evaluations with idle | ⟨earlier, last, turns⟩
  · rw [amend_idle idle]
  · rw [amend_eq turns]
    simp [recordCount, turns, kept]

/-- Only a decision record adds to the records of the turns. -/
theorem Journal.recordCount_after (journal : Journal) {event : CycleEvent}
    (other : ∀ record, event.call ≠ .appendDecision record) :
    (journal.after event).recordCount = journal.recordCount := by
  obtain ⟨call, reply⟩ := event
  suffices noted : (journal.note ⟨call, reply⟩).recordCount = journal.recordCount from noted
  by_cases unnoted : call.isUnnoted = true
  · rw [journal.note_unnoted unnoted]
  cases call with
  | appendDecision record => exact absurd rfl (other record)
  | submitOrder _ =>
    cases reply with
    | error failure => rfl
    | ok order => exact recordCount_amend _ fun _ => rfl
  | pausedFileExists | readPositions | listOpenPositions => cases reply <;> rfl
  | notify message => cases message <;> rfl
  | observe observation =>
    cases observation with
    | evaluating state => simp [note, recordCount, Evaluation.begun]
    | trueOpenBias _ _ _ _ _ | riskDecision _ _ _ _ => exact recordCount_amend _ fun _ => rfl
    | _ => rfl
  | _ => rfl

theorem Journal.recordCount_record (journal : Journal) (record : DecisionRecord) :
    (journal.after ⟨.appendDecision record, .ok ()⟩).recordCount =
      journal.recordCount + if journal.evaluations = [] then 0 else 1 := by
  suffices noted : (journal.note ⟨.appendDecision record, .ok ()⟩).recordCount = _ from noted
  rcases List.eq_nil_or_concat' journal.evaluations with idle | ⟨earlier, last, turns⟩
  · rw [note, amend_idle idle, if_pos idle, Nat.add_zero]
  · rw [note, amend_eq turns]
    simp [recordCount, turns]
    omega

/-- Every pair-set evaluated has its one record. -/
theorem Journal.Evaluates.recordCount {journal : Journal} {platform : Platform} {config : Config}
    {now : Instant} {pairs : List PairConfig}
    (evaluates : journal.Evaluates platform config now pairs) :
    journal.recordCount = pairs.length := by
  have single : ∀ count ∈ journal.evaluations.map fun evaluation => evaluation.records.length,
      count = 1 := by
    intro count member
    obtain ⟨evaluation, turn, rfl⟩ := List.mem_map.mp member
    obtain ⟨record, only, _⟩ := evaluates.recorded evaluation turn
    rw [only, List.length_singleton]
  rw [Journal.recordCount, List.sum_eq_card_nsmul _ 1 single, ← evaluates.pairs]
  simp

end counts

section frame

/-- A replay that stands on this bar. -/
structure OnBar (configFile : ConfigFile) (bars : List (String × List Decimal)) (start : Instant)
    (outside : Outside) (bar : Nat) (host : ReplayHost) : Prop where
  file : host.directory.configFile = configFile
  series : host.broker.bars = bars
  clock : host.clock = start + Duration.days bar
  index : host.broker.currentIndex = bar
  surroundings : host.outside = outside

variable {configFile : ConfigFile} {bars : List (String × List Decimal)} {start : Instant}
  {outside : Outside} {bar : Nat} {host : ReplayHost}

theorem OnBar.settle (onBar : OnBar configFile bars start outside bar host)
    {result : Except BrokerError (Order × ReplayBroker)}
    (kept : ∀ order broker, result = .ok (order, broker) →
      broker.bars = host.broker.bars ∧ broker.currentIndex = host.broker.currentIndex) :
    OnBar configFile bars start outside bar (host.settle result).2 := by
  cases result with
  | error failure => exact onBar
  | ok settled =>
    obtain ⟨bars, index⟩ := kept settled.1 settled.2 rfl
    exact ⟨onBar.file, bars.trans onBar.series, onBar.clock, index.trans onBar.index,
      onBar.surroundings⟩

theorem OnBar.answer (onBar : OnBar configFile bars start outside bar host) (call : Call) :
    OnBar configFile bars start outside bar (host.answer call).2 := by
  have drawn (draws : Nat) :
      OnBar configFile bars start outside bar { host with draws := draws } :=
    ⟨onBar.file, onBar.series, onBar.clock, onBar.index, onBar.surroundings⟩
  cases call with
  | submitOrder request =>
    refine (drawn (host.draws + 1 + 1)).settle ?_
    intro order broker submitted
    unfold ReplayBroker.submitOrder at submitted
    cases close : host.broker.closeOf request.pair with
    | error failure =>
      rw [close] at submitted
      cases submitted
    | ok price =>
      rw [close] at submitted
      cases submitted
      exact ⟨rfl, rfl⟩
  | closePosition id =>
    refine (drawn (host.draws + 1 + 1)).settle ?_
    intro order broker closed
    unfold ReplayBroker.closePosition at closed
    split at closed
    · cases closed
    · cases closed
      exact ⟨rfl, rfl⟩
  | getSnapshot _ | utcNow | newUuid => exact drawn _
  | _ =>
    exact ⟨onBar.file, onBar.series, onBar.clock, onBar.index, onBar.surroundings⟩

theorem OnBar.play (onBar : OnBar configFile bars start outside bar host) (program : Cycle Unit) :
    OnBar configFile bars start outside bar (program.play ReplayHost.answer host).2.2 ∧
      ∀ moment ∈ program.moments ReplayHost.answer host,
        OnBar configFile bars start outside bar moment.1 :=
  program.play_keeps (fun _ call still => still.answer call) onBar

theorem OnBar.advance (onBar : OnBar configFile bars start outside bar host) :
    OnBar configFile bars start outside (bar + 1) host.advance where
  file := onBar.file
  series := onBar.series
  clock := by
    change host.clock + Duration.days 1 = start + Duration.days ((bar + 1 : Nat) : Int)
    rw [onBar.clock]
    unfold Duration.days Duration.hours Duration.minutes Duration.seconds
    push_cast
    ring
  index := congrArg (· + 1) onBar.index
  surroundings := onBar.surroundings

theorem ReplayHost.decisions_settle (host : ReplayHost)
    (result : Except BrokerError (Order × ReplayBroker)) :
    (host.settle result).2.decisions = host.decisions := by
  cases result <;> rfl

theorem ReplayHost.isFailure_settle (host : ReplayHost)
    (result : Except BrokerError (Order × ReplayBroker)) :
    isFailure (host.settle result).1 = isFailure result := by
  cases result <;> rfl

theorem ReplayHost.decisions_answer (host : ReplayHost) {call : Call}
    (other : ∀ record, call ≠ .appendDecision record) :
    (host.answer call).2.decisions = host.decisions := by
  cases call with
  | appendDecision record => exact absurd rfl (other record)
  | submitOrder _ | closePosition _ => exact decisions_settle _ _
  | _ => rfl

end frame

section prices

namespace ReplayBroker

variable (broker : ReplayBroker)

theorem isFailure_closes (pairs : List String) :
    isFailure (broker.closes pairs) = !pairs.all fun pair => (broker.currentPrice pair).isSome := by
  induction pairs with
  | nil => rfl
  | cons pair rest ih =>
    have first : broker.closes (pair :: rest) = (do
        let close ← broker.closeOf pair
        let later ← broker.closes rest
        return (pair, close) :: later) := by
      simp [closes, List.mapM_cons]
    rw [first, List.all_cons, closeOf]
    cases broker.currentPrice pair with
    | none => rfl
    | some close =>
      rw [Option.isSome_some, Bool.true_and, ← ih]
      cases broker.closes rest <;> rfl

theorem isFailure_getSnapshot (id : Uuid) (timestamp : Instant) (pairs : List String) :
    isFailure (broker.getSnapshot id timestamp pairs) =
      !pairs.all fun pair => (broker.currentPrice pair).isSome := by
  rw [← isFailure_closes]
  unfold getSnapshot
  cases broker.closes pairs <;> rfl

theorem isFailure_submitOrder (id : Uuid) (now : Instant) (request : OrderRequest) :
    isFailure (broker.submitOrder id now request) = (broker.currentPrice request.pair).isNone := by
  unfold submitOrder closeOf
  cases broker.currentPrice request.pair <;> rfl

end ReplayBroker

end prices

/-- The records left by the entry loop. -/
def entriesRecorded (decisions : List DecisionRecord) : Nat :=
  decisions.countP fun decision => decide (decision.outcome ∈ entryOutcomes)

/-- A bar of a replay, as the cycle run on it meets it. -/
def simulatedDay (config : Config) (bars : List (String × List Decimal)) (start : Instant)
    (outside : Outside) (bar : Nat) : Day where
  config := config
  now := start + Duration.days bar
  diskMb := outside.availableDiskMb bar
  memoryMb := outside.residentMemoryMb bar
  quoted := (allSymbols config.pairs).all (bars.map Prod.fst).contains

section simulation

variable {platform : Platform} {divergence : DivergenceSource} {cli : Cli}
  {configFile : ConfigFile} {config : Config} {bars : List (String × List Decimal)}
  {start : Instant} {outside : Outside} {bar : Nat} {before host : ReplayHost} {journal : Journal}
  {ledger : Ledger}

theorem OnBar.quoted_eq (onBar : OnBar configFile bars start outside bar host)
    (within : bar < commonBars bars) : (simulatedDay config bars start outside bar).quoted =
      (allSymbols config.pairs).all fun symbol => (host.broker.currentPrice symbol).isSome := by
  rw [Bool.eq_iff_iff, simulatedDay, List.all_eq_true, List.all_eq_true]
  have priced : host.broker.currentIndex < host.broker.barCount := by
    rwa [ReplayBroker.barCount, onBar.series, onBar.index]
  refine forall₂_congr fun symbol _ => ?_
  rw [host.broker.currentPrice_isSome_iff priced, ReplayBroker.symbols, onBar.series,
    List.contains_iff_mem]

/-- Where a replay stands in the cycle of one bar. -/
structure Simulates (configFile : ConfigFile) (config : Config) (bars : List (String × List Decimal))
    (start : Instant) (outside : Outside) (bar : Nat) (before host : ReplayHost) (journal : Journal)
    (ledger : Ledger) : Prop extends OnBar configFile bars start outside bar host where
  journalConfig : ∀ loaded, journal.config = some loaded → loaded = config
  ledgerConfig : ∀ loaded, ledger.config = some loaded → loaded = config
  quoted : ∀ snapshot, ledger.snapshot = some snapshot →
    (simulatedDay config bars start outside bar).quoted = true
  recorded : entriesRecorded host.decisions = entriesRecorded before.decisions + journal.recordCount

/-- An order that passed the gates is for a symbol that the snapshot was asked for. -/
theorem requested_of_promised {request : OrderRequest}
    (promised : Promised platform divergence cli ledger (.submitOrder request))
    (configured : ∀ loaded, ledger.config = some loaded → loaded = config) :
    request.pair ∈ allSymbols config.pairs := by
  obtain ⟨config', snapshot, now, state, sizing, orderId, sized, _, _, rfl⟩ := promised
  obtain rfl := configured config' sized.trading.configured
  obtain ⟨earlier, evaluated, _⟩ := sized.inTurn.evaluated
  have member : state.pairConfig ∈ config'.pairs :=
    sized.inTurn.configured.subset (by simp [evaluated])
  obtain ⟨target, _, traded⟩ := sized.gates.divergence
  refine (mem_allSymbols_iff _ _).mpr ⟨state.pairConfig, member, ?_⟩
  change sizing.signal.pair = _ ∨ sizing.signal.pair = _
  rw [traded]
  exact target.pair_eq_or _ _

/-- Everything that the replay replies, the simulated day may reply. -/
theorem Simulates.answers
    (simulates : Simulates configFile config bars start outside bar before host journal ledger)
    (within : bar < commonBars bars) (loaded : Config.load configFile = .ok config)
    (nonempty : config.pairs ≠ []) (fits : config.risk.stalenessLimitsFit = true) {call : Call} (promised : journal.Promised call)
    (gated : Promised platform divergence cli ledger call) :
    (simulatedDay config bars start outside bar).Answers ⟨call, (host.answer call).1⟩ := by
  have quoted_eq : (simulatedDay config bars start outside bar).quoted =
      (allSymbols config.pairs).all fun symbol => (host.broker.currentPrice symbol).isSome :=
    simulates.quoted_eq within
  cases call with
  | readConfigFile => exact ⟨(congrArg Config.load simulates.file).trans loaded, nonempty⟩
  | clockNow => exact simulates.clock
  | availableDiskMb =>
    change host.outside.availableDiskMb host.broker.currentIndex = outside.availableDiskMb bar
    rw [simulates.surroundings, simulates.index]
  | residentMemoryMb =>
    change host.outside.residentMemoryMb host.broker.currentIndex = outside.residentMemoryMb bar
    rw [simulates.surroundings, simulates.index]
  | getSnapshot symbols =>
    obtain ⟨_, asked, configured, rfl⟩ := promised
    obtain rfl := simulates.journalConfig asked configured
    have arrives := host.broker.isFailure_getSnapshot (host.outside.newUuid host.draws)
      (host.outside.utcNow (host.draws + 1)) (allSymbols asked.pairs)
    rw [← quoted_eq] at arrives
    exact Day.answers_getSnapshot _ arrives
  | submitOrder request =>
    have member := requested_of_promised gated simulates.ledgerConfig
    obtain ⟨_, snapshot, _, _, _, _, sized, _⟩ := gated
    have quoted := simulates.quoted snapshot sized.trading.heartbeat
    rw [quoted_eq, List.all_eq_true] at quoted
    have accepted := host.broker.isFailure_submitOrder (host.outside.newUuid host.draws)
      (host.outside.utcNow (host.draws + 1)) request
    rw [Option.isNone_eq_false_iff.mpr (quoted _ member)] at accepted
    exact (ReplayHost.isFailure_settle { host with draws := host.draws + 1 + 1 } _).trans accepted
  | observe observation =>
    cases observation with
    | stalenessLimits risk =>
      obtain ⟨asked, configured, rfl⟩ := gated
      obtain rfl := simulates.ledgerConfig asked configured
      simp [Day.Answers, passesOn, fits]
    | _ => rfl
  | _ => rfl

/-- The configuration that is read is the one of the day. -/
theorem Day.Answers.keeps_journalConfig {day : Day} {event : CycleEvent}
    (answers : day.Answers event) (kept : ∀ loaded, journal.config = some loaded → loaded = day.config) :
    ∀ loaded, (journal.after event).config = some loaded → loaded = day.config := by
  rcases journal.after_config event with ⟨file, rfl⟩ | same
  · have read : (journal.after ⟨.readConfigFile, file⟩).config = some day.config :=
      congrArg Except.toOption answers.1
    rintro loaded configured
    exact Option.some.inj (configured.symm.trans read)
  · rw [same]
    exact kept

theorem Day.Answers.keeps_ledgerConfig {day : Day} {event : CycleEvent}
    (answers : day.Answers event) (kept : ∀ loaded, ledger.config = some loaded → loaded = day.config) :
    ∀ loaded, (ledger.after event).config = some loaded → loaded = day.config := by
  rcases ledger.after_positions event with ⟨file, rfl⟩ | ⟨_, rfl⟩ | ⟨_, rfl⟩ | ⟨_, _, rfl⟩ |
    ⟨_, _, rfl⟩ | same
  · have read : (ledger.after ⟨.readConfigFile, file⟩).config = some day.config :=
      congrArg Except.toOption answers.1
    rintro loaded configured
    exact Option.some.inj (configured.symm.trans read)
  · exact kept
  · exact kept
  · exact kept
  · exact kept
  · have unchanged : (ledger.after event).config = ledger.config := congrArg Prod.fst same
    rw [unchanged]
    exact kept

/-- A snapshot arrives only where every symbol has a quote. -/
theorem Day.Answers.keeps_quoted {day : Day} {event : CycleEvent} (answers : day.Answers event)
    (kept : ∀ snapshot, ledger.snapshot = some snapshot → day.quoted = true) :
    ∀ snapshot, (ledger.after event).snapshot = some snapshot → day.quoted = true := by
  rcases ledger.after_snapshot event with ⟨symbols, arrived, rfl⟩ | same
  · intro _ _
    by_contra unquoted
    simp [Day.Answers, unquoted] at answers
  · rw [same]
    exact kept

/-- Every record that the entry loop leaves is one of a turn. -/
theorem Simulates.recorded_answer
    (simulates : Simulates configFile config bars start outside bar before host journal ledger)
    {call : Call} (promised : journal.Promised call) :
    entriesRecorded (host.answer call).2.decisions =
      entriesRecorded before.decisions + (journal.after ⟨call, (host.answer call).1⟩).recordCount := by
  by_cases records : ∃ record, call = .appendDecision record
  · obtain ⟨record, rfl⟩ := records
    have counted : (journal.after
        ⟨.appendDecision record, (host.answer (.appendDecision record)).1⟩).recordCount = _ :=
      journal.recordCount_record record
    have appended : (host.answer (.appendDecision record)).2.decisions = host.decisions ++ [record] :=
      rfl
    have before := simulates.recorded
    have outcome := promised.2
    rw [counted, appended, entriesRecorded, List.countP_append, List.countP_singleton]
    unfold entriesRecorded at before
    by_cases idle : journal.evaluations = []
    · have closed : record.outcome = "position_closed" := by simpa [idle] using outcome
      have other : record.outcome ∉ entryOutcomes := by rw [closed]; decide
      simp [idle, other, before, entriesRecorded]
    · have entry : record.outcome ∈ entryOutcomes := by simpa [idle] using outcome
      simp [idle, entry, before, entriesRecorded]
      omega
  · have other : ∀ record, call ≠ .appendDecision record := fun record same => records ⟨record, same⟩
    rw [host.decisions_answer other, Journal.recordCount_after _ other]
    exact simulates.recorded

theorem Simulates.step
    (simulates : Simulates configFile config bars start outside bar before host journal ledger)
    (within : bar < commonBars bars) (loaded : Config.load configFile = .ok config)
    (nonempty : config.pairs ≠ []) (fits : config.risk.stalenessLimitsFit = true) {call : Call}
    (promised : journal.Promised call) (gated : Promised platform divergence cli ledger call) :
    Simulates configFile config bars start outside bar before (host.answer call).2
      (journal.after ⟨call, (host.answer call).1⟩) (ledger.after ⟨call, (host.answer call).1⟩) := by
  have answers := simulates.answers within loaded nonempty fits promised gated
  exact {
    simulates.answer call with
    journalConfig := answers.keeps_journalConfig simulates.journalConfig
    ledgerConfig := answers.keeps_ledgerConfig simulates.ledgerConfig
    quoted := answers.keeps_quoted simulates.quoted
    recorded := simulates.recorded_answer promised }

/-- The pair-sets that the entry loop evaluated, in order. -/
def evaluatedPairs (events : List CycleEvent) : List PairConfig :=
  (Journal.ofEvents events).evaluations.map fun evaluation => evaluation.state.pairConfig

/-- One simulated day: its cycle finishes, having evaluated what the day allows and
left one record for each. -/
theorem play_simulatedDay (platform : Platform) (divergence : DivergenceSource)
    (onBar : OnBar configFile bars start outside bar host) (within : bar < commonBars bars)
    (loaded : Config.load configFile = .ok config) (nonempty : config.pairs ≠ [])
    (fits : config.risk.stalenessLimitsFit = true) :
    ∃ events after, (runRealCycle platform divergence ⟨true⟩).play ReplayHost.answer host =
        (events, .done (), after) ∧ OnBar configFile bars start outside bar after ∧
      evaluatedPairs events = (simulatedDay config bars start outside bar).evaluated ∧
      entriesRecorded after.decisions = entriesRecorded host.decisions +
        (simulatedDay config bars start outside bar).evaluated.length := by
  let day := simulatedDay config bars start outside bar
  let cycle := runRealCycle platform divergence ⟨true⟩
  have evaluates : cycle.Meets day.contract (fun _ after => after.Evaluates platform config day.now day.evaluated)
      (fun _ _ => False) .empty := runRealCycle_day rfl
  have gated : cycle.Meets (cycleContract platform divergence ⟨true⟩) (fun _ _ => True)
      (fun _ _ => True) .empty := runRealCycle_meets
  have faithful : ∀ (current : ReplayHost) (worlds : Journal × Ledger) (call : Call),
      Simulates configFile config bars start outside bar host current worlds.1 worlds.2 →
      (day.contract.both (cycleContract platform divergence ⟨true⟩)).promise worlds call →
      ∃ after : Journal × Ledger, (day.contract.both (cycleContract platform divergence ⟨true⟩)).step
          worlds ⟨call, (current.answer call).1⟩ after ∧
        Simulates configFile config bars start outside bar host (current.answer call).2 after.1
          after.2 := by
    intro current worlds call simulates promise
    obtain ⟨promised, gated⟩ := promise
    exact ⟨(_, _), ⟨⟨rfl, simulates.answers within loaded nonempty fits promised gated⟩, rfl⟩,
      simulates.step within loaded nonempty fits promised gated⟩
  have fresh : Simulates configFile config bars start outside bar host host .empty .empty :=
    { onBar with
      journalConfig := fun _ impossible => by cases impossible
      ledgerConfig := fun _ impossible => by cases impossible
      quoted := fun _ impossible => by cases impossible
      recorded := rfl }
  obtain ⟨final, reached, steps, ends⟩ := (evaluates.both gated).played faithful fresh
  have seen : final.1 = Journal.ofEvents (cycle.play ReplayHost.answer host).1 :=
    steps.view_eq fun _ _ _ step => step.1.1
  rcases ends with ⟨value, finished, evaluated, _⟩ | ⟨_, _, impossible, _⟩
  · refine ⟨_, _, Prod.ext rfl (Prod.ext finished rfl), reached.toOnBar, ?_, ?_⟩
    · rw [← evaluated.pairs, seen]
      rfl
    · rw [reached.recorded, evaluated.recordCount]
  · exact impossible.elim

/-- A cycle whose limits no duration can hold evaluates nothing. -/
theorem evaluatedPairs_unfit (platform : Platform) (divergence : DivergenceSource)
    (onBar : OnBar configFile bars start outside bar host)
    (loaded : Config.load configFile = .ok config)
    (unfit : config.risk.stalenessLimitsFit = false) : evaluatedPairs
      ((runRealCycle platform divergence ⟨true⟩).play ReplayHost.answer host).1 = [] := by
  let cycle := runRealCycle platform divergence ⟨true⟩
  have faithful : ∀ (current : ReplayHost) (journal : Journal) (call : Call),
      OnBar configFile bars start outside bar current →
      (unevaluatedContract config).promise journal call →
      ∃ after, (unevaluatedContract config).step journal ⟨call, (current.answer call).1⟩ after ∧
        OnBar configFile bars start outside bar (current.answer call).2 := by
    intro current journal call onBar _
    refine ⟨_, ⟨rfl, ?_⟩, onBar.answer call⟩
    rintro file read
    cases read
    exact (congrArg Config.load onBar.file).trans loaded
  have unevaluated : cycle.Meets (unevaluatedContract config)
      (fun _ after => after.evaluations = []) (fun _ after => after.evaluations = []) .empty :=
    runRealCycle_unevaluated unfit
  obtain ⟨final, _, steps, ends⟩ := unevaluated.played faithful onBar
  have seen : final = Journal.ofEvents (cycle.play ReplayHost.answer host).1 :=
    steps.view_eq fun _ _ _ step => step.1
  have idle : final.evaluations = [] := by
    rcases ends with ⟨_, _, idle⟩ | ⟨_, _, idle⟩
    · exact idle
    · exact idle
  rw [evaluatedPairs, ← seen, idle, List.map_nil]

/-- The days of a replay: one whose cycle gives up is the last, and one that the
calendar does not hold is not begun. -/
theorem replayDays_days (platform : Platform) (divergence : DivergenceSource) (remaining : Nat)
    (host : ReplayHost) :
    let today := (runRealCycle platform divergence ⟨true⟩).play ReplayHost.answer host
    (replayDays platform divergence (remaining + 1) host).1 =
      if host.outside.calendarHolds host.clock then today.1 :: (if today.2.1.isDone then
        (replayDays platform divergence remaining today.2.2.advance).1 else [])
      else [] := by
  intro today
  have finished : today.2.1 ≠ .stopped := Program.play_finished ReplayHost.answer _ host
  have shape : (runRealCycle platform divergence ⟨true⟩).play ReplayHost.answer host = today := rfl
  rw [replayDays, shape]
  split
  · rcases today with ⟨events, failure | value | _, after⟩
    · by_cases last : remaining = 0
      · subst last
        rfl
      · simp [last, Outcome.isDone]
    · rfl
    · exact absurd rfl finished
  · rfl

/-- A replay begins no more days than the calendar holds. -/
theorem calendarHolds_of_length {remaining : Nat} {bar : Nat} {host : ReplayHost}
    (onBar : OnBar configFile bars start outside bar host)
    (everyDay : (replayDays platform divergence remaining host).1.length = remaining) :
    ∀ day, bar ≤ day → day < bar + remaining →
      outside.calendarHolds (start + Duration.days day) = true := by
  induction remaining generalizing bar host with
  | zero =>
    intro day first last
    omega
  | succ remaining ih =>
    rw [replayDays_days] at everyDay
    split at everyDay
    · rename_i holds
      rw [onBar.surroundings, onBar.clock] at holds
      intro day first last
      rcases first.eq_or_lt with rfl | later
      · exact holds
      · split at everyDay
        · exact ih (onBar.play _).1.advance (Nat.succ.inj everyDay) day later (by omega)
        · simp at everyDay
          omega
    · cases everyDay

/-- What the days from this bar on leave behind. -/
theorem replayDays_spec (platform : Platform) (divergence : DivergenceSource)
    (loaded : Config.load configFile = .ok config) (nonempty : config.pairs ≠ [])
    (fits : config.risk.stalenessLimitsFit = true) (remaining : Nat) {bar : Nat}
    (enough : bar + remaining ≤ commonBars bars)
    (dated : ∀ day, bar ≤ day → day < bar + remaining →
      outside.calendarHolds (start + Duration.days day) = true)
    {host : ReplayHost} (onBar : OnBar configFile bars start outside bar host) :
    ∃ events final, replayDays platform divergence remaining host = (events, .ok final) ∧
      events.map evaluatedPairs = (List.range' bar remaining).map (fun bar =>
        (simulatedDay config bars start outside bar).evaluated) ∧
      entriesRecorded final.decisions = entriesRecorded host.decisions +
        ((List.range' bar remaining).map fun bar =>
          (simulatedDay config bars start outside bar).evaluated.length).sum := by
  induction remaining generalizing bar host with
  | zero => exact ⟨[], host, rfl, rfl, rfl⟩
  | succ remaining ih =>
    obtain ⟨events, after, played, still, evaluated, recorded⟩ :=
      play_simulatedDay platform divergence onBar (by omega) loaded nonempty fits
    have holds : host.outside.calendarHolds host.clock = true := by
      rw [onBar.surroundings, onBar.clock]
      exact dated bar le_rfl (by omega)
    unfold replayDays
    rw [if_pos holds, played]
    by_cases last : remaining = 0
    · subst last
      refine ⟨[events], after, rfl, ?_, ?_⟩
      · simp [evaluated]
      · simpa using recorded
    · obtain ⟨later, final, runs, laterEvaluated, laterRecorded⟩ := ih (by omega)
        (fun day first last => dated day (by omega) (by omega)) still.advance
      refine ⟨events :: later, final, ?_, ?_, ?_⟩
      · simp [last, runs]
      · rw [List.map_cons, evaluated, laterEvaluated, List.range'_succ, List.map_cons]
      · have counted : entriesRecorded after.advance.decisions = entriesRecorded after.decisions := rfl
        rw [laterRecorded, counted, recorded, List.range'_succ, List.map_cons, List.sum_cons]
        omega

end simulation

/-- The same file with every pair-set but the first taken out. A missing file
stands for a single one already. -/
def ConfigFile.firstPairOnly : ConfigFile → ConfigFile
  | .parsed config => .parsed { config with pairs := config.pairs.take 1 }
  | other => other

def ReplayInputs.firstPairOnly (inputs : ReplayInputs) : ReplayInputs :=
  { inputs with configFile := inputs.configFile.firstPairOnly }

/-- The bars that both symbols of the pair-set have data for. -/
def ReplayInputs.barCount (inputs : ReplayInputs) (pairConfig : PairConfig) : Nat :=
  commonBars (inputs.bars pairConfig)

def ReplayInputs.day (inputs : ReplayInputs) (config : Config) (pairConfig : PairConfig) (bar : Nat) :
    Day :=
  simulatedDay config (inputs.bars pairConfig) inputs.start inputs.outside bar

/-- The time library's calendar holds the simulated day of a bar. -/
def ReplayInputs.holdsDay (inputs : ReplayInputs) (bar : Nat) : Bool :=
  inputs.outside.calendarHolds (inputs.start + Duration.days bar)

def ReplayInputs.firstHost (inputs : ReplayInputs) (pairConfig : PairConfig) : ReplayHost :=
  .start inputs.configFile (.new (inputs.bars pairConfig) (.fromDecimal 10000)) inputs.start
    inputs.outside

/-- A replay does all that it is for: it evaluates the pair-set on every simulated
day, and other pair-sets do not change its report. -/
structure ReplaysFirst (platform : Platform) (divergence : DivergenceSource) (inputs : ReplayInputs)
    (pairConfig : PairConfig) : Prop where
  everyDay : (runReplay platform divergence inputs).1.length = inputs.barCount pairConfig
  evaluates : ∀ events ∈ (runReplay platform divergence inputs).1, pairConfig ∈ evaluatedPairs events
  sameReport : (runReplay platform divergence inputs).2 =
    (runReplay platform divergence inputs.firstPairOnly).2

section report

variable {platform : Platform} {divergence : DivergenceSource} {inputs : ReplayInputs}
  {config : Config} {pairConfig : PairConfig}

theorem load_firstPairOnly (loaded : Config.load inputs.configFile = .ok config)
    (first : config.pairs.head? = some pairConfig) :
    Config.load inputs.firstPairOnly.configFile = .ok { config with pairs := [pairConfig] } := by
  have reduced : ∀ file, Config.load file = .ok config →
      Config.load file.firstPairOnly = .ok { config with pairs := [pairConfig] } := by
    intro file accepted
    cases file with
    | missing =>
      cases accepted
      cases first
      rfl
    | parsed parsed =>
      obtain ⟨valid, rfl⟩ := Config.validate_of_load accepted
      obtain ⟨rest, pairs⟩ := List.head?_eq_some_iff.mp first
      have one : parsed.pairs.take 1 = [pairConfig] := by rw [pairs]; rfl
      rw [ConfigFile.firstPairOnly, one, Config.load, Config.validate_single valid]
      rfl
    | unreadable | unparsable => cases accepted
  exact reduced _ loaded

theorem firstPairOnly_eq (loaded : Config.load inputs.configFile = .ok config)
    (single : config.pairs.length = 1) : inputs.firstPairOnly = inputs := by
  suffices same : inputs.configFile.firstPairOnly = inputs.configFile by
    rw [ReplayInputs.firstPairOnly, same]
  cases file : inputs.configFile with
  | parsed parsed =>
    rw [file] at loaded
    obtain ⟨_, rfl⟩ := Config.validate_of_load loaded
    rw [ConfigFile.firstPairOnly, List.take_of_length_le single.le]
  | _ => rfl

/-- The replay holds the closes of the first pair-set's two symbols. -/
theorem mem_bars_iff (symbol : String) : symbol ∈ (inputs.bars pairConfig).map Prod.fst ↔
    symbol = pairConfig.primary ∨ symbol = pairConfig.secondary := by
  unfold ReplayInputs.bars replayBars insertSeries
  by_cases same : pairConfig.primary = pairConfig.secondary
  · simp [same]
  · simp [same]

/-- Without a common bar there is nothing to replay. -/
theorem runReplay_noHistory (platform : Platform) (divergence : DivergenceSource)
    (loaded : Config.load inputs.configFile = .ok config)
    (first : config.pairs.head? = some pairConfig) (bars : inputs.barCount pairConfig = 0) :
    runReplay platform divergence inputs =
      ([], .error (.noHistory pairConfig.primary pairConfig.secondary)) := by
  obtain ⟨rest, pairs⟩ := List.head?_eq_some_iff.mp first
  unfold runReplay
  rw [loaded]
  simp only [pairs]
  exact if_pos bars

theorem ReplayInputs.firstHost_onBar (inputs : ReplayInputs) (pairConfig : PairConfig) :
    OnBar inputs.configFile (inputs.bars pairConfig) inputs.start inputs.outside 0
      (inputs.firstHost pairConfig) :=
  ⟨rfl, rfl, (Int.add_zero _).symm, rfl, rfl⟩

theorem runReplay_days (platform : Platform) (divergence : DivergenceSource)
    (loaded : Config.load inputs.configFile = .ok config)
    (first : config.pairs.head? = some pairConfig) :
    (runReplay platform divergence inputs).1 = (replayDays platform divergence
      (inputs.barCount pairConfig) (inputs.firstHost pairConfig)).1 := by
  by_cases bars : inputs.barCount pairConfig = 0
  · rw [runReplay_noHistory platform divergence loaded first bars, bars]
    rfl
  · obtain ⟨rest, pairs⟩ := List.head?_eq_some_iff.mp first
    have reaches : (ReplayBroker.new (inputs.bars pairConfig) (.fromDecimal 10000)).barCount ≠ 0 :=
      bars
    have same : inputs.barCount pairConfig =
        (ReplayBroker.new (inputs.bars pairConfig) (.fromDecimal 10000)).barCount := rfl
    rw [same]
    unfold runReplay
    rw [loaded]
    simp only [pairs]
    rw [if_neg reaches]
    change _ = (replayDays platform divergence _ (.start _ _ _ _)).1
    generalize replayDays platform divergence _ _ = result
    rcases result with ⟨events, failure | final⟩
    · rfl
    · rfl

/-- A replay that reaches every day has a calendar that holds them. -/
theorem holdsDay_of_everyDay (loaded : Config.load inputs.configFile = .ok config)
    (first : config.pairs.head? = some pairConfig)
    (everyDay : (runReplay platform divergence inputs).1.length = inputs.barCount pairConfig) :
    ∀ bar < inputs.barCount pairConfig, inputs.holdsDay bar = true := by
  rw [runReplay_days platform divergence loaded first] at everyDay
  intro bar within
  exact calendarHolds_of_length (inputs.firstHost_onBar pairConfig) everyDay bar (Nat.zero_le _)
    (by omega)

/-- A replay that evaluates on its first day has limits that a duration can hold. -/
theorem fits_of_evaluates (loaded : Config.load inputs.configFile = .ok config)
    (first : config.pairs.head? = some pairConfig)
    (begun : (runReplay platform divergence inputs).1 ≠ [])
    (evaluates : ∀ events ∈ (runReplay platform divergence inputs).1,
      pairConfig ∈ evaluatedPairs events) : config.risk.stalenessLimitsFit = true := by
  rw [runReplay_days platform divergence loaded first] at begun evaluates
  cases count : inputs.barCount pairConfig with
  | zero =>
    rw [count] at begun
    exact absurd rfl begun
  | succ remaining =>
    rw [count, replayDays_days] at begun evaluates
    split at begun
    · rename_i holds
      rw [if_pos holds] at evaluates
      have today := evaluates _ List.mem_cons_self
      by_contra unfit
      rw [evaluatedPairs_unfit platform divergence (inputs.firstHost_onBar pairConfig) loaded
        (Bool.eq_false_of_not_eq_true unfit)] at today
      cases today
    · exact absurd rfl begun

/-- Every simulated day is run, and the report counts the records of all of them. -/
theorem runReplay_spec (platform : Platform) (divergence : DivergenceSource)
    (loaded : Config.load inputs.configFile = .ok config)
    (first : config.pairs.head? = some pairConfig) (bars : inputs.barCount pairConfig ≠ 0)
    (fits : config.risk.stalenessLimitsFit = true)
    (dated : ∀ bar < inputs.barCount pairConfig, inputs.holdsDay bar = true) :
    ∃ events report, runReplay platform divergence inputs = (events, .ok report) ∧
      events.map evaluatedPairs = (List.range (inputs.barCount pairConfig)).map (fun bar =>
        (inputs.day config pairConfig bar).evaluated) ∧
      entryCount report.decisionCounts entryOutcomes =
        ((List.range (inputs.barCount pairConfig)).map fun bar =>
          (inputs.day config pairConfig bar).evaluated.length).sum := by
  obtain ⟨rest, pairs⟩ := List.head?_eq_some_iff.mp first
  have nonempty : config.pairs ≠ [] := by simp [pairs]
  have reaches : (ReplayBroker.new (inputs.bars pairConfig) (.fromDecimal 10000)).barCount ≠ 0 := bars
  obtain ⟨events, final, runs, evaluated, recorded⟩ :=
    replayDays_spec platform divergence loaded nonempty fits (inputs.barCount pairConfig)
      (by rw [Nat.zero_add]; rfl) (fun bar _ within => dated bar (by omega))
      (inputs.firstHost_onBar pairConfig)
  refine ⟨events, final.report pairConfig (inputs.barCount pairConfig), ?_, ?_, ?_⟩
  · unfold runReplay
    rw [loaded]
    simp only [pairs]
    rw [if_neg reaches]
    have same : replayDays platform divergence
        (ReplayBroker.new (inputs.bars pairConfig) (.fromDecimal 10000)).barCount
        (.start inputs.configFile (.new (inputs.bars pairConfig) (.fromDecimal 10000)) inputs.start
          inputs.outside) = (events, .ok final) := runs
    rw [same]
    rfl
  · rw [evaluated, List.range_eq_range']
    rfl
  · have counted : entryCount (decisionCounts final.decisions) entryOutcomes =
        entriesRecorded final.decisions := entryCount_decisionCounts _ (by decide)
    refine counted.trans (recorded.trans ?_)
    rw [List.range_eq_range']
    exact Nat.zero_add _

theorem Day.evaluated_of_open {day : Day} (quoted : day.quoted = true) (isOpen : day.isOpen = true) :
    day.evaluated = day.config.pairs := by
  rw [Day.evaluated, quoted, isOpen]
  rfl

/-- A pair-set is evaluated on exactly the open days on which every symbol has a quote. -/
theorem mem_evaluated_iff {day : Day} (member : pairConfig ∈ day.config.pairs) :
    pairConfig ∈ day.evaluated ↔ day.quoted = true ∧ day.isOpen = true := by
  constructor
  · intro evaluated
    rw [← Bool.and_eq_true]
    by_contra idle
    simp [Day.evaluated, idle] at evaluated
  · rintro ⟨quoted, isOpen⟩
    rwa [Day.evaluated_of_open quoted isOpen]

theorem forall_evaluated_iff {events : List (List CycleEvent)} {count : Nat} {dayOn : Nat → Day}
    (evaluated : events.map evaluatedPairs = (List.range count).map fun bar => (dayOn bar).evaluated)
    (member : ∀ bar, pairConfig ∈ (dayOn bar).config.pairs) :
    (∀ day ∈ events, pairConfig ∈ evaluatedPairs day) ↔
      ∀ bar < count, (dayOn bar).quoted = true ∧ (dayOn bar).isOpen = true := by
  have mapped : (∀ day ∈ events, pairConfig ∈ evaluatedPairs day) ↔
      ∀ pairs ∈ events.map evaluatedPairs, pairConfig ∈ pairs := by simp
  rw [mapped, evaluated]
  simp [mem_evaluated_iff (member _)]

/-- If every day evaluates every pair-set, the report counts them all, day by day. -/
theorem sum_evaluated {count : Nat} {dayOn : Nat → Day} {pairs : List PairConfig}
    (all : ∀ bar < count, (dayOn bar).evaluated = pairs) :
    ((List.range count).map fun bar => (dayOn bar).evaluated.length).sum = count * pairs.length := by
  have each : ∀ length ∈ (List.range count).map fun bar => (dayOn bar).evaluated.length,
      length = pairs.length := by
    intro length member
    obtain ⟨bar, within, rfl⟩ := List.mem_map.mp member
    rw [all bar (List.mem_range.mp within)]
  rw [List.sum_eq_card_nsmul _ _ each, List.length_map, List.length_range]
  rfl

theorem quoted_single (config : Config) (bar : Nat) :
    (inputs.day { config with pairs := [pairConfig] } pairConfig bar).quoted = true := by
  refine List.all_eq_true.mpr fun symbol requested => ?_
  rw [List.contains_iff_mem, mem_bars_iff]
  obtain ⟨only, member, named⟩ := (mem_allSymbols_iff _ symbol).mp requested
  rwa [List.mem_singleton.mp member] at named

/-- A run over open days reports every pair-set once a day, so that a report that the
others do not change has none of them. -/
theorem single_of_sameReport (loaded : Config.load inputs.configFile = .ok config)
    (first : config.pairs.head? = some pairConfig) (bars : inputs.barCount pairConfig ≠ 0)
    (fits : config.risk.stalenessLimitsFit = true)
    (dated : ∀ bar < inputs.barCount pairConfig, inputs.holdsDay bar = true)
    (openDays : ∀ bar < inputs.barCount pairConfig,
      (inputs.day config pairConfig bar).quoted = true ∧
        (inputs.day config pairConfig bar).isOpen = true)
    (sameReport : (runReplay platform divergence inputs).2 =
      (runReplay platform divergence inputs.firstPairOnly).2) : config.pairs.length = 1 := by
  obtain ⟨_, report, runs, _, counted⟩ := runReplay_spec platform divergence loaded first bars fits dated
  obtain ⟨_, reducedReport, reducedRuns, _, reducedCounted⟩ :=
    runReplay_spec platform divergence (load_firstPairOnly loaded first) rfl bars fits dated
  have same : report = reducedReport := by simpa [runs, reducedRuns] using sameReport
  have all : ∀ bar < inputs.barCount pairConfig,
      (inputs.day config pairConfig bar).evaluated = config.pairs := by
    intro bar within
    exact Day.evaluated_of_open (openDays bar within).1 (openDays bar within).2
  have single : ∀ bar < inputs.barCount pairConfig,
      (inputs.day { config with pairs := [pairConfig] } pairConfig bar).evaluated =
        [pairConfig] := by
    intro bar within
    exact Day.evaluated_of_open (quoted_single config bar) (openDays bar within).2
  have total : inputs.barCount pairConfig * config.pairs.length =
      inputs.barCount pairConfig * 1 := by
    rw [← sum_evaluated all, ← counted, same]
    exact reducedCounted.trans (sum_evaluated single)
  exact Nat.eq_of_mul_eq_mul_left (Nat.pos_of_ne_zero bars) total

/-- With a single pair-set every open day quotes all there is to quote. -/
theorem quoted_of_single (first : config.pairs.head? = some pairConfig)
    (single : config.pairs.length = 1) (bar : Nat) :
    (inputs.day config pairConfig bar).quoted = true := by
  obtain ⟨rest, pairs⟩ := List.head?_eq_some_iff.mp first
  have alone : rest = [] := by simpa [pairs] using single
  have only : { config with pairs := [pairConfig] } = config := by rw [← alone, ← pairs]
  have quoted : (inputs.day { config with pairs := [pairConfig] } pairConfig bar).quoted = true :=
    quoted_single config bar
  rwa [only] at quoted

/-- A replay does what it is for exactly when it has nothing to replay, or the
configuration has a single pair-set and limits that a duration can hold, and no
simulated day is out of the calendar's range or closed to entries. -/
theorem replaysFirst_iff (loaded : Config.load inputs.configFile = .ok config)
    (first : config.pairs.head? = some pairConfig) :
    ReplaysFirst platform divergence inputs pairConfig ↔
      inputs.barCount pairConfig = 0 ∨
        (config.pairs.length = 1 ∧ config.risk.stalenessLimitsFit = true ∧
          ∀ bar < inputs.barCount pairConfig, inputs.holdsDay bar = true ∧
            (inputs.day config pairConfig bar).isOpen = true) := by
  by_cases bars : inputs.barCount pairConfig = 0
  · refine iff_of_true ?_ (.inl bars)
    have nothing := runReplay_noHistory platform divergence loaded first bars
    have reducedNothing :=
      runReplay_noHistory platform divergence (load_firstPairOnly loaded first) rfl bars
    constructor
    · rw [nothing, bars]
      rfl
    · simp [nothing]
    · rw [nothing, reducedNothing]
  · constructor
    · intro replays
      have begun : (runReplay platform divergence inputs).1 ≠ [] :=
        List.ne_nil_of_length_pos (replays.everyDay ▸ Nat.pos_of_ne_zero bars)
      have fits := fits_of_evaluates loaded first begun replays.evaluates
      have dated := holdsDay_of_everyDay loaded first replays.everyDay
      obtain ⟨events, report, runs, evaluated, _⟩ :=
        runReplay_spec platform divergence loaded first bars fits dated
      have daily := forall_evaluated_iff evaluated fun _ => List.mem_of_mem_head? first
      have openDays := daily.mp (by simpa [runs] using replays.evaluates)
      exact .inr ⟨single_of_sameReport loaded first bars fits dated openDays replays.sameReport,
        fits, fun bar within => ⟨dated bar within, (openDays bar within).2⟩⟩
    · rintro (nothing | ⟨single, fits, days⟩)
      · exact absurd nothing bars
      obtain ⟨events, report, runs, evaluated, _⟩ :=
        runReplay_spec platform divergence loaded first bars fits fun bar within => (days bar within).1
      have daily := forall_evaluated_iff evaluated fun _ => List.mem_of_mem_head? first
      constructor
      · have lengths := congrArg List.length evaluated
        simpa [runs] using lengths
      · rw [runs]
        exact daily.mpr fun bar within => ⟨quoted_of_single first single bar, (days bar within).2⟩
      · rw [firstPairOnly_eq loaded single]

end report

/-- Two days of closes for the default pair-set, with the host as it should be. -/
def twoBars : ReplayInputs where
  configFile := .missing
  primaryHistory := [1.10, 1.12]
  secondaryHistory := [1.25, 1.24]
  today := wednesdayMorning
  days := 2
  outside := {
    newUuid := fun draw => BitVec.ofNat 128 draw
    utcNow := fun draw => wednesdayMorning + Duration.seconds draw
    availableDiskMb := fun _ => some 20000
    residentMemoryMb := fun _ => some 64
    calendarHolds := fun _ => true }

theorem twoBars_replaysFirst :
    ReplaysFirst .winter asComputed twoBars ⟨"EURUSD", "GBPUSD"⟩ := by
  have loaded : Config.load twoBars.configFile = .ok .default := rfl
  exact (replaysFirst_iff loaded rfl).mpr (.inr ⟨rfl, by decide +kernel, by decide +kernel⟩)

/-- The same closes, with a second pair-set configured. -/
def secondPairSet : ReplayInputs :=
  { twoBars with configFile := .parsed { Config.default with
      pairs := [⟨"EURUSD", "GBPUSD"⟩, ⟨"AUDUSD", "NZDUSD"⟩] } }

/-- The snapshot fails for the symbols of the second pair-set, so that not even the
first one is evaluated. -/
theorem secondPairSet_not_replaysFirst :
    (Config.load secondPairSet.configFile).isOk = true ∧
      ¬ReplaysFirst .winter asComputed secondPairSet ⟨"EURUSD", "GBPUSD"⟩ := by
  refine ⟨by decide +kernel, ?_⟩
  intro replays
  have idle : ∃ events ∈ (runReplay .winter asComputed secondPairSet).1,
      ⟨"EURUSD", "GBPUSD"⟩ ∉ evaluatedPairs events := by decide +kernel
  obtain ⟨events, day, missing⟩ := idle
  exact missing (replays.evaluates events day)

end Oboobot.Daemon
