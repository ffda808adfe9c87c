import Oboobot.Daemon.ArrivedSnapshot
import Oboobot.Daemon.Host

/-! What a cycle does with a symbol that its snapshot has no quote of. -/

namespace Oboobot.Daemon

open Domain SessionTime Strategy Broker Interaction Daemon.Cycle

/-- The snapshot that arrives was requested for the symbol and has no quote of it. -/
def lacks (symbol : String) : CycleEvent → Bool
  | ⟨.getSnapshot symbols, some (.ok snapshot)⟩ =>
    symbols.contains symbol && (snapshot.prices symbol).isNone
  | _ => false

/-- The event rewrites a file that is kept for the symbol, or orders its pair. -/
def Touches (symbol : String) : CycleEvent → Prop
  | ⟨.writeBuffer file _, .ok ()⟩ => file = bufferDailyFile symbol ∨ file = bufferSessionFile symbol
  | ⟨.writeCorrelation file _, .ok ()⟩ =>
    ∃ other, file = correlationFile symbol other ∨ file = correlationFile other symbol
  | ⟨.writeTrueOpen _ level, .ok ()⟩ => level.symbol = symbol
  | ⟨.submitOrder request, _⟩ => request.pair = symbol
  | _ => False

/-- Nothing is recorded or ordered for the symbol. -/
def LeftAlone (symbol : String) (events : List CycleEvent) : Prop :=
  ∀ event ∈ events, ¬Touches symbol event

/-- The event stores a range of the symbol, in this file, that includes `price`. -/
def StoresRange (file : String) (price : Decimal) (event : CycleEvent) : Prop :=
  ∃ buffer, event = ⟨.writeBuffer file buffer, .ok ()⟩ ∧ buffer.asBufferLevels.Contains price

/-- The event stores a correlation window of the two symbols that ends in this sample. -/
def StoresSample (primary secondary : String) (sample : Decimal × Decimal) (event : CycleEvent) :
    Prop :=
  ∃ state, event = ⟨.writeCorrelation (correlationFile primary secondary) state, .ok ()⟩ ∧
    state.samples.getLast? = some sample

/-- Both ranges of the symbol have come to include a price of zero, and a correlation
window of its pair-set has a sample of zero for it. -/
structure RecordedAsZero (symbol : String) (events : List CycleEvent) : Prop where
  daily : ∃ event ∈ events, StoresRange (bufferDailyFile symbol) 0 event
  session : ∃ event ∈ events, StoresRange (bufferSessionFile symbol) 0 event
  correlation : ∃ event ∈ events, ∃ other price,
    StoresSample symbol other (0, price) event ∨ StoresSample other symbol (price, 0) event

theorem StoresRange.touches {symbol : String} {price : Decimal} {event : CycleEvent}
    (stores : StoresRange (bufferDailyFile symbol) price event) : Touches symbol event := by
  obtain ⟨buffer, rfl, _⟩ := stores
  exact .inl rfl

theorem RecordedAsZero.not_leftAlone {symbol : String} {events : List CycleEvent}
    (recorded : RecordedAsZero symbol events) : ¬LeftAlone symbol events := by
  intro alone
  obtain ⟨event, occurs, stores⟩ := recorded.daily
  exact alone event occurs stores.touches

section market

theorem getLast?_recordSample (state : CorrelationState) (primary secondary : Decimal)
    (now : Instant) :
    (recordSample state primary secondary now).samples.getLast? = some (primary, secondary) := by
  unfold recordSample
  dsimp only
  split
  · rename_i tooMany
    cases earlier : state.samples with
    | nil =>
      rw [earlier] at tooMany
      exact absurd tooMany (by simp [maxSamples])
    | cons first rest => exact List.getLast?_concat
  · exact List.getLast?_concat

theorem refreshBuffer_ensures (file : String)
    {update : Option RollingBuffer → Decimal → Instant → RollingBuffer} {price : Decimal}
    {now : Instant} (contains : ∀ current, (update current price now).asBufferLevels.Contains price) :
    (refreshBuffer file update price now).Ensures (StoresRange file price) := by
  unfold refreshBuffer
  refine ensures_bind_right fun reply => ensures_bind_right fun current => ensures_attempt ?_
  intro reply written came
  subst came
  exact ⟨_, rfl, contains current⟩

variable {platform : Platform} {divergence : DivergenceSource} {cli : Cli} {config : Config}
  {snapshot : BrokerSnapshot} {pairConfig : PairConfig} {symbol : String}

theorem recordCorrelation_ensures (primary secondary : String) (primaryPrice secondaryPrice : Decimal)
    (now : Instant) :
    (recordCorrelation platform config primary secondary primaryPrice secondaryPrice now).Ensures
      (StoresSample primary secondary (primaryPrice, secondaryPrice)) := by
  unfold recordCorrelation
  refine ensures_bind_right fun reply => ensures_bind_right fun stored => ?_
  refine ensures_bind_right fun seeded => ensures_attempt ?_
  intro reply written came
  subst came
  exact ⟨_, rfl, getLast?_recordSample _ _ _ _⟩

/-- A symbol of the pair-set, on either side. -/
def OfPair (pairConfig : PairConfig) (symbol : String) : Prop :=
  symbol = pairConfig.primary ∨ symbol = pairConfig.secondary

theorem readPairSet_ensures_daily (now : Instant) (ofPair : OfPair pairConfig symbol) :
    (readPairSet platform divergence config snapshot now pairConfig).Ensures
      (StoresRange (bufferDailyFile symbol) (bidOrZero snapshot symbol)) := by
  have refreshed : (refreshBuffer (bufferDailyFile symbol) (updateDailyBuffer platform.newYork)
      (bidOrZero snapshot symbol) now).Ensures
        (StoresRange (bufferDailyFile symbol) (bidOrZero snapshot symbol)) :=
    refreshBuffer_ensures _ fun current => updateBuffer_contains _ current _ now
  unfold readPairSet
  rcases ofPair with rfl | rfl
  · exact refreshed.bind
  · exact ensures_bind_right fun _ => refreshed.bind

theorem readPairSet_ensures_session (now : Instant) (ofPair : OfPair pairConfig symbol) :
    (readPairSet platform divergence config snapshot now pairConfig).Ensures
      (StoresRange (bufferSessionFile symbol) (bidOrZero snapshot symbol)) := by
  have refreshed : (refreshBuffer (bufferSessionFile symbol) (updateSessionBuffer platform.newYork)
      (bidOrZero snapshot symbol) now).Ensures
        (StoresRange (bufferSessionFile symbol) (bidOrZero snapshot symbol)) :=
    refreshBuffer_ensures _ fun current => updateBuffer_contains _ current _ now
  unfold readPairSet
  refine ensures_bind_right fun _ => ensures_bind_right fun _ => ?_
  rcases ofPair with rfl | rfl
  · exact refreshed.bind
  · exact ensures_bind_right fun _ => refreshed.bind

theorem readPairSet_ensures_sample (now : Instant) :
    (readPairSet platform divergence config snapshot now pairConfig).Ensures
      (StoresSample pairConfig.primary pairConfig.secondary
        (bidOrZero snapshot pairConfig.primary, bidOrZero snapshot pairConfig.secondary)) := by
  unfold readPairSet
  refine ensures_bind_right fun _ => ensures_bind_right fun _ => ?_
  refine ensures_bind_right fun _ => ensures_bind_right fun _ => ?_
  exact (recordCorrelation_ensures _ _ _ _ now).bind

/-- What a round of the market-state loop does for one pair-set, the cycle does. -/
theorem tradeOnSnapshot_ensures {seen : CycleEvent → Prop} (member : pairConfig ∈ config.pairs)
    (ensures : ∀ now, (readPairSet platform divergence config snapshot now pairConfig).Ensures seen)
    (health : HealthMonitor) (openPositions : List Position) :
    (tradeOnSnapshot platform divergence cli config snapshot health openPositions).Ensures seen := by
  unfold tradeOnSnapshot
  refine ensures_bind_right fun now => ensures_bind_right fun health => ?_
  refine ensures_bind_right fun _ => Program.Ensures.bind ?_
  exact ensures_foldlM member (fun _ => (ensures now).bind) []

end market

theorem bidOrZero_missing {snapshot : BrokerSnapshot} {symbol : String}
    (missing : snapshot.prices symbol = none) : bidOrZero snapshot symbol = 0 := by
  rw [bidOrZero, missing]
  rfl

theorem exists_of_lacks {symbol : String} {event : CycleEvent} (missing : lacks symbol event = true) :
    ∃ symbols snapshot, event = ⟨.getSnapshot symbols, some (.ok snapshot)⟩ ∧ symbol ∈ symbols ∧
      snapshot.prices symbol = none := by
  unfold lacks at missing
  split at missing
  · obtain ⟨requested, unquoted⟩ := (Bool.and_eq_true _ _).mp missing
    exact ⟨_, _, rfl, List.contains_iff_mem.mp requested, Option.isNone_iff_eq_none.mp unquoted⟩
  · cases missing

variable {platform : Platform} {divergence : DivergenceSource} {cli : Cli} {symbol : String}
  {events : List CycleEvent}

theorem recordedAsZero_of_lacks
    (trace : Trace (runRealCycle platform divergence cli) events (.done ()))
    (missing : ∃ event ∈ events, lacks symbol event = true) : RecordedAsZero symbol events := by
  obtain ⟨event, occurs, missing⟩ := missing
  obtain ⟨symbols, snapshot, rfl, requested, unquoted⟩ := exists_of_lacks missing
  obtain ⟨before, back, rfl⟩ := List.append_of_mem occurs
  obtain ⟨config, health, rfl, trades⟩ := trade_after_snapshot trace
  obtain ⟨pairConfig, member, ofPair⟩ := (mem_allSymbols_iff config.pairs symbol).mp requested
  have zero := bidOrZero_missing unquoted
  have later {seen : CycleEvent → Prop}
      (ensures : ∀ now, (readPairSet platform divergence config snapshot now pairConfig).Ensures seen) :
      ∃ event ∈ before ++ ⟨.getSnapshot (allSymbols config.pairs), some (.ok snapshot)⟩ :: back,
        seen event := by
    obtain ⟨event, occurs, sees⟩ :=
      tradeOnSnapshot_ensures member ensures health _ _ _ trades
    exact ⟨event, List.mem_append_right _ (List.mem_cons_of_mem _ occurs), sees⟩
  constructor
  · exact zero ▸ later fun now => readPairSet_ensures_daily now ofPair
  · exact zero ▸ later fun now => readPairSet_ensures_session now ofPair
  · obtain ⟨event, occurs, stores⟩ := later readPairSet_ensures_sample
    rcases ofPair with rfl | rfl
    · exact ⟨event, occurs, _, _, .inl (zero ▸ stores)⟩
    · exact ⟨event, occurs, _, _, .inr (zero ▸ stores)⟩

/-- A cycle that runs to its end leaves no symbol alone that its snapshot lacks: it has
recorded it as a price of zero. -/
theorem missing_recordedAsZero
    (trace : Trace (runRealCycle platform divergence cli) events (.done ()))
    (missing : ∃ event ∈ events, lacks symbol event = true) :
    ¬LeftAlone symbol events ∧ RecordedAsZero symbol events := by
  have recorded := recordedAsZero_of_lacks trace missing
  exact ⟨recorded.not_leftAlone, recorded⟩

/-- The broker has no quote of GBPUSD. -/
def unquotedHost : Host := .fresh .default (quotedAt [("EURUSD", 1.10)])

theorem unquotedHost_finishes :
    ((runRealCycle .winter asComputed ⟨false⟩).play Host.answer unquotedHost).2.1 = .done () :=
  Outcome.eq_done (by decide +kernel)

theorem unquotedHost_recordedAsZero :
    let events := ((runRealCycle .winter asComputed ⟨false⟩).play Host.answer unquotedHost).1
    ¬LeftAlone "GBPUSD" events ∧ RecordedAsZero "GBPUSD" events := by
  intro events
  have trace := (runRealCycle .winter asComputed ⟨false⟩).play_trace Host.answer unquotedHost
  rw [unquotedHost_finishes] at trace
  exact missing_recordedAsZero trace (by decide +kernel)

/-- The ranges of GBPUSD are rewritten. -/
theorem unquotedHost_not_leftAlone :
    ¬∀ (platform : Platform) (divergence : DivergenceSource) (cli : Cli) (events : List CycleEvent)
      (outcome : Outcome CycleError Unit),
      Trace (runRealCycle platform divergence cli) events outcome →
      ∀ symbol, (∃ event ∈ events, lacks symbol event = true) → LeftAlone symbol events := by
  intro claimed
  have trace := (runRealCycle .winter asComputed ⟨false⟩).play_trace Host.answer unquotedHost
  rw [unquotedHost_finishes] at trace
  have missing : ∃ event ∈
      ((runRealCycle .winter asComputed ⟨false⟩).play Host.answer unquotedHost).1,
      lacks "GBPUSD" event = true := by decide +kernel
  exact (recordedAsZero_of_lacks trace missing).not_leftAlone
    (claimed .winter asComputed ⟨false⟩ _ _ trace "GBPUSD" missing)

end Oboobot.Daemon
