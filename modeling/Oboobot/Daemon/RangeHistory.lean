import Oboobot.Daemon.Host
import Oboobot.Daemon.PairIndependence
import Oboobot.Daemon.PhaseCalls
import Oboobot.Strategy.BufferHistory

/-! The range files over any sequence of invocations, killed or not: what a range on file
says about the prices that were observed. -/

namespace Oboobot.Daemon

open Domain SessionTime Strategy Risk Broker Interaction Daemon.Cycle

inductive RangeKind where
  | daily
  | session
  deriving DecidableEq

namespace RangeKind

def file : RangeKind → String → String
  | .daily => bufferDailyFile
  | .session => bufferSessionFile

def update : RangeKind → NewYork → Option RollingBuffer → Decimal → Instant → RollingBuffer
  | .daily => updateDailyBuffer
  | .session => updateSessionBuffer

/-- When the ranges of a kind start over. -/
def schedule : RangeKind → NewYork → Schedule
  | .daily => dailySchedule
  | .session => sessionSchedule

theorem update_eq (kind : RangeKind) (newYork : NewYork) (current : Option RollingBuffer)
    (price : Decimal) (now : Instant) :
    kind.update newYork current price now =
      updateBuffer ((kind.schedule newYork).next now) current price now := by
  cases kind <;> rfl

theorem file_inj {kind other : RangeKind} {symbol symbol' : String} :
    kind.file symbol = other.file symbol' ↔ kind = other ∧ symbol = symbol' := by
  cases kind <;> cases other <;>
    simp [file, bufferDailyFile_inj, bufferSessionFile_inj, bufferSessionFile_ne,
      (bufferSessionFile_ne _ _).symm]

end RangeKind

/-- One range file, with the prices observed in it so far, the latest snapshot and the
latest reading of the clock. -/
structure RangeWorld where
  range : Option RollingBuffer
  observed : List PricePoint
  snapshot : Option BrokerSnapshot
  now : Instant

namespace RangeWorld

def bid (world : RangeWorld) (symbol : String) : Decimal :=
  (world.snapshot.map (bidOrZero · symbol)).getD 0

def written (world : RangeWorld) (symbol : String) (buffer : RollingBuffer) : RangeWorld :=
  { world with
    range := some buffer
    observed := world.observed ++ [(world.bid symbol, world.now)] }

end RangeWorld

/-- The clock never goes back. A write that fails may have replaced the range or not. -/
def RangeStep (kind : RangeKind) (symbol : String) (world : RangeWorld) (event : CycleEvent)
    (after : RangeWorld) : Prop :=
  match event with
  | ⟨.getSnapshot _, some (.ok snapshot)⟩ => after = { world with snapshot := some snapshot }
  | ⟨.clockNow, time⟩ => world.now ≤ time ∧ after = { world with now := time }
  | ⟨.readBuffer file, .ok found⟩ => (file = kind.file symbol → found = world.range) ∧ after = world
  | ⟨.writeBuffer file buffer, .ok _⟩ =>
    after = if file = kind.file symbol then world.written symbol buffer else world
  | ⟨.writeBuffer file buffer, .error _⟩ =>
    after = world ∨ file = kind.file symbol ∧ after = world.written symbol buffer
  | _ => after = world

/-- What is written is the range on file, updated with this cycle's bid. -/
def rangeContract (kind : RangeKind) (newYork : NewYork) (symbol : String) :
    Contract Call Reply RangeWorld where
  step := RangeStep kind symbol
  promise world call := match call with
    | .writeBuffer file buffer => file = kind.file symbol →
        buffer = kind.update newYork world.range (world.bid symbol) world.now
    | _ => True

/-- Calls that have nothing to do with ranges, nor with what is recorded in them. -/
def Call.isRangeless : Call → Bool
  | .readBuffer _ | .writeBuffer _ _ => false
  | .getSnapshot _ | .clockNow => false
  | _ => true

section kinds
variable (call : Call)

theorem isRangeless_of_correlation (correlates : call.isCorrelation) : call.isRangeless = true := by
  cases call <;> first | rfl | cases correlates

theorem isRangeless_of_spread (spreads : call.isSpread) : call.isRangeless = true := by
  cases call <;> first | rfl | cases spreads

theorem isRangeless_of_housekeeping (keeps : call.isHousekeeping) : call.isRangeless = true := by
  cases call <;> first | rfl | cases keeps

theorem isRangeless_of_trueOpen (captures : call.isTrueOpen) : call.isRangeless = true := by
  cases call <;> first | rfl | cases captures

theorem isRangeless_of_reconciling (compares : call.isReconciling) : call.isRangeless = true := by
  cases call <;> first | rfl | cases compares

theorem isRangeless_of_closing (closes : call.isClosing) : call.isRangeless = true := by
  cases call <;> first | rfl | cases closes

theorem isRangeless_of_ordering (orders : call.isOrdering) : call.isRangeless = true := by
  cases call <;> first | rfl | cases orders

end kinds

/-- A contract about ranges, which only the snapshot, the clock and the range files matter to:
`arrived` holds once the snapshot is there, and `during` once the time is known too. -/
structure TracksRanges {World : Type} (contract : Contract Call Reply World) (newYork : NewYork)
    (arrived : BrokerSnapshot → World → Prop) (during : BrokerSnapshot → Instant → World → Prop) :
    Prop where
  promised : ∀ world call, call.isRangeless = true → contract.promise world call
  kept : ∀ world event after, event.call.isRangeless = true → contract.step world event after →
    after = world
  asked : ∀ world symbols, contract.promise world (.getSnapshot symbols)
  quoted : ∀ world symbols snapshot after,
    contract.step world ⟨.getSnapshot symbols, some (.ok snapshot)⟩ after → arrived snapshot after
  clocked : ∀ world, contract.promise world .clockNow
  timed : ∀ world snapshot now after, arrived snapshot world →
    contract.step world ⟨.clockNow, now⟩ after → during snapshot now after
  refreshed : ∀ world snapshot now, during snapshot now world → ∀ (kind : RangeKind) symbol,
    (refreshBuffer (kind.file symbol) (kind.update newYork) (bidOrZero snapshot symbol) now).Meets
      contract (fun _ after => during snapshot now after) (fun _ _ => True) world

namespace TracksRanges

variable {World : Type} {contract : Contract Call Reply World} {platform : Platform}
  {arrived : BrokerSnapshot → World → Prop} {during : BrokerSnapshot → Instant → World → Prop}
  (tracks : TracksRanges contract platform.newYork arrived during) {divergence : DivergenceSource}
  {cli : Cli} {config : Config} {snapshot : BrokerSnapshot} {now : Instant} {world : World}
  {α : Type}
include tracks

/-- Programs without any such call leave the world alone. -/
theorem meets_of_rangeless {program : Cycle α} {post : α → Prop}
    (yields : program.Yields (fun call => call.isRangeless = true) post) :
    program.Meets contract (fun value after => post value ∧ after = world) (fun _ _ => True)
      world := by
  have framed : program.Meets contract (fun value after => post value ∧ after = world)
      (fun _ after => after = world) world := by
    refine yields.frame ?_ ?_ rfl
    · intro before call rangeless _
      exact tracks.promised before call rangeless
    · intro before event after rangeless same step
      exact (tracks.kept before event after rangeless step).trans same
  exact framed.weaken (fun _ _ given => given) fun _ _ _ => trivial

/-- One call of another kind. -/
theorem meets_call {call : Call} {next : Reply call → Cycle α} {post : α → World → Prop}
    {failed : CycleError → World → Prop} (rangeless : call.isRangeless = true)
    (rest : ∀ reply, (next reply).Meets contract post failed world) :
    (perform call >>= next).Meets contract post failed world := by
  rw [meets_bind, meets_perform]
  refine ⟨tracks.promised world call rangeless, fun reply after step => ?_⟩
  rw [tracks.kept world ⟨call, reply⟩ after rangeless step]
  exact rest reply

theorem readPairSets_meets (starts : during snapshot now world) :
    (readPairSets platform divergence config snapshot now).Meets contract (fun _ _ => True)
      (fun _ _ => True) world := by
  have refreshed {β : Type} {left : World} (during' : during snapshot now left)
      (kind : RangeKind) (symbol : String) {next : RollingBuffer → Cycle β}
      {post : β → World → Prop}
      (rest : ∀ buffer left, during snapshot now left →
        (next buffer).Meets contract post (fun _ _ => True) left) :
      (refreshBuffer (kind.file symbol) (kind.update platform.newYork) (bidOrZero snapshot symbol)
        now >>= next).Meets contract post (fun _ _ => True) left := by
    rw [meets_bind]
    exact (tracks.refreshed left snapshot now during' kind symbol).weaken
      (fun buffer left => rest buffer left) fun _ _ _ => trivial
  have round {left : World} (during' : during snapshot now left) (pairConfig : PairConfig) :
      (readPairSet platform divergence config snapshot now pairConfig).Meets contract
        (fun _ after => during snapshot now after) (fun _ _ => True) left := by
    unfold readPairSet
    refine refreshed during' .daily pairConfig.primary fun dailyPrimary left during' => ?_
    refine refreshed during' .daily pairConfig.secondary fun dailySecondary left during' => ?_
    refine refreshed during' .session pairConfig.primary fun sessionPrimary left during' => ?_
    refine refreshed during' .session pairConfig.secondary fun sessionSecondary left during' => ?_
    rw [meets_bind]
    refine (tracks.meets_of_rangeless (recordCorrelation_calls isRangeless_of_correlation ..)).weaken ?_
      fun _ _ _ => trivial
    intro correlation after same
    rw [same.2, meets_bind]
    refine (tracks.meets_of_rangeless (recordSpread_calls isRangeless_of_spread ..)).weaken ?_
      fun _ _ _ => trivial
    intro spread after same
    rw [same.2]
    exact tracks.meets_call rfl fun _ => during'
  refine Program.Meets.weaken (meets_foldlM (fun _ _ after => during snapshot now after) ?_ []
    starts) (fun _ _ _ => trivial) fun _ _ given => given
  intro front pairConfig back readings left _ during'
  rw [meets_bind]
  exact (round during' pairConfig).weaken (fun _ _ still => still) fun _ _ given => given

theorem tradeOnSnapshot_meets (quotes : arrived snapshot world) (health : HealthMonitor)
    (openPositions : List Position) :
    (tradeOnSnapshot platform divergence cli config snapshot health openPositions).Meets contract
      (fun _ _ => True) (fun _ _ => True) world := by
  unfold tradeOnSnapshot
  rw [meets_bind, meets_perform]
  refine ⟨tracks.clocked world, fun now left step => ?_⟩
  have starts := tracks.timed world snapshot now left quotes step
  rw [meets_bind]
  refine (tracks.meets_of_rangeless (hostHealth_calls isRangeless_of_housekeeping ..)).weaken ?_
    fun _ _ _ => trivial
  intro checked after same
  rw [same.2, meets_bind]
  refine (tracks.meets_of_rangeless (convertStalenessLimits_yields rfl)).weaken ?_ fun _ _ _ => trivial
  intro _ after same
  rw [same.2, meets_bind]
  refine (tracks.readPairSets_meets starts).weaken ?_ fun _ _ _ => trivial
  intro readings after _
  rw [meets_bind]
  refine (tracks.meets_of_rangeless (exitSweep_calls isRangeless_of_reconciling isRangeless_of_housekeeping
    isRangeless_of_closing (fun _ _ => rfl) ..)).weaken ?_ fun _ _ _ => trivial
  intro remaining after _
  exact (tracks.meets_of_rangeless (considerEntries_calls isRangeless_of_reconciling
    isRangeless_of_housekeeping isRangeless_of_ordering isRangeless_of_trueOpen (fun _ => rfl)
    (fun _ => rfl) (fun _ _ => rfl) ..)).weaken (fun _ _ _ => trivial) fun _ _ _ => trivial

/-- From any state, an invocation keeps to the contract. -/
theorem runRealCycle_meets :
    (runRealCycle platform divergence cli).Meets contract (fun _ _ => True) (fun _ _ => True)
      world := by
  have quietly {left : World} (positions : List Position) (health : HealthMonitor)
      (label : String) (paused : Bool) : (writeStatus positions health (some label) paused).Meets
        contract (fun _ _ => True) (fun _ _ => True) left :=
    (tracks.meets_of_rangeless (writeStatus_calls isRangeless_of_housekeeping ..)).weaken
      (fun _ _ _ => trivial) fun _ _ _ => trivial
  have configured (config : Config) : (configuredCycle platform divergence cli config).Meets contract
      (fun _ _ => True) (fun _ _ => True) world := by
    unfold configuredCycle
    refine tracks.meets_call rfl fun reply => ?_
    rw [meets_bind, meets_ofExcept]
    refine ⟨fun records _ => ?_, fun _ _ => trivial⟩
    rw [meets_bind]
    refine (tracks.meets_of_rangeless (reconcileAndNotify_calls isRangeless_of_reconciling records)).weaken ?_
      fun _ _ _ => trivial
    intro openPositions left same
    rw [same.2, meets_bind, meets_perform]
    refine ⟨tracks.asked world _, fun outcome after step => ?_⟩
    rcases outcome with _ | failure | snapshot
    · exact tracks.meets_call rfl fun _ => quietly ..
    · exact tracks.meets_call rfl fun _ => quietly ..
    · exact tracks.tradeOnSnapshot_meets (tracks.quoted world _ snapshot after step) ..
  refine runRealCycle_meets_of (fun current => current = world) rfl ?_ (fun _ _ _ => trivial)
    (fun _ _ => quietly ..) ?_
  · rintro current call opens rfl
    have rangeless : call.isRangeless = true := by rcases opens with rfl | rfl | rfl <;> rfl
    exact ⟨tracks.promised current call rangeless, fun _ _ step => tracks.kept current _ _ rangeless step⟩
  · rintro _ _ _ config _ _ rfl
    exact configured config

end TracksRanges

/-- The snapshot and the time that a cycle goes by. -/
def During (snapshot : BrokerSnapshot) (now : Instant) (world : RangeWorld) : Prop :=
  world.snapshot = some snapshot ∧ world.now = now

theorem refreshBuffer_promised {kind : RangeKind} {newYork : NewYork} {symbol : String}
    {snapshot : BrokerSnapshot} {now : Instant} {world : RangeWorld}
    (during : During snapshot now world) (kind' : RangeKind) (other : String) :
    (refreshBuffer (kind'.file other) (kind'.update newYork) (bidOrZero snapshot other) now).Meets
      (rangeContract kind newYork symbol) (fun _ after => During snapshot now after)
      (fun _ _ => True) world := by
  unfold refreshBuffer
  simp only [meets_bind, meets_perform, meets_ofExcept, meets_pure]
  refine ⟨trivial, fun reply left step => ⟨?_, fun _ _ => trivial⟩⟩
  intro found read
  subst read
  obtain ⟨onFile, rfl⟩ := step
  refine ⟨?_, fun reply left step => ⟨?_, fun _ _ => trivial⟩⟩
  · intro same
    obtain ⟨rfl, rfl⟩ := RangeKind.file_inj.mp same
    have price : left.bid other = bidOrZero snapshot other := by
      unfold RangeWorld.bid
      rw [during.1]
      rfl
    rw [price, onFile same, during.2]
  · intro done wrote
    subst wrote
    replace step : left = if _ then _ else _ := step
    rw [step]
    split
    · exact during
    · exact during

/-- Whatever was on file before, an invocation updates it with its own prices only. -/
theorem tracksRanges_rangeContract (kind : RangeKind) (newYork : NewYork) (symbol : String) :
    TracksRanges (rangeContract kind newYork symbol) newYork
      (fun snapshot world => world.snapshot = some snapshot) During where
  promised _ call rangeless := by
    cases call with
    | writeBuffer _ _ => cases rangeless
    | _ => trivial
  kept _ event _ rangeless step := by
    obtain ⟨call, reply⟩ := event
    cases call with
    | readBuffer _ | writeBuffer _ _ | getSnapshot _ | clockNow => cases rangeless
    | _ => exact step
  asked _ _ := trivial
  quoted world _ snapshot after step := by
    obtain rfl : after = _ := step
    rfl
  clocked _ := trivial
  timed _ _ _ _ arrived step := by
    obtain ⟨_, rfl⟩ := step
    exact ⟨arrived, rfl⟩
  refreshed _ _ _ during := refreshBuffer_promised during

/-- The range on file is what the observed prices make of it, in the order of time. -/
structure KeepsTrack (kind : RangeKind) (newYork : NewYork) (world : RangeWorld) : Prop where
  range : world.range = observeAll (kind.update newYork) world.observed
  ordered : world.observed.Pairwise fun before after => before.2 ≤ after.2
  past : ∀ point ∈ world.observed, point.2 ≤ world.now

section runs
variable {kind : RangeKind} {newYork : NewYork} {symbol : String} {world : RangeWorld}

theorem KeepsTrack.later (tracks : KeepsTrack kind newYork world) {now : Instant}
    (later : world.now ≤ now) : KeepsTrack kind newYork { world with now := now } :=
  ⟨tracks.range, tracks.ordered, fun point member => (tracks.past point member).trans later⟩

theorem KeepsTrack.written (tracks : KeepsTrack kind newYork world) :
    KeepsTrack kind newYork (world.written symbol
      (kind.update newYork world.range (world.bid symbol) world.now)) := by
  constructor
  · unfold RangeWorld.written
    dsimp only
    rw [observeAll_append_singleton, ← tracks.range]
  · refine List.pairwise_append.mpr ⟨tracks.ordered, List.pairwise_singleton _ _, ?_⟩
    intro point member last same
    obtain rfl := List.mem_singleton.mp same
    exact tracks.past point member
  · intro point member
    rcases List.mem_append.mp member with old | last
    · exact tracks.past point old
    · exact (congrArg Prod.snd (List.mem_singleton.mp last)).le

theorem KeepsTrack.step (tracks : KeepsTrack kind newYork world) {event : CycleEvent}
    {after : RangeWorld} (promised : (rangeContract kind newYork symbol).promise world event.call)
    (step : RangeStep kind symbol world event after) : KeepsTrack kind newYork after := by
  obtain ⟨call, reply⟩ := event
  cases call with
  | getSnapshot _ =>
    rcases reply with _ | _ | snapshot
    · exact (step : after = world) ▸ tracks
    · exact (step : after = world) ▸ tracks
    · obtain rfl : after = _ := step
      exact ⟨tracks.range, tracks.ordered, tracks.past⟩
  | clockNow =>
    obtain ⟨later, rfl⟩ := step
    exact tracks.later later
  | readBuffer _ =>
    cases reply with
    | error failure => exact (step : after = world) ▸ tracks
    | ok found => exact step.2 ▸ tracks
  | writeBuffer file buffer =>
    cases reply with
    | error failure =>
      rcases step with rfl | ⟨same, rfl⟩
      · exact tracks
      · exact promised same ▸ tracks.written
    | ok done =>
      replace step : after = if _ then _ else _ := step
      rw [step]
      split
      · rename_i same
        exact promised same ▸ tracks.written
      · exact tracks
  | _ => exact (step : after = world) ▸ tracks

/-- One range file under any sequential invocations, killed or not, from before it exists.
Between them only time passes. -/
def RangeReachable (kind : RangeKind) (platform : Platform) (symbol : String) :
    Option (Cycle Unit) → RangeWorld → Prop :=
  Reachable (rangeContract kind platform.newYork symbol)
    (fun program => ∃ divergence cli, program = runRealCycle platform divergence cli)
    (fun world after => world.now ≤ after.now ∧ after = { world with now := after.now })
    (fun world => world.range = none ∧ world.observed = [])

/-- Whenever a file holds a range, that range spans the prices observed since the boundary
before the last of them, and holds until the next boundary. -/
theorem range_spans_of_reachable {platform : Platform} {running : Option (Cycle Unit)}
    (reached : RangeReachable kind platform symbol running world) :
    (world.range = none ↔ world.observed = []) ∧ ∀ buffer, world.range = some buffer →
      ∃ earlier price time, world.observed = earlier ++ [(price, time)] ∧ time ≤ world.now ∧
        Spans (kind.schedule platform.newYork) world.observed time buffer := by
  have tracks : KeepsTrack kind platform.newYork world := by
    refine (Reachable.invariant ?_ ?_ ?_ ?_ reached).1
    · intro world start
      obtain ⟨absent, nothing⟩ := start
      exact ⟨by rw [absent, nothing]; rfl, nothing ▸ .nil, by rw [nothing]; exact List.forall_mem_nil _⟩
    · intro program world starts _
      obtain ⟨divergence, cli, rfl⟩ := starts
      exact (tracksRanges_rangeContract kind platform.newYork symbol).runRealCycle_meets
    · exact fun world event after tracks promised step => tracks.step promised step
    · intro world after tracks moves
      exact moves.2 ▸ tracks.later moves.1
  rcases List.eq_nil_or_concat' world.observed with nothing | ⟨earlier, ⟨price, time⟩, observed⟩
  · have absent : world.range = none := by
      rw [tracks.range, nothing]
      rfl
    refine ⟨iff_of_true absent nothing, ?_⟩
    intro buffer found
    rw [absent] at found
    cases found
  · have ordered := tracks.ordered
    rw [observed] at ordered
    obtain ⟨buffer, folded, spans⟩ := spans_observeAll (kind.schedule platform.newYork)
      (kind.update_eq platform.newYork) earlier price time ordered
    have found : world.range = some buffer := by
      rw [tracks.range, observed, folded]
    refine ⟨iff_of_false (by simp [found]) (by simp [observed]), ?_⟩
    intro other same
    rw [found] at same
    cases same
    exact ⟨earlier, price, time, observed,
      tracks.past (price, time) (by simp [observed]), observed ▸ spans⟩

end runs

/-- A host together with what it has shown of one range. -/
structure RangeHost where
  host : Host
  world : RangeWorld

namespace RangeHost

def follow (kind : RangeKind) (symbol : String) (world : RangeWorld) : CycleEvent → RangeWorld
  | ⟨.getSnapshot _, some (.ok snapshot)⟩ => { world with snapshot := some snapshot }
  | ⟨.clockNow, time⟩ => { world with now := time }
  | ⟨.writeBuffer file buffer, .ok _⟩ =>
    if file = kind.file symbol then world.written symbol buffer else world
  | _ => world

def answer (kind : RangeKind) (symbol : String) (state : RangeHost) (call : Call) :
    Reply call × RangeHost :=
  ((state.host.answer call).1,
    ⟨(state.host.answer call).2, follow kind symbol state.world ⟨call, (state.host.answer call).1⟩⟩)

/-- The host has the range on file, and its clock has not gone back. -/
def Valid (kind : RangeKind) (symbol : String) (state : RangeHost) : Prop :=
  state.host.buffers (kind.file symbol) = state.world.range ∧ state.world.now ≤ state.host.clock

theorem answer_step {kind : RangeKind} {symbol : String} (state : RangeHost) (call : Call)
    (valid : state.Valid kind symbol) :
    RangeStep kind symbol state.world ⟨call, (state.answer kind symbol call).1⟩
      (state.answer kind symbol call).2.world ∧ (state.answer kind symbol call).2.Valid kind symbol := by
  obtain ⟨onFile, clock⟩ := valid
  cases call with
  | clockNow => exact ⟨⟨clock, rfl⟩, onFile, le_refl _⟩
  | getSnapshot symbols => exact ⟨rfl, onFile, clock⟩
  | readBuffer file =>
    refine ⟨⟨?_, rfl⟩, onFile, clock⟩
    intro same
    rw [← onFile, ← same]
  | writeBuffer file buffer =>
    refine ⟨rfl, ?_⟩
    unfold Valid answer follow
    dsimp only [Host.answer]
    by_cases same : file = kind.file symbol
    · rw [if_pos same, same]
      exact ⟨if_pos rfl, clock⟩
    · rw [if_neg same]
      exact ⟨(if_neg (Ne.symm same)).trans onFile, clock⟩
  | closePosition id =>
    have kept : (state.host.closePosition id).2.buffers = state.host.buffers ∧
        (state.host.closePosition id).2.clock = state.host.clock := by
      unfold Host.closePosition
      split <;> exact ⟨rfl, rfl⟩
    exact ⟨rfl, (congrFun kept.1 _).trans onFile, kept.2 ▸ clock⟩
  | _ => exact ⟨rfl, onFile, clock⟩

/-- One invocation on the host. -/
def invoked (state : RangeHost) : RangeHost :=
  ((runRealCycle .winter asComputed ⟨false⟩).play (answer .daily "EURUSD") state).2.2

/-- The prices and the clock move on. -/
def movedOn (state : RangeHost) (quotes : BTreeMap PriceQuote) (passed : Duration) : RangeHost :=
  { state with host := { state.host with quotes, clock := state.host.clock + passed } }

def before : RangeHost where
  host := .fresh .default (quotedAt [("EURUSD", 1.10), ("GBPUSD", 1.20)])
  world := { range := none, observed := [], snapshot := none, now := wednesdayMorning }

/-- Two invocations, an hour and two pips apart. -/
def later : RangeHost :=
  (before.invoked.movedOn (quotedAt [("EURUSD", 1.1002), ("GBPUSD", 1.20)])
    (Duration.hours 1)).invoked

theorem invoked_reachable {state : RangeHost} (valid : state.Valid .daily "EURUSD")
    (reached : RangeReachable .daily .winter "EURUSD" none state.world) :
    RangeReachable .daily .winter "EURUSD" none state.invoked.world ∧
      state.invoked.Valid .daily "EURUSD" :=
  Reachable.played answer_step valid (.launch reached ⟨_, _, rfl⟩)

end RangeHost

theorem later_range_spans :
    RangeHost.later.world.observed.map Prod.fst = [1.10, 1.1002] ∧
      ∃ buffer, RangeHost.later.world.range = some buffer ∧
        ∃ earlier price time, RangeHost.later.world.observed = earlier ++ [(price, time)] ∧
          time ≤ RangeHost.later.world.now ∧
          Spans (RangeKind.daily.schedule .standardTime) RangeHost.later.world.observed time
            buffer := by
  have valid : RangeHost.before.Valid .daily "EURUSD" := ⟨rfl, le_refl _⟩
  obtain ⟨reached, still⟩ := RangeHost.invoked_reachable valid (.start ⟨rfl, rfl⟩)
  have movedOn : (RangeHost.before.invoked.movedOn (quotedAt [("EURUSD", 1.1002),
      ("GBPUSD", 1.20)]) (Duration.hours 1)).Valid .daily "EURUSD" :=
    ⟨still.1, still.2.trans (by decide +kernel)⟩
  obtain ⟨reached, _⟩ := RangeHost.invoked_reachable movedOn reached
  have onFile : RangeHost.later.world.range.isSome = true := by decide +kernel
  obtain ⟨buffer, found⟩ := Option.isSome_iff_exists.mp onFile
  exact ⟨by decide +kernel, buffer, found, (range_spans_of_reachable reached).2 buffer found⟩

end Oboobot.Daemon
