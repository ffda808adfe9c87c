import Oboobot.Daemon.RangeHistory
import Oboobot.Interaction.Overlap

/-! Invocations that overlap, each of which reads a range, widens it and writes it back:
updates and whole files may be lost, but no range is ever made up. -/

namespace Oboobot.Daemon

open Domain SessionTime Strategy Risk Broker Interaction Daemon.Cycle

/-- What an invocation has seen that its next update of a range depends on. -/
structure RangeView where
  found : Option RollingBuffer
  snapshot : Option BrokerSnapshot
  observed : List PricePoint

namespace RangeView

def fresh : RangeView where
  found := none
  snapshot := none
  observed := []

def after (kind : RangeKind) (symbol : String) (view : RangeView) : CycleEvent → RangeView
  | ⟨.getSnapshot _, some (.ok snapshot)⟩ => { view with snapshot := some snapshot }
  | ⟨.clockNow, time⟩ => { view with
      observed := view.observed ++
        (view.snapshot.map fun snapshot => (bidOrZero snapshot symbol, time)).toList }
  | ⟨.readBuffer file, .ok found⟩ => if file = kind.file symbol then { view with found } else view
  | _ => view

/-- A range is only ever replaced by an update of the one that was found, with a price of
the invocation's own. -/
def Promised (kind : RangeKind) (newYork : NewYork) (symbol : String) (view : RangeView)
    (call : Call) : Prop :=
  match call with
  | .writeBuffer file buffer => file = kind.file symbol → ∃ point ∈ view.observed,
      buffer = kind.update newYork view.found point.1 point.2
  | _ => True

end RangeView

section promises
variable (kind : RangeKind) (newYork : NewYork) (symbol : String)

abbrev rangeMonitor : Contract Call Reply RangeView :=
  monitor (RangeView.after kind symbol) (RangeView.Promised kind newYork symbol)

/-- The snapshot and the time that an invocation goes by, one of its observations. -/
def Observing (symbol : String) (snapshot : BrokerSnapshot) (now : Instant) (view : RangeView) :
    Prop :=
  view.snapshot = some snapshot ∧ (bidOrZero snapshot symbol, now) ∈ view.observed

variable {kind newYork symbol}

theorem refreshBuffer_observing {snapshot : BrokerSnapshot} {now : Instant} {view : RangeView}
    (observing : Observing symbol snapshot now view) (kind' : RangeKind) (other : String) :
    (refreshBuffer (kind'.file other) (kind'.update newYork) (bidOrZero snapshot other) now).Meets
      (rangeMonitor kind newYork symbol) (fun _ after => Observing symbol snapshot now after)
      (fun _ _ => True) view := by
  have observed {file : String} {found : Option RollingBuffer} :
      (view.after kind symbol ⟨.readBuffer file, .ok found⟩).snapshot = view.snapshot ∧
        (view.after kind symbol ⟨.readBuffer file, .ok found⟩).observed = view.observed := by
    dsimp only [RangeView.after]
    split <;> exact ⟨rfl, rfl⟩
  unfold refreshBuffer
  simp only [meets_bind, meets_perform_monitor, meets_ofExcept, meets_pure]
  refine ⟨trivial, fun reply => ⟨?_, fun _ _ => trivial⟩⟩
  intro found read
  subst read
  refine ⟨?_, fun reply => ⟨?_, fun _ _ => trivial⟩⟩
  · intro same
    obtain ⟨rfl, rfl⟩ := RangeKind.file_inj.mp same
    refine ⟨(bidOrZero snapshot other, now), observed.2 ▸ observing.2, ?_⟩
    have own : (view.after kind' other ⟨.readBuffer (kind'.file other), .ok found⟩).found = found :=
      congrArg RangeView.found (if_pos rfl)
    rw [own]
  · intro done wrote
    exact ⟨observed.1.trans observing.1, observed.2 ▸ observing.2⟩

variable (kind newYork symbol) in
theorem tracksRanges_rangeMonitor :
    TracksRanges (rangeMonitor kind newYork symbol) newYork
      (fun snapshot view => view.snapshot = some snapshot) (Observing symbol) where
  promised _ call rangeless := by
    cases call with
    | writeBuffer _ _ => cases rangeless
    | _ => trivial
  kept _ event _ rangeless step := by
    obtain ⟨call, reply⟩ := event
    cases call with
    | readBuffer _ | writeBuffer _ _ | getSnapshot _ | clockNow => cases rangeless
    | _ => exact step
  asked _ _ := trivial
  quoted world _ snapshot after step := by
    obtain rfl : after = _ := step
    rfl
  clocked _ := trivial
  timed world snapshot now after arrived step := by
    obtain rfl : after = _ := step
    refine ⟨arrived, ?_⟩
    unfold RangeView.after
    dsimp only
    rw [arrived]
    exact List.mem_append_right _ List.mem_cons_self
  refreshed _ _ _ observing := refreshBuffer_observing observing

end promises

/-- One session received a snapshot, and then read the clock at this time. The price is
the snapshot's bid, or zero where it has no quote of the symbol. -/
def Observes (symbol : String) (events : List CycleEvent) (point : PricePoint) : Prop :=
  ∃ symbols snapshot, point.1 = bidOrZero snapshot symbol ∧
    List.Sublist [⟨.getSnapshot symbols, some (.ok snapshot)⟩, ⟨.clockNow, point.2⟩] events

theorem snapshot_after {kind : RangeKind} {symbol : String} {view : RangeView} {event : CycleEvent}
    {snapshot : BrokerSnapshot} (arrived : (view.after kind symbol event).snapshot = some snapshot) :
    view.snapshot = some snapshot ∨
      ∃ symbols, event = ⟨.getSnapshot symbols, some (.ok snapshot)⟩ := by
  unfold RangeView.after at arrived
  split at arrived
  · rename_i symbols other
    cases arrived
    exact .inr ⟨symbols, rfl⟩
  · exact .inl arrived
  · split at arrived <;> exact .inl arrived
  · exact .inl arrived

theorem mem_observed_after {kind : RangeKind} {symbol : String} {view : RangeView}
    {event : CycleEvent} {point : PricePoint}
    (member : point ∈ (view.after kind symbol event).observed) : point ∈ view.observed ∨
      ∃ snapshot, view.snapshot = some snapshot ∧ point.1 = bidOrZero snapshot symbol ∧
        event = ⟨.clockNow, point.2⟩ := by
  unfold RangeView.after at member
  split at member
  · exact .inl member
  · rcases List.mem_append.mp member with old | last
    · exact .inl old
    · obtain ⟨snapshot, arrived, rfl⟩ := Option.map_eq_some_iff.mp (Option.mem_toList.mp last)
      exact .inr ⟨snapshot, arrived, rfl, rfl⟩
  · split at member <;> exact .inl member
  · exact .inl member

/-- What an invocation remembers, it has been told. -/
theorem observes_of_view {kind : RangeKind} {symbol : String} {events : List CycleEvent} :
    (∀ snapshot, (events.foldl (RangeView.after kind symbol) .fresh).snapshot = some snapshot →
      ∃ symbols, ⟨.getSnapshot symbols, some (.ok snapshot)⟩ ∈ events) ∧
    ∀ point ∈ (events.foldl (RangeView.after kind symbol) .fresh).observed,
      Observes symbol events point := by
  induction events using List.reverseRecOn with
  | nil =>
    refine ⟨?_, List.forall_mem_nil _⟩
    intro snapshot arrived
    cases arrived
  | append_singleton before event ih =>
    rw [List.foldl_append, List.foldl_cons, List.foldl_nil]
    constructor
    · intro snapshot arrived
      rcases snapshot_after arrived with old | ⟨symbols, rfl⟩
      · obtain ⟨symbols, member⟩ := ih.1 snapshot old
        exact ⟨symbols, List.mem_append_left _ member⟩
      · exact ⟨symbols, List.mem_append_right _ List.mem_cons_self⟩
    · intro point member
      rcases mem_observed_after member with old | ⟨snapshot, arrived, price, same⟩
      · obtain ⟨symbols, snapshot, price, inOrder⟩ := ih.2 point old
        exact ⟨symbols, snapshot, price, inOrder.trans (List.sublist_append_left _ _)⟩
      · obtain ⟨symbols, member⟩ := ih.1 snapshot arrived
        refine ⟨symbols, snapshot, price, ?_⟩
        rw [same]
        exact (List.singleton_sublist.mpr member).append (List.Sublist.refl [_])

/-- A range whose ends are prices that were observed before it resets, which it does at a
boundary. -/
structure Backed (schedule : Schedule) (observed : PricePoint → Prop) (buffer : RollingBuffer) :
    Prop where
  ordered : buffer.low ≤ buffer.high
  low : ∃ time, observed (buffer.low, time) ∧ time < buffer.resetsAt
  high : ∃ time, observed (buffer.high, time) ∧ time < buffer.resetsAt
  resets : buffer.resetsAt ∈ schedule.boundaries

theorem Backed.mono {schedule : Schedule} {observed more : PricePoint → Prop}
    {buffer : RollingBuffer} (backed : Backed schedule observed buffer)
    (grows : ∀ point, observed point → more point) : Backed schedule more buffer where
  ordered := backed.ordered
  low := backed.low.imp fun _ held => ⟨grows _ held.1, held.2⟩
  high := backed.high.imp fun _ held => ⟨grows _ held.1, held.2⟩
  resets := backed.resets

theorem backed_updateBuffer {schedule : Schedule} {observed : PricePoint → Prop}
    {current : Option RollingBuffer} {price : Decimal} {now : Instant}
    (backed : ∀ buffer, current = some buffer → Backed schedule observed buffer)
    (own : observed (price, now)) :
    Backed schedule observed (updateBuffer (schedule.next now) current price now) := by
  have starts : Backed schedule observed (.start price (schedule.next now)) :=
    { ordered := le_refl _
      low := ⟨now, own, (schedule.isLeast_next now).1.1⟩
      high := ⟨now, own, (schedule.isLeast_next now).1.1⟩
      resets := (schedule.isLeast_next now).1.2 }
  cases current with
  | none => exact starts
  | some buffer =>
    have old := backed buffer rfl
    dsimp only [updateBuffer]
    split
    · exact starts
    · rename_i current
      have before : now < buffer.resetsAt := by
        simpa [RollingBuffer.isExpired] using current
      constructor
      · rw [RollingBuffer.observe_low, RollingBuffer.observe_high]
        exact (min_le_left _ _).trans (old.ordered.trans (le_max_left _ _))
      · rw [RollingBuffer.observe_low, RollingBuffer.observe_resetsAt]
        rcases min_choice buffer.low price with same | same
        · rw [same]
          exact old.low
        · rw [same]
          exact ⟨now, own, before⟩
      · rw [RollingBuffer.observe_high, RollingBuffer.observe_resetsAt]
        rcases max_choice buffer.high price with same | same
        · rw [same]
          exact old.high
        · rw [same]
          exact ⟨now, own, before⟩
      · rw [RollingBuffer.observe_resetsAt]
        exact old.resets

/-- The ranges that were ever to be written to a file, whether or not the write took effect.
A write counts from when it begins. -/
def writtenAfter (kind : RangeKind) (symbol : String) (written : List RollingBuffer) :
    CycleEvent → List RollingBuffer
  | ⟨.writeBuffer file buffer, _⟩ => if file = kind.file symbol then written ++ [buffer] else written
  | _ => written

/-- Overlapping writes of one file share their temp file, and may undo or garble each other.
So a read may fail, find nothing, or find any range that was ever written, as a whole. -/
def SharedRangeStep (kind : RangeKind) (symbol : String) (written : List RollingBuffer)
    (event : CycleEvent) (after : List RollingBuffer) : Prop :=
  after = writtenAfter kind symbol written event ∧
    ∀ buffer, event = ⟨.readBuffer (kind.file symbol), .ok (some buffer)⟩ → buffer ∈ written

/-- The price was observed at the time by one of the sessions. -/
def ObservedBy (views : Nat → RangeView) (point : PricePoint) : Prop :=
  ∃ session, point ∈ (views session).observed

/-- The ranges that were written are backed, and so is every range that a session has found. -/
structure BackedAll (schedule : Schedule) (views : Nat → RangeView)
    (written : List RollingBuffer) : Prop where
  written : ∀ buffer ∈ written, Backed schedule (ObservedBy views) buffer
  found : ∀ session buffer, (views session).found = some buffer →
    Backed schedule (ObservedBy views) buffer

section runs
variable {kind : RangeKind} {newYork : NewYork} {symbol : String}

theorem observed_after (view : RangeView) (event : CycleEvent) :
    view.observed ⊆ (view.after kind symbol event).observed := by
  unfold RangeView.after
  split
  · exact List.Subset.refl _
  · exact List.subset_append_left _ _
  · split <;> exact List.Subset.refl _
  · exact List.Subset.refl _

theorem found_after {view : RangeView} {event : CycleEvent} {buffer : RollingBuffer}
    (found : (view.after kind symbol event).found = some buffer) : view.found = some buffer ∨
      event = ⟨.readBuffer (kind.file symbol), .ok (some buffer)⟩ := by
  unfold RangeView.after at found
  split at found
  · exact .inl found
  · exact .inl found
  · split at found
    · rename_i same
      subst same
      cases found
      exact .inr rfl
    · exact .inl found
  · exact .inl found

theorem mem_writtenAfter {written : List RollingBuffer} {event : CycleEvent} {buffer : RollingBuffer}
    (member : buffer ∈ writtenAfter kind symbol written event) : buffer ∈ written ∨
      event.call = .writeBuffer (kind.file symbol) buffer := by
  unfold writtenAfter at member
  split at member
  · split at member
    · rename_i same
      subst same
      rcases List.mem_append.mp member with old | last
      · exact .inl old
      · exact .inr (congrArg _ (List.mem_singleton.mp last).symm)
    · exact .inl member
  · exact .inl member

theorem BackedAll.step {views : Nat → RangeView} {written next : List RollingBuffer} {owner : Nat}
    {event : CycleEvent} (backed : BackedAll (kind.schedule newYork) views written)
    (promised : (views owner).Promised kind newYork symbol event.call)
    (step : SharedRangeStep kind symbol written event next) :
    BackedAll (kind.schedule newYork)
      (Function.update views owner ((views owner).after kind symbol event)) next := by
  obtain ⟨rfl, reads⟩ := step
  have grows (point : PricePoint) (seen : ObservedBy views point) : ObservedBy
      (Function.update views owner ((views owner).after kind symbol event)) point := by
    obtain ⟨session, member⟩ := seen
    refine ⟨session, ?_⟩
    by_cases same : session = owner
    · subst same
      rw [Function.update_self]
      exact observed_after _ event member
    · rwa [Function.update_of_ne same]
  constructor
  · intro buffer member
    refine Backed.mono ?_ grows
    rcases mem_writtenAfter member with old | writes
    · exact backed.written buffer old
    · rw [writes] at promised
      obtain ⟨point, own, rfl⟩ := promised rfl
      rw [kind.update_eq]
      exact backed_updateBuffer (backed.found owner) ⟨owner, own⟩
  · intro session buffer found
    refine Backed.mono ?_ grows
    by_cases same : session = owner
    · subst same
      rw [Function.update_self] at found
      rcases found_after found with old | read
      · exact backed.found session buffer old
      · exact backed.written buffer (reads buffer read)
    · rw [Function.update_of_ne same] at found
      exact backed.found session buffer found

/-- However invocations interleave, the ranges that are written to a file that was not there
at first lie between prices that invocations observed before the range resets. -/
theorem range_backed_of_overlapping {Outside : Type} {platform : Platform}
    (divergence : Nat → DivergenceSource) (cli : Nat → Cli)
    {history : List (Entry Call Reply Outside)} {written : List RollingBuffer}
    (joint : Joint (fun session => runRealCycle platform (divergence session) (cli session)) history)
    (steps : Steps (SharedRangeStep kind symbol) [] (jointEvents history) written) :
    ∀ buffer ∈ written, Backed (kind.schedule platform.newYork)
      (fun point => ∃ session, Observes symbol (sessionEvents session history) point) buffer := by
  have initially : BackedAll (kind.schedule platform.newYork) (fun _ => .fresh) [] :=
    ⟨List.forall_mem_nil _, fun _ _ absent => (by cases absent)⟩
  have backed := joint.invariant (BackedAll (kind.schedule platform.newYork))
    (fun _ => (tracksRanges_rangeMonitor kind platform.newYork symbol).runRealCycle_meets)
    initially (fun _ _ _ _ _ backed promised step => backed.step promised step) steps
  intro buffer member
  refine (backed.written buffer member).mono ?_
  intro point seen
  obtain ⟨session, member⟩ := seen
  exact ⟨session, observes_of_view.2 point member⟩

end runs

/-- A host together with the ranges that were written to one of its files. -/
structure SharedHost where
  host : Host
  written : List RollingBuffer

namespace SharedHost

def answer (kind : RangeKind) (symbol : String) (shared : SharedHost) (call : Call) :
    Reply call × SharedHost :=
  ((shared.host.answer call).1, ⟨(shared.host.answer call).2,
    writtenAfter kind symbol shared.written ⟨call, (shared.host.answer call).1⟩⟩)

/-- What is on file was written there. -/
def Valid (kind : RangeKind) (symbol : String) (shared : SharedHost) : Prop :=
  ∀ buffer, shared.host.buffers (kind.file symbol) = some buffer → buffer ∈ shared.written

theorem answer_step {kind : RangeKind} {symbol : String} (shared : SharedHost) (call : Call)
    (valid : shared.Valid kind symbol) :
    SharedRangeStep kind symbol shared.written ⟨call, (shared.answer kind symbol call).1⟩
      (shared.answer kind symbol call).2.written ∧ (shared.answer kind symbol call).2.Valid kind symbol := by
  refine ⟨⟨rfl, ?_⟩, ?_⟩
  · intro buffer read
    cases call with
    | readBuffer file =>
      obtain ⟨same, found⟩ := Event.mk.inj read
      cases same
      exact valid buffer (Except.ok.inj (eq_of_heq found))
    | _ => cases read
  · cases call with
    | writeBuffer file buffer =>
      intro other found
      change other ∈ if file = kind.file symbol then shared.written ++ [buffer] else shared.written
      by_cases same : file = kind.file symbol
      · subst same
        obtain rfl := Option.some.inj ((if_pos rfl).symm.trans found)
        rw [if_pos rfl]
        exact List.mem_append_right _ List.mem_cons_self
      · rw [if_neg same]
        exact valid other ((if_neg (Ne.symm same)).symm.trans found)
    | closePosition id =>
      have kept : (shared.host.closePosition id).2.buffers = shared.host.buffers := by
        unfold Host.closePosition
        split <;> rfl
      intro buffer found
      exact valid buffer ((congrFun kept _).symm.trans found)
    | _ => exact valid

end SharedHost

/-- Two invocations in turn, call by call, so that the second reads the range before the
first writes it. -/
def turnByTurn : List Nat := (List.replicate 60 [0, 1]).flatten

theorem turnByTurn_range_backed :
    let host : SharedHost := ⟨.fresh .default (quotedAt [("EURUSD", 1.10), ("GBPUSD", 1.20)]), []⟩
    let played := interleave (SharedHost.answer .daily "EURUSD") turnByTurn
      (fun _ => runRealCycle .winter asComputed ⟨false⟩) host
    played.2.written.length = 2 ∧ ∀ buffer ∈ played.2.written, Backed (dailySchedule .standardTime)
      (fun point => ∃ session, Observes "EURUSD" (sessionEvents session played.1) point) buffer := by
  intro host played
  have valid : host.Valid .daily "EURUSD" := fun _ absent => (by cases absent)
  have steps := steps_interleave SharedHost.answer_step turnByTurn
    (fun _ => runRealCycle .winter asComputed ⟨false⟩) valid
  exact ⟨by decide +kernel, range_backed_of_overlapping (fun _ => asComputed) (fun _ => ⟨false⟩)
    (joint_interleave turnByTurn _ host) steps⟩

end Oboobot.Daemon
