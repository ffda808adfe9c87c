import Oboobot.Daemon.ReplayFile
import Mathlib.Data.List.Infix

/-! The book of a replay broker over a whole run: what is open, what the closed
positions have earned, and which calls are refused. -/

namespace Oboobot.Daemon

open Domain Broker

section keyed

variable {Item Key : Type} [DecidableEq Key] {key : Item → Key} {items : List Item}

/-- Among distinct keys, erasing the first match erases the only one. -/
theorem eraseP_eq_filter (distinct : (items.map key).Nodup) (gone : Key) :
    items.eraseP (fun item => key item = gone) = items.filter fun item => key item ≠ gone := by
  induction items with
  | nil => rfl
  | cons item rest ih =>
    obtain ⟨fresh, later⟩ := List.nodup_cons.mp distinct
    by_cases same : key item = gone
    · have others : ∀ other ∈ rest, key other ≠ gone := by
        intro other member again
        exact fresh (List.mem_map.mpr ⟨other, member, again.trans same.symm⟩)
      have kept : rest.filter (fun other => key other ≠ gone) = rest :=
        List.filter_eq_self.mpr (by simpa using others)
      rw [List.eraseP_cons_of_pos (by simpa using same),
        List.filter_cons_of_neg (by simpa using same), kept]
    · rw [List.eraseP_cons_of_neg (by simpa using same),
        List.filter_cons_of_pos (by simpa using same), ih later]

/-- Among distinct keys, a search by key finds the one item with it. -/
theorem find?_eq_some_of_mem (distinct : (items.map key).Nodup) {item : Item}
    (member : item ∈ items) : items.find? (fun other => key other = key item) = some item := by
  cases found : items.find? fun other => key other = key item with
  | none => simpa using List.find?_eq_none.mp found item member
  | some other =>
    have same : key other = key item := by simpa using List.find?_some found
    exact congrArg some
      (List.inj_on_of_nodup_map distinct (List.mem_of_find?_eq_some found) member same)

end keyed

/-- The close of a bar; 0 where there is none. -/
def closeAt (bars : List (String × List Decimal)) (pair : String) (bar : Nat) : Decimal :=
  ((bars.lookup pair).bind fun series => series[bar]?).getD 0

/-- An order that was filled, with the id of its position and the bar of the fill. -/
structure BookEntry where
  positionId : Uuid
  request : OrderRequest
  time : Instant
  bar : Nat

/-- A position that was closed. -/
structure BookExit where
  positionId : Uuid
  bar : Nat

def BookEntry.position (bars : List (String × List Decimal)) (entry : BookEntry) : Position :=
  let fillPrice := closeAt bars entry.request.pair entry.bar
  { positionId := entry.positionId
    traceId := entry.request.traceId
    signalId := entry.request.signalId
    pair := entry.request.pair
    direction := entry.request.side
    legs := [{ price := fillPrice, size := entry.request.size, filledAt := entry.time }]
    entryPrice := fillPrice
    currentPrice := fillPrice
    unrealizedPnl := 0
    realizedPnl := 0
    entryTime := entry.time
    lastUpdate := entry.time
    status := .filled
    exitReason := none
    stopLoss := entry.request.stopLoss
    takeProfit := entry.request.takeProfit }

/-- What a position has earned if it is closed at this bar. -/
def BookEntry.profit (bars : List (String × List Decimal)) (entry : BookEntry) (bar : Nat) : Decimal :=
  let pair := entry.request.pair
  let moved := (closeAt bars pair bar - closeAt bars pair entry.bar) * entry.request.size
  match entry.request.side with
  | .buy => moved
  | .sell => -moved

/-- A run so far: the broker, and what its calls have returned. -/
structure Session where
  broker : FiledBroker
  entries : List BookEntry
  exits : List BookExit

namespace Session

variable (json : ReplayJson)

def start (broker : FiledBroker) : Session where
  broker := broker
  entries := []
  exits := []

/-- Note an order that was filled, or a position that was closed. -/
def note (session : Session) (bar : Nat) : BookCall → Session
  | .submitOrder positionId time request =>
    { session with entries := session.entries ++ [⟨positionId, request, time, bar⟩] }
  | .closePosition _ _ positionId =>
    { session with exits := session.exits ++ [⟨positionId, bar⟩] }

def after (session : Session) (call : ReplayCall) : Session :=
  let bar := session.broker.currentIndex
  let next := { session with broker := session.broker.after json call }
  match call with
  | .book book => match (session.broker.perform json book .completed).1 with
    | .ok _ => next.note bar book
    | .error _ => next
  | .advance => next

def run (broker : FiledBroker) (calls : List ReplayCall) : Session :=
  calls.foldl (after json) (start broker)

theorem run_append_singleton (broker : FiledBroker) (calls : List ReplayCall) (call : ReplayCall) :
    run json broker (calls ++ [call]) = (run json broker calls).after json call := by
  simp [run]

/-- The profit of an exit is that of the position it closed. -/
def realized (session : Session) (exit : BookExit) : Decimal :=
  match session.entries.find? fun entry => entry.positionId = exit.positionId with
  | some entry => entry.profit session.broker.bars exit.bar
  | none => 0

/-- The entries that no exit has closed. -/
def openEntries (session : Session) : List BookEntry :=
  session.entries.filter fun entry =>
    !(session.exits.map BookExit.positionId).contains entry.positionId

/-- An order needs a series for its pair; a position must have been opened, and not
closed since. -/
def Acceptable (session : Session) : BookCall → Prop
  | .submitOrder _ _ request => request.pair ∈ session.broker.bars.map Prod.fst
  | .closePosition _ _ positionId =>
    positionId ∈ session.entries.map BookEntry.positionId ∧
      positionId ∉ session.exits.map BookExit.positionId

end Session

/-- The books are in order: what is open, what the account is worth, and no position
closed that was not opened, or closed twice. -/
structure Balanced (json : ReplayJson) (session : Session) : Prop where
  listed : session.broker.listOpenPositions json =
    .ok (session.openEntries.map (BookEntry.position session.broker.bars))
  equity : session.broker.getAccountEquity json =
    .ok (.fromDecimal (session.broker.startingEquity.asDecimal +
      (session.exits.map session.realized).sum))
  opened : ∀ exit ∈ session.exits, exit.positionId ∈ session.entries.map BookEntry.positionId
  once : (session.exits.map BookExit.positionId).Nodup

namespace ReplayBroker

/-- Every pair with a series has a close at this bar. -/
def WithinSeries (broker : ReplayBroker) : Prop :=
  ∀ entry ∈ broker.bars, broker.currentIndex < entry.2.length

theorem currentPrice_of_mem {broker : ReplayBroker} (within : broker.WithinSeries) {pair : String}
    (known : pair ∈ broker.bars.map Prod.fst) :
    broker.currentPrice pair = some (closeAt broker.bars pair broker.currentIndex) := by
  unfold currentPrice closeAt
  cases found : broker.bars.lookup pair with
  | none =>
    obtain ⟨entry, member, rfl⟩ := List.mem_map.mp known
    simpa using List.lookup_eq_none_iff.mp found entry member
  | some series =>
    obtain ⟨before, after, split, _⟩ := List.lookup_eq_some_iff.mp found
    have reaches : broker.currentIndex < series.length := within (pair, series) (by simp [split])
    simp [List.getElem?_eq_getElem reaches]

theorem mem_of_currentPrice {broker : ReplayBroker} {pair : String} {price : Decimal}
    (priced : broker.currentPrice pair = some price) :
    pair ∈ broker.bars.map Prod.fst ∧ closeAt broker.bars pair broker.currentIndex = price := by
  unfold currentPrice at priced
  refine ⟨?_, by rw [closeAt, priced]; rfl⟩
  obtain ⟨series, found, _⟩ := Option.bind_eq_some_iff.mp priced
  obtain ⟨before, after, split, _⟩ := List.lookup_eq_some_iff.mp found
  exact List.mem_map.mpr ⟨(pair, series), by simp [split], rfl⟩

/-- An order is filled at the close of its pair, or refused for want of one. -/
theorem submitOrder_cases (broker : ReplayBroker) (positionId : Uuid) (now : Instant)
    (request : OrderRequest) :
    (broker.currentPrice request.pair = none ∧
      ∃ failure, broker.submitOrder positionId now request = .error failure) ∨
    ((broker.currentPrice request.pair).isSome = true ∧ ∃ order,
      broker.submitOrder positionId now request = .ok (order, { broker with state :=
        { broker.state with positions := broker.state.positions ++
          [BookEntry.position broker.bars ⟨positionId, request, now, broker.currentIndex⟩] } })) := by
  unfold submitOrder closeOf
  cases priced : broker.currentPrice request.pair with
  | none => exact .inl ⟨rfl, _, rfl⟩
  | some price =>
    refine .inr ⟨rfl, ?_⟩
    rw [BookEntry.position, (mem_of_currentPrice priced).2]
    exact ⟨_, rfl⟩

section carriedOut

variable {broker after : ReplayBroker} {orderId positionId : Uuid} {now : Instant} {order : Order}

/-- An order that is filled is for a pair with a price, and its position comes last. -/
theorem submitOrder_ok {request : OrderRequest}
    (filled : broker.submitOrder positionId now request = .ok (order, after)) :
    request.pair ∈ broker.bars.map Prod.fst ∧ after = { broker with state :=
      { broker.state with positions := broker.state.positions ++
        [BookEntry.position broker.bars ⟨positionId, request, now, broker.currentIndex⟩] } } := by
  rcases broker.submitOrder_cases positionId now request with
    ⟨_, failure, refused⟩ | ⟨priced, other, same⟩
  · rw [refused] at filled
    cases filled
  · rw [same] at filled
    cases filled
    obtain ⟨price, current⟩ := Option.isSome_iff_exists.mp priced
    exact ⟨(mem_of_currentPrice current).1, rfl⟩

/-- A position that is closed was on the book, and its profit is realised. -/
theorem closePosition_ok
    (closed : broker.closePosition orderId now positionId = .ok (order, after)) :
    ∃ position, broker.state.positions.find? (fun position => position.positionId = positionId) =
        some position ∧
      after = { broker with state := {
        positions := broker.state.positions.eraseP fun position => position.positionId = positionId
        realizedPnlTotal := broker.state.realizedPnlTotal +
          ((broker.currentPrice position.pair).getD position.currentPrice - position.entryPrice) *
            position.size *
            (match position.direction with
              | .buy => 1
              | .sell => -1) } } := by
  unfold closePosition at closed
  cases found : broker.state.positions.find? fun position => position.positionId = positionId with
  | none =>
    rw [found] at closed
    cases closed
  | some position =>
    rw [found] at closed
    cases closed
    exact ⟨position, rfl, rfl⟩

end carriedOut

end ReplayBroker

/-- The state that goes with what a run has returned. -/
structure Session.Booked (session : Session) (state : ReplayState) : Prop where
  positions : state.positions = session.openEntries.map (BookEntry.position session.broker.bars)
  realized : state.realizedPnlTotal = (session.exits.map session.realized).sum
  priced : ∀ entry ∈ session.entries, entry.request.pair ∈ session.broker.bars.map Prod.fst
  opened : ∀ exit ∈ session.exits, exit.positionId ∈ session.entries.map BookEntry.positionId
  once : (session.exits.map BookExit.positionId).Nodup

namespace Session

variable {json : ReplayJson} {session : Session}

@[simp] theorem note_broker (bar : Nat) (call : BookCall) :
    (session.note bar call).broker = session.broker := by
  cases call <;> rfl

theorem after_broker (call : ReplayCall) :
    (session.after json call).broker = session.broker.after json call := by
  cases call with
  | advance => rfl
  | book book =>
    unfold Session.after
    dsimp only
    split <;> simp

/-- A refused call leaves no trace. -/
theorem after_refused {call : BookCall} {failure : BrokerError}
    (refused : (session.broker.opened json).perform call = .error failure) :
    session.after json (.book call) = session := by
  have unchanged : session.broker.perform json call .completed = (.error failure, session.broker) := by
    rw [FiledBroker.perform, refused]
  simp [Session.after, FiledBroker.after, unchanged]

/-- A call that is carried out and saved is noted. -/
theorem after_accepted {call : BookCall} {order : Order} {memory : ReplayBroker}
    (carriedOut : (session.broker.opened json).perform call = .ok (order, memory))
    (law : json.RoundTrips memory.state) :
    session.after json (.book call) =
        { session with broker := session.broker.after json (.book call) }.note
          session.broker.currentIndex call ∧
      (session.broker.after json (.book call)).opened json = memory := by
  have same := ReplayBroker.after_ok carriedOut
  obtain ⟨returned, opened⟩ := FiledBroker.opened_perform _ call (same.symm ▸ law)
  refine ⟨?_, opened.trans same⟩
  simp only [Session.after, returned, carriedOut]
  rfl

/-- Of the surroundings, the books only refer to the series. -/
theorem Booked.rebroker {state : ReplayState} (booked : session.Booked state)
    {broker : FiledBroker} (bars : broker.bars = session.broker.bars) :
    { session with broker := broker }.Booked state where
  positions := by rw [bars]; exact booked.positions
  realized := by
    rw [booked.realized]
    congr 1
    apply List.map_congr_left
    intro exit _
    simp only [Session.realized, bars]
  priced := by rw [bars]; exact booked.priced
  opened := booked.opened
  once := booked.once

theorem realized_eq (session : Session) {exit : BookExit} {entry : BookEntry}
    (distinct : (session.entries.map BookEntry.positionId).Nodup) (member : entry ∈ session.entries)
    (same : entry.positionId = exit.positionId) :
    session.realized exit = entry.profit session.broker.bars exit.bar := by
  have found := find?_eq_some_of_mem distinct member
  rw [same] at found
  simp only [Session.realized, found]

/-- A filled order is open, and changes no profit. -/
theorem Booked.submitted {state : ReplayState} (booked : session.Booked state)
    {positionId : Uuid} (fresh : positionId ∉ session.entries.map BookEntry.positionId) (now : Instant)
    {request : OrderRequest} (known : request.pair ∈ session.broker.bars.map Prod.fst) (bar : Nat) :
    (session.note bar (.submitOrder positionId now request)).Booked { state with positions :=
      state.positions ++
        [BookEntry.position session.broker.bars ⟨positionId, request, now, bar⟩] } where
  positions := by
    have unclosed : positionId ∉ session.exits.map BookExit.positionId := by
      intro closed
      obtain ⟨exit, member, same⟩ := List.mem_map.mp closed
      exact fresh (same ▸ booked.opened exit member)
    have still : (session.note bar (.submitOrder positionId now request)).openEntries =
        session.openEntries ++ [⟨positionId, request, now, bar⟩] := by
      simpa [openEntries, note, List.filter_append] using unclosed
    rw [still, List.map_append, booked.positions]
    rfl
  realized := by
    rw [booked.realized]
    congr 1
    apply List.map_congr_left
    intro exit member
    obtain ⟨entry, earlier, same⟩ := List.mem_map.mp (booked.opened exit member)
    have isSome : (session.entries.find? fun entry => entry.positionId = exit.positionId).isSome =
        true := List.find?_isSome.mpr ⟨entry, earlier, by simpa using same⟩
    obtain ⟨found, first⟩ := Option.isSome_iff_exists.mp isSome
    simp [Session.realized, note, List.find?_append, first]
  priced := by
    intro entry member
    rcases List.mem_append.mp member with old | new
    · exact booked.priced entry old
    · cases List.mem_singleton.mp new
      exact known
  opened := by
    intro exit member
    have known := booked.opened exit member
    simp only [note, List.map_append]
    exact List.mem_append_left _ known
  once := booked.once

/-- What is closed was open, is so no more, and has earned its profit. -/
theorem Booked.closed {state : ReplayState} (booked : session.Booked state)
    (distinct : (session.entries.map BookEntry.positionId).Nodup) {positionId : Uuid}
    {position : Position}
    (found : state.positions.find? (fun position => position.positionId = positionId) =
      some position) (orderId : Uuid) (now : Instant) (bar : Nat) :
    (session.note bar (.closePosition orderId now positionId)).Booked {
      positions := state.positions.eraseP fun position => position.positionId = positionId
      realizedPnlTotal := state.realizedPnlTotal +
        (closeAt session.broker.bars position.pair bar - position.entryPrice) * position.size *
          (match position.direction with
            | .buy => 1
            | .sell => -1) } := by
  have member := List.mem_of_find?_eq_some found
  have named : position.positionId = positionId := by simpa using List.find?_some found
  rw [booked.positions] at member
  obtain ⟨entry, listed, rfl⟩ := List.mem_map.mp member
  obtain ⟨entered, unclosed⟩ := List.mem_filter.mp listed
  have notClosed : positionId ∉ session.exits.map BookExit.positionId := by
    have same : entry.positionId = positionId := named
    simpa [same] using unclosed
  have still : (session.note bar (.closePosition orderId now positionId)).openEntries =
      session.openEntries.filter fun entry => entry.positionId ≠ positionId := by
    simp only [openEntries, note, List.filter_filter]
    apply List.filter_congr
    intro other _
    simp [Bool.and_comm]
  constructor
  · have ids : (session.openEntries.map fun entry =>
        (entry.position session.broker.bars).positionId).Nodup :=
      distinct.sublist (List.filter_sublist.map BookEntry.positionId)
    have ids' : (state.positions.map Position.positionId).Nodup := by
      rw [booked.positions, List.map_map]
      exact ids
    dsimp only
    rw [eraseP_eq_filter ids', booked.positions, List.filter_map, still]
    rfl
  · have known : (session.note bar (.closePosition orderId now positionId)).realized
        ⟨positionId, bar⟩ = entry.profit session.broker.bars bar :=
      realized_eq (session.note bar (.closePosition orderId now positionId)) distinct entered named
    have earlier : (session.exits.map
        (session.note bar (.closePosition orderId now positionId)).realized).sum =
          state.realizedPnlTotal := by
      rw [booked.realized]
      rfl
    have noted : (session.note bar (.closePosition orderId now positionId)).exits =
        session.exits ++ [⟨positionId, bar⟩] := rfl
    rw [noted, List.map_append, List.sum_append, earlier, List.map_singleton, List.sum_singleton,
      known]
    cases side : entry.request.side <;>
      simp [BookEntry.profit, BookEntry.position, Position.size, side]
  · exact booked.priced
  · intro exit closed
    rcases List.mem_append.mp closed with old | new
    · exact booked.opened exit old
    · cases List.mem_singleton.mp new
      exact List.mem_map.mpr ⟨entry, entered, named⟩
  · simpa [note, List.nodup_append] using ⟨booked.once, by simpa using notClosed⟩

/-- A call that is carried out keeps the state in step with what is returned. -/
theorem Booked.carriedOut {memory next : ReplayBroker} {call : BookCall} {order : Order}
    (booked : session.Booked memory.state) (bars : memory.bars = session.broker.bars)
    (within : memory.WithinSeries) (carriedOut : memory.perform call = .ok (order, next))
    (distinct : ((session.note memory.currentIndex call).entries.map BookEntry.positionId).Nodup) :
    (session.note memory.currentIndex call).Booked next.state := by
  cases call with
  | submitOrder positionId now request =>
    have fresh : positionId ∉ session.entries.map BookEntry.positionId := by
      simp only [note, List.map_append, List.nodup_append] at distinct
      intro member
      exact distinct.2.2 positionId member positionId (by simp) rfl
    obtain ⟨known, rfl⟩ := ReplayBroker.submitOrder_ok carriedOut
    rw [bars] at known ⊢
    exact booked.submitted fresh now known memory.currentIndex
  | closePosition orderId now positionId =>
    obtain ⟨position, found, rfl⟩ := ReplayBroker.closePosition_ok carriedOut
    have member := List.mem_of_find?_eq_some found
    rw [booked.positions] at member
    obtain ⟨entry, listed, rfl⟩ := List.mem_map.mp member
    have known := booked.priced entry (List.mem_of_mem_filter listed)
    have current : memory.currentPrice (entry.position session.broker.bars).pair =
        some (closeAt session.broker.bars (entry.position session.broker.bars).pair
          memory.currentIndex) :=
      bars ▸ ReplayBroker.currentPrice_of_mem within (bars ▸ known)
    rw [current]
    exact booked.closed distinct found orderId now memory.currentIndex

/-- One call keeps the state in step with what is returned. -/
theorem Booked.after (booked : session.Booked (session.broker.loadState json)) (call : ReplayCall)
    (law : json.RoundTrips ((session.broker.opened json).after call).state)
    (within : (session.broker.opened json).WithinSeries)
    (distinct : ((session.after json call).entries.map BookEntry.positionId).Nodup) :
    (session.after json call).Booked ((session.after json call).broker.loadState json) := by
  cases call with
  | advance => exact ⟨booked.positions, booked.realized, booked.priced, booked.opened, booked.once⟩
  | book call =>
    cases carriedOut : (session.broker.opened json).perform call with
    | error failure => rwa [after_refused carriedOut]
    | ok result =>
      obtain ⟨order, memory⟩ := result
      rw [ReplayBroker.after_ok carriedOut] at law
      obtain ⟨noted, opened⟩ := after_accepted carriedOut law
      have bars : (session.broker.after json (.book call)).bars = session.broker.bars := by
        rw [FiledBroker.after, FiledBroker.perform_effect]
      have loaded : (session.broker.after json (.book call)).loadState json = memory.state :=
        congrArg ReplayBroker.state opened
      rw [noted] at distinct ⊢
      rw [note_broker, loaded]
      have kept : { session with broker := session.broker.after json (.book call) }.Booked
          (session.broker.opened json).state := booked.rebroker bars
      exact kept.carriedOut bars.symm within carriedOut distinct

/-- In order, the state says what is open and what has been earned. -/
theorem Booked.balanced (booked : session.Booked (session.broker.loadState json)) :
    Balanced json session where
  listed := by rw [FiledBroker.listOpenPositions, booked.positions]
  equity := congrArg (fun realized => Except.ok (Usd.fromDecimal
    (session.broker.startingEquity.asDecimal + realized))) booked.realized
  opened := booked.opened
  once := booked.once

/-- Exactly the acceptable calls are carried out. -/
theorem Booked.perform_isOk_iff (memory : ReplayBroker) (booked : session.Booked memory.state)
    (bars : memory.bars = session.broker.bars) (within : memory.WithinSeries) (call : BookCall) :
    (memory.perform call).isOk = true ↔ session.Acceptable call := by
  cases call with
  | submitOrder positionId now request =>
    rcases memory.submitOrder_cases positionId now request with
      ⟨unpriced, failure, refused⟩ | ⟨priced, order, filled⟩
    · have unknown : request.pair ∉ session.broker.bars.map Prod.fst := by
        rw [← bars]
        intro known
        rw [ReplayBroker.currentPrice_of_mem within known] at unpriced
        cases unpriced
      simpa [ReplayBroker.perform, refused, Acceptable, Except.isOk, Except.toBool] using unknown
    · obtain ⟨price, current⟩ := Option.isSome_iff_exists.mp priced
      have known := (ReplayBroker.mem_of_currentPrice current).1
      rw [bars] at known
      simpa [ReplayBroker.perform, filled, Acceptable, Except.isOk, Except.toBool] using known
  | closePosition orderId now positionId =>
    have listed : (memory.state.positions.find? fun position =>
        position.positionId = positionId).isSome = true ↔
          session.Acceptable (.closePosition orderId now positionId) := by
      rw [booked.positions, List.find?_isSome]
      simp only [List.mem_map, openEntries, List.mem_filter, Acceptable]
      constructor
      · rintro ⟨position, ⟨entry, ⟨entered, unclosed⟩, rfl⟩, same⟩
        have same : entry.positionId = positionId := of_decide_eq_true same
        subst same
        exact ⟨⟨entry, entered, rfl⟩, by simpa using unclosed⟩
      · rintro ⟨⟨entry, entered, rfl⟩, unclosed⟩
        exact ⟨_, ⟨entry, ⟨entered, by simpa using unclosed⟩, rfl⟩, by simp [BookEntry.position]⟩
    rw [← listed, ReplayBroker.perform, ReplayBroker.closePosition]
    cases memory.state.positions.find? fun position => position.positionId = positionId <;> rfl

theorem run_broker (broker : FiledBroker) (calls : List ReplayCall) :
    (run json broker calls).broker = broker.afterAll json calls := by
  induction calls using List.reverseRecOn with
  | nil => rfl
  | append_singleton earlier call ih =>
    rw [run_append_singleton, after_broker, ih, FiledBroker.afterAll_append_singleton]

end Session

/-- An id is drawn for an order whose pair has a series. -/
def drawnId (bars : List (String × List Decimal)) : ReplayCall → Option Uuid
  | .book (.submitOrder positionId _ request) =>
    if (bars.map Prod.fst).contains request.pair then some positionId else none
  | _ => none

def drawnIds (bars : List (String × List Decimal)) (calls : List ReplayCall) : List Uuid :=
  calls.filterMap (drawnId bars)

/-- A run on a new state file in which all goes well outside the broker: what is saved
is read back, no series ends early, and no id is drawn twice. -/
structure SmoothRun (json : ReplayJson) (bars : List (String × List Decimal))
    (startingEquity : Usd) (calls : List ReplayCall) : Prop where
  roundTrips : ∀ before, before <+: calls →
    json.RoundTrips ((ReplayBroker.new bars startingEquity).afterAll before).state
  within : ∀ entry ∈ bars, advances calls < entry.2.length
  distinct : (drawnIds bars calls).Nodup

section runs

variable {json : ReplayJson} {bars : List (String × List Decimal)} {startingEquity : Usd}
  {calls : List ReplayCall}

theorem SmoothRun.front {later : List ReplayCall}
    (smooth : SmoothRun json bars startingEquity (calls ++ later)) :
    SmoothRun json bars startingEquity calls where
  roundTrips before front := smooth.roundTrips before (front.trans (List.prefix_append _ _))
  within entry member := by
    have longer := smooth.within entry member
    rw [advances, List.countP_append] at longer
    exact (Nat.le_add_right _ _).trans_lt longer
  distinct := by
    have distinct := smooth.distinct
    rw [drawnIds, List.filterMap_append] at distinct
    exact (List.nodup_append.mp distinct).1

/-- Nothing but the state file and the bar changes over a run. -/
theorem Session.run_fields (json : ReplayJson) (bars : List (String × List Decimal))
    (startingEquity : Usd) (calls : List ReplayCall) :
    (Session.run json (.new bars startingEquity) calls).broker.bars = bars ∧
      (Session.run json (.new bars startingEquity) calls).broker.startingEquity =
        startingEquity := by
  rw [Session.run_broker]
  induction calls using List.reverseRecOn with
  | nil => exact ⟨rfl, rfl⟩
  | append_singleton earlier call ih =>
    rw [FiledBroker.afterAll_append_singleton]
    cases call with
    | advance => exact ih
    | book call =>
      rw [FiledBroker.after, FiledBroker.perform_effect]
      exact ih

/-- Only orders for which an id was drawn become entries. -/
theorem Session.after_entries (json : ReplayJson) (session : Session) (call : ReplayCall) :
    ((session.after json call).entries.map BookEntry.positionId).Sublist
      (session.entries.map BookEntry.positionId ++ drawnIds session.broker.bars [call]) := by
  have kept := List.sublist_append_left (session.entries.map BookEntry.positionId)
    (drawnIds session.broker.bars [call])
  cases call with
  | advance => exact kept
  | book call =>
    cases carriedOut : (session.broker.opened json).perform call with
    | error failure => rwa [after_refused carriedOut]
    | ok result =>
      unfold Session.after
      dsimp only
      split
      · cases call with
        | closePosition orderId now positionId => exact kept
        | submitOrder positionId now request =>
          have known := (ReplayBroker.submitOrder_ok carriedOut).1
          have drawn : drawnIds session.broker.bars [.book (.submitOrder positionId now request)] =
              [positionId] := by
            have listed : (session.broker.bars.map Prod.fst).contains request.pair = true :=
              List.contains_iff_mem.mpr known
            have one : drawnId session.broker.bars
                (.book (.submitOrder positionId now request)) = some positionId := if_pos listed
            rw [drawnIds, List.filterMap_cons_some one, List.filterMap_nil]
          rw [drawn]
          simp [note]
      · exact kept

theorem Session.run_entries (json : ReplayJson) (bars : List (String × List Decimal))
    (startingEquity : Usd) (calls : List ReplayCall) :
    ((Session.run json (.new bars startingEquity) calls).entries.map BookEntry.positionId).Sublist
      (drawnIds bars calls) := by
  induction calls using List.reverseRecOn with
  | nil => exact List.Sublist.slnil
  | append_singleton earlier call ih =>
    obtain ⟨same, _⟩ := Session.run_fields json bars startingEquity earlier
    have step := Session.after_entries json (.run json (.new bars startingEquity) earlier) call
    rw [same] at step
    rw [Session.run_append_singleton, drawnIds, List.filterMap_append]
    exact step.trans (ih.append_right _)

theorem SmoothRun.withinSeries (smooth : SmoothRun json bars startingEquity calls) :
    ((Session.run json (.new bars startingEquity) calls).broker.opened json).WithinSeries := by
  obtain ⟨same, _⟩ := Session.run_fields json bars startingEquity calls
  intro entry member
  have index : (Session.run json (.new bars startingEquity) calls).broker.currentIndex =
      advances calls := by
    rw [Session.run_broker, FiledBroker.afterAll_currentIndex]
    exact Nat.zero_add _
  exact index.trans_lt (smooth.within entry (same ▸ member))

theorem SmoothRun.booked (smooth : SmoothRun json bars startingEquity calls) :
    (Session.run json (.new bars startingEquity) calls).Booked
      ((Session.run json (.new bars startingEquity) calls).broker.loadState json) := by
  induction calls using List.reverseRecOn with
  | nil => exact ⟨rfl, rfl, List.forall_mem_nil _, List.forall_mem_nil _, List.nodup_nil⟩
  | append_singleton earlier call ih =>
    have before := smooth.front
    have booked := ih before
    have memory := FiledBroker.opened_afterAll (.new bars startingEquity) before.roundTrips
    have law := smooth.roundTrips _ List.prefix_rfl
    rw [ReplayBroker.afterAll_append_singleton] at law
    have distinct := smooth.distinct.sublist
      (Session.run_entries json bars startingEquity (earlier ++ [call]))
    rw [Session.run_append_singleton] at distinct ⊢
    apply booked.after call _ _ distinct
    · rw [Session.run_broker, memory]
      exact law
    · exact before.withinSeries

end runs

/-- At any point of a smooth run the books are in order; the next call succeeds
exactly if it is acceptable, and one that returns an error changes nothing. -/
theorem replay_book_balanced (json : ReplayJson) (bars : List (String × List Decimal))
    (startingEquity : Usd) (calls : List ReplayCall)
    (smooth : SmoothRun json bars startingEquity calls) (before later : List ReplayCall)
    (split : calls = before ++ later) :
    let session := Session.run json (.new bars startingEquity) before
    Balanced json session ∧ session.broker.bars = bars ∧
      session.broker.startingEquity = startingEquity ∧
    ∀ call rest, later = .book call :: rest →
      ((session.broker.perform json call .completed).1.isOk = true ↔ session.Acceptable call) ∧
      ∀ failure, (session.broker.perform json call .completed).1 = .error failure →
        (session.broker.perform json call .completed).2 = session.broker := by
  intro session
  subst split
  have front := smooth.front
  obtain ⟨sameBars, sameEquity⟩ := Session.run_fields json bars startingEquity before
  refine ⟨front.booked.balanced, sameBars, sameEquity, ?_⟩
  rintro call rest rfl
  have memory := FiledBroker.opened_afterAll (.new bars startingEquity) front.roundTrips
  rw [← Session.run_broker] at memory
  have law := smooth.roundTrips (before ++ [.book call]) (by simp)
  rw [ReplayBroker.afterAll_append_singleton] at law
  obtain ⟨returned, _⟩ := FiledBroker.opened_perform session.broker call (memory ▸ law)
  constructor
  · have acceptable := front.booked.perform_isOk_iff (session.broker.opened json) rfl front.withinSeries
      call
    rw [← acceptable, returned]
    cases (session.broker.opened json).perform call <;> rfl
  · intro failure refused
    rw [returned] at refused
    cases carriedOut : (session.broker.opened json).perform call with
    | error reason => rw [FiledBroker.perform, carriedOut]
    | ok result =>
      rw [carriedOut] at refused
      cases refused

/-- An order that is filled, one for a pair without a series, and the position closed
at the next bar and once more. -/
def yenTrade : List ReplayCall :=
  [.book (.submitOrder 1 0 yenOrder), .book (.submitOrder 6 0 { yenOrder with pair := "EURUSD" }),
    .advance, .book (.closePosition 7 0 1), .book (.closePosition 8 0 1)]

theorem yenTrade_smooth : SmoothRun yenJson yenBars (.fromDecimal 10000) yenTrade where
  roundTrips := by
    intro before front
    have listed : before ∈ yenTrade.inits := (List.mem_inits _ _).mpr front
    have states : ∀ before ∈ yenTrade.inits,
        let state := ((ReplayBroker.new yenBars (.fromDecimal 10000)).afterAll before).state
        state = .default ∨ state = yenClosed ∨ state = yenOpened := by
      decide +kernel
    exact yenJson_roundTrips (states before listed)
  within := by decide
  distinct := by decide

theorem yenTrade_balanced :
    Balanced yenJson (.run yenJson (.new yenBars (.fromDecimal 10000)) yenTrade) :=
  (replay_book_balanced yenJson yenBars (.fromDecimal 10000) yenTrade yenTrade_smooth
    yenTrade [] (List.append_nil _).symm).1

end Oboobot.Daemon
