import Oboobot.Interaction.Machine
import Oboobot.Interaction.Channel
import Oboobot.Domain.Events

/-! The event bus: publishers and one consumer on two bounded channels, in any
interleaving. -/

namespace Oboobot.Daemon

open Domain.Events Interaction

/-- The flags of one `select!`: which of its branches have disabled themselves. -/
structure Disabled where
  priority : Bool
  ordinary : Bool

/-- Where the consumer is in `EventBusReceiver::recv`. A poll tries the branches
in the order they are written, and remembers whether a priority event was
queued as it began. -/
inductive ReceiverPhase where
  | idle
  | waiting (disabled : Disabled)
  | atPriority (disabled : Disabled) (priorityQueued : Bool)
  | atOrdinary (disabled : Disabled) (priorityQueued : Bool)
  | dropping
  | dropped

def ReceiverPhase.disabled : ReceiverPhase → Disabled
  | .waiting disabled | .atPriority disabled _ | .atOrdinary disabled _ => disabled
  | _ => { priority := false, ordinary := false }

/-- A call of `EventBusHandle::publish` that has not returned. It borrows its handle. -/
structure Publishing where
  handle : Nat
  envelope : EventEnvelope

/-- An event that `recv` returned, and whether a priority event was queued as
the poll that returned it began. -/
structure Delivery where
  envelope : EventEnvelope
  priorityQueued : Bool

/-- The bus with its handles and calls in progress. A handle in `closing` has
dropped its `priority_tx` and still holds its `ordinary_tx`. -/
structure EventBus where
  priority : Channel EventEnvelope
  ordinary : Channel EventEnvelope
  handles : List Nat
  closing : List Nat
  nextHandle : Nat
  publishing : List Publishing
  receiver : ReceiverPhase
  /-- The events whose publish returned `Ok`, in that order. -/
  published : List EventEnvelope
  received : List Delivery
  /-- `recv` has returned `None`. -/
  ended : Bool

inductive BusAction where
  | clone (handle : Nat)
  | dropPriorityTx (handle : Nat)
  | dropOrdinaryTx (handle : Nat)
  | publish (handle : Nat) (envelope : EventEnvelope)
  | finishPublish (index : Nat)
  | cancelPublish (index : Nat)
  | recv
  | cancelRecv
  | beginPoll
  | pollPriority
  | pollOrdinary
  | dropPriorityRx
  | dropOrdinaryRx

/-- The steps of the consumer inside a call of `recv`. -/
def BusAction.isRecv : BusAction → Bool
  | .recv | .beginPoll | .pollPriority | .pollOrdinary => true
  | _ => false

/-- One handle and the receiver. -/
def eventBus (capacity : Nat) : EventBus where
  priority := .new capacity
  ordinary := .new capacity
  handles := [0]
  closing := []
  nextHandle := 1
  publishing := []
  receiver := .idle
  published := []
  received := []
  ended := false

namespace EventBus

/-- The rest of `publish`: `tx.send(envelope).await`, on the channel that
`is_priority` decides. `none` while the publisher has to wait. -/
def send (bus : EventBus) (envelope : EventEnvelope) : Option EventBus :=
  if envelope.payload.isPriority then
    match bus.priority.send envelope with
    | .waits => none
    | .closed => some bus
    | .sent priority => some { bus with priority, published := bus.published ++ [envelope] }
  else
    match bus.ordinary.send envelope with
    | .waits => none
    | .closed => some bus
    | .sent ordinary => some { bus with ordinary, published := bus.published ++ [envelope] }

/-- The first branch of a poll. -/
def pollPriority (bus : EventBus) (disabled : Disabled) (priorityQueued : Bool) : EventBus :=
  if disabled.priority then { bus with receiver := .atOrdinary disabled priorityQueued }
  else
    match bus.priority.receive bus.handles.isEmpty with
    | .received envelope priority => { bus with
        priority
        receiver := .idle
        received := bus.received ++ [{ envelope, priorityQueued }] }
    | .ended => { bus with receiver := .atOrdinary { disabled with priority := true } priorityQueued }
    | .pending => { bus with receiver := .atOrdinary disabled priorityQueued }

/-- After its branches a poll returns through `else` when both are disabled. -/
def endPoll (bus : EventBus) (disabled : Disabled) : EventBus :=
  if disabled.priority && disabled.ordinary then { bus with receiver := .idle, ended := true }
  else { bus with receiver := .waiting disabled }

/-- The second branch of a poll, and its end. -/
def pollOrdinary (bus : EventBus) (disabled : Disabled) (priorityQueued : Bool) : EventBus :=
  if disabled.ordinary then bus.endPoll disabled
  else
    match bus.ordinary.receive (bus.handles.isEmpty && bus.closing.isEmpty) with
    | .received envelope ordinary => { bus with
        ordinary
        receiver := .idle
        received := bus.received ++ [{ envelope, priorityQueued }] }
    | .ended => bus.endPoll { disabled with ordinary := true }
    | .pending => bus.endPoll disabled

def step (bus : EventBus) : BusAction → Option EventBus
  | .clone handle =>
    if handle ∈ bus.handles then
      some { bus with
        handles := bus.handles ++ [bus.nextHandle]
        nextHandle := bus.nextHandle + 1 }
    else none
  | .dropPriorityTx handle =>
    if handle ∈ bus.handles ∧ ∀ call ∈ bus.publishing, call.handle ≠ handle then
      some { bus with
        handles := bus.handles.filter (· ≠ handle)
        closing := bus.closing ++ [handle] }
    else none
  | .dropOrdinaryTx handle => some { bus with closing := bus.closing.filter (· ≠ handle) }
  | .publish handle envelope =>
    if handle ∈ bus.handles then
      some { bus with publishing := bus.publishing ++ [{ handle, envelope }] }
    else none
  | .finishPublish index => do
    let call ← bus.publishing[index]?
    { bus with publishing := bus.publishing.eraseIdx index }.send call.envelope
  | .cancelPublish index => some { bus with publishing := bus.publishing.eraseIdx index }
  | .recv =>
    match bus.receiver with
    | .idle => some { bus with receiver := .waiting { priority := false, ordinary := false } }
    | _ => none
  | .cancelRecv =>
    match bus.receiver with
    | .waiting _ => some { bus with receiver := .idle }
    | _ => none
  | .beginPoll =>
    match bus.receiver with
    | .waiting disabled =>
      some { bus with receiver := .atPriority disabled (!bus.priority.queue.isEmpty) }
    | _ => none
  | .pollPriority =>
    match bus.receiver with
    | .atPriority disabled priorityQueued => some (bus.pollPriority disabled priorityQueued)
    | _ => none
  | .pollOrdinary =>
    match bus.receiver with
    | .atOrdinary disabled priorityQueued => some (bus.pollOrdinary disabled priorityQueued)
    | _ => none
  | .dropPriorityRx =>
    match bus.receiver with
    | .idle => some { bus with receiver := .dropping, priority := bus.priority.dropReceiver }
    | _ => none
  | .dropOrdinaryRx =>
    match bus.receiver with
    | .dropping => some { bus with receiver := .dropped, ordinary := bus.ordinary.dropReceiver }
    | _ => none

def machine (capacity : Nat) : Machine EventBus BusAction where
  start := eventBus capacity
  step := step

/-- Both channels lose and repeat nothing, and an ordinary event is only
received where no priority event was waiting. -/
structure Sound (bus : EventBus) : Prop where
  prioritySent : bus.priority.sent = bus.published.filter fun envelope => envelope.payload.isPriority
  ordinarySent : bus.ordinary.sent = bus.published.filter fun envelope => !envelope.payload.isPriority
  priorityReceived : bus.priority.received =
    (bus.received.map Delivery.envelope).filter fun envelope => envelope.payload.isPriority
  ordinaryReceived : bus.ordinary.received =
    (bus.received.map Delivery.envelope).filter fun envelope => !envelope.payload.isPriority
  borrowed : ∀ call ∈ bus.publishing, call.handle ∈ bus.handles
  priorityDisabled : bus.receiver.disabled.priority = true →
    bus.handles = [] ∧ bus.priority.queue = []
  ordinaryDisabled : bus.receiver.disabled.ordinary = true →
    bus.handles = [] ∧ bus.closing = [] ∧ bus.ordinary.queue = []
  stillQueued : ∀ disabled, bus.receiver = .atPriority disabled true → bus.priority.queue ≠ []
  noneQueued : ∀ disabled priorityQueued, bus.receiver = .atOrdinary disabled priorityQueued →
    priorityQueued = false
  priorityFirst : ∀ delivery ∈ bus.received, delivery.envelope.payload.isPriority = false →
    delivery.priorityQueued = false
  ended : bus.ended = true → bus.handles = [] ∧ bus.closing = [] ∧ bus.priority.queue = [] ∧
    bus.ordinary.queue = []

theorem sound_eventBus (capacity : Nat) : (eventBus capacity).Sound := by
  constructor <;> simp [eventBus, Channel.new, ReceiverPhase.disabled]

theorem Sound.queued_priority {bus : EventBus} (sound : bus.Sound) {envelope : EventEnvelope}
    (queued : envelope ∈ bus.priority.queue) : envelope.payload.isPriority = true := by
  have sent : envelope ∈ bus.priority.sent := by
    rw [bus.priority.conserved]
    exact List.mem_append_right _ queued
  rw [sound.prioritySent] at sent
  exact (List.mem_filter.mp sent).2

theorem Sound.queued_ordinary {bus : EventBus} (sound : bus.Sound) {envelope : EventEnvelope}
    (queued : envelope ∈ bus.ordinary.queue) : envelope.payload.isPriority = false := by
  have sent : envelope ∈ bus.ordinary.sent := by
    rw [bus.ordinary.conserved]
    exact List.mem_append_right _ queued
  rw [sound.ordinarySent] at sent
  simpa using (List.mem_filter.mp sent).2

theorem Sound.send {bus after : EventBus} {envelope : EventEnvelope} (sound : bus.Sound)
    (handled : bus.handles ≠ []) (sends : bus.send envelope = some after) : after.Sound := by
  unfold EventBus.send at sends
  split at sends
  · rename_i isPriority
    split at sends
    · cases sends
    · cases sends
      exact sound
    · rename_i priority sent
      cases sends
      obtain ⟨queue, all, received⟩ := Channel.send_sent sent
      refine { sound with
        prioritySent := ?_, ordinarySent := ?_, priorityReceived := ?_, priorityDisabled := ?_
        stillQueued := ?_, ended := ?_ }
      · rw [all, sound.prioritySent, List.filter_append, List.filter_singleton, isPriority]
        rfl
      · rw [sound.ordinarySent, List.filter_append, List.filter_singleton, isPriority]
        simp
      · rw [received, sound.priorityReceived]
      · exact fun disabled => absurd (sound.priorityDisabled disabled).1 handled
      · intro disabled phase
        simp [queue]
      · exact fun ended => absurd (sound.ended ended).1 handled
  · rename_i isPriority
    have ordinary : envelope.payload.isPriority = false := by simpa using isPriority
    split at sends
    · cases sends
    · cases sends
      exact sound
    · rename_i channel sent
      cases sends
      obtain ⟨queue, all, received⟩ := Channel.send_sent sent
      refine { sound with
        prioritySent := ?_, ordinarySent := ?_, ordinaryReceived := ?_, ordinaryDisabled := ?_
        ended := ?_ }
      · rw [sound.prioritySent, List.filter_append, List.filter_singleton, ordinary]
        simp
      · rw [all, sound.ordinarySent, List.filter_append, List.filter_singleton, ordinary]
        rfl
      · rw [received, sound.ordinaryReceived]
      · exact fun disabled => absurd (sound.ordinaryDisabled disabled).1 handled
      · exact fun ended => absurd (sound.ended ended).1 handled

/-- What the two disabled flags say, in terms of the receiver's phase. -/
theorem Sound.disabled_at {bus : EventBus} {disabled : Disabled} (sound : bus.Sound)
    (flags : bus.receiver.disabled = disabled) :
    (disabled.priority = true → bus.handles = [] ∧ bus.priority.queue = []) ∧
      (disabled.ordinary = true →
        bus.handles = [] ∧ bus.closing = [] ∧ bus.ordinary.queue = []) := by
  subst flags
  exact ⟨sound.priorityDisabled, sound.ordinaryDisabled⟩

theorem Sound.pollPriority {bus : EventBus} {disabled : Disabled} {priorityQueued : Bool}
    (sound : bus.Sound) (phase : bus.receiver = .atPriority disabled priorityQueued) :
    (bus.pollPriority disabled priorityQueued).Sound := by
  obtain ⟨priorityDisabled, ordinaryDisabled⟩ :=
    sound.disabled_at (congrArg ReceiverPhase.disabled phase)
  have noneQueued (empty : bus.priority.queue = []) : priorityQueued = false := by
    cases priorityQueued with
    | false => rfl
    | true => exact absurd empty (sound.stillQueued disabled phase)
  unfold EventBus.pollPriority
  split
  · rename_i isDisabled
    refine { sound with
      priorityDisabled := priorityDisabled, ordinaryDisabled := ordinaryDisabled
      stillQueued := nofun, noneQueued := ?_ }
    intro _ _ same
    cases same
    exact noneQueued (priorityDisabled isDisabled).2
  · split
    · rename_i envelope priority received
      obtain ⟨queue, sent, all, _⟩ := Channel.receive_received received
      have isPriority : envelope.payload.isPriority = true :=
        sound.queued_priority (by simp [queue])
      refine { sound with
        prioritySent := ?_, priorityReceived := ?_, ordinaryReceived := ?_
        priorityDisabled := nofun, ordinaryDisabled := nofun, stillQueued := nofun
        noneQueued := nofun, priorityFirst := ?_, ended := ?_ }
      · rw [sent, sound.prioritySent]
      · rw [all, sound.priorityReceived]
        simp [isPriority]
      · rw [sound.ordinaryReceived]
        simp [isPriority]
      · intro delivery member ordinary
        rcases List.mem_append.mp member with earlier | last
        · exact sound.priorityFirst delivery earlier ordinary
        · cases List.mem_singleton.mp last
          simp [isPriority] at ordinary
      · intro ended
        have empty := (sound.ended ended).2.2.1
        simp [queue] at empty
    · rename_i ends
      obtain ⟨empty, gone⟩ := Channel.receive_ended ends
      refine { sound with
        priorityDisabled := ?_, ordinaryDisabled := ordinaryDisabled
        stillQueued := nofun, noneQueued := ?_ }
      · exact fun _ => ⟨List.isEmpty_iff.mp gone, empty⟩
      · intro _ _ same
        cases same
        exact noneQueued empty
    · rename_i waits
      refine { sound with
        priorityDisabled := priorityDisabled, ordinaryDisabled := ordinaryDisabled
        stillQueued := nofun, noneQueued := ?_ }
      intro _ _ same
      cases same
      exact noneQueued (Channel.receive_pending waits)

theorem Sound.endPoll {bus : EventBus} {disabled : Disabled} (sound : bus.Sound)
    (priorityDisabled : disabled.priority = true → bus.handles = [] ∧ bus.priority.queue = [])
    (ordinaryDisabled : disabled.ordinary = true →
      bus.handles = [] ∧ bus.closing = [] ∧ bus.ordinary.queue = []) :
    (bus.endPoll disabled).Sound := by
  unfold EventBus.endPoll
  split
  · rename_i both
    obtain ⟨priority, ordinary⟩ := Bool.and_eq_true_iff.mp both
    refine { sound with
      priorityDisabled := nofun, ordinaryDisabled := nofun, stillQueued := nofun
      noneQueued := nofun, ended := ?_ }
    intro _
    obtain ⟨handles, closing, empty⟩ := ordinaryDisabled ordinary
    exact ⟨handles, closing, (priorityDisabled priority).2, empty⟩
  · exact { sound with
      priorityDisabled := priorityDisabled, ordinaryDisabled := ordinaryDisabled
      stillQueued := nofun, noneQueued := nofun }

theorem Sound.pollOrdinary {bus : EventBus} {disabled : Disabled} {priorityQueued : Bool}
    (sound : bus.Sound) (phase : bus.receiver = .atOrdinary disabled priorityQueued) :
    (bus.pollOrdinary disabled priorityQueued).Sound := by
  obtain ⟨priorityDisabled, ordinaryDisabled⟩ :=
    sound.disabled_at (congrArg ReceiverPhase.disabled phase)
  have noneQueued := sound.noneQueued disabled priorityQueued phase
  unfold EventBus.pollOrdinary
  split
  · exact sound.endPoll priorityDisabled ordinaryDisabled
  · split
    · rename_i envelope channel received
      obtain ⟨queue, sent, all, _⟩ := Channel.receive_received received
      have ordinary : envelope.payload.isPriority = false :=
        sound.queued_ordinary (by simp [queue])
      refine { sound with
        ordinarySent := ?_, priorityReceived := ?_, ordinaryReceived := ?_
        priorityDisabled := nofun, ordinaryDisabled := nofun, stillQueued := nofun
        noneQueued := nofun, priorityFirst := ?_, ended := ?_ }
      · rw [sent, sound.ordinarySent]
      · rw [sound.priorityReceived]
        simp [ordinary]
      · rw [all, sound.ordinaryReceived]
        simp [ordinary]
      · intro delivery member isOrdinary
        rcases List.mem_append.mp member with earlier | last
        · exact sound.priorityFirst delivery earlier isOrdinary
        · cases List.mem_singleton.mp last
          exact noneQueued
      · intro ended
        have empty := (sound.ended ended).2.2.2
        simp [queue] at empty
    · rename_i ends
      obtain ⟨empty, gone⟩ := Channel.receive_ended ends
      obtain ⟨handles, closing⟩ := Bool.and_eq_true_iff.mp gone
      apply Sound.endPoll sound
      · exact priorityDisabled
      · exact fun _ => ⟨List.isEmpty_iff.mp handles, List.isEmpty_iff.mp closing, empty⟩
    · exact sound.endPoll priorityDisabled ordinaryDisabled

theorem Sound.step {bus after : EventBus} {action : BusAction} (sound : bus.Sound)
    (step : bus.step action = some after) : after.Sound := by
  cases action with
  | clone handle =>
    obtain ⟨owned, same⟩ := Option.ite_none_right_eq_some.mp step
    cases same
    have handled : bus.handles ≠ [] := List.ne_nil_of_mem owned
    refine { sound with
      borrowed := ?_, priorityDisabled := ?_, ordinaryDisabled := ?_, ended := ?_ }
    · exact fun call member => List.mem_append_left _ (sound.borrowed call member)
    · exact fun disabled => absurd (sound.priorityDisabled disabled).1 handled
    · exact fun disabled => absurd (sound.ordinaryDisabled disabled).1 handled
    · exact fun ended => absurd (sound.ended ended).1 handled
  | dropPriorityTx handle =>
    obtain ⟨⟨owned, unborrowed⟩, same⟩ := Option.ite_none_right_eq_some.mp step
    cases same
    have handled : bus.handles ≠ [] := List.ne_nil_of_mem owned
    refine { sound with
      borrowed := ?_, priorityDisabled := ?_, ordinaryDisabled := ?_, ended := ?_ }
    · intro call member
      exact List.mem_filter.mpr ⟨sound.borrowed call member, by simpa using unborrowed call member⟩
    · exact fun disabled => absurd (sound.priorityDisabled disabled).1 handled
    · exact fun disabled => absurd (sound.ordinaryDisabled disabled).1 handled
    · exact fun ended => absurd (sound.ended ended).1 handled
  | dropOrdinaryTx handle =>
    cases step
    refine { sound with ordinaryDisabled := ?_, ended := ?_ }
    · intro disabled
      obtain ⟨handles, closing, empty⟩ := sound.ordinaryDisabled disabled
      exact ⟨handles, by rw [closing, List.filter_nil], empty⟩
    · intro ended
      obtain ⟨handles, closing, empty⟩ := sound.ended ended
      exact ⟨handles, by rw [closing, List.filter_nil], empty⟩
  | publish handle envelope =>
    obtain ⟨owned, same⟩ := Option.ite_none_right_eq_some.mp step
    cases same
    refine { sound with borrowed := ?_ }
    intro call member
    rcases List.mem_append.mp member with earlier | last
    · exact sound.borrowed call earlier
    · cases List.mem_singleton.mp last
      exact owned
  | finishPublish index =>
    obtain ⟨call, found, sends⟩ := Option.bind_eq_some_iff.mp step
    have borrowed := sound.borrowed call (List.mem_of_getElem? found)
    have rest : ({ bus with publishing := bus.publishing.eraseIdx index } : EventBus).Sound :=
      { sound with
        borrowed := fun call member => sound.borrowed call (List.mem_of_mem_eraseIdx member) }
    exact rest.send (List.ne_nil_of_mem borrowed) sends
  | cancelPublish index =>
    cases step
    exact { sound with
      borrowed := fun call member => sound.borrowed call (List.mem_of_mem_eraseIdx member) }
  | recv | cancelRecv | dropPriorityRx | dropOrdinaryRx =>
    simp only [EventBus.step] at step
    split at step
    · cases step
      exact { sound with
        priorityDisabled := nofun, ordinaryDisabled := nofun, stillQueued := nofun
        noneQueued := nofun }
    · cases step
  | beginPoll =>
    simp only [EventBus.step] at step
    split at step
    · rename_i disabled phase
      cases step
      obtain ⟨priorityDisabled, ordinaryDisabled⟩ :=
        sound.disabled_at (congrArg ReceiverPhase.disabled phase)
      refine { sound with
        priorityDisabled := priorityDisabled, ordinaryDisabled := ordinaryDisabled
        stillQueued := ?_, noneQueued := nofun }
      intro other same
      simp only [ReceiverPhase.atPriority.injEq] at same
      simpa using same.2
    · cases step
  | pollPriority =>
    simp only [EventBus.step] at step
    split at step
    · rename_i disabled priorityQueued phase
      cases step
      exact sound.pollPriority phase
    · cases step
  | pollOrdinary =>
    simp only [EventBus.step] at step
    split at step
    · rename_i disabled priorityQueued phase
      cases step
      exact sound.pollOrdinary phase
    · cases step

theorem sound_of_reached {capacity : Nat} {bus : EventBus}
    (reached : (machine capacity).Reached bus) : bus.Sound :=
  reached.invariant (sound_eventBus capacity) fun _ _ _ sound step => sound.step step

/-- How many events wait in the two channels. -/
def queued (bus : EventBus) : Nat := bus.priority.queue.length + bus.ordinary.queue.length

/-- From here the consumer, by its own steps, gets hold of one more event. -/
def GetsOne (capacity : Nat) (bus : EventBus) : Prop :=
  ∃ actions after, (∀ action ∈ actions, action.isRecv = true) ∧
    (machine capacity).run bus actions = some after ∧ after.receiver = .idle ∧
    after.published = bus.published ∧ after.queued < bus.queued

section progress

variable {capacity : Nat} {bus : EventBus}

theorem GetsOne.of_step {middle : EventBus} {action : BusAction} (own : action.isRecv = true)
    (step : bus.step action = some middle) (published : middle.published = bus.published)
    (same : middle.queued = bus.queued) (gets : GetsOne capacity middle) : GetsOne capacity bus := by
  obtain ⟨actions, after, owns, runs, idle, kept, fewer⟩ := gets
  refine ⟨action :: actions, after, ?_, ?_, idle, kept.trans published, same ▸ fewer⟩
  · intro other member
    rcases List.mem_cons.mp member with first | later
    · exact first ▸ own
    · exact owns other later
  · have first : (machine capacity).run bus (action :: actions) =
        (machine capacity).run middle actions := Machine.run_of_step step actions
    rw [first, runs]

theorem GetsOne.of_last {after : EventBus} {action : BusAction} (own : action.isRecv = true)
    (step : bus.step action = some after)
    (gets : after.receiver = .idle ∧ after.published = bus.published ∧ after.queued < bus.queued) :
    GetsOne capacity bus := by
  refine ⟨[action], after, by simpa using own, ?_, gets⟩
  have first : (machine capacity).run bus [action] = (machine capacity).run after [] :=
    Machine.run_of_step step []
  rw [first, Machine.run_nil]

theorem getsOne_of_priority {disabled : Disabled} {priorityQueued : Bool} {item : EventEnvelope}
    {rest : List EventEnvelope} (sound : bus.Sound)
    (phase : bus.receiver = .atPriority disabled priorityQueued)
    (waiting : bus.priority.queue = item :: rest) : GetsOne capacity bus := by
  have enabled : disabled.priority = false := by
    by_contra disables
    have empty := sound.priorityDisabled (by simpa [phase, ReceiverPhase.disabled] using disables)
    simp [waiting] at empty
  obtain ⟨priority, received⟩ := Channel.exists_receive waiting bus.handles.isEmpty
  obtain ⟨queue, _⟩ := Channel.receive_received received
  have step : bus.step .pollPriority = some (bus.pollPriority disabled priorityQueued) := by
    simp only [EventBus.step, phase]
  apply GetsOne.of_last rfl step
  unfold EventBus.pollPriority
  rw [if_neg (by simp [enabled]), received]
  refine ⟨rfl, rfl, ?_⟩
  simp [queued, queue]

theorem getsOne_of_ordinary {disabled : Disabled} {priorityQueued : Bool} {item : EventEnvelope}
    {rest : List EventEnvelope} (sound : bus.Sound)
    (phase : bus.receiver = .atOrdinary disabled priorityQueued)
    (waiting : bus.ordinary.queue = item :: rest) : GetsOne capacity bus := by
  have enabled : disabled.ordinary = false := by
    by_contra disables
    have empty := sound.ordinaryDisabled (by simpa [phase, ReceiverPhase.disabled] using disables)
    simp [waiting] at empty
  obtain ⟨ordinary, received⟩ :=
    Channel.exists_receive waiting (bus.handles.isEmpty && bus.closing.isEmpty)
  obtain ⟨queue, _⟩ := Channel.receive_received received
  have step : bus.step .pollOrdinary = some (bus.pollOrdinary disabled priorityQueued) := by
    simp only [EventBus.step, phase]
  apply GetsOne.of_last rfl step
  unfold EventBus.pollOrdinary
  rw [if_neg (by simp [enabled]), received]
  refine ⟨rfl, rfl, ?_⟩
  simp [queued, queue]

/-- A poll that finds the priority channel empty goes on to the ordinary one. -/
theorem pollPriority_empty (disabled : Disabled) (priorityQueued : Bool)
    (empty : bus.priority.queue = []) : ∃ disabled',
    bus.pollPriority disabled priorityQueued =
      { bus with receiver := .atOrdinary disabled' priorityQueued } := by
  unfold EventBus.pollPriority
  split
  · exact ⟨disabled, rfl⟩
  · split
    · rename_i received
      have queue := (Channel.receive_received received).1
      simp [empty] at queue
    · exact ⟨_, rfl⟩
    · exact ⟨disabled, rfl⟩

/-- A poll that comes too late for an event of the priority channel waits for the next poll. -/
theorem pollOrdinary_empty {disabled : Disabled} {priorityQueued : Bool} (sound : bus.Sound)
    (phase : bus.receiver = .atOrdinary disabled priorityQueued)
    (waiting : bus.priority.queue ≠ []) (empty : bus.ordinary.queue = []) : ∃ disabled',
    bus.pollOrdinary disabled priorityQueued = { bus with receiver := .waiting disabled' } := by
  have enabled : disabled.priority = false := by
    by_contra disables
    exact waiting (sound.priorityDisabled (by simpa [phase, ReceiverPhase.disabled] using disables)).2
  have waits (other : Disabled) (same : other.priority = false) :
      bus.endPoll other = { bus with receiver := .waiting other } := by
    simp [EventBus.endPoll, same]
  unfold EventBus.pollOrdinary
  split
  · exact ⟨disabled, waits disabled enabled⟩
  · split
    · rename_i received
      have queue := (Channel.receive_received received).1
      simp [empty] at queue
    · exact ⟨_, waits _ enabled⟩
    · exact ⟨disabled, waits disabled enabled⟩

theorem getsOne_atPriority {disabled : Disabled} {priorityQueued : Bool} (sound : bus.Sound)
    (phase : bus.receiver = .atPriority disabled priorityQueued) (waiting : 0 < bus.queued) :
    GetsOne capacity bus := by
  cases priority : bus.priority.queue with
  | cons item rest => exact getsOne_of_priority sound phase priority
  | nil =>
    obtain ⟨disabled', polled⟩ := pollPriority_empty disabled priorityQueued priority
    have step : bus.step .pollPriority =
        some { bus with receiver := .atOrdinary disabled' priorityQueued } := by
      simp only [EventBus.step, phase, polled]
    cases ordinary : bus.ordinary.queue with
    | nil => simp [queued, priority, ordinary] at waiting
    | cons item rest =>
      exact .of_step rfl step rfl rfl (getsOne_of_ordinary (sound.step step) rfl ordinary)

theorem getsOne_waiting {disabled : Disabled} (sound : bus.Sound)
    (phase : bus.receiver = .waiting disabled) (waiting : 0 < bus.queued) :
    GetsOne capacity bus := by
  have step : bus.step .beginPoll =
      some { bus with receiver := .atPriority disabled (!bus.priority.queue.isEmpty) } := by
    simp only [EventBus.step, phase]
  exact .of_step rfl step rfl rfl (getsOne_atPriority (sound.step step) rfl waiting)

theorem getsOne_atOrdinary {disabled : Disabled} {priorityQueued : Bool} (sound : bus.Sound)
    (phase : bus.receiver = .atOrdinary disabled priorityQueued) (waiting : 0 < bus.queued) :
    GetsOne capacity bus := by
  cases ordinary : bus.ordinary.queue with
  | cons item rest => exact getsOne_of_ordinary sound phase ordinary
  | nil =>
    have priority : bus.priority.queue ≠ [] := by
      intro empty
      simp [queued, empty, ordinary] at waiting
    obtain ⟨disabled', polled⟩ := pollOrdinary_empty sound phase priority ordinary
    have step : bus.step .pollOrdinary = some { bus with receiver := .waiting disabled' } := by
      simp only [EventBus.step, phase, polled]
    exact .of_step rfl step rfl rfl (getsOne_waiting (sound.step step) rfl waiting)

theorem getsOne (sound : bus.Sound) (alive : bus.receiver ≠ .dropping ∧ bus.receiver ≠ .dropped)
    (waiting : 0 < bus.queued) : GetsOne capacity bus := by
  cases phase : bus.receiver with
  | idle =>
    have step : bus.step .recv =
        some { bus with receiver := .waiting { priority := false, ordinary := false } } := by
      simp only [EventBus.step, phase]
    exact .of_step rfl step rfl rfl (getsOne_waiting (sound.step step) rfl waiting)
  | waiting disabled => exact getsOne_waiting sound phase waiting
  | atPriority disabled priorityQueued => exact getsOne_atPriority sound phase waiting
  | atOrdinary disabled priorityQueued => exact getsOne_atOrdinary sound phase waiting
  | dropping => exact absurd phase alive.1
  | dropped => exact absurd phase alive.2

/-- The consumer alone can empty both channels. -/
theorem exists_drained (sound : bus.Sound)
    (alive : bus.receiver ≠ .dropping ∧ bus.receiver ≠ .dropped) :
    ∃ actions after, (∀ action ∈ actions, action.isRecv = true) ∧
      (machine capacity).run bus actions = some after ∧ after.published = bus.published ∧
      after.queued = 0 := by
  induction count : bus.queued using Nat.strong_induction_on generalizing bus with
  | _ count ih =>
    subst count
    by_cases waiting : 0 < bus.queued
    · have gets : GetsOne capacity bus := getsOne sound alive waiting
      obtain ⟨front, middle, owns, runs, idle, published, fewer⟩ := gets
      have still : middle.Sound := Machine.run_keeps (fun _ _ _ sound step => sound.step step) sound runs
      obtain ⟨back, after, owns', runs', published', empty⟩ :=
        ih middle.queued fewer still (by simp [idle]) rfl
      refine ⟨front ++ back, after, ?_, ?_, published'.trans published, empty⟩
      · intro action member
        rcases List.mem_append.mp member with early | late
        · exact owns action early
        · exact owns' action late
      · rw [Machine.run_append, runs, Option.bind_some, runs']
    · exact ⟨[], bus, by simp, Machine.run_nil bus, rfl, Nat.eq_zero_of_not_pos waiting⟩

end progress

/-- With nothing queued, every published event has been received exactly once. -/
theorem Sound.received_perm {bus : EventBus} (sound : bus.Sound)
    (priority : bus.priority.queue = []) (ordinary : bus.ordinary.queue = []) :
    (bus.received.map Delivery.envelope).Perm bus.published := by
  have first := bus.priority.conserved
  have second := bus.ordinary.conserved
  rw [priority, List.append_nil, sound.prioritySent, sound.priorityReceived] at first
  rw [ordinary, List.append_nil, sound.ordinarySent, sound.ordinaryReceived] at second
  have parts := List.filter_append_perm (fun envelope : EventEnvelope => envelope.payload.isPriority)
  refine (parts _).symm.trans (.trans ?_ (parts _))
  rw [first, second]

/-- What the bus guarantees: no event is lost, repeated or overtaken within its
class, priority events go first, and the end is reported only at the end. -/
structure Delivers (bus : EventBus) : Prop where
  priorityInOrder : (bus.published.filter fun envelope => envelope.payload.isPriority) =
    ((bus.received.map Delivery.envelope).filter fun envelope => envelope.payload.isPriority) ++
      bus.priority.queue
  ordinaryInOrder : (bus.published.filter fun envelope => !envelope.payload.isPriority) =
    ((bus.received.map Delivery.envelope).filter fun envelope => !envelope.payload.isPriority) ++
      bus.ordinary.queue
  priorityFirst : ∀ delivery ∈ bus.received, delivery.envelope.payload.isPriority = false →
    delivery.priorityQueued = false
  ended : bus.ended = true → bus.handles = [] ∧ bus.closing = [] ∧ bus.priority.queue = [] ∧
    bus.ordinary.queue = [] ∧ (bus.received.map Delivery.envelope).Perm bus.published

theorem Sound.delivers {bus : EventBus} (sound : bus.Sound) : bus.Delivers where
  priorityInOrder := by rw [← sound.prioritySent, ← sound.priorityReceived, bus.priority.conserved]
  ordinaryInOrder := by rw [← sound.ordinarySent, ← sound.ordinaryReceived, bus.ordinary.conserved]
  priorityFirst := sound.priorityFirst
  ended := by
    intro ended
    obtain ⟨handles, closing, priority, ordinary⟩ := sound.ended ended
    exact ⟨handles, closing, priority, ordinary, sound.received_perm priority ordinary⟩

/-- Every state reached delivers. While the receiver lives, its own steps lead
to having received every published event exactly once. -/
theorem reached_delivers {capacity : Nat} {bus : EventBus}
    (reached : (machine capacity).Reached bus) : bus.Delivers ∧
      (bus.receiver ≠ .dropping ∧ bus.receiver ≠ .dropped →
        ∃ actions after, (∀ action ∈ actions, action.isRecv = true) ∧
          (machine capacity).run bus actions = some after ∧ after.published = bus.published ∧
          (after.received.map Delivery.envelope).Perm bus.published) := by
  have sound := sound_of_reached reached
  refine ⟨sound.delivers, ?_⟩
  intro alive
  obtain ⟨actions, after, owns, runs, published, empty⟩ := exists_drained sound alive
  have still : after.Sound := Machine.run_keeps (fun _ _ _ sound step => sound.step step) sound runs
  obtain ⟨priority, ordinary⟩ := Nat.add_eq_zero_iff.mp empty
  refine ⟨actions, after, owns, runs, published, ?_⟩
  rw [← published]
  exact still.received_perm (List.eq_nil_of_length_eq_zero priority)
    (List.eq_nil_of_length_eq_zero ordinary)

/-- An ordinary event, then a shutdown that overtakes it, then the end of the handle. -/
def overtaking : List BusAction := [
  .publish 0 { eventId := 1, timestamp := 0, payload := .macroCycleStarted },
  .finishPublish 0,
  .publish 0 { eventId := 2, timestamp := 0, payload := .shutdown "test" },
  .finishPublish 0,
  .recv, .beginPoll, .pollPriority,
  .recv, .beginPoll, .pollPriority, .pollOrdinary,
  .dropPriorityTx 0, .recv, .beginPoll, .pollPriority, .pollOrdinary,
  .dropOrdinaryTx 0, .beginPoll, .pollPriority, .pollOrdinary]

theorem overtaking_delivers : ∃ bus, (machine 8).run (eventBus 8) overtaking = some bus ∧
    bus.received.map (fun delivery => delivery.envelope.eventId) = [2, 1] ∧ bus.ended = true ∧
    bus.Delivers := by
  obtain ⟨bus, runs⟩ : ∃ bus, (machine 8).run (eventBus 8) overtaking = some bus := ⟨_, rfl⟩
  refine ⟨bus, runs, ?_, ?_, (reached_delivers ⟨overtaking, runs⟩).1⟩
  · have same : ((machine 8).run (eventBus 8) overtaking).map (fun bus =>
        bus.received.map fun delivery => delivery.envelope.eventId) = some [2, 1] := rfl
    simpa [runs] using same
  · have same : ((machine 8).run (eventBus 8) overtaking).map EventBus.ended = some true := rfl
    simpa [runs] using same

end EventBus

end Oboobot.Daemon
