import Oboobot.Interaction.Machine
import Oboobot.Broker.Adapter
import Oboobot.Broker.Json

/-! The low-level connection: many callers, one reader task, and the map that
tells the reader whom a reply is for. -/

namespace Oboobot.Broker

open Interaction

def requestTimeoutMs : Nat := 10000

/-- The request that a message answers, if it says so. -/
def Value.reqId (message : Value) : Option UInt64 := (message.get "req_id").bind Value.asU64

/-- The end of `call`: an `{"error": ...}` reply is a rejection. -/
def ofResponse (response : Value) : Except BrokerError Value :=
  match response.get "error" with
  | some error =>
    .error (.rejected (((error.get "message").bind Value.asStr).getD
      "Deriv API returned an error with no message"))
  | none => .ok response

def channelClosed : BrokerError :=
  .connectionFailed "response channel closed before a reply arrived"

/-- What the reader task gets from the socket. A text that is no JSON parses to `none`. -/
inductive Frame where
  | failed
  | ended
  | other
  | text (parsed : Option Value)

/-- The `oneshot` of a call. A message is named by its place among all frames. -/
inductive Mailbox where
  | empty
  | full (arrival : Nat) (message : Value)
  | read (arrival : Nat)
  | closed

/-- How far a call has come. An `expired` call has dropped its end of the
`oneshot` and is about to leave the map. -/
inductive CallPhase where
  | started
  | registered
  | sendFailed (detail : String)
  | sent
  | expired
  | returned (outcome : Except BrokerError Value)

structure CallState where
  reqId : UInt64
  phase : CallPhase
  mailbox : Mailbox

/-- The message that is delivered to a call or has completed it. -/
def CallState.arrival (call : CallState) : Option Nat :=
  match call.mailbox with
  | .full arrival _ => some arrival
  | .read arrival => some arrival
  | _ => none

/-- The receiving end of the `oneshot` still exists. -/
def CallPhase.listens : CallPhase → Bool
  | .expired | .returned _ => false
  | _ => true

/-- The connection with all calls made so far, by number, and all frames that
have arrived. The map leads from a `req_id` to the call that registered it. -/
structure DerivClient where
  nextReqId : UInt64
  pending : UInt64 → Option Nat
  readerRunning : Bool
  calls : List CallState
  frames : List Frame

namespace DerivClient

/-- An open connection. -/
def connected : DerivClient where
  nextReqId := 1
  pending := fun _ => none
  readerRunning := true
  calls := []
  frames := []

def insert (client : DerivClient) (reqId : UInt64) (index : Nat) : UInt64 → Option Nat :=
  fun other => if other = reqId then some index else client.pending other

def remove (client : DerivClient) (reqId : UInt64) : UInt64 → Option Nat :=
  fun other => if other = reqId then none else client.pending other

/-- Steps of any caller and of the reader, in any order. Callers are not cancelled. -/
inductive Action where
  | begin
  | register (index : Nat)
  | send (index : Nat) (result : Except String Unit)
  | unregister (index : Nat)
  | expire (index : Nat)
  | takeReply (index : Nat)
  | receive (frame : Frame)

/-- Enter a call into the map. A sender that it replaces there is dropped. -/
def register (client : DerivClient) (index : Nat) (call : CallState) : DerivClient :=
  let calls := match client.pending call.reqId with
    | some replaced => client.calls.modify replaced fun other => { other with mailbox := .closed }
    | none => client.calls
  { client with
    pending := client.insert call.reqId index
    calls := calls.modify index fun call => { call with phase := .registered } }

/-- Take the sender for a message out of the map and hand the message over. The
lock on the map is held throughout. -/
def deliver (client : DerivClient) (message : Value) : DerivClient :=
  match message.reqId with
  | none => client
  | some reqId =>
    match client.pending reqId with
    | none => client
    | some index => { client with
        pending := client.remove reqId
        calls := client.calls.modify index fun call => { call with
          mailbox := if call.phase.listens then .full client.frames.length message else .closed } }

/-- One round of the reader task. -/
def receive (client : DerivClient) (frame : Frame) : DerivClient :=
  let arrived := match frame with
    | .failed | .ended => { client with readerRunning := false }
    | .other | .text none => client
    | .text (some message) => client.deliver message
  { arrived with frames := client.frames ++ [frame] }

/-- A call comes to its end. -/
def finish (client : DerivClient) (index : Nat) (outcome : Except BrokerError Value) : DerivClient :=
  { client with calls := client.calls.modify index fun call =>
      { call with phase := .returned outcome } }

def step (client : DerivClient) : Action → Option DerivClient
  | .begin => some { client with
      nextReqId := client.nextReqId + 1
      calls := client.calls ++
        [{ reqId := client.nextReqId, phase := .started, mailbox := .empty }] }
  | .register index => do
    let call ← client.calls[index]?
    match call.phase with
    | .started => some (client.register index call)
    | _ => none
  | .send index result => do
    let call ← client.calls[index]?
    match call.phase with
    | .registered =>
      let phase := match result with
        | .ok () => .sent
        | .error detail => .sendFailed detail
      some { client with calls := client.calls.modify index fun call => { call with phase } }
    | _ => none
  | .unregister index => do
    let call ← client.calls[index]?
    let removed := { client with pending := client.remove call.reqId }
    match call.phase with
    | .sendFailed detail => some (removed.finish index (.error (.connectionFailed detail)))
    | .expired => some (removed.finish index (.error (.timeout requestTimeoutMs)))
    | _ => none
  | .expire index => do
    let call ← client.calls[index]?
    match call.phase with
    | .sent => some { client with
        calls := client.calls.modify index fun call => { call with phase := .expired } }
    | _ => none
  | .takeReply index => do
    let call ← client.calls[index]?
    match call.phase, call.mailbox with
    | .sent, .full arrival message => some { client with
        calls := client.calls.modify index fun call =>
          { call with phase := .returned (ofResponse message), mailbox := .read arrival } }
    | .sent, .closed => some (client.finish index (.error channelClosed))
    | _, _ => none
  | .receive frame => if client.readerRunning then some (client.receive frame) else none

def machine : Machine DerivClient Action where
  start := connected
  step := step

/-- An outcome that comes from a reply. -/
def IsAnswer : Except BrokerError Value → Prop
  | .ok _ => True
  | .error failure => ∃ reason, failure = .rejected reason

/-- A frame that carries a reply to this request. -/
def Replies (frames : List Frame) (arrival : Nat) (message : Value) (reqId : UInt64) : Prop :=
  frames[arrival]? = some (.text (some message)) ∧ message.reqId = some reqId

theorem Replies.grow {frames : List Frame} {arrival : Nat} {message : Value} {reqId : UInt64}
    (replies : Replies frames arrival message reqId) (frame : Frame) :
    Replies (frames ++ [frame]) arrival message reqId := by
  obtain ⟨found, own⟩ := replies
  have inside : arrival < frames.length := (List.getElem?_eq_some_iff.mp found).1
  exact ⟨by rw [List.getElem?_append_left inside, found], own⟩

/-- Whatever a call holds or has returned came in a message with its own number. -/
structure CallSound (frames : List Frame) (index : Nat) (call : CallState) : Prop where
  reqId : call.reqId = UInt64.ofNat (index + 1)
  fresh : call.phase = .started → call.mailbox = .empty
  full : ∀ arrival message, call.mailbox = .full arrival message →
    Replies frames arrival message call.reqId
  read : ∀ arrival, call.mailbox = .read arrival → ∃ message,
    Replies frames arrival message call.reqId ∧ call.phase = .returned (ofResponse message)
  answered : ∀ outcome, call.phase = .returned outcome → IsAnswer outcome →
    ∃ arrival, call.mailbox = .read arrival

/-- A call that the map leads to. -/
structure Awaits (reqId : UInt64) (call : CallState) : Prop where
  reqId : call.reqId = reqId
  mailbox : call.mailbox = .empty
  registered : call.phase ≠ .started
  unreturned : ∀ outcome, call.phase ≠ .returned outcome

structure Sound (client : DerivClient) : Prop where
  nextReqId : client.nextReqId = UInt64.ofNat (client.calls.length + 1)
  calls : ∀ index call, client.calls[index]? = some call → CallSound client.frames index call
  pending : ∀ reqId index, client.pending reqId = some index →
    ∃ call, client.calls[index]? = some call ∧ Awaits reqId call

theorem CallSound.grow {frames : List Frame} {index : Nat} {call : CallState}
    (sound : CallSound frames index call) (frame : Frame) :
    CallSound (frames ++ [frame]) index call where
  reqId := sound.reqId
  fresh := sound.fresh
  full arrival message held := (sound.full arrival message held).grow frame
  read arrival held := by
    obtain ⟨message, replies, returned⟩ := sound.read arrival held
    exact ⟨message, replies.grow frame, returned⟩
  answered := sound.answered

theorem sound_connected : connected.Sound where
  nextReqId := rfl
  calls _ _ found := by simp [connected] at found
  pending _ _ found := by simp [connected] at found

section modify

variable {client : DerivClient} {index : Nat} {change : CallState → CallState}

private theorem modify_cases {calls : List CallState} {other : Nat} {call : CallState}
    (found : (calls.modify index change)[other]? = some call) :
    ∃ before, calls[other]? = some before ∧
      (other = index ∧ call = change before ∨ other ≠ index ∧ call = before) := by
  rw [List.getElem?_modify] at found
  obtain ⟨before, present, same⟩ := Option.map_eq_some_iff.mp found
  refine ⟨before, present, ?_⟩
  by_cases own : index = other
  · exact .inl ⟨own.symm, by rw [← same, if_pos own]⟩
  · exact .inr ⟨fun same => own same.symm, by rw [← same, if_neg own]⟩

private theorem modify_own {calls : List CallState} {call : CallState}
    (found : calls[index]? = some call) : (calls.modify index change)[index]? = some (change call) := by
  simp [found]

private theorem modify_other {calls : List CallState} {other : Nat} (different : other ≠ index) :
    (calls.modify index change)[other]? = calls[other]? := by
  rw [List.getElem?_modify]
  simp [Ne.symm different]

/-- A step of one call that leaves the frames alone. -/
theorem Sound.modify {pending : UInt64 → Option Nat} (sound : client.Sound)
    (kept : ∀ call, client.calls[index]? = some call → CallSound client.frames index call →
      CallSound client.frames index (change call))
    (waits : ∀ reqId other, pending reqId = some other → client.pending reqId = some other ∧
      (other = index → ∀ call, client.calls[index]? = some call → Awaits reqId call →
        Awaits reqId (change call))) :
    ({ client with pending, calls := client.calls.modify index change } : DerivClient).Sound where
  nextReqId := by
    rw [sound.nextReqId]
    simp
  calls := by
    intro other call found
    obtain ⟨before, present, ⟨own, same⟩ | ⟨_, same⟩⟩ := modify_cases found
    · subst own same
      exact kept before present (sound.calls _ _ present)
    · subst same
      exact sound.calls other _ present
  pending := by
    intro reqId other found
    obtain ⟨before, awaits⟩ := waits reqId other found
    obtain ⟨call, present, waiting⟩ := sound.pending reqId other before
    by_cases own : other = index
    · subst own
      exact ⟨change call, modify_own present, awaits rfl call present waiting⟩
    · exact ⟨call, by rw [← present]; exact modify_other own, waiting⟩

end modify

theorem CallSound.rephase {frames : List Frame} {index : Nat} {call : CallState} {phase : CallPhase}
    (sound : CallSound frames index call) (running : ∀ outcome, call.phase ≠ .returned outcome)
    (started : phase ≠ .started) (unreturned : ∀ outcome, phase ≠ .returned outcome) :
    CallSound frames index { call with phase } where
  reqId := sound.reqId
  fresh same := absurd same started
  full := sound.full
  read arrival held := by
    obtain ⟨message, _, returned⟩ := sound.read arrival held
    exact absurd returned (running _)
  answered outcome same := absurd same (unreturned outcome)

/-- A call that ends without a reply. -/
theorem CallSound.finish {frames : List Frame} {index : Nat} {call : CallState}
    {outcome : Except BrokerError Value} (sound : CallSound frames index call)
    (running : ∀ outcome, call.phase ≠ .returned outcome) (unanswered : ¬ IsAnswer outcome) :
    CallSound frames index { call with phase := .returned outcome } where
  reqId := sound.reqId
  fresh := nofun
  full := sound.full
  read arrival held := by
    obtain ⟨message, _, returned⟩ := sound.read arrival held
    exact absurd returned (running _)
  answered other same answers := by
    cases same
    exact absurd answers unanswered

theorem not_isAnswer_connectionFailed (detail : String) :
    ¬ IsAnswer (.error (.connectionFailed detail)) := by
  intro ⟨reason, same⟩
  cases same

theorem not_isAnswer_timeout (milliseconds : Nat) :
    ¬ IsAnswer (.error (.timeout milliseconds)) := by
  intro ⟨reason, same⟩
  cases same

section step

variable {client after : DerivClient} {index : Nat} {call : CallState}

theorem Sound.insert {reqId : UInt64} (sound : client.Sound)
    (found : client.calls[index]? = some call) (awaits : Awaits reqId call) :
    ({ client with pending := client.insert reqId index } : DerivClient).Sound where
  nextReqId := sound.nextReqId
  calls := sound.calls
  pending := by
    intro other owner present
    simp only [DerivClient.insert] at present
    split at present
    · rename_i same
      cases present
      exact ⟨call, found, same ▸ awaits⟩
    · exact sound.pending other owner present

theorem Sound.begin (sound : client.Sound) (step : client.step .begin = some after) :
    after.Sound := by
  cases step
  constructor
  · rw [sound.nextReqId, List.length_append, List.length_singleton,
      UInt64.ofNat_add (client.calls.length + 1)]
    rfl
  · intro index call found
    rw [List.getElem?_append] at found
    split at found
    · exact sound.calls index call found
    · obtain ⟨small, same⟩ := List.getElem?_eq_some_iff.mp found
      have last : index = client.calls.length := by
        simp only [List.length_singleton] at small
        omega
      subst last
      simp only [Nat.sub_self, List.getElem_cons_zero] at same
      subst same
      exact { reqId := sound.nextReqId, fresh := fun _ => rfl, full := nofun, read := nofun,
              answered := nofun }
  · intro reqId index found
    obtain ⟨call, present, awaits⟩ := sound.pending reqId index found
    refine ⟨call, ?_, awaits⟩
    rw [List.getElem?_append_left (List.getElem?_eq_some_iff.mp present).1, present]

theorem Sound.register (sound : client.Sound) (found : client.calls[index]? = some call)
    (started : call.phase = .started) : (client.register index call).Sound := by
  have own := sound.calls index call found
  have running : ∀ outcome, call.phase ≠ .returned outcome := by
    intro outcome same
    rw [started] at same
    cases same
  have awaits : Awaits call.reqId { call with phase := .registered } :=
    { reqId := rfl, mailbox := own.fresh started, registered := nofun, unreturned := nofun }
  -- The number of a started call may only be in the map under another call.
  have unregistered (base : DerivClient) (based : base.Sound)
      (present : base.calls[index]? = some call) :
      ({ base with
        pending := base.insert call.reqId index
        calls := base.calls.modify index fun call => { call with phase := .registered } } :
          DerivClient).Sound := by
    have moved : ({ base with
        pending := base.pending
        calls := base.calls.modify index fun call => { call with phase := .registered } } :
          DerivClient).Sound := by
      apply based.modify
      · intro other same kept
        rw [present] at same
        cases same
        exact kept.rephase running nofun nofun
      · intro reqId other before
        refine ⟨before, ?_⟩
        intro _ waiting same registered
        rw [present] at same
        cases same
        exact absurd started registered.registered
    exact moved.insert (modify_own present) awaits
  unfold DerivClient.register
  cases replaced : client.pending call.reqId with
  | none => exact unregistered client sound found
  | some owner =>
    obtain ⟨earlier, present, waiting⟩ := sound.pending call.reqId owner replaced
    have different : owner ≠ index := by
      intro same
      rw [same, found] at present
      cases present
      exact waiting.registered started
    have dropped : ({ client with
        pending := client.remove call.reqId
        calls := client.calls.modify owner fun other => { other with mailbox := .closed } } :
          DerivClient).Sound := by
      apply sound.modify
      · intro other same kept
        rw [present] at same
        cases same
        exact { reqId := kept.reqId, fresh := fun same => absurd same waiting.registered
                full := nofun, read := nofun
                answered := fun outcome same => absurd same (waiting.unreturned outcome) }
      · intro reqId other removed
        simp only [remove] at removed
        split at removed
        · cases removed
        · rename_i foreign
          refine ⟨removed, ?_⟩
          intro _ other same awaiting
          rw [present] at same
          cases same
          exact absurd (awaiting.reqId.symm.trans waiting.reqId) foreign
    have entered := unregistered _ dropped
      ((modify_other (Ne.symm different)).trans found)
    have same : ({ client with
        pending := client.remove call.reqId
        calls := client.calls.modify owner fun other => { other with mailbox := .closed } } :
          DerivClient).insert call.reqId index = client.insert call.reqId index := by
      funext reqId
      simp only [DerivClient.insert, remove]
      split
      · rfl
      · rfl
    rw [same] at entered
    exact entered

/-- Progress of a call that neither starts nor ends it. -/
theorem Sound.rephase {phase : CallPhase} (sound : client.Sound)
    (found : client.calls[index]? = some call) (running : ∀ outcome, call.phase ≠ .returned outcome)
    (started : phase ≠ .started) (unreturned : ∀ outcome, phase ≠ .returned outcome) :
    ({ client with calls := client.calls.modify index fun call => { call with phase } } :
      DerivClient).Sound := by
  apply sound.modify
  · intro other same kept
    rw [found] at same
    cases same
    exact kept.rephase running started unreturned
  · intro reqId other before
    refine ⟨before, ?_⟩
    intro _ other _ awaits
    exact { awaits with registered := started, unreturned := unreturned }

/-- A call that leaves the map and returns an error of its own. -/
theorem Sound.unregister {outcome : Except BrokerError Value} (sound : client.Sound)
    (found : client.calls[index]? = some call) (running : ∀ outcome, call.phase ≠ .returned outcome)
    (unanswered : ¬ IsAnswer outcome) :
    (({ client with pending := client.remove call.reqId } : DerivClient).finish index
      outcome).Sound := by
  unfold finish
  apply sound.modify
  · intro other same kept
    rw [found] at same
    cases same
    exact kept.finish running unanswered
  · intro reqId other removed
    simp only [remove] at removed
    split at removed
    · cases removed
    · rename_i foreign
      refine ⟨removed, ?_⟩
      intro _ other same awaits
      rw [found] at same
      cases same
      exact absurd awaits.reqId.symm foreign

theorem Sound.takeReply (sound : client.Sound) (step : client.step (.takeReply index) = some after) :
    after.Sound := by
  obtain ⟨call, found, step⟩ := Option.bind_eq_some_iff.mp step
  have own := sound.calls index call found
  split at step
  · rename_i arrival message phase mailbox
    cases step
    apply sound.modify
    · intro other same kept
      rw [found] at same
      cases same
      have replies := kept.full arrival message mailbox
      exact { reqId := kept.reqId, fresh := nofun, full := nofun
              read := by
                intro taken same
                cases same
                exact ⟨message, replies, rfl⟩
              answered := fun _ _ _ => ⟨arrival, rfl⟩ }
    · intro reqId other before
      refine ⟨before, ?_⟩
      intro _ other same awaits
      rw [found] at same
      cases same
      have empty := awaits.mailbox
      rw [mailbox] at empty
      cases empty
  · rename_i phase mailbox
    cases step
    apply sound.modify
    · intro other same kept
      rw [found] at same
      cases same
      exact kept.finish (by simp [phase]) (not_isAnswer_connectionFailed _)
    · intro reqId other before
      refine ⟨before, ?_⟩
      intro _ other same awaits
      rw [found] at same
      cases same
      have empty := awaits.mailbox
      rw [mailbox] at empty
      cases empty
  · cases step

theorem Sound.grow (sound : client.Sound) (frame : Frame) :
    ({ client with frames := client.frames ++ [frame] } : DerivClient).Sound where
  nextReqId := sound.nextReqId
  calls index call found := (sound.calls index call found).grow frame
  pending := sound.pending

theorem Sound.deliver {message : Value} (sound : client.Sound) :
    ({ client.deliver message with
      frames := client.frames ++ [.text (some message)] } : DerivClient).Sound := by
  have grown := sound.grow (.text (some message))
  unfold DerivClient.deliver
  split
  · exact grown
  · rename_i reqId own
    split
    · exact grown
    · rename_i index waited
      obtain ⟨call, found, waiting⟩ := sound.pending reqId index waited
      apply grown.modify
      · intro other same kept
        have here := found.symm.trans same
        cases here
        have replies : Replies (client.frames ++ [.text (some message)]) client.frames.length message
            call.reqId := by
          constructor
          · simp
          · rw [own, waiting.reqId]
        refine { reqId := kept.reqId, fresh := fun same => absurd same waiting.registered
                 full := ?_, read := ?_
                 answered := fun outcome same => absurd same (waiting.unreturned outcome) }
        · intro arrival held full
          simp only at full
          split at full
          · cases full
            exact replies
          · cases full
        · intro arrival read
          simp only at read
          split at read <;> cases read
      · intro other owner removed
        simp only [remove] at removed
        split at removed
        · cases removed
        · rename_i foreign
          refine ⟨removed, ?_⟩
          intro _ other same awaits
          have here := found.symm.trans same
          cases here
          exact absurd (awaits.reqId.symm.trans waiting.reqId) foreign

theorem Sound.receive (sound : client.Sound) (frame : Frame) : (client.receive frame).Sound := by
  cases frame with
  | failed | ended | other =>
    have grown := sound.grow
    exact { grown _ with }
  | text parsed =>
    cases parsed with
    | none =>
      have grown := sound.grow (.text none)
      exact { grown with }
    | some message => exact sound.deliver

theorem Sound.step {action : Action} (sound : client.Sound) (step : client.step action = some after) :
    after.Sound := by
  cases action with
  | begin => exact sound.begin step
  | register index =>
    obtain ⟨call, found, step⟩ := Option.bind_eq_some_iff.mp step
    split at step
    · rename_i started
      cases step
      exact sound.register found started
    · cases step
  | send index result =>
    obtain ⟨call, found, step⟩ := Option.bind_eq_some_iff.mp step
    split at step
    · rename_i registered
      cases step
      have running : ∀ outcome, call.phase ≠ .returned outcome := by simp [registered]
      cases result with
      | ok sent => exact sound.rephase found running nofun nofun
      | error detail => exact sound.rephase found running nofun nofun
    · cases step
  | unregister index =>
    obtain ⟨call, found, step⟩ := Option.bind_eq_some_iff.mp step
    split at step
    · rename_i detail failed
      cases step
      exact sound.unregister found (by simp [failed]) (not_isAnswer_connectionFailed detail)
    · rename_i expired
      cases step
      exact sound.unregister found (by simp [expired]) (not_isAnswer_timeout requestTimeoutMs)
    · cases step
  | expire index =>
    obtain ⟨call, found, step⟩ := Option.bind_eq_some_iff.mp step
    split at step
    · rename_i sent
      cases step
      exact sound.rephase found (by simp [sent]) nofun nofun
    · cases step
  | takeReply index => exact sound.takeReply step
  | receive frame =>
    obtain ⟨_, same⟩ := Option.ite_none_right_eq_some.mp step
    cases same
    exact sound.receive frame

end step

theorem sound_of_reached {client : DerivClient} (reached : machine.Reached client) : client.Sound :=
  reached.invariant sound_connected fun _ _ _ sound step => sound.step step

/-- Replies go to the calls that they answer, each to one call, and the map
only leads to calls that are still waiting. -/
structure Correlated (client : DerivClient) : Prop where
  distinct : ∀ (index other : Nat) (call call' : CallState), client.calls[index]? = some call →
    client.calls[other]? = some call' → call.reqId = call'.reqId → index = other
  ownReply : ∀ (index : Nat) (call : CallState) outcome, client.calls[index]? = some call →
    call.phase = .returned outcome → IsAnswer outcome → ∃ arrival message,
      call.arrival = some arrival ∧ Replies client.frames arrival message call.reqId ∧
      outcome = ofResponse message
  ownDelivery : ∀ (index : Nat) (call : CallState) arrival, client.calls[index]? = some call →
    call.arrival = some arrival → ∃ message, Replies client.frames arrival message call.reqId
  oneCall : ∀ (index other : Nat) (call call' : CallState) arrival,
    client.calls[index]? = some call → client.calls[other]? = some call' → call.arrival = some arrival →
    call'.arrival = some arrival → index = other
  pendingUnreturned : ∀ reqId index, client.pending reqId = some index → ∃ call,
    client.calls[index]? = some call ∧ call.reqId = reqId ∧
    ∀ outcome, call.phase ≠ .returned outcome

theorem CallSound.ownDelivery {frames : List Frame} {index arrival : Nat} {call : CallState}
    (sound : CallSound frames index call) (arrives : call.arrival = some arrival) :
    ∃ message, Replies frames arrival message call.reqId := by
  unfold CallState.arrival at arrives
  split at arrives
  · rename_i message mailbox
    cases arrives
    exact ⟨message, sound.full _ message mailbox⟩
  · rename_i mailbox
    cases arrives
    obtain ⟨message, replies, _⟩ := sound.read _ mailbox
    exact ⟨message, replies⟩
  · cases arrives

theorem Sound.distinct {client : DerivClient} (sound : client.Sound)
    (few : client.calls.length < 2 ^ 64) {index other : Nat} {call call' : CallState}
    (found : client.calls[index]? = some call) (found' : client.calls[other]? = some call')
    (same : call.reqId = call'.reqId) : index = other := by
  have small : index < client.calls.length := (List.getElem?_eq_some_iff.mp found).1
  have small' : other < client.calls.length := (List.getElem?_eq_some_iff.mp found').1
  have numbers : UInt64.ofNat (index + 1) = UInt64.ofNat (other + 1) := by
    rw [← (sound.calls index call found).reqId, ← (sound.calls other call' found').reqId, same]
  have residues := congrArg UInt64.toNat numbers
  rw [UInt64.toNat_ofNat_of_lt' (by simp only [UInt64.size]; omega),
    UInt64.toNat_ofNat_of_lt' (by simp only [UInt64.size]; omega)] at residues
  omega

/-- However callers, the reader, replies, failures and timeouts interleave, with
fewer than `2 ^ 64` calls made. -/
theorem reached_correlated {client : DerivClient} (reached : machine.Reached client)
    (few : client.calls.length < 2 ^ 64) : client.Correlated := by
  have sound := sound_of_reached reached
  constructor
  · intro index other call call' found found' same
    exact sound.distinct few found found' same
  · intro index call outcome found returned answers
    have own := sound.calls index call found
    obtain ⟨arrival, mailbox⟩ := own.answered outcome returned answers
    obtain ⟨message, replies, phase⟩ := own.read arrival mailbox
    rw [returned] at phase
    cases phase
    exact ⟨arrival, message, by simp [CallState.arrival, mailbox], replies, rfl⟩
  · intro index call arrival found arrives
    exact (sound.calls index call found).ownDelivery arrives
  · intro index other call call' arrival found found' arrives arrives'
    obtain ⟨message, present, own⟩ := (sound.calls index call found).ownDelivery arrives
    obtain ⟨message', present', own'⟩ := (sound.calls other call' found').ownDelivery arrives'
    have same : message = message' := by
      rw [present] at present'
      simpa using present'
    subst same
    exact sound.distinct few found found' (Option.some.inj (own.symm.trans own'))
  · intro reqId index waited
    obtain ⟨call, found, awaits⟩ := sound.pending reqId index waited
    exact ⟨call, found, awaits.reqId, awaits.unreturned⟩

def replyTo (reqId : UInt64) : Value := .object [("req_id", .number (.posInt reqId))]

/-- Two calls at once: the second is answered, twice; the first times out before its reply. -/
def lateReply : List Action := [
  .begin, .begin, .register 1, .register 0, .send 0 (.ok ()), .send 1 (.ok ()),
  .receive .other, .receive (.text (some (replyTo 2))), .expire 0,
  .receive (.text (some (replyTo 2))), .receive (.text (some (replyTo 1))),
  .takeReply 1, .unregister 0]

theorem lateReply_correlated : ∃ client, machine.run connected lateReply = some client ∧
    client.calls.map CallState.arrival = [none, some 1] ∧ client.Correlated := by
  obtain ⟨client, runs⟩ : ∃ client, machine.run connected lateReply = some client := ⟨_, rfl⟩
  have arrivals : (machine.run connected lateReply).map (fun client =>
      client.calls.map CallState.arrival) = some [none, some 1] := by decide +kernel
  rw [runs, Option.map_some, Option.some.injEq] at arrivals
  have two : client.calls.length = 2 := by
    simpa using congrArg List.length arrivals
  exact ⟨client, runs, arrivals, reached_correlated ⟨lateReply, runs⟩ (by omega)⟩

end DerivClient

end Oboobot.Broker
