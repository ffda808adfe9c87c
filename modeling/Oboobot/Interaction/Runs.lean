import Oboobot.Interaction.Program

/-! Runs of many programs: one after the other against a changing world, or
interleaved into a joint history. -/

namespace Oboobot.Interaction

variable {Call : Type} {Reply : Call → Type} {Failure α World : Type}

section sequential
variable (contract : Contract Call Reply World) (session : Program Call Reply Failure α → Prop)
  (idle : World → World → Prop) (start : World → Prop)

/-- The states of a system that runs one session at a time. A session may stop
at any call, and the world may move by itself between sessions. -/
inductive Reachable : Option (Program Call Reply Failure α) → World → Prop where
  | start {world : World} (initial : start world) : Reachable none world
  | launch {world : World} {program : Program Call Reply Failure α}
      (waiting : Reachable none world) (starts : session program) : Reachable (some program) world
  | call {world after : World} {call : Call} {next : Reply call → Program Call Reply Failure α}
      (running : Reachable (some (.request call next)) world) (reply : Reply call)
      (step : contract.step world ⟨call, reply⟩ after) : Reachable (some (next reply)) after
  | stop {world : World} {program : Program Call Reply Failure α}
      (running : Reachable (some program) world) : Reachable none world
  | idle {world after : World} (waiting : Reachable none world) (moves : idle world after) :
      Reachable none after

variable {contract session idle start}

/-- An invariant that every kept promise preserves holds in every reachable
state, and whatever is still to run meets the contract there. -/
theorem Reachable.invariant {invariant : World → Prop}
    (initially : ∀ world, start world → invariant world)
    (launches : ∀ program world, session program → invariant world →
      program.Meets contract (fun _ _ => True) (fun _ _ => True) world)
    (steps : ∀ world event after, invariant world → contract.promise world event.call →
      contract.step world event after → invariant after)
    (idles : ∀ world after, invariant world → idle world after → invariant after)
    {running : Option (Program Call Reply Failure α)} {world : World}
    (reached : Reachable contract session idle start running world) :
    invariant world ∧ ∀ program ∈ running,
      program.Meets contract (fun _ _ => True) (fun _ _ => True) world := by
  induction reached with
  | start initial => exact ⟨initially _ initial, by simp⟩
  | launch waiting starts ih =>
    refine ⟨ih.1, ?_⟩
    intro program running
    cases running
    exact launches _ _ starts ih.1
  | call running reply step ih =>
    obtain ⟨promised, rest⟩ := ih.2 _ rfl
    refine ⟨steps _ _ _ ih.1 promised step, ?_⟩
    intro program running
    cases running
    exact rest reply _ step
  | stop running ih => exact ⟨ih.1, by simp⟩
  | idle waiting moves ih => exact ⟨idles _ _ ih.1 moves, by simp⟩

/-- Where nothing is promised, every program keeps its promises. -/
theorem Program.meets_unpromised (always : ∀ world call, contract.promise world call)
    (program : Program Call Reply Failure α) (world : World) :
    program.Meets contract (fun _ _ => True) (fun _ _ => True) world := by
  induction program generalizing world with
  | done value => trivial
  | fail failure => trivial
  | request call next ih => exact ⟨always world call, fun reply after _ => ih reply after⟩

/-- The states do not depend on what is promised. -/
theorem Reachable.of_step {contract' : Contract Call Reply World}
    (steps : ∀ world event after, contract.step world event after → contract'.step world event after)
    {running : Option (Program Call Reply Failure α)} {world : World}
    (reached : Reachable contract session idle start running world) :
    Reachable contract' session idle start running world := by
  induction reached with
  | start initial => exact .start initial
  | launch waiting starts ih => exact .launch ih starts
  | call running reply step ih => exact .call ih reply (steps _ _ _ step)
  | stop running ih => exact .stop ih
  | idle waiting moves ih => exact .idle ih moves

/-- Surroundings that can be run, and that keep to the contract, reach what they play. -/
theorem Reachable.played {Host : Type} {answer : Host → (call : Call) → Reply call × Host}
    {view : Host → World} {valid : Host → Prop}
    (faithful : ∀ host call, valid host →
      contract.step (view host) ⟨call, (answer host call).1⟩ (view (answer host call).2) ∧
        valid (answer host call).2)
    {program : Program Call Reply Failure α} {host : Host} (ready : valid host)
    (reached : Reachable contract session idle start (some program) (view host)) :
    Reachable contract session idle start none (view (program.play answer host).2.2) ∧
      valid (program.play answer host).2.2 := by
  induction program generalizing host with
  | done value => exact ⟨.stop reached, ready⟩
  | fail failure => exact ⟨.stop reached, ready⟩
  | request call next ih =>
    obtain ⟨step, still⟩ := faithful host call ready
    exact ih _ still (.call reached _ step)

/-- The value of a program that has finished. -/
def Outcome.value? : Outcome Failure α → Option α
  | .done value => some value
  | _ => none

theorem Outcome.value?_eq_some {outcome : Outcome Failure α} {value : α} :
    outcome.value? = some value ↔ outcome = .done value := by
  cases outcome <;> simp [Outcome.value?]

/-- Surroundings that can be run, and that keep to a step relation wherever a run of
theirs comes to, take its steps. -/
theorem Steps.played_moments {Host : Type} {answer : Host → (call : Call) → Reply call × Host}
    {step : World → Event Call Reply → World → Prop} {view : Host → World}
    (program : Program Call Reply Failure α) (host : Host)
    (faithful : ∀ moment ∈ program.moments answer host,
      step (view moment.1) ⟨moment.2, (answer moment.1 moment.2).1⟩
        (view (answer moment.1 moment.2).2)) :
    Steps step (view host) (program.play answer host).1 (view (program.play answer host).2.2) := by
  induction program generalizing host with
  | done value => exact .nil _
  | fail failure => exact .nil _
  | request call next ih =>
    refine .cons (faithful (host, call) List.mem_cons_self) ?_
    exact ih _ _ fun moment member => faithful moment (List.mem_cons_of_mem _ member)

end sequential

/-- An entry of a joint history: an event of one session, or a happening that
belongs to none. -/
inductive Entry (Call : Type) (Reply : Call → Type) (Outside : Type) where
  | outside (happening : Outside)
  | event (session : Nat) (event : Event Call Reply)

variable {Outside : Type}

/-- What one session saw of a joint history. -/
def sessionEvents (session : Nat) (history : List (Entry Call Reply Outside)) :
    List (Event Call Reply) :=
  history.filterMap fun entry => match entry with
    | .outside _ => none
    | .event owner event => if owner = session then some event else none

/-- The events of all sessions, in the order in which they happened. -/
def jointEvents (history : List (Entry Call Reply Outside)) : List (Event Call Reply) :=
  history.filterMap fun entry => match entry with
    | .outside _ => none
    | .event _ event => some event

theorem mem_jointEvents {session : Nat} {history : List (Entry Call Reply Outside)}
    {event : Event Call Reply} (member : event ∈ sessionEvents session history) :
    event ∈ jointEvents history := by
  obtain ⟨entry, present, own⟩ := List.mem_filterMap.mp member
  refine List.mem_filterMap.mpr ⟨entry, present, ?_⟩
  cases entry with
  | outside happening => cases own
  | event owner event =>
    by_cases same : owner = session
    · simpa [same] using own
    · simp [same] at own

@[simp] theorem jointEvents_append_event (before : List (Entry Call Reply Outside)) (session : Nat)
    (event : Event Call Reply) :
    jointEvents (before ++ [.event session event]) = jointEvents before ++ [event] := by
  simp [jointEvents]

@[simp] theorem jointEvents_append_outside (before : List (Entry Call Reply Outside))
    (happening : Outside) :
    jointEvents (before ++ [.outside happening]) = jointEvents before := by
  simp [jointEvents]

@[simp] theorem sessionEvents_nil (session : Nat) :
    sessionEvents session ([] : List (Entry Call Reply Outside)) = [] := rfl

@[simp] theorem sessionEvents_append (session : Nat) (front back : List (Entry Call Reply Outside)) :
    sessionEvents session (front ++ back) = sessionEvents session front ++ sessionEvents session back :=
  List.filterMap_append

@[simp] theorem sessionEvents_cons_own (session : Nat) (event : Event Call Reply)
    (back : List (Entry Call Reply Outside)) :
    sessionEvents session (.event session event :: back) = event :: sessionEvents session back := by
  simp [sessionEvents]

@[simp] theorem sessionEvents_cons_other {session owner : Nat} (other : owner ≠ session)
    (event : Event Call Reply) (back : List (Entry Call Reply Outside)) :
    sessionEvents session (.event owner event :: back) = sessionEvents session back := by
  simp [sessionEvents, other]

@[simp] theorem sessionEvents_cons_outside (session : Nat) (happening : Outside)
    (back : List (Entry Call Reply Outside)) :
    sessionEvents session (.outside happening :: back) = sessionEvents session back := by
  simp [sessionEvents]

/-- Any number of sessions, interleaved in any way, each possibly cut short. -/
def Joint (program : Nat → Program Call Reply Failure α)
    (history : List (Entry Call Reply Outside)) : Prop :=
  ∀ session, ∃ outcome, Trace (program session) (sessionEvents session history) outcome

theorem Joint.front {program : Nat → Program Call Reply Failure α}
    {before back : List (Entry Call Reply Outside)} (joint : Joint program (before ++ back)) :
    Joint program before := by
  intro session
  obtain ⟨outcome, trace⟩ := joint session
  rw [sessionEvents_append] at trace
  exact ⟨.stopped, trace.front⟩

/-- What every session promises about its own events holds throughout a joint history. -/
theorem Joint.promised {program : Nat → Program Call Reply Failure α}
    {before back : List (Entry Call Reply Outside)} {session : Nat} {event : Event Call Reply}
    {after : World → Event Call Reply → World} {promise : World → Call → Prop}
    {post : α → World → Prop} {failed : Failure → World → Prop} {world : World}
    (joint : Joint program (before ++ .event session event :: back))
    (meets : (program session).Meets (monitor after promise) post failed world) :
    promise ((sessionEvents session before).foldl after world) event.call := by
  obtain ⟨outcome, trace⟩ := joint session
  rw [sessionEvents_append, sessionEvents_cons_own] at trace
  exact meets.promised_after trace

section always
variable {Item : Type} {property : List Item → Item → Prop}

/-- A property of every item of a history, given the items before it. -/
def Always (property : List Item → Item → Prop) (history : List Item) : Prop :=
  ∀ before item back, history = before ++ item :: back → property before item

theorem Always.front {before back : List Item} (always : Always property (before ++ back)) :
    Always property before := by
  intro earlier item rest same
  exact always earlier item (rest ++ back) (by rw [same, List.append_assoc, List.cons_append])

theorem Always.last {before : List Item} {item : Item}
    (always : Always property (before ++ [item])) : property before item :=
  always before item [] rfl

theorem Always.snoc {before : List Item} {item : Item} (earlier : Always property before)
    (last : property before item) : Always property (before ++ [item]) := by
  intro front next back same
  rcases List.eq_nil_or_concat' back with rfl | ⟨middle, final, rfl⟩
  · obtain ⟨rfl, next⟩ := List.append_inj' same rfl
    cases next
    exact last
  · rw [← List.cons_append, ← List.append_assoc] at same
    exact earlier front next middle (List.append_inj_left' same rfl)

theorem always_nil : Always property [] := by
  intro before item back same
  simp at same

theorem always_cons (item : Item) (rest : List Item) :
    Always property (item :: rest) ↔
      property [] item ∧ Always (fun before => property (item :: before)) rest := by
  constructor
  · intro holds
    refine ⟨holds [] item rest rfl, ?_⟩
    intro before next back same
    exact holds (item :: before) next back (by rw [same, List.cons_append])
  · intro ⟨first, later⟩ before next back same
    cases before with
    | nil =>
      cases same
      exact first
    | cons head before =>
      cases same
      exact later before next back rfl

instance decidableAlways {property : List Item → Item → Prop}
    [decidable : ∀ before item, Decidable (property before item)] :
    (history : List Item) → Decidable (Always property history)
  | [] => isTrue always_nil
  | item :: rest =>
    have : Decidable (Always (fun before => property (item :: before)) rest) :=
      @decidableAlways _ (fun before => decidable (item :: before)) rest
    decidable_of_iff _ (always_cons item rest).symm

end always

section played
variable (program : Nat → Program Call Reply Failure α)
  (answer : World → (call : Call) → Reply call × World)

/-- Play one session per turn. Before its session, a turn has happenings of its
own and may change the world. -/
def playTurns (session : Nat) :
    List (List Outside × (World → World)) → World → List (Entry Call Reply Outside)
  | [], _ => []
  | (happenings, change) :: turns, world =>
    let (events, _, final) := (program session).play answer (change world)
    happenings.map .outside ++ events.map (.event session) ++ playTurns (session + 1) turns final

private theorem sessionEvents_outside (session : Nat) (happenings : List Outside) :
    sessionEvents session (happenings.map (.outside : Outside → Entry Call Reply Outside)) = [] := by
  simp [sessionEvents]

private theorem sessionEvents_owned (session owner : Nat) (events : List (Event Call Reply)) :
    sessionEvents session (events.map (.event owner : _ → Entry Call Reply Outside)) =
      if owner = session then events else [] := by
  by_cases same : owner = session <;> simp [sessionEvents, List.filterMap_map, same]

private theorem sessionEvents_playTurns_before {session first : Nat} (earlier : session < first)
    (turns : List (List Outside × (World → World))) (world : World) :
    sessionEvents session (playTurns program answer first turns world) = [] := by
  induction turns generalizing first world with
  | nil => rfl
  | cons turn turns ih =>
    have rest := ih (Nat.lt_succ_of_lt earlier)
      ((program first).play answer (turn.2 world)).2.2
    simp only [playTurns, sessionEvents_append, sessionEvents_outside, sessionEvents_owned, rest,
      if_neg (Nat.ne_of_gt earlier), List.append_nil]

/-- Turns played one after the other are a joint history of their sessions. -/
theorem joint_playTurns (turns : List (List Outside × (World → World))) (world : World) :
    Joint program (playTurns program answer 0 turns world) := by
  suffices from' : ∀ first, ∀ session, ∃ outcome,
      Trace (program session) (sessionEvents session (playTurns program answer first turns world))
        outcome from from' 0
  intro first
  induction turns generalizing first world with
  | nil => exact fun session => ⟨.stopped, .stopped _⟩
  | cons turn turns ih =>
    intro session
    simp only [playTurns, sessionEvents_append, sessionEvents_outside, sessionEvents_owned]
    by_cases same : first = session
    · subst same
      rw [if_pos rfl, sessionEvents_playTurns_before program answer (Nat.lt_succ_self first)]
      refine ⟨((program first).play answer (turn.2 world)).2.1, ?_⟩
      simpa using (program first).play_trace answer (turn.2 world)
    · rw [if_neg same]
      simpa using ih _ (first + 1) session

end played

end Oboobot.Interaction
