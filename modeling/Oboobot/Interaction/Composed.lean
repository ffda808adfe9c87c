import Oboobot.Interaction.Program

/-! How the traces of a composed program are put together from those of its parts,
and the events that no finished trace can do without. -/

namespace Oboobot.Interaction

variable {Call : Type} {Reply : Call → Type} {Failure α β Item : Type}
  {program : Program Call Reply Failure α} {next : α → Program Call Reply Failure β}

/-- Either the first part has finished and the second took over, or the trace is
all of the first part and did not finish. -/
theorem Trace.bind_cases {events : List (Event Call Reply)} {outcome : Outcome Failure β}
    (trace : Trace (program >>= next) events outcome) :
    (∃ value front back, events = front ++ back ∧ Trace program front (.done value) ∧
      Trace (next value) back outcome) ∨
    (Trace program events .stopped ∧ ∀ value, outcome ≠ .done value) := by
  induction program generalizing events with
  | done value => exact .inl ⟨value, [], events, rfl, .done value, trace⟩
  | fail failure =>
    refine .inr ?_
    cases trace with
    | failed => exact ⟨.stopped _, fun _ same => by cases same⟩
    | stopped => exact ⟨.stopped _, fun _ same => by cases same⟩
  | request call rest ih =>
    cases trace with
    | stopped => exact .inr ⟨.stopped _, fun _ same => by cases same⟩
    | answered reply trace =>
      rcases ih reply trace with ⟨value, front, back, rfl, first, second⟩ | ⟨cut, unfinished⟩
      · exact .inl ⟨value, _, back, rfl, .answered reply first, second⟩
      · exact .inr ⟨.answered reply cut, unfinished⟩

theorem Trace.bind_done {events : List (Event Call Reply)} {result : β}
    (trace : Trace (program >>= next) events (.done result)) :
    ∃ value front back, events = front ++ back ∧ Trace program front (.done value) ∧
      Trace (next value) back (.done result) := by
  rcases trace.bind_cases with split | ⟨_, unfinished⟩
  · exact split
  · exact absurd rfl (unfinished result)

section yields

variable {allowed : Call → Prop} {post : α → Prop}

theorem Program.Yields.calls {events : List (Event Call Reply)} {outcome : Outcome Failure α}
    (yields : program.Yields allowed post) (trace : Trace program events outcome) :
    ∀ event ∈ events, allowed event.call := by
  induction trace with
  | done value => exact List.forall_mem_nil _
  | failed failure => exact List.forall_mem_nil _
  | stopped program => exact List.forall_mem_nil _
  | answered reply rest ih => exact List.forall_mem_cons.mpr ⟨yields.1, ih (yields.2 reply () trivial)⟩

theorem Program.Yields.returns {events : List (Event Call Reply)} {value : α}
    (yields : program.Yields allowed post) (trace : Trace program events (.done value)) :
    post value := by
  induction program generalizing events with
  | done result =>
    cases trace
    exact yields
  | fail failure => cases trace
  | request call rest ih =>
    cases trace with
    | answered reply later => exact ih reply (yields.2 reply () trivial) later

theorem Program.Yields.call_at {before back : List (Event Call Reply)} {event : Event Call Reply}
    {outcome : Outcome Failure α} (yields : program.Yields allowed post)
    (trace : Trace program (before ++ event :: back) outcome) : allowed event.call :=
  yields.calls trace event (List.mem_append_right before List.mem_cons_self)

/-- A call that the first part does not make is made by what follows it. -/
theorem Trace.bind_at {before back : List (Event Call Reply)} {event : Event Call Reply}
    {outcome : Outcome Failure β}
    (trace : Trace (program >>= next) (before ++ event :: back) outcome)
    (yields : program.Yields allowed post) (other : ¬allowed event.call) :
    ∃ value front rest, before = front ++ rest ∧ Trace program front (.done value) ∧
      Trace (next value) (rest ++ event :: back) outcome := by
  rcases trace.bind_cases with ⟨value, front, rest, same, first, second⟩ | ⟨cut, _⟩
  · rcases List.append_eq_append_iff.mp same with ⟨longer, rfl, tail⟩ | ⟨rest', rfl, tail⟩
    · cases longer with
      | nil =>
        rw [List.append_nil] at first
        exact ⟨value, before, [], (List.append_nil _).symm, first, tail ▸ second⟩
      | cons head longer =>
        obtain ⟨rfl, _⟩ := List.cons_eq_cons.mp tail
        exact absurd (yields.call_at first) other
    · exact ⟨value, front, rest', rfl, first, tail ▸ second⟩
  · exact absurd (yields.call_at cut) other

end yields

/-- Whether the trace ended with a value. -/
def Outcome.isDone : Outcome Failure α → Bool
  | .done _ => true
  | _ => false

theorem Outcome.eq_done {outcome : Outcome Failure Unit} (finished : outcome.isDone = true) :
    outcome = .done () := by
  cases outcome with
  | done value => rfl
  | failed failure => cases finished
  | stopped => cases finished

/-- However the program finishes, an event of this kind has occurred. -/
def Program.Ensures (program : Program Call Reply Failure α) (seen : Event Call Reply → Prop) :
    Prop :=
  ∀ events value, Trace program events (.done value) → ∃ event ∈ events, seen event

section ensures

variable {seen : Event Call Reply → Prop}

theorem Program.Ensures.bind (ensures : program.Ensures seen) : (program >>= next).Ensures seen := by
  intro events result trace
  obtain ⟨value, front, back, rfl, first, _⟩ := trace.bind_done
  obtain ⟨event, member, sees⟩ := ensures front value first
  exact ⟨event, List.mem_append_left back member, sees⟩

theorem ensures_bind_right (ensures : ∀ value, (next value).Ensures seen) :
    (program >>= next).Ensures seen := by
  intro events result trace
  obtain ⟨value, front, back, rfl, _, second⟩ := trace.bind_done
  obtain ⟨event, member, sees⟩ := ensures value back result second
  exact ⟨event, List.mem_append_right front member, sees⟩

theorem ensures_perform {call : Call} (sees : ∀ reply, seen ⟨call, reply⟩) :
    (Program.perform call : Program Call Reply Failure _).Ensures seen := by
  intro events value trace
  cases trace with
  | answered reply rest => exact ⟨_, List.mem_cons_self, sees reply⟩

/-- A call whose failure is passed on has succeeded in a finished trace. -/
theorem ensures_attempt {ε : Type} {call : Call} {result : Reply call → Except ε α}
    {convert : ε → Failure}
    (sees : ∀ reply value, result reply = .ok value → seen ⟨call, reply⟩) :
    (Program.perform call >>= fun reply =>
      Program.ofExcept convert (result reply) >>= next).Ensures seen := by
  intro events value trace
  cases trace with
  | answered reply rest =>
    refine ⟨_, List.mem_cons_self, ?_⟩
    change Trace (Program.ofExcept convert (result reply) >>= next) _ _ at rest
    cases came : result reply with
    | ok value => exact sees reply value came
    | error failure =>
      rw [came] at rest
      cases rest

theorem ensures_foldlM {items : List Item} {body : α → Item → Program Call Reply Failure α}
    {item : Item} (member : item ∈ items) (ensures : ∀ state, (body state item).Ensures seen)
    (state : α) : (items.foldlM body state).Ensures seen := by
  induction items generalizing state with
  | nil => cases member
  | cons first rest ih =>
    rw [List.foldlM_cons]
    rcases List.mem_cons.mp member with rfl | later
    · exact (ensures state).bind
    · exact ensures_bind_right fun state => ih later state

end ensures

end Oboobot.Interaction
