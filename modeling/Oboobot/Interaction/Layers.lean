import Oboobot.Interaction.Composed

/-! Programs whose calls are carried out by programs of a lower level, and where
in such a run an event of the lower level belongs. -/

namespace Oboobot.Interaction

variable {Call Lower : Type} {Reply : Call → Type} {LowerReply : Lower → Type}
  {Failure Failure' α : Type}

namespace Program

/-- A failure becomes a value. -/
def attempt : Program Call Reply Failure α → Program Call Reply Failure' (Except Failure α)
  | .done value => .done (.ok value)
  | .fail failure => .done (.error failure)
  | .request call next => .request call fun reply => (next reply).attempt

/-- The same calls under other names. -/
def renamed (name : Call → Lower) (back : (call : Call) → LowerReply (name call) → Reply call) :
    Program Call Reply Failure α → Program Lower LowerReply Failure α
  | .done value => .done value
  | .fail failure => .fail failure
  | .request call next => .request (name call) fun reply => (next (back call reply)).renamed name back

/-- Before each of its calls the program looks whether its time has run out. -/
def timed (clock : Call) (elapsed : Reply clock → Bool) :
    Program Call Reply Failure α → Program Call Reply Failure (Option α)
  | .done value => .done (some value)
  | .fail failure => .fail failure
  | .request call next => .request clock fun time =>
      if elapsed time then .done none
      else .request call fun reply => (next reply).timed clock elapsed

/-- Every call is carried out by a program of the lower level. -/
def layered (serve : (call : Call) → Program Lower LowerReply Failure (Reply call)) :
    Program Call Reply Failure α → Program Lower LowerReply Failure α
  | .done value => .done value
  | .fail failure => .fail failure
  | .request call next => serve call >>= fun reply => (next reply).layered serve

end Program

section traces
variable {program : Program Call Reply Failure α}

theorem Trace.of_attempt {events : List (Event Call Reply)}
    {outcome : Outcome Failure' (Except Failure α)}
    (trace : Trace (program.attempt : Program Call Reply Failure' _) events outcome) :
    ∃ own, Trace program events own ∧ ∀ value, outcome = .done (.ok value) → own = .done value := by
  induction program generalizing events with
  | done value =>
    cases trace with
    | done => exact ⟨_, .done value, fun _ same => by cases same; rfl⟩
    | stopped => exact ⟨_, .stopped _, fun _ same => by cases same⟩
  | fail failure =>
    cases trace with
    | done => exact ⟨_, .failed failure, fun _ same => by cases same⟩
    | stopped => exact ⟨_, .stopped _, fun _ same => by cases same⟩
  | request call next ih =>
    cases trace with
    | stopped => exact ⟨_, .stopped _, fun _ same => by cases same⟩
    | answered reply rest =>
      obtain ⟨own, traced, finished⟩ := ih reply rest
      exact ⟨own, .answered reply traced, finished⟩

/-- Seen under their own names, the events of a renamed program are its own. -/
theorem Trace.of_renamed {name : Call → Lower}
    {back : (call : Call) → LowerReply (name call) → Reply call}
    {view : Event Lower LowerReply → Option (Event Call Reply)}
    (sees : ∀ call reply, view ⟨name call, reply⟩ = some ⟨call, back call reply⟩)
    {events : List (Event Lower LowerReply)} {outcome : Outcome Failure α}
    (trace : Trace (program.renamed name back) events outcome) :
    Trace program (events.filterMap view) outcome := by
  induction program generalizing events with
  | done value =>
    cases trace with
    | done => exact .done value
    | stopped => exact .stopped _
  | fail failure =>
    cases trace with
    | failed => exact .failed failure
    | stopped => exact .stopped _
  | request call next ih =>
    cases trace with
    | stopped => exact .stopped _
    | answered reply rest =>
      rw [List.filterMap_cons_some (sees call reply)]
      exact .answered _ (ih _ rest)

end traces

section served
variable {serve : (call : Call) → Program Lower LowerReply Failure (Reply call)}

/-- Calls that have been carried out one after the other, with all that was done for them. -/
inductive Served (serve : (call : Call) → Program Lower LowerReply Failure (Reply call)) :
    List (Event Call Reply) → List (Event Lower LowerReply) → Prop
  | nil : Served serve [] []
  | cons {event : Event Call Reply} {segment rest : List (Event Lower LowerReply)}
      {events : List (Event Call Reply)} (carried : Trace (serve event.call) segment (.done event.reply))
      (later : Served serve events rest) : Served serve (event :: events) (segment ++ rest)

/-- A place in a layered run: the calls carried out before it, and the one that is
being carried out there. -/
structure Located (serve : (call : Call) → Program Lower LowerReply Failure (Reply call))
    (program : Program Call Reply Failure α) (before : List (Event Lower LowerReply))
    (event : Event Lower LowerReply) (upper : List (Event Call Reply)) (call : Call)
    (front segment : List (Event Lower LowerReply)) : Prop where
  split : before = front ++ segment
  served : Served serve upper front
  calls : ∀ reply, Trace program (upper ++ [⟨call, reply⟩]) .stopped
  within : Trace (serve call) (segment ++ [event]) .stopped

/-- Every event of a layered run belongs to a call of the program. -/
theorem Trace.located {program : Program Call Reply Failure α}
    {before back : List (Event Lower LowerReply)} {event : Event Lower LowerReply}
    {outcome : Outcome Failure α}
    (trace : Trace (program.layered serve) (before ++ event :: back) outcome) :
    ∃ upper call front segment, Located serve program before event upper call front segment := by
  induction program generalizing before with
  | done value =>
    generalize same : before ++ event :: back = events at trace
    cases trace <;> simp at same
  | fail failure =>
    generalize same : before ++ event :: back = events at trace
    cases trace <;> simp at same
  | request call next ih =>
    have here {rest : List (Event Lower LowerReply)} {ending : Outcome Failure (Reply call)}
        (cut : Trace (serve call) (before ++ event :: rest) ending) :
        Located serve (.request call next) before event [] call [] before := by
      refine ⟨rfl, .nil, fun reply => .answered reply (.stopped _), ?_⟩
      have longer : Trace (serve call) ((before ++ [event]) ++ rest) ending := by simpa using cut
      exact longer.front
    change Trace (serve call >>= fun reply => (next reply).layered serve) _ _ at trace
    rcases trace.bind_cases with ⟨reply, front, rest, same, carried, later⟩ | ⟨cut, _⟩
    · rcases List.append_eq_append_iff.mp same with ⟨longer, rfl, tail⟩ | ⟨rest', rfl, tail⟩
      · cases longer with
        | nil =>
          rw [List.nil_append] at tail
          subst tail
          have nothing : Trace ((next reply).layered serve) ([] ++ event :: back) outcome := later
          obtain ⟨upper, call', front', segment, located⟩ := ih reply nothing
          rw [List.append_nil] at carried
          refine ⟨⟨call, reply⟩ :: upper, call', before ++ front', segment, ?_, ?_, ?_, located.within⟩
          · rw [List.append_assoc, ← located.split, List.append_nil]
          · exact .cons carried located.served
          · exact fun other => .answered reply (located.calls other)
        | cons head longer =>
          obtain ⟨rfl, _⟩ := List.cons_eq_cons.mp tail
          exact ⟨[], call, [], before, here carried⟩
      · subst tail
        obtain ⟨upper, call', front', segment, located⟩ := ih reply later
        refine ⟨⟨call, reply⟩ :: upper, call', front ++ front', segment, ?_, ?_, ?_, located.within⟩
        · rw [located.split, List.append_assoc]
        · exact .cons carried located.served
        · exact fun other => .answered reply (located.calls other)
    · exact ⟨[], call, [], before, here cut⟩

/-- What was done for one of the calls, between what was done for the others. -/
theorem Served.split {front back : List (Event Call Reply)} {event : Event Call Reply}
    {lower : List (Event Lower LowerReply)} (served : Served serve (front ++ event :: back) lower) :
    ∃ before segment after, lower = before ++ segment ++ after ∧ Served serve front before ∧
      Trace (serve event.call) segment (.done event.reply) ∧ Served serve back after := by
  induction front generalizing lower with
  | nil =>
    cases served with
    | cons carried later => exact ⟨[], _, _, rfl, .nil, carried, later⟩
  | cons first front ih =>
    cases served with
    | cons carried later =>
      obtain ⟨before, segment, after, rfl, earlier, own, rest⟩ := ih later
      exact ⟨_, segment, after, by simp, .cons carried earlier, own, rest⟩

end served

section yields
variable {allowed : Call → Prop} {permitted : Lower → Prop} {post : α → Prop}
  {program : Program Call Reply Failure α}

theorem Program.Yields.attempt (yields : program.Yields allowed post) :
    (program.attempt : Program Call Reply Failure' _).Yields allowed fun _ => True := by
  induction program with
  | done value => trivial
  | fail failure => trivial
  | request call next ih => exact ⟨yields.1, fun reply _ _ => ih reply (yields.2 reply () trivial)⟩

theorem Program.Yields.renamed {name : Call → Lower}
    {back : (call : Call) → LowerReply (name call) → Reply call}
    (yields : program.Yields allowed post) (names : ∀ call, allowed call → permitted (name call)) :
    (program.renamed name back).Yields permitted post := by
  induction program with
  | done value => exact yields
  | fail failure => trivial
  | request call next ih =>
    exact ⟨names call yields.1, fun reply _ _ => ih _ (yields.2 _ () trivial)⟩

theorem Program.Yields.timed {clock : Call} {elapsed : Reply clock → Bool}
    (yields : program.Yields allowed post) (ticks : allowed clock) :
    (program.timed clock elapsed).Yields allowed fun _ => True := by
  induction program with
  | done value => trivial
  | fail failure => trivial
  | request call next ih =>
    refine ⟨ticks, fun time _ _ => ?_⟩
    beta_reduce
    by_cases out : elapsed time = true
    · rw [if_pos out]
      trivial
    · rw [if_neg out]
      exact ⟨yields.1, fun reply _ _ => ih reply (yields.2 reply () trivial)⟩

end yields

end Oboobot.Interaction
