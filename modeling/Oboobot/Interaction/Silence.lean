import Oboobot.Interaction.Program

/-! Calls that a program could as well not make: what it does besides them is what the
same program does without them. -/

namespace Oboobot.Interaction

variable {Call : Type} {Reply : Call → Type} {Failure α β : Type}
  (quiet : Call → Prop) (quits : Event Call Reply → Failure → Prop)

/-- The second program is the first one without some of its quiet calls. A reply to one of
these lets the first program go on as if nothing had been asked, or ends it. -/
inductive Silences : Program Call Reply Failure α → Program Call Reply Failure α → Prop where
  | done (value : α) : Silences (.done value) (.done value)
  | fail (failure : Failure) : Silences (.fail failure) (.fail failure)
  | request (call : Call) {next next' : Reply call → Program Call Reply Failure α}
      (rest : ∀ reply, Silences (next reply) (next' reply)) :
      Silences (.request call next) (.request call next')
  | skip {call : Call} {next : Reply call → Program Call Reply Failure α}
      {silent : Program Call Reply Failure α} (hushed : quiet call) (passes : Reply call → Prop)
      (passed : ∃ reply, passes reply)
      (rest : ∀ reply, passes reply → Silences (next reply) silent)
      (ends : ∀ reply, ¬passes reply → ∃ failure, next reply = .fail failure ∧
        quits ⟨call, reply⟩ failure) :
      Silences (.request call next) silent

/-- The second list is the first one without some of its quiet events. -/
inductive Thins : List (Event Call Reply) → List (Event Call Reply) → Prop where
  | nil : Thins [] []
  | keep (event : Event Call Reply) {events core : List (Event Call Reply)}
      (rest : Thins events core) : Thins (event :: events) (event :: core)
  | drop {event : Event Call Reply} {events core : List (Event Call Reply)}
      (hushed : quiet event.call) (rest : Thins events core) : Thins (event :: events) core

/-- How the silent program may stand when the other one has ended: alike, or cut short
where the other one gave up on a quiet call. -/
inductive EndsLike (events : List (Event Call Reply)) (outcome : Outcome Failure α) :
    Outcome Failure α → Prop where
  | alike : EndsLike events outcome outcome
  | quit (front : List (Event Call Reply)) {event : Event Call Reply} {failure : Failure}
      (last : events = front ++ [event]) (quit : quits event failure)
      (failed : outcome = .failed failure) : EndsLike events outcome .stopped

theorem Program.bind_bind {γ : Type} (program : Program Call Reply Failure α)
    (next : α → Program Call Reply Failure β) (last : β → Program Call Reply Failure γ) :
    program >>= next >>= last = program >>= fun value => next value >>= last := by
  induction program with
  | done value => rfl
  | fail failure => rfl
  | request call tail ih => exact congrArg (Program.request call) (funext ih)

section rules
variable {quiet quits}

theorem silences_refl (program : Program Call Reply Failure α) :
    Silences quiet quits program program := by
  induction program with
  | done value => exact .done value
  | fail failure => exact .fail failure
  | request call next ih => exact .request call ih

theorem Silences.bind {program silent : Program Call Reply Failure α}
    {next next' : α → Program Call Reply Failure β} (first : Silences quiet quits program silent)
    (rest : ∀ value, Silences quiet quits (next value) (next' value)) :
    Silences quiet quits (program >>= next) (silent >>= next') := by
  induction first with
  | done value => exact rest value
  | fail failure => exact .fail failure
  | request call tail ih => exact .request call ih
  | skip hushed passes passed tail ends ih =>
    refine .skip hushed passes passed ih ?_
    intro reply blocked
    obtain ⟨failure, same, quit⟩ := ends reply blocked
    exact ⟨failure, congrArg (Program.bind · next) same, quit⟩

theorem Silences.foldlM {Item : Type} {body body' : α → Item → Program Call Reply Failure α}
    (round : ∀ state item, Silences quiet quits (body state item) (body' state item))
    (items : List Item) (state : α) :
    Silences quiet quits (items.foldlM body state) (items.foldlM body' state) := by
  induction items generalizing state with
  | nil => exact silences_refl _
  | cons item items ih =>
    rw [List.foldlM_cons, List.foldlM_cons]
    exact (round state item).bind ih

theorem EndsLike.cons {events : List (Event Call Reply)} {outcome outcome' : Outcome Failure α}
    (ends : EndsLike quits events outcome outcome') (event : Event Call Reply) :
    EndsLike quits (event :: events) outcome outcome' := by
  cases ends with
  | alike => exact .alike
  | quit front last quit failed => exact .quit (event :: front) (congrArg (event :: ·) last) quit failed

/-- Without its quiet events, a trace is one of the silent program. -/
theorem Silences.trace {program silent : Program Call Reply Failure α}
    {events : List (Event Call Reply)} {outcome : Outcome Failure α}
    (silences : Silences quiet quits program silent) (trace : Trace program events outcome) :
    ∃ core outcome', Thins quiet events core ∧ Trace silent core outcome' ∧
      EndsLike quits events outcome outcome' := by
  induction silences generalizing events with
  | done value =>
    cases trace with
    | done => exact ⟨[], _, .nil, .done value, .alike⟩
    | stopped => exact ⟨[], _, .nil, .stopped _, .alike⟩
  | fail failure =>
    cases trace with
    | failed => exact ⟨[], _, .nil, .failed failure, .alike⟩
    | stopped => exact ⟨[], _, .nil, .stopped _, .alike⟩
  | request call rest ih =>
    cases trace with
    | stopped => exact ⟨[], _, .nil, .stopped _, .alike⟩
    | answered reply trace =>
      obtain ⟨core, outcome', thins, silent, ends⟩ := ih reply trace
      exact ⟨⟨call, reply⟩ :: core, outcome', .keep _ thins, .answered reply silent, ends.cons _⟩
  | skip hushed passes passed rest ends ih =>
    cases trace with
    | stopped => exact ⟨[], _, .nil, .stopped _, .alike⟩
    | answered reply trace =>
      by_cases passes' : passes reply
      · obtain ⟨core, outcome', thins, silent, ended⟩ := ih reply passes' trace
        exact ⟨core, outcome', .drop hushed thins, silent, ended.cons _⟩
      · obtain ⟨failure, same, quit⟩ := ends reply passes'
        rw [same] at trace
        cases trace with
        | failed => exact ⟨[], .stopped, .drop hushed .nil, .stopped _, .quit [] rfl quit rfl⟩
        | stopped => exact ⟨[], .stopped, .drop hushed .nil, .stopped _, .alike⟩

/-- Every trace of the silent program is what is left of one of the other. -/
theorem Silences.restore {program silent : Program Call Reply Failure α}
    {core : List (Event Call Reply)} {outcome : Outcome Failure α}
    (silences : Silences quiet quits program silent) (trace : Trace silent core outcome) :
    ∃ events, Thins quiet events core ∧ Trace program events outcome := by
  induction silences generalizing core with
  | done value =>
    cases trace with
    | done => exact ⟨[], .nil, .done value⟩
    | stopped => exact ⟨[], .nil, .stopped _⟩
  | fail failure =>
    cases trace with
    | failed => exact ⟨[], .nil, .failed failure⟩
    | stopped => exact ⟨[], .nil, .stopped _⟩
  | request call rest ih =>
    cases trace with
    | stopped => exact ⟨[], .nil, .stopped _⟩
    | answered reply trace =>
      obtain ⟨events, thins, restored⟩ := ih reply trace
      exact ⟨⟨call, reply⟩ :: events, .keep _ thins, .answered reply restored⟩
  | skip hushed passes passed rest ends ih =>
    obtain ⟨reply, through⟩ := passed
    obtain ⟨events, thins, restored⟩ := ih reply through trace
    exact ⟨⟨_, reply⟩ :: events, .drop hushed thins, .answered reply restored⟩

end rules

end Oboobot.Interaction
