import Oboobot.Interaction.Program

/-! Programs that mirror each other under a change of their calls and replies: what one
does, the other does in the changed terms. -/

namespace Oboobot.Interaction

variable {Call : Type} {Reply : Call → Type} {Failure α α' β β' : Type}

/-- A change of calls, and of the replies they get. -/
structure Mirror (Call : Type) (Reply : Call → Type) where
  onCall : Call → Call
  onReply : (call : Call) → Reply call → Reply (onCall call)

namespace Mirror

variable (mirror : Mirror Call Reply)

def onEvent (event : Event Call Reply) : Event Call Reply :=
  ⟨mirror.onCall event.call, mirror.onReply event.call event.reply⟩

/-- The call and all its replies are their own images. -/
def Fixes (call : Call) : Prop :=
  ∃ same : mirror.onCall call = call, ∀ reply, same ▸ mirror.onReply call reply = reply

/-- The second program makes the images of the first one's calls, and returns what
corresponds to its value. -/
inductive Mirrored (related : α → α' → Prop) :
    Program Call Reply Failure α → Program Call Reply Failure α' → Prop where
  | done {value : α} {value' : α'} (corresponds : related value value') :
      Mirrored related (.done value) (.done value')
  | fail (failure : Failure) : Mirrored related (.fail failure) (.fail failure)
  | request {call call' : Call} {next : Reply call → Program Call Reply Failure α}
      {next' : Reply call' → Program Call Reply Failure α'} (same : mirror.onCall call = call')
      (rest : ∀ reply, Mirrored related (next reply) (next' (same ▸ mirror.onReply call reply))) :
      Mirrored related (.request call next) (.request call' next')

/-- How the image of a program may end when the program has ended like this. -/
inductive Ends (related : α → α' → Prop) : Outcome Failure α → Outcome Failure α' → Prop where
  | done {value : α} {value' : α'} (corresponds : related value value') :
      Ends related (.done value) (.done value')
  | failed (failure : Failure) : Ends related (.failed failure) (.failed failure)
  | stopped : Ends related .stopped .stopped

section rules
variable {mirror} {related : α → α' → Prop} {related' : β → β' → Prop}

theorem Mirrored.bind {program : Program Call Reply Failure α}
    {program' : Program Call Reply Failure α'} {next : α → Program Call Reply Failure β}
    {next' : α' → Program Call Reply Failure β'} (first : mirror.Mirrored related program program')
    (second : ∀ value value', related value value' →
      mirror.Mirrored related' (next value) (next' value')) :
    mirror.Mirrored related' (program >>= next) (program' >>= next') := by
  induction first with
  | done corresponds => exact second _ _ corresponds
  | fail failure => exact .fail failure
  | request same rest ih => exact .request same ih

theorem Mirrored.weaken {program : Program Call Reply Failure α}
    {program' : Program Call Reply Failure α'} {wider : α → α' → Prop}
    (mirrored : mirror.Mirrored related program program')
    (widens : ∀ value value', related value value' → wider value value') :
    mirror.Mirrored wider program program' := by
  induction mirrored with
  | done corresponds => exact .done (widens _ _ corresponds)
  | fail failure => exact .fail failure
  | request same rest ih => exact .request same ih

theorem mirrored_perform (call : Call) :
    mirror.Mirrored (fun reply reply' => reply' = mirror.onReply call reply)
      (Program.perform call : Program Call Reply Failure _) (Program.perform (mirror.onCall call)) :=
  .request rfl fun _ => .done rfl

/-- The image of a result is the same failure, or the image of the value. -/
theorem mirrored_ofExcept {ε : Type} {convert : ε → Failure} (image : α → α') (result : Except ε α) :
    mirror.Mirrored (fun value value' => value' = image value)
      (Program.ofExcept convert result : Program Call Reply Failure α)
      (Program.ofExcept convert (result.map image)) := by
  cases result with
  | error failure => exact .fail _
  | ok value => exact .done rfl

/-- Loops over lists whose items correspond one by one. -/
theorem Mirrored.foldlM {Item Item' : Type} {corresponds : Item → Item' → Prop}
    {items : List Item} {items' : List Item'} {body : α → Item → Program Call Reply Failure α}
    {body' : α' → Item' → Program Call Reply Failure α'}
    (listed : List.Forall₂ corresponds items items')
    (round : ∀ state state' item item', related state state' → corresponds item item' →
      mirror.Mirrored related (body state item) (body' state' item'))
    {state : α} {state' : α'} (start : related state state') :
    mirror.Mirrored related (items.foldlM body state) (items'.foldlM body' state') := by
  induction listed generalizing state state' with
  | nil => exact .done start
  | cons same rest ih =>
    rw [List.foldlM_cons, List.foldlM_cons]
    exact (round state state' _ _ start same).bind fun _ _ reached => ih reached

/-- A program whose calls are all fixed mirrors itself. -/
theorem mirrored_of_fixes {program : Program Call Reply Failure α} {post : α → Prop}
    (yields : program.Yields mirror.Fixes post) :
    mirror.Mirrored (fun value value' => value' = value ∧ post value) program program := by
  induction program with
  | done value => exact .done ⟨rfl, yields⟩
  | fail failure => exact .fail failure
  | request call next ih =>
    obtain ⟨⟨same, still⟩, rest⟩ := yields
    refine .request same fun reply => ?_
    rw [still reply]
    exact ih reply (rest reply () trivial)

/-- The image of a trace is a trace of the mirroring program. -/
theorem Mirrored.trace {program : Program Call Reply Failure α}
    {program' : Program Call Reply Failure α'} {events : List (Event Call Reply)}
    {outcome : Outcome Failure α} (mirrored : mirror.Mirrored related program program')
    (trace : Trace program events outcome) :
    ∃ outcome', Ends related outcome outcome' ∧
      Trace program' (events.map mirror.onEvent) outcome' := by
  induction mirrored generalizing events with
  | done corresponds =>
    cases trace with
    | done => exact ⟨_, .done corresponds, .done _⟩
    | stopped => exact ⟨_, .stopped, .stopped _⟩
  | fail failure =>
    cases trace with
    | failed => exact ⟨_, .failed failure, .failed failure⟩
    | stopped => exact ⟨_, .stopped, .stopped _⟩
  | request same rest ih =>
    cases trace with
    | stopped => exact ⟨_, .stopped, .stopped _⟩
    | answered reply trace =>
      subst same
      obtain ⟨outcome', ends, image⟩ := ih reply trace
      exact ⟨outcome', ends, .answered _ image⟩

end rules

end Mirror

/-- Surroundings that look alike to every call: a program does the same in both. -/
theorem Program.play_image {World World' : Type}
    {answer : World → (call : Call) → Reply call × World}
    {answer' : World' → (call : Call) → Reply call × World'} {image : World → World'}
    {valid : World → Prop}
    (faithful : ∀ world call, valid world → valid (answer world call).2 ∧
      answer' (image world) call = ((answer world call).1, image (answer world call).2))
    (program : Program Call Reply Failure α) {world : World} (ready : valid world) :
    program.play answer' (image world) = ((program.play answer world).1,
      (program.play answer world).2.1, image (program.play answer world).2.2) := by
  induction program generalizing world with
  | done value => rfl
  | fail failure => rfl
  | request call next ih =>
    obtain ⟨still, same⟩ := faithful world call ready
    dsimp only [Program.play]
    rw [same]
    dsimp only
    rw [ih _ still]

end Oboobot.Interaction
