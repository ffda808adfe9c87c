import Mathlib.Data.List.Basic

/-! Programs that act only by calls to their surroundings, with the traces such
a program can leave and a rule to prove what it guarantees at each call. -/

namespace Oboobot.Interaction

/-- A program is finished, has given up, or waits for the reply to one call. -/
inductive Program (Call : Type) (Reply : Call → Type) (Failure α : Type) where
  | done (value : α)
  | fail (failure : Failure)
  | request (call : Call) (next : Reply call → Program Call Reply Failure α)

/-- A call together with the reply it received. -/
structure Event (Call : Type) (Reply : Call → Type) where
  call : Call
  reply : Reply call

/-- How a trace ends. A `stopped` program was killed before its next reply. -/
inductive Outcome (Failure α : Type) where
  | done (value : α)
  | failed (failure : Failure)
  | stopped

variable {Call : Type} {Reply : Call → Type} {Failure α β γ : Type}

namespace Program

def bind (program : Program Call Reply Failure α) (next : α → Program Call Reply Failure β) :
    Program Call Reply Failure β :=
  match program with
  | .done value => next value
  | .fail failure => .fail failure
  | .request call rest => .request call fun reply => (rest reply).bind next

instance : Monad (Program Call Reply Failure) where
  pure := .done
  bind := bind

/-- Make one call and return its reply. -/
def perform (call : Call) : Program Call Reply Failure (Reply call) :=
  .request call .done

/-- Continue with a success; give up on an error, as `?` does. -/
def ofExcept {ε : Type} (convert : ε → Failure) : Except ε α → Program Call Reply Failure α
  | .ok value => .done value
  | .error failure => .fail (convert failure)

/-- Run against surroundings that answer every call, collecting the events. -/
def play {World : Type} (answer : World → (call : Call) → Reply call × World) :
    Program Call Reply Failure α → World → List (Event Call Reply) × Outcome Failure α × World
  | .done value, world => ([], .done value, world)
  | .fail failure, world => ([], .failed failure, world)
  | .request call next, world =>
    let (reply, after) := answer world call
    let (events, outcome, final) := (next reply).play answer after
    (⟨call, reply⟩ :: events, outcome, final)

/-- The calls of that run, each with the world it is made in. -/
def moments {World : Type} (answer : World → (call : Call) → Reply call × World) :
    Program Call Reply Failure α → World → List (World × Call)
  | .done _, _ => []
  | .fail _, _ => []
  | .request call next, world =>
    let (reply, after) := answer world call
    (world, call) :: (next reply).moments answer after

end Program

/-- The finite traces of a program. Replies are arbitrary. -/
inductive Trace : Program Call Reply Failure α → List (Event Call Reply) →
    Outcome Failure α → Prop where
  | done (value : α) : Trace (.done value) [] (.done value)
  | failed (failure : Failure) : Trace (.fail failure) [] (.failed failure)
  | stopped (program : Program Call Reply Failure α) : Trace program [] .stopped
  | answered {call : Call} {next : Reply call → Program Call Reply Failure α}
      {events : List (Event Call Reply)} {outcome : Outcome Failure α} (reply : Reply call)
      (rest : Trace (next reply) events outcome) :
      Trace (.request call next) (⟨call, reply⟩ :: events) outcome

theorem Program.play_trace {World : Type} (answer : World → (call : Call) → Reply call × World)
    (program : Program Call Reply Failure α) (world : World) :
    Trace program (program.play answer world).1 (program.play answer world).2.1 := by
  induction program generalizing world with
  | done value => exact .done value
  | fail failure => exact .failed failure
  | request call next ih => exact .answered _ (ih _ _)

/-- A trace can be cut short anywhere. -/
theorem Trace.front {program : Program Call Reply Failure α} {before back : List (Event Call Reply)}
    {outcome : Outcome Failure α} (trace : Trace program (before ++ back) outcome) :
    Trace program before .stopped := by
  induction before generalizing program with
  | nil => exact .stopped program
  | cons event before ih =>
    cases trace with
    | answered reply rest => exact .answered reply (ih rest)

theorem Program.play_finished {World : Type} (answer : World → (call : Call) → Reply call × World)
    (program : Program Call Reply Failure α) (world : World) :
    (program.play answer world).2.1 ≠ .stopped := by
  induction program generalizing world with
  | done value => exact fun same => by cases same
  | fail failure => exact fun same => by cases same
  | request call next ih => exact ih _ _

/-- What every answer keeps, holds at every moment of a run and after it. -/
theorem Program.play_keeps {World : Type} {answer : World → (call : Call) → Reply call × World}
    {kept : World → Prop} (keeps : ∀ world call, kept world → kept (answer world call).2)
    (program : Program Call Reply Failure α) {world : World} (start : kept world) :
    kept (program.play answer world).2.2 ∧
      ∀ moment ∈ program.moments answer world, kept moment.1 := by
  induction program generalizing world with
  | done value => exact ⟨start, List.forall_mem_nil _⟩
  | fail failure => exact ⟨start, List.forall_mem_nil _⟩
  | request call next ih =>
    obtain ⟨after, during⟩ := ih _ (keeps world call start)
    exact ⟨after, List.forall_mem_cons.mpr ⟨start, during⟩⟩

/-- What holds after a run held before it, or came about at one of its moments. -/
theorem Program.play_cases {World : Type} {answer : World → (call : Call) → Reply call × World}
    {holds : World → Prop} (program : Program Call Reply Failure α) {world : World}
    (after : holds (program.play answer world).2.2) :
    holds world ∨ ∃ moment ∈ program.moments answer world,
      ¬holds moment.1 ∧ holds (answer moment.1 moment.2).2 := by
  induction program generalizing world with
  | done value => exact .inl after
  | fail failure => exact .inl after
  | request call next ih =>
    by_cases before : holds world
    · exact .inl before
    · refine .inr ?_
      rcases ih _ after with now | ⟨moment, later, comes⟩
      · exact ⟨(world, call), List.mem_cons_self, before, now⟩
      · exact ⟨moment, List.mem_cons_of_mem _ later, comes⟩

/-- What the surroundings may do at an event, and what a program promises about
the moment at which it makes a call. -/
structure Contract (Call : Type) (Reply : Call → Type) (World : Type) where
  step : World → Event Call Reply → World → Prop
  promise : World → Call → Prop

variable {World : Type} (contract : Contract Call Reply World)

/-- The program keeps its promise at every call, and reaches `post` or `failed`. -/
def Program.Meets (program : Program Call Reply Failure α) (post : α → World → Prop)
    (failed : Failure → World → Prop) (world : World) : Prop :=
  match program with
  | .done value => post value world
  | .fail failure => failed failure world
  | .request call next => contract.promise world call ∧
      ∀ reply after, contract.step world ⟨call, reply⟩ after →
        (next reply).Meets post failed after

section rules
variable {contract} {post : α → World → Prop} {failed : Failure → World → Prop} {world : World}

@[simp] theorem meets_pure (value : α) :
    (pure value : Program Call Reply Failure α).Meets contract post failed world ↔
      post value world := Iff.rfl

@[simp] theorem meets_done (value : α) :
    (.done value : Program Call Reply Failure α).Meets contract post failed world ↔
      post value world := Iff.rfl

@[simp] theorem meets_fail (failure : Failure) :
    (.fail failure : Program Call Reply Failure α).Meets contract post failed world ↔
      failed failure world := Iff.rfl

@[simp] theorem meets_bind (program : Program Call Reply Failure α)
    (next : α → Program Call Reply Failure β) {post : β → World → Prop} :
    (program >>= next).Meets contract post failed world ↔
      program.Meets contract (fun value => (next value).Meets contract post failed) failed world := by
  induction program generalizing world with
  | done value => exact Iff.rfl
  | fail failure => exact Iff.rfl
  | request call rest ih =>
    exact and_congr_right fun _ => forall_congr' fun reply => forall_congr' fun after =>
      imp_congr_right fun _ => ih reply

@[simp] theorem meets_perform (call : Call) {post : Reply call → World → Prop} :
    (Program.perform call : Program Call Reply Failure _).Meets contract post failed world ↔
      contract.promise world call ∧
        ∀ reply after, contract.step world ⟨call, reply⟩ after → post reply after := Iff.rfl

@[simp] theorem meets_ofExcept {ε : Type} (convert : ε → Failure) (result : Except ε α) :
    (Program.ofExcept convert result : Program Call Reply Failure α).Meets contract post failed world ↔
      (∀ value, result = .ok value → post value world) ∧
        ∀ failure, result = .error failure → failed (convert failure) world := by
  cases result <;> simp [Program.ofExcept]

/-- The rule of consequence. -/
theorem Program.Meets.weaken {program : Program Call Reply Failure α}
    {post' : α → World → Prop} {failed' : Failure → World → Prop}
    (meets : program.Meets contract post failed world)
    (value : ∀ value world, post value world → post' value world)
    (failure : ∀ failure world, failed failure world → failed' failure world) :
    program.Meets contract post' failed' world := by
  induction program generalizing world with
  | done result => exact value result world meets
  | fail reason => exact failure reason world meets
  | request call next ih => exact ⟨meets.1, fun reply after step => ih reply (meets.2 reply after step)⟩

/-- Surroundings that do less: their steps are steps of the contract, and keep an
invariant besides. -/
theorem Program.Meets.narrow {contract' : Contract Call Reply World}
    {program : Program Call Reply Failure α}
    (meets : program.Meets contract post failed world) (invariant : World → Prop)
    (promises : ∀ world call, contract.promise world call → contract'.promise world call)
    (steps : ∀ world event after, invariant world → contract'.step world event after →
      contract.step world event after ∧ invariant after)
    (start : invariant world) :
    program.Meets contract' (fun value world => post value world ∧ invariant world)
      (fun failure world => failed failure world ∧ invariant world) world := by
  induction program generalizing world with
  | done value => exact ⟨meets, start⟩
  | fail failure => exact ⟨meets, start⟩
  | request call next ih =>
    refine ⟨promises world call meets.1, ?_⟩
    intro reply after step
    obtain ⟨allowed, still⟩ := steps world ⟨call, reply⟩ after start step
    exact ih reply (meets.2 reply after allowed) still

/-- Two contracts kept at once, each in terms of a world of its own. -/
def Contract.both {World' : Type} (first : Contract Call Reply World)
    (second : Contract Call Reply World') : Contract Call Reply (World × World') where
  step world event after := first.step world.1 event after.1 ∧ second.step world.2 event after.2
  promise world call := first.promise world.1 call ∧ second.promise world.2 call

theorem Program.Meets.both {World' : Type} {second : Contract Call Reply World'}
    {program : Program Call Reply Failure α} {post' : α → World' → Prop}
    {failed' : Failure → World' → Prop} {world' : World'}
    (meets : program.Meets contract post failed world)
    (meets' : program.Meets second post' failed' world') :
    program.Meets (contract.both second)
      (fun value worlds => post value worlds.1 ∧ post' value worlds.2)
      (fun failure worlds => failed failure worlds.1 ∧ failed' failure worlds.2) (world, world') := by
  induction program generalizing world world' with
  | done value => exact ⟨meets, meets'⟩
  | fail failure => exact ⟨meets, meets'⟩
  | request call next ih =>
    refine ⟨⟨meets.1, meets'.1⟩, ?_⟩
    rintro reply ⟨after, after'⟩ ⟨step, step'⟩
    exact ih reply (meets.2 reply after step) (meets'.2 reply after' step')

/-- Iterating a list: an invariant of the rounds so far, kept by each round, holds of all rounds. -/
theorem meets_foldlM {Item : Type} {items : List Item}
    {body : α → Item → Program Call Reply Failure α} (invariant : List Item → α → World → Prop)
    (round : ∀ front item back state world, items = front ++ item :: back →
      invariant front state world →
      (body state item).Meets contract (invariant (front ++ [item])) failed world)
    (state : α) (start : invariant [] state world) :
    (items.foldlM body state).Meets contract (invariant items) failed world := by
  suffices loop : ∀ front back state world, items = front ++ back → invariant front state world →
      (back.foldlM body state).Meets contract (invariant items) failed world by
    exact loop [] items state world rfl start
  intro front back
  induction back generalizing front with
  | nil =>
    intro state world same kept
    rw [List.append_nil] at same
    subst same
    exact kept
  | cons item rest ih =>
    intro state world same kept
    rw [List.foldlM_cons, meets_bind]
    apply (round front item rest state world same kept).weaken
    · intro next after reached
      exact ih (front ++ [item]) next after (by simp [same]) reached
    · exact fun _ _ given => given

end rules

section anyReply
variable {contract} {allowed : Call → Prop} {post : α → Prop}

/-- The contract that only restricts the calls and expects any reply. -/
def anyReply (allowed : Call → Prop) : Contract Call Reply Unit where
  step _ _ _ := True
  promise _ call := allowed call

/-- Whatever is replied, the program makes allowed calls only and returns a value in `post`. -/
def Program.Yields (program : Program Call Reply Failure α) (allowed : Call → Prop)
    (post : α → Prop) : Prop :=
  program.Meets (anyReply allowed) (fun value _ => post value) (fun _ _ => True) ()

@[simp] theorem yields_pure (value : α) :
    (pure value : Program Call Reply Failure α).Yields allowed post ↔ post value := Iff.rfl

@[simp] theorem yields_bind (program : Program Call Reply Failure α)
    (next : α → Program Call Reply Failure β) {post : β → Prop} :
    (program >>= next).Yields allowed post ↔
      program.Yields allowed fun value => (next value).Yields allowed post :=
  meets_bind program next

@[simp] theorem yields_perform (call : Call) {post : Reply call → Prop} :
    (Program.perform call : Program Call Reply Failure _).Yields allowed post ↔
      allowed call ∧ ∀ reply, post reply := by
  simp [Program.Yields, anyReply]

@[simp] theorem yields_ofExcept {ε : Type} (convert : ε → Failure) (result : Except ε α) :
    (Program.ofExcept convert result : Program Call Reply Failure α).Yields allowed post ↔
      ∀ value, result = .ok value → post value := by
  simp [Program.Yields]

theorem perform_yields {call : Call} (permitted : allowed call) :
    (Program.perform call : Program Call Reply Failure _).Yields allowed fun _ => True :=
  (yields_perform call).mpr ⟨permitted, fun _ => trivial⟩

/-- Where every call is allowed, only the values matter. -/
theorem Program.yields_any (program : Program Call Reply Failure α) (always : ∀ value, post value) :
    program.Yields (fun _ => True) post := by
  induction program with
  | done value => exact always value
  | fail failure => trivial
  | request call next ih => exact ⟨trivial, fun reply _ _ => ih reply⟩

theorem ofExcept_yields {ε : Type} (convert : ε → Failure) (result : Except ε α) :
    (Program.ofExcept convert result : Program Call Reply Failure α).Yields allowed fun _ => True :=
  (yields_ofExcept convert result).mpr fun _ _ => trivial

theorem Program.Yields.weaken {program : Program Call Reply Failure α} {post' : α → Prop}
    (yields : program.Yields allowed post) (value : ∀ value, post value → post' value) :
    program.Yields allowed post' :=
  Meets.weaken yields (fun result _ => value result) fun _ _ given => given

/-- What a program yields in any surroundings, it yields in these. -/
theorem Program.Meets.yielding {contract : Contract Call Reply World}
    {program : Program Call Reply Failure α} {post' : α → World → Prop}
    {failed : Failure → World → Prop} {world : World}
    (meets : program.Meets contract post' failed world) (yields : program.Yields allowed post) :
    program.Meets contract (fun value world => post' value world ∧ post value) failed world := by
  induction program generalizing world with
  | done value => exact ⟨meets, yields⟩
  | fail failure => exact meets
  | request call next ih =>
    refine ⟨meets.1, ?_⟩
    intro reply after step
    exact ih reply (meets.2 reply after step) (yields.2 reply () trivial)

/-- The calls that a program makes anywhere, it makes in these surroundings. -/
theorem Program.Meets.restricted {contract : Contract Call Reply World}
    {program : Program Call Reply Failure α} {post' : α → World → Prop}
    {failed : Failure → World → Prop} {world : World}
    (meets : program.Meets contract post' failed world) (yields : program.Yields allowed post) :
    program.Meets { contract with
      promise := fun world call => allowed call ∧ contract.promise world call } post' failed world := by
  induction program generalizing world with
  | done value => exact meets
  | fail failure => exact meets
  | request call next ih =>
    refine ⟨⟨yields.1, meets.1⟩, ?_⟩
    intro reply after step
    exact ih reply (meets.2 reply after step) (yields.2 reply () trivial)

theorem yields_foldlM {Item : Type} {items : List Item}
    {body : α → Item → Program Call Reply Failure α} (invariant : List Item → α → Prop)
    (round : ∀ front item back state, items = front ++ item :: back → invariant front state →
      (body state item).Yields allowed (invariant (front ++ [item])))
    (state : α) (start : invariant [] state) :
    (items.foldlM body state).Yields allowed (invariant items) :=
  meets_foldlM (fun front state _ => invariant front state)
    (fun front item back state _ => round front item back state) state start

/-- The frame rule: what every allowed call keeps, the whole program keeps. -/
theorem Program.Yields.frame {program : Program Call Reply Failure α}
    (yields : program.Yields allowed post) {kept : World → Prop}
    (promised : ∀ world call, allowed call → kept world → contract.promise world call)
    (steps : ∀ world event after, allowed event.call → kept world →
      contract.step world event after → kept after)
    {world : World} (start : kept world) :
    program.Meets contract (fun value after => post value ∧ kept after)
      (fun _ after => kept after) world := by
  induction program generalizing world with
  | done value => exact ⟨yields, start⟩
  | fail failure => exact start
  | request call next ih =>
    refine ⟨promised world call yields.1 start, ?_⟩
    intro reply after step
    exact ih reply (yields.2 reply () trivial) (steps world ⟨call, reply⟩ after yields.1 start step)

end anyReply

section monitor
variable {after : World → Event Call Reply → World} {promise : World → Call → Prop}

/-- The contract whose world is a deterministic reading of the events so far. -/
def monitor (after : World → Event Call Reply → World) (promise : World → Call → Prop) :
    Contract Call Reply World where
  step world event next := next = after world event
  promise := promise

@[simp] theorem meets_perform_monitor (call : Call) {post : Reply call → World → Prop}
    {failed : Failure → World → Prop} {world : World} :
    (Program.perform call : Program Call Reply Failure _).Meets (monitor after promise) post failed
        world ↔
      promise world call ∧ ∀ reply, post reply (after world ⟨call, reply⟩) := by
  simp [monitor]

/-- Every call of every trace keeps the promise, as read off the events before it. -/
theorem Program.Meets.promised_after {program : Program Call Reply Failure α}
    {post : α → World → Prop} {failed : Failure → World → Prop} {world : World}
    {outcome : Outcome Failure α} {before back : List (Event Call Reply)} {event : Event Call Reply}
    (meets : program.Meets (monitor after promise) post failed world)
    (trace : Trace program (before ++ event :: back) outcome) :
    promise (before.foldl after world) event.call := by
  induction before generalizing program world with
  | nil =>
    cases trace with
    | answered reply rest => exact meets.1
  | cons first before ih =>
    cases trace with
    | answered reply rest => exact ih (meets.2 reply _ rfl) rest

/-- A world whose steps a monitor can follow: what the monitored program
promises, it promises there. -/
theorem Program.Meets.simulated {World' : Type} {contract : Contract Call Reply World'}
    {program : Program Call Reply Failure α} {post : α → World → Prop}
    {failed : Failure → World → Prop} {related : World → World' → Prop} {world : World}
    {world' : World'} (meets : program.Meets (monitor after promise) post failed world)
    (promises : ∀ world world' call, related world world' → promise world call →
      contract.promise world' call)
    (steps : ∀ world world' event next, related world world' → promise world event.call →
      contract.step world' event next → related (after world event) next)
    (start : related world world') :
    program.Meets contract (fun _ _ => True) (fun _ _ => True) world' := by
  induction program generalizing world world' with
  | done value => trivial
  | fail failure => trivial
  | request call next ih =>
    refine ⟨promises world world' call start meets.1, ?_⟩
    intro reply next step
    exact ih reply (meets.2 reply _ rfl) (steps world world' _ next start meets.1 step)

end monitor

section runs
variable {contract : Contract Call Reply World}

/-- A world that the surroundings may have reached after these events. -/
inductive Steps (step : World → Event Call Reply → World → Prop) :
    World → List (Event Call Reply) → World → Prop where
  | nil (world : World) : Steps step world [] world
  | cons {world after final : World} {event : Event Call Reply} {events : List (Event Call Reply)}
      (first : step world event after) (rest : Steps step after events final) :
      Steps step world (event :: events) final

theorem steps_monitor {after : World → Event Call Reply → World} {promise : World → Call → Prop}
    (events : List (Event Call Reply)) (world : World) :
    Steps (monitor after promise).step world events (events.foldl after world) := by
  induction events generalizing world with
  | nil => exact .nil world
  | cons event events ih => exact .cons rfl (ih (after world event))

/-- A view that every step updates by one function has folded it over the events. -/
theorem Steps.view_eq {View : Type} {step : World → Event Call Reply → World → Prop}
    {view : World → View} {update : View → Event Call Reply → View}
    (follows : ∀ world event after, step world event after → view after = update (view world) event)
    {world final : World} {events : List (Event Call Reply)} (steps : Steps step world events final) :
    view final = events.foldl update (view world) := by
  induction steps with
  | nil world => rfl
  | cons first rest ih => rw [List.foldl_cons, ← follows _ _ _ first, ih]

/-- Steps that can be computed. -/
theorem steps_of_foldlM {step : World → Event Call Reply → World → Prop}
    {next : World → Event Call Reply → Option World}
    (sound : ∀ world event after, next world event = some after → step world event after)
    {world final : World} {events : List (Event Call Reply)}
    (computed : events.foldlM next world = some final) : Steps step world events final := by
  induction events generalizing world with
  | nil =>
    cases computed
    exact .nil _
  | cons event events ih =>
    rw [List.foldlM_cons] at computed
    obtain ⟨after, first, rest⟩ := Option.bind_eq_some_iff.mp computed
    exact .cons (sound _ event after first) (ih rest)

theorem steps_append_singleton {step : World → Event Call Reply → World → Prop}
    {world final : World} {events : List (Event Call Reply)} {event : Event Call Reply}
    (steps : Steps step world (events ++ [event]) final) :
    ∃ middle, Steps step world events middle ∧ step middle event final := by
  induction events generalizing world with
  | nil =>
    cases steps with
    | cons first rest =>
      cases rest
      exact ⟨world, .nil world, first⟩
  | cons head events ih =>
    cases steps with
    | cons first rest =>
      obtain ⟨middle, earlier, last⟩ := ih rest
      exact ⟨middle, .cons first earlier, last⟩

/-- Wherever a trace ends, what is still to run meets the contract there. -/
theorem Program.Meets.after_steps {program : Program Call Reply Failure α}
    {post : α → World → Prop} {failed : Failure → World → Prop} {world final : World}
    {events : List (Event Call Reply)} {outcome : Outcome Failure α}
    (meets : program.Meets contract post failed world) (trace : Trace program events outcome)
    (steps : Steps contract.step world events final) :
    ∃ rest : Program Call Reply Failure α, rest.Meets contract post failed final ∧
      ∀ value, outcome = .done value → rest = .done value := by
  induction trace generalizing world with
  | done value =>
    cases steps
    exact ⟨.done value, meets, fun _ same => by cases same; rfl⟩
  | failed failure =>
    cases steps
    exact ⟨.fail failure, meets, fun _ same => by cases same⟩
  | stopped program =>
    cases steps
    exact ⟨program, meets, fun _ same => by cases same⟩
  | answered reply rest ih =>
    cases steps with
    | cons first later => exact ih (meets.2 reply _ first) later

/-- Surroundings that can be run, and that a world can follow. -/
theorem Steps.played {Host : Type} {answer : Host → (call : Call) → Reply call × Host}
    {step : World → Event Call Reply → World → Prop} {view : Host → World} {valid : Host → Prop}
    (faithful : ∀ host call, valid host →
      step (view host) ⟨call, (answer host call).1⟩ (view (answer host call).2) ∧
        valid (answer host call).2)
    (program : Program Call Reply Failure α) {host : Host} (ready : valid host) :
    Steps step (view host) (program.play answer host).1 (view (program.play answer host).2.2) := by
  induction program generalizing host with
  | done value => exact .nil _
  | fail failure => exact .nil _
  | request call next ih =>
    obtain ⟨first, still⟩ := faithful host call ready
    exact .cons first (ih _ still)

/-- Run against surroundings that follow the contract wherever the program keeps
its promise, a program ends as it says. -/
theorem Program.Meets.played {Host : Type} {answer : Host → (call : Call) → Reply call × Host}
    {program : Program Call Reply Failure α} {post : α → World → Prop}
    {failed : Failure → World → Prop} {world : World} {related : Host → World → Prop} {host : Host}
    (meets : program.Meets contract post failed world)
    (faithful : ∀ host world call, related host world → contract.promise world call →
      ∃ after, contract.step world ⟨call, (answer host call).1⟩ after ∧
        related (answer host call).2 after)
    (start : related host world) :
    ∃ final, related (program.play answer host).2.2 final ∧
      Steps contract.step world (program.play answer host).1 final ∧
      ((∃ value, (program.play answer host).2.1 = .done value ∧ post value final) ∨
        ∃ failure, (program.play answer host).2.1 = .failed failure ∧ failed failure final) := by
  induction program generalizing host world with
  | done value => exact ⟨world, start, .nil world, .inl ⟨value, rfl, meets⟩⟩
  | fail failure => exact ⟨world, start, .nil world, .inr ⟨failure, rfl, meets⟩⟩
  | request call next ih =>
    obtain ⟨after, step, still⟩ := faithful host world call start meets.1
    obtain ⟨final, reached, steps, ends⟩ := ih (answer host call).1 (meets.2 _ after step) still
    exact ⟨final, reached, .cons step steps, ends⟩

/-- What a contract says of the way in which a trace ended. -/
def Outcome.Satisfies (post : α → World → Prop) (failed : Failure → World → Prop) (world : World) :
    Outcome Failure α → Prop
  | .done value => post value world
  | .failed failure => failed failure world
  | .stopped => True

theorem Program.Meets.ends {program : Program Call Reply Failure α} {post : α → World → Prop}
    {failed : Failure → World → Prop} {world final : World} {outcome : Outcome Failure α}
    {events : List (Event Call Reply)} (meets : program.Meets contract post failed world)
    (trace : Trace program events outcome) (steps : Steps contract.step world events final) :
    outcome.Satisfies post failed final := by
  induction trace generalizing world with
  | done value =>
    cases steps
    exact meets
  | failed failure =>
    cases steps
    exact meets
  | stopped program => trivial
  | answered reply rest ih =>
    cases steps with
    | cons first steps => exact ih (meets.2 reply _ first) steps

/-- A finished trace has reached the postcondition. -/
theorem Program.Meets.ends_done {program : Program Call Reply Failure α}
    {post : α → World → Prop} {failed : Failure → World → Prop} {world final : World} {value : α}
    {events : List (Event Call Reply)} (meets : program.Meets contract post failed world)
    (trace : Trace program events (.done value)) (steps : Steps contract.step world events final) :
    post value final :=
  meets.ends trace steps

/-- A trace that gave up has reached the failure condition. -/
theorem Program.Meets.ends_failed {program : Program Call Reply Failure α}
    {post : α → World → Prop} {failed : Failure → World → Prop} {world final : World}
    {failure : Failure} {events : List (Event Call Reply)}
    (meets : program.Meets contract post failed world)
    (trace : Trace program events (.failed failure)) (steps : Steps contract.step world events final) :
    failed failure final :=
  meets.ends trace steps

/-- What every promised step keeps holds wherever a trace ends. -/
theorem Program.Meets.kept {program : Program Call Reply Failure α} {post : α → World → Prop}
    {failed : Failure → World → Prop} {world final : World} {outcome : Outcome Failure α}
    {events : List (Event Call Reply)} (meets : program.Meets contract post failed world)
    (invariant : World → Prop)
    (keeps : ∀ world event after, invariant world → contract.promise world event.call →
      contract.step world event after → invariant after)
    (start : invariant world) (trace : Trace program events outcome)
    (steps : Steps contract.step world events final) : invariant final := by
  induction trace generalizing world with
  | done value =>
    cases steps
    exact start
  | failed failure =>
    cases steps
    exact start
  | stopped program =>
    cases steps
    exact start
  | answered reply rest ih =>
    cases steps with
    | cons first steps => exact ih (meets.2 reply _ first) (keeps world _ _ start meets.1 first) steps

end runs

end Oboobot.Interaction
