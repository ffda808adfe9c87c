import Oboobot.Interaction.Program
import Mathlib.Data.List.Forall2

/-! What a program can return, from which state to which, and loops whose rounds leave
open what the other rounds may return. -/

namespace Oboobot.Interaction

variable {Call : Type} {Reply : Call → Type} {Failure α β World : Type}
  (step : World → Event Call Reply → World → Prop)

/-- From `world` the program can finish with `value` and leave `after`. -/
def Program.Evaluates (program : Program Call Reply Failure α) (world : World) (value : α)
    (after : World) : Prop :=
  ∃ events, Trace program events (.done value) ∧ Steps step world events after

section rules
variable {step} {world after : World} {value : α}

@[simp] theorem evaluates_pure {returned : α} :
    (pure returned : Program Call Reply Failure α).Evaluates step world value after ↔
      returned = value ∧ world = after := by
  constructor
  · intro evaluates
    obtain ⟨events, trace, steps⟩ := evaluates
    cases trace
    cases steps
    exact ⟨rfl, rfl⟩
  · intro same
    obtain ⟨rfl, rfl⟩ := same
    exact ⟨[], .done _, .nil _⟩

theorem evaluates_request {call : Call} {next : Reply call → Program Call Reply Failure α} :
    (Program.request call next).Evaluates step world value after ↔
      ∃ reply between, step world ⟨call, reply⟩ between ∧
        (next reply).Evaluates step between value after := by
  constructor
  · intro evaluates
    obtain ⟨events, trace, steps⟩ := evaluates
    cases trace with
    | answered reply rest =>
      cases steps with
      | cons first steps => exact ⟨reply, _, first, _, rest, steps⟩
  · intro answered
    obtain ⟨reply, between, first, events, rest, steps⟩ := answered
    exact ⟨_, .answered reply rest, .cons first steps⟩

@[simp] theorem evaluates_perform {call : Call} {reply : Reply call} :
    (Program.perform call : Program Call Reply Failure _).Evaluates step world reply after ↔
      step world ⟨call, reply⟩ after := by
  refine evaluates_request.trans ?_
  constructor
  · intro answered
    obtain ⟨given, between, first, last⟩ := answered
    obtain ⟨rfl, rfl⟩ := evaluates_pure.mp last
    exact first
  · intro first
    exact ⟨reply, after, first, evaluates_pure.mpr ⟨rfl, rfl⟩⟩

@[simp] theorem evaluates_ofExcept {ε : Type} {convert : ε → Failure} {result : Except ε α} :
    (Program.ofExcept convert result : Program Call Reply Failure α).Evaluates step world value
      after ↔ result = .ok value ∧ world = after := by
  cases result with
  | error failure =>
    constructor
    · intro evaluates
      obtain ⟨events, trace, steps⟩ := evaluates
      cases trace
    · intro same
      cases same.1
  | ok returned =>
    refine evaluates_pure.trans ?_
    rw [Except.ok.injEq]

@[simp] theorem evaluates_bind {program : Program Call Reply Failure α}
    {next : α → Program Call Reply Failure β} {result : β} :
    (program >>= next).Evaluates step world result after ↔
      ∃ middle between, program.Evaluates step world middle between ∧
        (next middle).Evaluates step between result after := by
  induction program generalizing world with
  | done returned =>
    constructor
    · intro rest
      exact ⟨returned, world, evaluates_pure.mpr ⟨rfl, rfl⟩, rest⟩
    · intro both
      obtain ⟨middle, between, first, rest⟩ := both
      obtain ⟨rfl, rfl⟩ := evaluates_pure.mp first
      exact rest
  | fail failure =>
    constructor
    · intro evaluates
      obtain ⟨events, trace, steps⟩ := evaluates
      cases trace
    · intro both
      obtain ⟨middle, between, ⟨events, trace, steps⟩, rest⟩ := both
      cases trace
  | request call tail ih =>
    refine evaluates_request.trans ?_
    constructor
    · intro answered
      obtain ⟨reply, between, first, both⟩ := answered
      obtain ⟨middle, later, front, rest⟩ := (ih reply).mp both
      exact ⟨middle, later, evaluates_request.mpr ⟨reply, between, first, front⟩, rest⟩
    · intro both
      obtain ⟨middle, later, front, rest⟩ := both
      obtain ⟨reply, between, first, front⟩ := evaluates_request.mp front
      exact ⟨reply, between, first, (ih reply).mpr ⟨middle, later, front, rest⟩⟩

end rules

section loops
variable {Item Value : Type} (round : Item → Program Call Reply Failure Value)

/-- One round after the other, each from the state that the last one left. -/
inductive Rounds : World → List Item → List Value → World → Prop where
  | nil (world : World) : Rounds world [] [] world
  | cons {world between after : World} {item : Item} {items : List Item} {value : Value}
      {values : List Value} (first : (round item).Evaluates step world value between)
      (rest : Rounds between items values after) :
      Rounds world (item :: items) (value :: values) after

/-- A first round has no influence on what the second may return. -/
def Undisturbed (first second : Item) : Prop :=
  ∀ world value between, (round first).Evaluates step world value between → ∀ other,
    (∃ after, (round second).Evaluates step between other after) ↔
      ∃ after, (round second).Evaluates step world other after

variable {step round} {world after : World} {items : List Item} {values : List Value}

/-- The loop that collects what its rounds return. -/
theorem evaluates_collect {front : List Value} :
    (items.foldlM (fun values item => do
      let value ← round item
      return values ++ [value]) front : Program Call Reply Failure (List Value)).Evaluates step world
        values after ↔ ∃ own, values = front ++ own ∧ Rounds step round world items own after := by
  induction items generalizing world front with
  | nil =>
    refine evaluates_pure.trans ⟨?_, ?_⟩
    · intro same
      obtain ⟨rfl, rfl⟩ := same
      exact ⟨[], (List.append_nil _).symm, .nil _⟩
    · intro rounds
      obtain ⟨own, rfl, rounds⟩ := rounds
      cases rounds
      exact ⟨(List.append_nil _).symm, rfl⟩
  | cons item items ih =>
    rw [List.foldlM_cons, evaluates_bind]
    constructor
    · intro both
      obtain ⟨collected, between, first, rest⟩ := both
      obtain ⟨value, left, round, returned⟩ := evaluates_bind.mp first
      obtain ⟨rfl, rfl⟩ := evaluates_pure.mp returned
      obtain ⟨own, rfl, rounds⟩ := ih.mp rest
      exact ⟨value :: own, List.append_assoc front [value] own, .cons round rounds⟩
    · intro rounds
      obtain ⟨own, rfl, rounds⟩ := rounds
      cases rounds with
      | @cons _ between _ _ _ value own first rest =>
        refine ⟨front ++ [value], between, ?_, ih.mpr ⟨own, ?_, rest⟩⟩
        · exact evaluates_bind.mpr ⟨value, between, first, evaluates_pure.mpr ⟨rfl, rfl⟩⟩
        · exact (List.append_assoc front [value] own).symm

/-- Where no round disturbs a later one, the loop returns just what its rounds may return
each by itself, from the state in which the loop starts. -/
theorem rounds_iff_apart (apart : items.Pairwise (Undisturbed step round)) :
    (∃ after, Rounds step round world items values after) ↔
      List.Forall₂ (fun item value => ∃ after, (round item).Evaluates step world value after) items
        values := by
  induction items generalizing world values with
  | nil =>
    constructor
    · intro rounds
      obtain ⟨after, rounds⟩ := rounds
      cases rounds
      exact .nil
    · intro alone
      cases alone
      exact ⟨world, .nil world⟩
  | cons item items ih =>
    obtain ⟨leaves, apart⟩ := List.pairwise_cons.mp apart
    have moved {between : World} {value : Value} {values : List Value}
        (first : (round item).Evaluates step world value between) :
        List.Forall₂ (fun item value => ∃ after, (round item).Evaluates step between value after)
            items values ↔
          List.Forall₂ (fun item value => ∃ after, (round item).Evaluates step world value after)
            items values := by
      rw [List.forall₂_iff_zip, List.forall₂_iff_zip]
      refine and_congr_right fun _ => ⟨?_, ?_⟩
      · intro given other result member
        exact (leaves other (List.of_mem_zip member).1 _ _ _ first result).mp (given member)
      · intro given other result member
        exact (leaves other (List.of_mem_zip member).1 _ _ _ first result).mpr (given member)
    constructor
    · intro rounds
      obtain ⟨after, rounds⟩ := rounds
      cases rounds with
      | cons first rest => exact .cons ⟨_, first⟩ ((moved first).mp ((ih apart).mp ⟨after, rest⟩))
    · intro alone
      cases alone with
      | cons first rest =>
        obtain ⟨between, first⟩ := first
        obtain ⟨after, rest⟩ := (ih apart).mpr ((moved first).mpr rest)
        exact ⟨after, .cons first rest⟩

end loops

end Oboobot.Interaction
