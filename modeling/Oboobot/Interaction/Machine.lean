import Mathlib.Data.List.Basic

/-! State machines given by a partial step function, and the rule to prove what
holds however their actions are interleaved. -/

namespace Oboobot.Interaction

/-- A step is `none` where its action is not enabled. -/
structure Machine (State Action : Type) where
  start : State
  step : State → Action → Option State

namespace Machine

variable {State Action : Type} (machine : Machine State Action)

/-- Take every action in turn, each of them enabled where it is taken. -/
def run (state : State) (actions : List Action) : Option State :=
  actions.foldlM machine.step state

/-- Some sequence of actions leads from the start to this state. -/
def Reached (state : State) : Prop :=
  ∃ actions, machine.run machine.start actions = some state

variable {machine}

@[simp] theorem run_nil (state : State) : machine.run state [] = some state := rfl

theorem run_cons (state : State) (action : Action) (rest : List Action) :
    machine.run state (action :: rest) =
      (machine.step state action).bind fun after => machine.run after rest := rfl

theorem run_of_step {state after : State} {action : Action}
    (step : machine.step state action = some after) (rest : List Action) :
    machine.run state (action :: rest) = machine.run after rest := by
  rw [run_cons, step, Option.bind_some]

theorem run_append (state : State) (front back : List Action) :
    machine.run state (front ++ back) =
      (machine.run state front).bind fun after => machine.run after back :=
  List.foldlM_append

/-- What every step keeps, every run keeps. -/
theorem run_keeps {invariant : State → Prop}
    (steps : ∀ state action after, invariant state → machine.step state action = some after →
      invariant after)
    {state final : State} {actions : List Action} (holds : invariant state)
    (runs : machine.run state actions = some final) : invariant final := by
  induction actions generalizing state with
  | nil =>
    cases runs
    exact holds
  | cons action rest ih =>
    rw [run_cons] at runs
    obtain ⟨after, step, continues⟩ := Option.bind_eq_some_iff.mp runs
    exact ih (steps state action after holds step) continues

/-- An invariant of the start that every step keeps holds in every state reached. -/
theorem Reached.invariant {invariant : State → Prop} (initially : invariant machine.start)
    (steps : ∀ state action after, invariant state → machine.step state action = some after →
      invariant after)
    {state : State} (reached : machine.Reached state) : invariant state := by
  obtain ⟨actions, runs⟩ := reached
  exact run_keeps steps initially runs

end Machine

end Oboobot.Interaction
