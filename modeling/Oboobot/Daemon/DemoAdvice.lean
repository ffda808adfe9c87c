import Oboobot.Daemon.DemoRestart
import Oboobot.Interaction.Silence

/-! Recommendations are inert: whichever assistant advises the walkthrough, it trades as it
would with any other. -/

namespace Oboobot.Daemon

open Domain Domain.Events SessionTime Strategy Risk Broker Interaction
open Persistence (PersistenceError)

namespace Demo

/-- The calls that write a recommendation down. -/
def isAdvice : DemoCall → Prop
  | .utcNow | .appendRecommendation _ => True
  | _ => False

/-- Writing a recommendation down has failed, and with it the walkthrough. -/
def adviceLost (event : DemoEvent) (failure : DemoError) : Prop :=
  ∃ record lost, event = ⟨.appendRecommendation record, .error lost⟩ ∧ failure = .persistence lost

variable {platform : Platform} {assistant : AssistantEngine} {α : Type}

theorem recordRecommendation_silences (recommendation : Recommendation) (silent : Demo α)
    {next : Unit → Demo α} (rest : Silences isAdvice adviceLost (next ()) silent) :
    Silences isAdvice adviceLost (recordRecommendation recommendation >>= next) silent := by
  refine .skip trivial (fun _ => True) ⟨(0 : Instant), trivial⟩ (fun timestamp _ => ?_)
    fun _ blocked => absurd trivial blocked
  refine .skip trivial (fun reply => reply = .ok ()) ⟨_, rfl⟩ ?_ ?_
  · intro reply written
    subst written
    exact rest
  · intro reply failed
    cases reply with
    | ok done => exact absurd rfl failed
    | error lost => exact ⟨.persistence lost, rfl, _, lost, rfl, rfl⟩

/-- All the recommendations of one event can be left out. -/
theorem recommendations_silence (recommendations : List Recommendation) {silent : Demo α}
    {next : Unit → Demo α} (rest : Silences isAdvice adviceLost (next ()) silent) :
    Silences isAdvice adviceLost
      (recommendations.foldlM (fun _ recommendation => recordRecommendation recommendation) () >>=
        next) silent := by
  induction recommendations with
  | nil => exact rest
  | cons recommendation recommendations ih =>
    rw [List.foldlM_cons, Program.bind_bind]
    exact recordRecommendation_silences recommendation silent ih

theorem runCycle_silences (openPositions : List Position) (cycle : ScriptedCycle) :
    Silences isAdvice adviceLost (runCycle platform assistant openPositions cycle)
      (runCycle platform loggingAssistant openPositions cycle) := by
  unfold runCycle
  split
  · exact silences_refl _
  · refine (silences_refl _).bind fun reply => ?_
    refine (silences_refl _).bind fun snapshot => ?_
    refine (silences_refl _).bind fun eventId => ?_
    exact recommendations_silence _ (silences_refl _)

theorem walkthrough_silences (cycles : List ScriptedCycle) :
    Silences isAdvice adviceLost (walkthrough platform assistant cycles)
      (walkthrough platform loggingAssistant cycles) := by
  unfold walkthrough
  refine (silences_refl _).bind fun created => ?_
  refine (silences_refl _).bind fun _ => ?_
  refine (silences_refl _).bind fun _ => ?_
  refine (silences_refl _).bind fun records => ?_
  refine (silences_refl _).bind fun locallyKnownPositions => ?_
  refine (silences_refl _).bind fun listing => ?_
  refine (silences_refl _).bind fun brokerPositions => ?_
  refine (Silences.foldlM runCycle_silences cycles _).bind fun openPositions => ?_
  exact silences_refl _

end Demo

/-- What one assistant's walkthrough does, apart from writing recommendations down, the
walkthrough may do with any other, and come to the same end. All that advice can do is to
end it, where a recommendation cannot be written down. -/
theorem assistants_interchangeable {platform : Platform} {assistant : AssistantEngine}
    (other : AssistantEngine) {cycles : List Demo.ScriptedCycle} {events : List DemoEvent}
    {outcome : Outcome DemoError Demo.RestartReport}
    (trace : Trace (Demo.walkthrough platform assistant cycles) events outcome) :
    ∃ core events' outcome', Thins Demo.isAdvice events core ∧ Thins Demo.isAdvice events' core ∧
      Trace (Demo.walkthrough platform other cycles) events' outcome' ∧
      EndsLike Demo.adviceLost events outcome outcome' := by
  obtain ⟨core, outcome', thins, silent, ends⟩ := (Demo.walkthrough_silences cycles).trace trace
  obtain ⟨events', thins', advised⟩ := (Demo.walkthrough_silences cycles).restore silent
  exact ⟨core, events', outcome', thins, thins', advised, ends⟩

/-- An assistant with something to say about every event. -/
def alarmedAssistant : AssistantEngine := fun _ => [{
  severity := .critical
  message := "spreads are widening"
  suggestedChange := some {
    field := "risk.base_risk_percent", suggestedValue := "0.5", rationale := "volatility" } }]

/-- The walkthrough of the source with an alarmed assistant writes three recommendations
down, and does besides what it does without them. -/
theorem alarmed_interchangeable :
    let played := (Demo.walkthrough .winter alarmedAssistant Demo.scriptedCycles).play
      DemoHost.answer demoHost
    played.1.length = ((Demo.runDemo .winter).play DemoHost.answer demoHost).1.length + 6 ∧
      ∃ core events' outcome', Thins Demo.isAdvice played.1 core ∧
        Thins Demo.isAdvice events' core ∧ Trace (Demo.runDemo .winter) events' outcome' ∧
        EndsLike Demo.adviceLost played.1 played.2.1 outcome' := by
  intro played
  exact ⟨by decide +kernel, assistants_interchangeable loggingAssistant (Program.play_trace ..)⟩

end Oboobot.Daemon
