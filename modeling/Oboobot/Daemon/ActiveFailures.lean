import Oboobot.Daemon.Health
import Mathlib.Data.List.Induction

/-! What the monitor says after any history of reports and clearances: the worst
of the failures that were last heard of by a report. -/

namespace Oboobot.Daemon

open Domain

inductive HealthCall where
  | reportFailure (failure : HealthCheckFailure)
  | clearFailure (failure : HealthCheckFailure)
  deriving DecidableEq

namespace HealthCall

def failure : HealthCall → HealthCheckFailure
  | reportFailure failure => failure
  | clearFailure failure => failure

def apply (monitor : HealthMonitor) : HealthCall → HealthMonitor
  | reportFailure failure => monitor.reportFailure failure
  | clearFailure failure => monitor.clearFailure failure

end HealthCall

/-- The latest call about this failure. -/
def latestCall (calls : List HealthCall) (failure : HealthCheckFailure) : Option HealthCall :=
  (calls.filter fun call => call.failure = failure).getLast?

/-- The latest call about this failure reported it. -/
def Ongoing (calls : List HealthCall) (failure : HealthCheckFailure) : Prop :=
  latestCall calls failure = some (.reportFailure failure)

instance (calls : List HealthCall) (failure : HealthCheckFailure) :
    Decidable (Ongoing calls failure) :=
  inferInstanceAs (Decidable (_ = _))

/-- Healthy without any problem, else as bad as the worst of them. -/
structure Worst (problem : HealthCheckFailure → Prop) (state : SystemState) : Prop where
  bound : ∀ failure, problem failure → severityRank (severityFor failure) ≤ severityRank state
  attained : (state = .healthy ∧ ∀ failure, ¬problem failure) ∨
    ∃ failure, problem failure ∧ severityFor failure = state

theorem severityRank_injective {first second : SystemState}
    (same : severityRank first = severityRank second) : first = second := by
  cases first <;> cases second <;> first | rfl | cases same

/-- More problems are no better. -/
theorem Worst.mono {fewer more : HealthCheckFailure → Prop} {first second : SystemState}
    (worst : Worst fewer first) (worse : Worst more second)
    (subset : ∀ failure, fewer failure → more failure) :
    severityRank first ≤ severityRank second := by
  rcases worst.attained with ⟨rfl, _⟩ | ⟨failure, found, rfl⟩
  · exact Nat.zero_le _
  · exact worse.bound failure (subset failure found)

/-- Only one state is the worst. -/
theorem Worst.unique {problem : HealthCheckFailure → Prop} {first second : SystemState}
    (worst : Worst problem first) (other : Worst problem second) : first = second :=
  severityRank_injective
    (le_antisymm (worst.mono other fun _ found => found) (other.mono worst fun _ found => found))

theorem allowsNewEntries_eq_false_iff (state : SystemState) :
    allowsNewEntries state = false ↔ severityRank .readOnly ≤ severityRank state := by
  cases state <;> decide

namespace HealthMonitor

theorem mem_reportFailure (monitor : HealthMonitor) (failure other : HealthCheckFailure) :
    other ∈ (monitor.reportFailure failure).activeFailures ↔
      other = failure ∨ other ∈ monitor.activeFailures := by
  simp [reportFailure]

theorem mem_clearFailure (monitor : HealthMonitor) (failure other : HealthCheckFailure) :
    other ∈ (monitor.clearFailure failure).activeFailures ↔
      other ∈ monitor.activeFailures ∧ other ≠ failure := by
  simp [clearFailure]

/-- `max_by_key(severity_rank)` over some failures finds the worst of them. -/
theorem worst_currentState (failures : List HealthCheckFailure) :
    Worst (· ∈ failures) (currentState ⟨failures⟩) := by
  unfold currentState
  induction failures using List.reverseRecOn with
  | nil => exact ⟨List.forall_mem_nil _, .inl ⟨rfl, fun _ => List.not_mem_nil⟩⟩
  | append_singleton earlier last ih =>
    simp only [List.map_append, List.foldl_append, List.map_cons, List.map_nil, List.foldl_cons,
      List.foldl_nil]
    obtain ⟨bound, attained⟩ := ih
    set worst := (earlier.map severityFor).foldl
      (fun worst state => if severityRank worst ≤ severityRank state then state else worst) .healthy
    by_cases worse : severityRank worst ≤ severityRank (severityFor last)
    · rw [if_pos worse]
      refine ⟨?_, .inr ⟨last, by simp, rfl⟩⟩
      intro failure member
      rcases List.mem_append.mp member with old | new
      · exact (bound failure old).trans worse
      · rw [List.mem_singleton.mp new]
    · rw [if_neg worse]
      refine ⟨?_, ?_⟩
      · intro failure member
        rcases List.mem_append.mp member with old | new
        · exact bound failure old
        · rw [List.mem_singleton.mp new]
          exact le_of_lt (not_le.mp worse)
      · rcases attained with ⟨healthy, _⟩ | ⟨failure, member, same⟩
        · exact absurd (healthy ▸ Nat.zero_le _) worse
        · exact .inr ⟨failure, List.mem_append_left _ member, same⟩

theorem worst_of_mem_iff {problem : HealthCheckFailure → Prop} {monitor : HealthMonitor}
    (active : ∀ failure, failure ∈ monitor.activeFailures ↔ problem failure) :
    Worst problem monitor.currentState := by
  have same : problem = (· ∈ monitor.activeFailures) := funext fun failure => propext (active failure).symm
  rw [same]
  exact worst_currentState monitor.activeFailures

/-- A fresh monitor after a sequence of calls. -/
def after (calls : List HealthCall) : HealthMonitor := calls.foldl HealthCall.apply .new

theorem after_append_singleton (calls : List HealthCall) (call : HealthCall) :
    after (calls ++ [call]) = call.apply (after calls) := by
  simp [after]

/-- A failure is active as long as the latest word about it was a report. -/
theorem mem_after_iff (calls : List HealthCall) (failure : HealthCheckFailure) :
    failure ∈ (after calls).activeFailures ↔ Ongoing calls failure := by
  induction calls using List.reverseRecOn with
  | nil => simp [after, new, Ongoing, latestCall]
  | append_singleton earlier call ih =>
    have latest : latestCall (earlier ++ [call]) failure =
        if call.failure = failure then some call else latestCall earlier failure := by
      by_cases about : call.failure = failure <;> simp [latestCall, about]
    rw [after_append_singleton, Ongoing, latest]
    by_cases about : call.failure = failure
    · subst about
      cases call with
      | reportFailure failure => simp [HealthCall.apply, mem_reportFailure, HealthCall.failure]
      | clearFailure failure => simp [HealthCall.apply, mem_clearFailure, HealthCall.failure]
    · have other : failure ≠ call.failure := fun same => about same.symm
      rw [if_neg about, ← Ongoing, ← ih]
      cases call with
      | reportFailure failure => simp_all [HealthCall.apply, mem_reportFailure, HealthCall.failure]
      | clearFailure failure => simp_all [HealthCall.apply, mem_clearFailure, HealthCall.failure]

end HealthMonitor

/-- After any calls the state is the worst of the ongoing failures, in whatever
order their set yields them; a report never improves it and a clearance never
worsens it; and entries are off exactly while a grave failure is ongoing. -/
theorem monitor_worst_ongoing (calls : List HealthCall) :
    Worst (Ongoing calls) (HealthMonitor.after calls).currentState ∧
    (∀ iteration, iteration.Perm (HealthMonitor.after calls).activeFailures →
      HealthMonitor.currentState ⟨iteration⟩ = (HealthMonitor.after calls).currentState) ∧
    (∀ failure, severityRank (HealthMonitor.after calls).currentState ≤
      severityRank (HealthMonitor.after (calls ++ [.reportFailure failure])).currentState) ∧
    (∀ failure, severityRank (HealthMonitor.after (calls ++ [.clearFailure failure])).currentState ≤
      severityRank (HealthMonitor.after calls).currentState) ∧
    (allowsNewEntries (HealthMonitor.after calls).currentState = false ↔ ∃ failure,
      Ongoing calls failure ∧
        (severityFor failure = .readOnly ∨ severityFor failure = .emergencyShutdown)) := by
  have active := HealthMonitor.mem_after_iff calls
  have worst : Worst (Ongoing calls) (HealthMonitor.after calls).currentState :=
    HealthMonitor.worst_of_mem_iff active
  refine ⟨worst, ?_, ?_, ?_, ?_⟩
  · intro iteration perm
    have reordered : Worst (Ongoing calls) (HealthMonitor.currentState ⟨iteration⟩) :=
      HealthMonitor.worst_of_mem_iff fun failure => perm.mem_iff.trans (active failure)
    exact reordered.unique worst
  · intro failure
    rw [HealthMonitor.after_append_singleton]
    apply (HealthMonitor.worst_currentState _).mono (HealthMonitor.worst_currentState _)
    intro other member
    exact (HealthMonitor.mem_reportFailure _ failure other).mpr (.inr member)
  · intro failure
    rw [HealthMonitor.after_append_singleton]
    apply (HealthMonitor.worst_currentState _).mono (HealthMonitor.worst_currentState _)
    intro other member
    exact ((HealthMonitor.mem_clearFailure _ failure other).mp member).1
  · rw [allowsNewEntries_eq_false_iff]
    constructor
    · intro grave
      rcases worst.attained with ⟨healthy, _⟩ | ⟨failure, ongoing, same⟩
      · rw [healthy] at grave
        exact absurd grave (by decide)
      · refine ⟨failure, ongoing, ?_⟩
        rw [same]
        cases state : (HealthMonitor.after calls).currentState with
        | readOnly => exact .inl rfl
        | emergencyShutdown => exact .inr rfl
        | healthy => exact absurd (state ▸ grave) (by decide)
        | degraded => exact absurd (state ▸ grave) (by decide)
    · rintro ⟨failure, ongoing, readOnly | shutdown⟩
      · exact readOnly ▸ worst.bound failure ongoing
      · have bound := worst.bound failure ongoing
        rw [shutdown] at bound
        exact le_trans (by decide) bound

end Oboobot.Daemon
