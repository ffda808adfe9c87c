import Mathlib.Order.Bounds.Basic
import Mathlib.Data.Int.LeastGreatest

/-! Schedules of boundaries in discrete time: the next boundary after a moment,
and the last one at or before it. -/

namespace Oboobot.SessionTime

/-- Boundaries that reach back without end, and the next one after every moment. -/
structure Schedule where
  boundaries : Set Int
  next : Int → Int
  isLeast_next : ∀ after, IsLeast {boundary | after < boundary ∧ boundary ∈ boundaries} (next after)
  reachesBack : ∀ moment, ∃ boundary ∈ boundaries, boundary ≤ moment

namespace Schedule

variable (schedule : Schedule)

/-- `boundary` is the last one at or before `moment`. -/
def IsLast (moment boundary : Int) : Prop :=
  IsGreatest {earlier | earlier ≤ moment ∧ earlier ∈ schedule.boundaries} boundary

theorem exists_isLast (moment : Int) : ∃ boundary, schedule.IsLast moment boundary := by
  obtain ⟨earlier, member, before⟩ := schedule.reachesBack moment
  obtain ⟨boundary, last, greatest⟩ :=
    Int.exists_greatest_of_bdd (P := fun other => other ≤ moment ∧ other ∈ schedule.boundaries)
      ⟨moment, fun _ held => held.1⟩ ⟨earlier, before, member⟩
  exact ⟨boundary, last, fun other held => greatest other held⟩

variable {schedule}

/-- Up to the next boundary, the last boundary stays the same one. -/
theorem IsLast.keep {first moment boundary : Int} (last : schedule.IsLast first boundary)
    (later : first ≤ moment) (before : moment < schedule.next first) :
    schedule.IsLast moment boundary := by
  refine ⟨⟨last.1.1.trans later, last.1.2⟩, ?_⟩
  intro other ⟨atMost, member⟩
  rcases le_or_gt other first with earlier | after
  · exact last.2 ⟨earlier, member⟩
  · exact absurd ((schedule.isLeast_next first).2 ⟨after, member⟩) (not_le.mpr (atMost.trans_lt before))

/-- And so does the next one. -/
theorem next_eq_of_lt {first moment : Int} (later : first ≤ moment)
    (before : moment < schedule.next first) : schedule.next moment = schedule.next first := by
  refine (schedule.isLeast_next moment).unique ⟨⟨before, (schedule.isLeast_next first).1.2⟩, ?_⟩
  intro other ⟨after, member⟩
  exact (schedule.isLeast_next first).2 ⟨later.trans_lt after, member⟩

/-- A boundary that has been reached is at most the last one. -/
theorem IsLast.next_le {first moment boundary : Int} (last : schedule.IsLast moment boundary)
    (reached : schedule.next first ≤ moment) : schedule.next first ≤ boundary :=
  last.2 ⟨reached, (schedule.isLeast_next first).1.2⟩

end Schedule

end Oboobot.SessionTime
