import Oboobot.SessionTime.CycleWindows
import Mathlib.Data.List.Induction

/-! The next window center: found among the hours of two days, earliest instant first. -/

namespace Oboobot.SessionTime

open Domain

/-- `LocalResult::single()`. -/
def LocalResult.single? {newYork : NewYork} : LocalResult newYork → Option (NyTime newYork)
  | .single time => some time
  | _ => .none

variable {newYork : NewYork}

/-- The hours of today and tomorrow that the clock has not passed, as the two loops list them. -/
def cycleCandidates (ny : NyTime newYork) : List NaiveDateTime :=
  [0, 1].flatMap fun dayOffset : Int =>
    let day : NaiveDate := ny.dateNaive + dayOffset
    (macroCycleHours.map (NaiveDate.andHour day)).filter fun candidateNaive =>
      !(candidateNaive < ny.naiveLocal)

/-- The instant of a candidate, or `ny` itself where it is not a single one. -/
def cycleCandidate (ny : NyTime newYork) (candidateNaive : NaiveDateTime) : NyTime newYork :=
  (fromLocalDatetime newYork candidateNaive).single?.getD ny

/-- Keep the current best only if it is earlier. -/
def sooner (best : Option (NyTime newYork)) (candidate : NyTime newYork) : Option (NyTime newYork) :=
  match best with
  | some currentBest =>
    if currentBest.instant < candidate.instant then some currentBest else some candidate
  | none => some candidate

/-- The earliest candidate. -/
def bestCycle (ny : NyTime newYork) : Option (NyTime newYork) :=
  (cycleCandidates ny).foldl (fun best candidateNaive =>
    sooner best (cycleCandidate ny candidateNaive)) none

/-- The next window center at or after `instant`. -/
def nextMacroCycleAfter (newYork : NewYork) (instant : Instant) : Instant :=
  let ny := toNy newYork instant
  ((bestCycle ny).getD ny).instant

theorem isLeast_sooner {times : Set Int} {best : NyTime newYork}
    (least : IsLeast times best.instant) (candidate : NyTime newYork) :
    ∃ next, sooner (some best) candidate = some next ∧
      IsLeast (insert candidate.instant times) next.instant := by
  unfold sooner
  dsimp only
  split
  · rename_i earlier
    refine ⟨best, rfl, Set.mem_insert_of_mem _ least.1, ?_⟩
    rintro time (rfl | member)
    · exact le_of_lt earlier
    · exact least.2 member
  · rename_i notEarlier
    refine ⟨candidate, rfl, Set.mem_insert _ _, ?_⟩
    rintro time (rfl | member)
    · exact le_refl _
    · exact (not_lt.mp notEarlier).trans (least.2 member)

/-- The loop ends with the earliest of the instants it has seen. -/
theorem isLeast_foldl_sooner {candidates : List (NyTime newYork)} (nonempty : candidates ≠ []) :
    ∃ best, candidates.foldl sooner none = some best ∧
      IsLeast {time | ∃ candidate ∈ candidates, candidate.instant = time} best.instant := by
  induction candidates using List.reverseRecOn with
  | nil => exact absurd rfl nonempty
  | append_singleton earlier candidate ih =>
    rw [List.foldl_append, List.foldl_cons, List.foldl_nil]
    have seen : {time | ∃ other ∈ earlier ++ [candidate], other.instant = time} =
        insert candidate.instant {time | ∃ other ∈ earlier, other.instant = time} := by
      ext time
      simp [or_and_right, exists_or, or_comm, eq_comm]
    rw [seen]
    by_cases first : earlier = []
    · subst first
      exact ⟨candidate, rfl, by simp⟩
    · obtain ⟨best, folded, least⟩ := ih first
      rw [folded]
      exact isLeast_sooner least candidate

theorem mem_cycleCandidates_iff (ny : NyTime newYork) (candidateNaive : NaiveDateTime) :
    candidateNaive ∈ cycleCandidates ny ↔ ny.naiveLocal ≤ candidateNaive ∧
      ∃ dayOffset : Int, (dayOffset = 0 ∨ dayOffset = 1) ∧ ∃ hour ∈ macroCycleHours,
        NaiveDate.andHour (ny.dateNaive + dayOffset : Int) hour = candidateNaive := by
  unfold cycleCandidates
  simp only [List.mem_flatMap, List.mem_cons, List.not_mem_nil, or_false, List.mem_filter,
    List.mem_map, Bool.not_eq_true', decide_eq_false_iff_not, not_lt]
  constructor
  · rintro ⟨dayOffset, day, ⟨hour, member, same⟩, ahead⟩
    exact ⟨ahead, dayOffset, day, hour, member, same⟩
  · rintro ⟨ahead, dayOffset, day, hour, member, same⟩
    exact ⟨dayOffset, day, ⟨hour, member, same⟩, ahead⟩

/-- Every candidate is read at a single instant, a center at or after the given one. -/
theorem cycleCandidate_spec {instant : Instant} {candidateNaive : NaiveDateTime}
    (member : candidateNaive ∈ cycleCandidates (toNy newYork instant)) : ∃ center,
      fromLocalDatetime newYork candidateNaive = .single ⟨center⟩ ∧
      newYork.reading center = candidateNaive ∧ newYork.IsCycleCenter center ∧ instant ≤ center := by
  obtain ⟨ahead, dayOffset, _, hour, isHour, rfl⟩ := (mem_cycleCandidates_iff _ _).mp member
  have single := singleHour_of_mem isHour
  obtain ⟨center, converted, reads⟩ := fromLocalDatetime_andHour newYork single
    ((toNy newYork instant).dateNaive + dayOffset : Int)
  have shows : newYork.ShowsHour hour center := by
    unfold NewYork.ShowsHour
    rw [reads]
    exact andHour_emod single _
  have notRepeated := hour_ne_one_of_showsHour single shows
  exact ⟨center, converted, reads, ⟨hour, isHour, shows⟩,
    (NewYork.reading_le_reading_iff (.inr notRepeated)).mp (reads ▸ ahead)⟩

/-- The first multiple of `step` from `now` on is less than a step away. -/
theorem exists_least_multiple (now : Int) {step : Int} (positive : 0 < step) : ∃ next,
    IsLeast {shown : Int | now ≤ shown ∧ shown % step = 0} next ∧ next < now + step := by
  refine ⟨now + -now % step, ⟨⟨?_, ?_⟩, ?_⟩, ?_⟩
  · exact le_add_of_nonneg_right (Int.emod_nonneg _ positive.ne')
  · simp
  · rintro other ⟨ahead, multiple⟩
    have same : (other - now) % step = -now % step := by
      rw [sub_eq_add_neg, Int.add_emod, multiple, zero_add, Int.emod_emod]
    have parts := Int.mul_ediv_add_emod (other - now) step
    have steps := mul_nonneg positive.le (Int.ediv_nonneg (sub_nonneg.mpr ahead) positive.le)
    rw [same] at parts
    linarith
  · exact add_lt_add_of_le_of_lt (le_refl now) (Int.emod_lt_of_pos _ positive)

/-- The next reading of a full three hours is among the candidates. -/
theorem exists_cycleCandidate (newYork : NewYork) (instant : Instant) :
    ∃ candidateNaive ∈ cycleCandidates (toNy newYork instant),
      candidateNaive < newYork.reading instant + Duration.hours 3 ∧
      ∀ shown : Int, shown % Duration.hours 3 = 0 → newYork.reading instant ≤ shown →
        candidateNaive ≤ shown := by
  have local' : (toNy newYork instant).naiveLocal = newYork.reading instant := rfl
  have date : (toNy newYork instant).dateNaive = newYork.reading instant / Duration.days 1 := rfl
  simp only [mem_cycleCandidates_iff, local', date]
  generalize newYork.reading instant = now
  obtain ⟨next, ⟨⟨ahead, multiple⟩, least⟩, short⟩ :=
    exists_least_multiple now (show 0 < Duration.hours 3 by decide)
  obtain ⟨hour, isHour, shows⟩ := (exists_cycleHour_iff next).mpr multiple
  refine ⟨next, ⟨ahead, next / Duration.days 1 - now / Duration.days 1, ?_, hour, isHour, ?_⟩,
    short, fun shown fullHours later => least ⟨later, fullHours⟩⟩
  · simp only [hours_eq, days_eq] at *
    dsimp only [NaiveDateTime] at *
    omega
  · rw [NaiveDate.andHour, ← shows]
    simp only [days_eq]
    dsimp only [NaiveDateTime]
    omega

/-- What the search comes to. -/
theorem isLeast_bestCycle (newYork : NewYork) (instant : Int) :
    ∃ best : NyTime newYork, bestCycle (toNy newYork instant) = some best ∧
      IsLeast {center : Int | instant ≤ center ∧ newYork.IsCycleCenter center} best.instant ∧
      best.instant - instant < Duration.hours 4 := by
  obtain ⟨next, isNext, short, first⟩ := exists_cycleCandidate newYork instant
  have nonempty : (cycleCandidates (toNy newYork instant)).map
      (cycleCandidate (toNy newYork instant)) ≠ [] := by
    intro empty
    rw [List.map_eq_nil_iff.mp empty] at isNext
    cases isNext
  obtain ⟨best, folded, ⟨candidate, member, same⟩, least⟩ := isLeast_foldl_sooner nonempty
  have found (candidateNaive : NaiveDateTime)
      (member : candidateNaive ∈ cycleCandidates (toNy newYork instant)) : ∃ center : Int,
      cycleCandidate (toNy newYork instant) candidateNaive = ⟨center⟩ ∧
        newYork.reading center = candidateNaive ∧ newYork.IsCycleCenter center ∧
        instant ≤ center := by
    obtain ⟨center, converted, spec⟩ := cycleCandidate_spec member
    refine ⟨center, ?_, spec⟩
    rw [cycleCandidate, converted]
    rfl
  obtain ⟨naive, isCandidate, rfl⟩ := List.mem_map.mp member
  obtain ⟨chosen, isChosen, _, isCenter, after⟩ := found naive isCandidate
  obtain ⟨center, isNextCenter, reads, nextCenter, nextAfter⟩ := found next isNext
  have atMost : best.instant ≤ center :=
    least ⟨_, List.mem_map_of_mem isNext, by rw [isNextCenter]⟩
  rw [bestCycle, ← List.foldl_map, folded]
  refine ⟨best, rfl, ⟨?_, ?_⟩, ?_⟩
  · rw [← same, isChosen]
    exact ⟨after, isCenter⟩
  · rintro other ⟨later, isOther⟩
    obtain ⟨hour, isHour, shows⟩ := id isOther
    have notRepeated := hour_ne_one_of_showsHour (singleHour_of_mem isHour) shows
    have forward := (NewYork.reading_le_reading_iff (.inr notRepeated)).mpr later
    have reading := first _ ((newYork.isCycleCenter_iff other).mp isOther) forward
    exact atMost.trans
      ((NewYork.reading_le_reading_iff (.inr notRepeated)).mp (reads.trans_le reading))
  · have before := newYork.standard_or_daylight instant
    have then' := newYork.standard_or_daylight center
    unfold NewYork.reading at reads short
    simp only [hours_eq] at *
    dsimp only [Instant, Duration, NaiveDateTime] at *
    omega

/-- The next center is the least one at or after the instant and at most four hours
away. It lies in its own window, and neither fallback of the search is ever used. -/
theorem isLeast_nextMacroCycleAfter (newYork : NewYork) (instant : Int) :
    IsLeast {center | instant ≤ center ∧ newYork.IsCycleCenter center}
        (nextMacroCycleAfter newYork instant) ∧
      nextMacroCycleAfter newYork instant - instant ≤ Duration.hours 4 ∧
      isWithinMacroCycle newYork (nextMacroCycleAfter newYork instant) = true ∧
      (∀ candidateNaive ∈ cycleCandidates (toNy newYork instant), ∃ time,
        fromLocalDatetime newYork candidateNaive = .single time) ∧
      ∃ best, bestCycle (toNy newYork instant) = some best := by
  obtain ⟨best, found, least, near⟩ := isLeast_bestCycle newYork instant
  have next : nextMacroCycleAfter newYork instant = best.instant := by
    rw [nextMacroCycleAfter, found]
    rfl
  rw [next]
  refine ⟨least, le_of_lt near, ?_, ?_, best, found⟩
  · refine (isWithinMacroCycle_iff_center _ _).mpr ⟨best.instant, least.1.2, rfl, ?_⟩
    rw [sub_self, abs_zero]
    decide
  · intro candidateNaive member
    obtain ⟨center, converted, _⟩ := cycleCandidate_spec member
    exact ⟨_, converted⟩

end Oboobot.SessionTime
