import Oboobot.Daemon.Host
import Oboobot.SessionTime.CycleWindows

/-! The collision guard measures time where windows are meant: an entry always
blocks its own window, and sometimes part of the next one. -/

namespace Oboobot.Daemon

open Domain SessionTime

/-- `instant` lies in the window of `center`, by the whole minutes that windows are measured in. -/
def InWindowOf (newYork : NewYork) (center instant : Int) : Prop :=
  newYork.IsCycleCenter center ∧
    |Duration.numMinutes (instant - center)| ≤ macroCycleHalfWidthMinutes

def SameWindow (newYork : NewYork) (entry evaluation : Int) : Prop :=
  ∃ center, InWindowOf newYork center entry ∧ InWindowOf newYork center evaluation

/-- The entry lies in one window and the evaluation in the next, and either the entry is more
than ten minutes later in its window than the evaluation is in its own, or the clock goes
forward in between, so that the centers are only two hours apart. -/
def LateThenEarly (newYork : NewYork) (entry evaluation : Int) : Prop :=
  ∃ center next : Int, InWindowOf newYork center entry ∧ InWindowOf newYork next evaluation ∧
    (next - center = Duration.hours 3 ∧
        Duration.minutes 10 < (entry - center) - (evaluation - next) ∨
      next - center = Duration.hours 2)

variable {newYork : NewYork} {entry evaluation : Int}

theorem InWindowOf.near {center instant : Int} (inside : InWindowOf newYork center instant) :
    |instant - center| < Duration.minutes 11 :=
  (abs_numMinutes_le_iff _).mp inside.2

theorem InWindowOf.unique {center center' instant : Int}
    (inside : InWindowOf newYork center instant) (inside' : InWindowOf newYork center' instant) :
    center = center' :=
  center_unique inside.1 inside'.1 inside.near inside'.near

theorem exists_inWindowOf {instant : Int} (within : isWithinMacroCycle newYork instant = true) :
    ∃ center, InWindowOf newYork center instant := by
  obtain ⟨center, isCenter, _, near⟩ := (isWithinMacroCycle_iff_center newYork instant).mp within
  exact ⟨center, isCenter, (abs_numMinutes_le_iff _).mpr near⟩

/-- An entry is too recent for another window exactly if it was late and the evaluation is early. -/
theorem age_lt_iff {center next : Int} (inside : InWindowOf newYork center entry)
    (inside' : InWindowOf newYork next evaluation) (later : entry ≤ evaluation) :
    evaluation - entry < Duration.minutes minMinutesBetweenEntriesSamePair ↔
      center = next ∨ next - center = Duration.hours 3 ∧
        Duration.minutes 10 < (entry - center) - (evaluation - next) ∨
      next - center = Duration.hours 2 := by
  have near := inside.near
  have near' := inside'.near
  have order : center ≤ next := by
    by_contra back
    have gap := NewYork.hours_le_of_isCycleCenter inside'.1 inside.1 (not_le.mp back)
    simp only [hours_eq, minutes_eq, abs_lt] at *
    dsimp only [Instant, Duration] at *
    omega
  rw [minMinutesBetweenEntriesSamePair]
  rcases eq_or_lt_of_le order with rfl | apart
  · refine iff_of_true ?_ (.inl rfl)
    simp only [minutes_eq, abs_lt] at *
    omega
  · have gap := NewYork.hours_le_of_isCycleCenter inside.1 inside'.1 apart
    simp only [hours_eq, minutes_eq, abs_lt] at *
    dsimp only [Instant, Duration] at *
    omega

/-- The guard of a position, where both times lie in windows, means the same window
exactly if the entry was not late and the evaluation early. -/
theorem alreadyEnteredThisCycle_iff_sameWindow (position : Position) (now : Instant)
    (entered : isWithinMacroCycle newYork position.entryTime = true)
    (evaluated : isWithinMacroCycle newYork now = true) (later : position.entryTime ≤ now) :
    (alreadyEnteredThisCycle position.pair [position] now = true ↔
        SameWindow newYork position.entryTime now) ↔
      ¬LateThenEarly newYork position.entryTime now := by
  obtain ⟨center, inside⟩ := exists_inWindowOf entered
  obtain ⟨next, inside'⟩ := exists_inWindowOf evaluated
  have blocks : alreadyEnteredThisCycle position.pair [position] now = true ↔
      now - position.entryTime < Duration.minutes minMinutesBetweenEntriesSamePair := by
    simp [alreadyEnteredThisCycle]
  have same : SameWindow newYork position.entryTime now ↔ center = next := by
    constructor
    · rintro ⟨other, first, second⟩
      exact (inside.unique first).trans (second.unique inside')
    · rintro rfl
      exact ⟨center, inside, inside'⟩
  have late : LateThenEarly newYork position.entryTime now ↔
      next - center = Duration.hours 3 ∧
        Duration.minutes 10 < (position.entryTime - center) - (now - next) ∨
      next - center = Duration.hours 2 := by
    constructor
    · rintro ⟨other, other', first, second, spaced⟩
      rwa [inside.unique first, inside'.unique second]
    · exact fun spaced => ⟨center, next, inside, inside', spaced⟩
  rw [blocks, age_lt_iff inside inside' later, same, late]
  constructor
  · intro claimed spaced
    have equal := claimed.mp (.inr spaced)
    rw [equal, sub_self] at spaced
    exact absurd spaced (by simp [hours_eq])
  · intro notLate
    exact or_iff_left notLate

/-- An entry five minutes after 03:00 and an evaluation five minutes later. -/
theorem sameWindow_blocks :
    (alreadyEnteredThisCycle "EURUSD"
        [boughtPosition 1 "EURUSD" 1 1 (wednesdayMorning + Duration.minutes 5) none]
        (wednesdayMorning + Duration.minutes 10) = true ↔
      SameWindow .standardTime (wednesdayMorning + Duration.minutes 5)
        (wednesdayMorning + Duration.minutes 10)) ↔
    ¬LateThenEarly .standardTime (wednesdayMorning + Duration.minutes 5)
      (wednesdayMorning + Duration.minutes 10) :=
  alreadyEnteredThisCycle_iff_sameWindow
    (boughtPosition 1 "EURUSD" 1 1 (wednesdayMorning + Duration.minutes 5) none) _
    (by decide) (by decide) (by decide)

/-- An entry five minutes after 03:00 still blocks ten minutes before 06:00. -/
theorem lateEntry_blocks_nextWindow :
    ¬∀ (newYork : NewYork) (position : Position) (now : Instant),
      isWithinMacroCycle newYork position.entryTime = true →
      isWithinMacroCycle newYork now = true → position.entryTime ≤ now →
      (alreadyEnteredThisCycle position.pair [position] now = true ↔
        SameWindow newYork position.entryTime now) := by
  intro claimed
  obtain ⟨center, first, second⟩ := (claimed .standardTime
    (boughtPosition 1 "EURUSD" 1 1 (wednesdayMorning + Duration.minutes 5) none)
    (wednesdayMorning + Duration.minutes 170) (by decide) (by decide) (by decide)).mp (by decide)
  have early : InWindowOf .standardTime wednesdayMorning
      (wednesdayMorning + Duration.minutes 5) := ⟨by decide, by decide⟩
  rw [first.unique early] at second
  exact absurd second.2 (by decide)

end Oboobot.Daemon
