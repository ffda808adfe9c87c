import Oboobot.SessionTime.LevelBoundaries

/-! The search for the next occurrence of an hour in New York: where it begins, how long
it goes on, and what it ends with. -/

namespace Oboobot.SessionTime

open Domain

/-- The loop over the dates from `start` on ends after so many steps. -/
structure LoopEnds (target : Weekday) (start : Int) (steps : Nat) : Prop where
  found : NaiveDate.weekday (start + steps : Int) = target
  first : ∀ earlier < steps, NaiveDate.weekday (start + earlier : Int) ≠ target

theorem loopEnds_iff {target : Weekday} {start : Int} {steps : Nat} :
    LoopEnds target start steps ↔
      (steps : Int) = (target.numDaysFromSunday - (start + 4)) % 7 := by
  have range := target.numDaysFromSunday_range
  constructor
  · intro ends
    have found := (weekday_eq_iff _ _).mp ends.found
    by_contra differs
    have first := ends.first ((target.numDaysFromSunday - (start + 4)) % 7).toNat (by omega)
    rw [Ne, weekday_eq_iff] at first
    omega
  · intro same
    constructor
    · rw [weekday_eq_iff]
      omega
    · intro earlier before
      rw [Ne, weekday_eq_iff]
      omega

theorem exists_loopEnds (target : Weekday) (start : Int) :
    ∃ steps < 7, LoopEnds target start steps :=
  ⟨((target.numDaysFromSunday - (start + 4)) % 7).toNat, by omega,
    loopEnds_iff.mpr (Int.toNat_of_nonneg (by omega))⟩

/-- Further rounds change nothing. -/
theorem LoopEnds.seekWeekday {target : Weekday} {start : Int} {steps : Nat}
    (ends : LoopEnds target start steps) {rounds : Nat} (enough : steps ≤ rounds) :
    seekWeekday target rounds start = (start + steps : Int) := by
  have residue := loopEnds_iff.mp ends
  rw [seekWeekday_eq target rounds start (by omega), ← residue]

section occurrence

variable (newYork : NewYork) (after : Instant) (hour : Int) (weekday : Option Weekday)

/-- Today, or tomorrow if the hour has come. -/
def firstCandidate : NaiveDate :=
  if (toNy newYork after).hour ≥ hour then ((toNy newYork after).dateNaive + 1 : Int)
  else (toNy newYork after).dateNaive

def candidateDate : NaiveDate :=
  match weekday with
  | some target => seekWeekday target 7 (firstCandidate newYork after hour)
  | none => firstCandidate newYork after hour

/-- The search ends with the first instant at which the clock shows the hour, on the weekday
if one is given: its loop ends, and the clock shows the candidate exactly once. -/
structure IsNextOccurrence (instant : Instant) : Prop where
  least : IsLeast {moment : Int | after < moment ∧ newYork.ShowsHour hour moment ∧
    ∀ target ∈ weekday,
      NaiveDate.weekday (NaiveDateTime.date (newYork.reading moment)) = target} instant
  loop : ∀ target ∈ weekday, ∃ steps < 7,
    LoopEnds target (firstCandidate newYork after hour) steps ∧ ∀ rounds, steps ≤ rounds →
      seekWeekday target rounds (firstCandidate newYork after hour) =
        (firstCandidate newYork after hour + steps : Int)
  single : fromLocalDatetime newYork
    (NaiveDate.andHour (candidateDate newYork after hour weekday) hour) = .single ⟨instant⟩

variable {hour}

/-- Neither the fallback for an ambiguous time nor the one for a missing time is used. -/
theorem fromLocalDatetime_candidateDate (single : SingleHour hour) :
    fromLocalDatetime newYork (NaiveDate.andHour (candidateDate newYork after hour weekday) hour) =
      .single ⟨nextNyOccurrence newYork after hour weekday⟩ := by
  obtain ⟨instant, converted, _⟩ := fromLocalDatetime_andHour newYork single
    (candidateDate newYork after hour weekday)
  have found : nextNyOccurrence newYork after hour weekday = instant := by
    unfold nextNyOccurrence
    unfold candidateDate firstCandidate at converted
    dsimp only
    cases weekday <;> rw [converted]
  rw [found, converted]

theorem isLeast_nextNyOccurrence_option (single : SingleHour hour) :
    IsLeast {moment : Int | after < moment ∧ newYork.ShowsHour hour moment ∧
      ∀ target ∈ weekday,
        NaiveDate.weekday (NaiveDateTime.date (newYork.reading moment)) = target}
      (nextNyOccurrence newYork after hour weekday) := by
  cases weekday with
  | none => simpa using isLeast_nextNyOccurrence newYork after single
  | some target =>
    simpa [NewYork.ShowsHourOn, and_comm] using
      isLeast_nextNyOccurrence_weekday newYork after single target

/-- Whatever the instant, the hour and the weekday, the search finds the next occurrence. -/
theorem nextNyOccurrence_isNext (boundary : hour ∈ [(0 : Int), 6, 12, 18]) :
    IsNextOccurrence newYork after hour weekday (nextNyOccurrence newYork after hour weekday) := by
  have single : SingleHour hour := by
    simp only [List.mem_cons, List.not_mem_nil, or_false] at boundary
    constructor <;> omega
  refine ⟨isLeast_nextNyOccurrence_option newYork after weekday single, ?_,
    fromLocalDatetime_candidateDate newYork after weekday single⟩
  intro target _
  obtain ⟨steps, few, ends⟩ := exists_loopEnds target (firstCandidate newYork after hour)
  exact ⟨steps, few, ends, fun rounds enough => ends.seekWeekday enough⟩

end occurrence

/-- Standard time up to 2026-03-08, 02:00, and daylight time from then on. -/
def NewYork.march2026 : NewYork where
  utcOffset instant :=
    if instant < Duration.days 20520 + Duration.hours 7 then Duration.hours (-5)
    else Duration.hours (-4)
  standard_or_daylight instant := by
    split
    · exact .inl rfl
    · exact .inr rfl
  switches_at_two instant differs := by
    have apart (now moment : Int) (other : now ≠ moment) : now - 1 < moment ↔ now < moment := by
      omega
    by_cases switch : instant = Duration.days 20520 + Duration.hours 7
    · rw [switch]
      decide
    · exact absurd (if_congr (apart _ _ switch) rfl rfl) differs

/-- From Saturday 18:00 on the dot to Sunday 18:00, a day of twenty-three hours later. -/
theorem shortDay_isNext :
    IsNextOccurrence .march2026 (Duration.days 20519 + Duration.hours 23) 18 (some .sun)
      (Duration.days 20520 + Duration.hours 22) :=
  nextNyOccurrence_isNext .march2026 (Duration.days 20519 + Duration.hours 23) (some .sun)
    (by decide : (18 : Int) ∈ _)

end Oboobot.SessionTime
