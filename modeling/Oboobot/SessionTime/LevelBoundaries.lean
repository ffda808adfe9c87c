import Oboobot.SessionTime.WeekOpens

/-! The boundaries at which True Open levels expire: midnight for the daily one,
Monday 18:00 for the weekly one. -/

namespace Oboobot.SessionTime

open Domain

variable {newYork : NewYork}

/-- With rounds enough, the loop goes to the first date of the weekday. -/
theorem seekWeekday_eq (target : Weekday) (rounds : Nat) (date : Int)
    (enough : (target.numDaysFromSunday - (date + 4)) % 7 ≤ rounds) :
    seekWeekday target rounds date =
      (date + (target.numDaysFromSunday - (date + 4)) % 7 : Int) := by
  induction rounds generalizing date with
  | zero =>
    change date = _
    omega
  | succ rounds ih =>
    have range := target.numDaysFromSunday_range
    unfold seekWeekday
    split
    · rename_i here
      have today := (weekday_eq_iff date target).mp here
      change date = _
      omega
    · rename_i elsewhere
      have today := mt (weekday_eq_iff date target).mpr elsewhere
      rw [ih (date + 1) (by omega)]
      dsimp only [NaiveDate]
      omega

/-- The boundaries of a timeframe's levels. -/
def Timeframe.IsBoundary (newYork : NewYork) : Timeframe → Instant → Prop
  | .weekly => newYork.ShowsHourOn .mon weeklyCaptureHourNy
  | .daily => newYork.ShowsHour dailyCaptureHourNy

/-- The next occurrence of an hour on a weekday is the first instant after `after` at
which a New York clock shows it on that weekday. -/
theorem isLeast_nextNyOccurrence_weekday (newYork : NewYork) (after : Int) {hour : Int}
    (single : SingleHour hour) (weekday : Weekday) :
    IsLeast {instant : Int | after < instant ∧ newYork.ShowsHourOn weekday hour instant}
      (nextNyOccurrence newYork after hour (some weekday)) := by
  have range := weekday.numDaysFromSunday_range
  obtain ⟨start, begins⟩ : ∃ start : Int, start =
      if NaiveDateTime.hour (newYork.reading after) ≥ hour then
        NaiveDateTime.date (newYork.reading after) + 1
      else NaiveDateTime.date (newYork.reading after) := ⟨_, rfl⟩
  have sought := seekWeekday_eq weekday 7 start (by omega)
  obtain ⟨found, converted, reads⟩ := fromLocalDatetime_andHour newYork single
    (seekWeekday weekday 7 start)
  have next : nextNyOccurrence newYork after hour (some weekday) = found := by
    have candidate : (if (toNy newYork after).hour ≥ hour then
        ((toNy newYork after).dateNaive + 1 : Int) else (toNy newYork after).dateNaive) = start :=
      begins.symm
    unfold nextNyOccurrence
    dsimp only
    rw [candidate, converted]
  rw [sought] at reads
  obtain ⟨nonneg, below, notRepeated, _⟩ := id single
  have hourFound : NaiveDateTime.hour (newYork.reading found) ≠ 1 := by
    rw [reads, hour_andHour single]
    exact notRepeated
  have least : newYork.reading after < newYork.reading found ∧
      ∀ other : Int, newYork.reading after < NaiveDate.andHour other hour →
        (other + 4) % 7 = weekday.numDaysFromSunday →
        newYork.reading found ≤ NaiveDate.andHour other hour := by
    rw [reads]
    generalize newYork.reading after = now at begins ⊢
    simp only [NaiveDateTime.date, NaiveDateTime.hour, NaiveDate.andHour, days_eq, hours_eq] at *
    dsimp only [NaiveDateTime, NaiveDate] at *
    split at begins
    · constructor
      · omega
      · intro other later same
        omega
    · constructor
      · omega
      · intro other later same
        omega
  rw [next]
  refine ⟨⟨(NewYork.reading_lt_reading_iff (.inr hourFound)).mp least.1, ?_⟩, ?_⟩
  · exact (NewYork.showsHourOn_iff single found).mpr ⟨_, by omega, reads⟩
  · rintro other ⟨later, shows⟩
    obtain ⟨date, same, shown⟩ := (NewYork.showsHourOn_iff single other).mp shows
    refine (NewYork.reading_le_reading_iff (.inl hourFound)).mp ?_
    have forward := (NewYork.reading_lt_reading_iff (.inr
      (hour_ne_one_of_showsHour single shows.2))).mpr later
    rw [shown] at forward ⊢
    exact least.2 date forward same

theorem captureLevel_spec {timeframe : Timeframe} {symbol : String} {price : Decimal}
    {now : Int} {holidays : HolidayProvider} {level : TrueOpenLevel}
    (captured : captureLevel newYork timeframe symbol price now holidays = some level) :
    level.setAt = now ∧ level.level = price ∧
      IsLeast {boundary : Int | now < boundary ∧ timeframe.IsBoundary newYork boundary}
        level.expiresAt := by
  cases timeframe with
  | weekly =>
    simp only [captureLevel] at captured
    split at captured
    · cases captured
      exact ⟨rfl, rfl, isLeast_nextNyOccurrence_weekday newYork now singleHour_eighteen .mon⟩
    · cases captured
  | daily =>
    cases captured
    have midnight : SingleHour dailyCaptureHourNy := singleHour_of_mem (by decide)
    exact ⟨rfl, rfl, isLeast_nextNyOccurrence newYork now midnight⟩

end Oboobot.SessionTime
