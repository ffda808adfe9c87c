import Oboobot.SessionTime.CycleWindows
import Mathlib.Tactic.IntervalCases

/-! The Sunday opens of the trading week, and which of them the week checks look at. -/

namespace Oboobot.SessionTime

open Domain

theorem Weekday.numDaysFromSunday_range (weekday : Weekday) :
    0 ≤ weekday.numDaysFromSunday ∧ weekday.numDaysFromSunday < 7 := by
  cases weekday <;> decide

theorem numDaysFromSunday_weekday (date : Int) :
    (NaiveDate.weekday date).numDaysFromSunday = (date + 4) % 7 := by
  have residue : ∃ today : Int, (date + 4) % 7 = today ∧ 0 ≤ today ∧ today < 7 :=
    ⟨_, rfl, by omega, by omega⟩
  obtain ⟨today, same, low, high⟩ := residue
  have here : NaiveDate.weekday date = .ofNumDaysFromSunday today := congrArg _ same
  rw [here, same]
  interval_cases today <;> rfl

/-- The days of the week are told apart by their distance from Sunday. -/
theorem weekday_eq_iff (date : Int) (weekday : Weekday) :
    NaiveDate.weekday date = weekday ↔ (date + 4) % 7 = weekday.numDaysFromSunday := by
  constructor
  · intro same
    rw [← numDaysFromSunday_weekday, same]
  · intro same
    have named : Weekday.ofNumDaysFromSunday weekday.numDaysFromSunday = weekday := by
      cases weekday <;> rfl
    rw [← named, ← same]
    rfl

theorem singleHour_eighteen : SingleHour 18 := singleHour_of_mem (by decide)

namespace NewYork

/-- The clock shows `hour:00` exactly, on this weekday. -/
def ShowsHourOn (newYork : NewYork) (weekday : Weekday) (hour : Int) (instant : Instant) : Prop :=
  NaiveDate.weekday (NaiveDateTime.date (newYork.reading instant)) = weekday ∧
    newYork.ShowsHour hour instant

theorem showsHourOn_iff {newYork : NewYork} {weekday : Weekday} {hour : Int}
    (single : SingleHour hour) (instant : Instant) :
    newYork.ShowsHourOn weekday hour instant ↔ ∃ date : Int,
      (date + 4) % 7 = weekday.numDaysFromSunday ∧
        newYork.reading instant = NaiveDate.andHour date hour := by
  unfold ShowsHourOn ShowsHour
  rw [weekday_eq_iff]
  generalize newYork.reading instant = shown
  obtain ⟨nonneg, below, _, _⟩ := single
  simp only [NaiveDateTime.date, NaiveDate.andHour, days_eq, hours_eq]
  dsimp only [NaiveDateTime, NaiveDate]
  constructor
  · rintro ⟨day, shows⟩
    exact ⟨shown / 86400000000000, by simpa using day, by omega⟩
  · rintro ⟨date, day, rfl⟩
    have same : (date * 86400000000000 + hour * 3600000000000) / (1 * 86400000000000) = date := by
      omega
    refine ⟨same.symm ▸ day, ?_⟩
    omega

/-- Sunday 18:00 opens the trading week. -/
def IsWeekOpen (newYork : NewYork) (instant : Instant) : Prop :=
  newYork.ShowsHourOn .sun 18 instant

theorem isWeekOpen_iff {newYork : NewYork} (instant : Instant) :
    newYork.IsWeekOpen instant ↔ ∃ sunday : Int, (sunday + 4) % 7 = 0 ∧
      newYork.reading instant = NaiveDate.andHour sunday 18 :=
  showsHourOn_iff singleHour_eighteen instant

/-- The clock does not repeat an open. -/
theorem IsWeekOpen.hour_ne_one {newYork : NewYork} {instant : Instant}
    (opens : newYork.IsWeekOpen instant) :
    NaiveDateTime.hour (newYork.reading instant) ≠ 1 :=
  hour_ne_one_of_showsHour singleHour_eighteen opens.2

end NewYork

section weekStart

variable {newYork : NewYork}

/-- The open of the Sunday on or before the date is read at 18:00 of that Sunday. -/
theorem reading_weekStartFor (reference : NyTime newYork) :
    newYork.reading (weekStartFor reference).instant =
      NaiveDate.andHour (reference.dateNaive - (reference.dateNaive + 4) % 7 : Int) 18 := by
  obtain ⟨instant, converted, reads⟩ := fromLocalDatetime_andHour newYork singleHour_eighteen
    (reference.dateNaive - (reference.dateNaive + 4) % 7 : Int)
  unfold weekStartFor
  rw [NyTime.weekday, numDaysFromSunday_weekday]
  dsimp only
  rw [converted]
  exact reads

theorem isWeekOpen_weekStartFor (reference : NyTime newYork) :
    newYork.IsWeekOpen (weekStartFor reference).instant :=
  (NewYork.isWeekOpen_iff _).mpr ⟨_, by omega, reading_weekStartFor reference⟩

/-- The open of that Sunday has been reached, except on the Sunday itself before 18:00. -/
theorem sundayOpen_le_iff (now : Int) :
    NaiveDate.andHour (NaiveDateTime.date now - (NaiveDateTime.date now + 4) % 7 : Int) 18 ≤ now ↔
      ¬((NaiveDateTime.date now + 4) % 7 = 0 ∧ NaiveDateTime.hour now < 18) := by
  simp only [NaiveDateTime.date, NaiveDateTime.hour, NaiveDate.andHour, days_eq, hours_eq]
  dsimp only [NaiveDateTime, NaiveDate]
  omega

/-- No later open has been reached. -/
theorem le_sundayOpen {sunday now : Int} (isSunday : (sunday + 4) % 7 = 0)
    (reached : NaiveDate.andHour sunday 18 ≤ now) : NaiveDate.andHour sunday 18 ≤
      NaiveDate.andHour (NaiveDateTime.date now - (NaiveDateTime.date now + 4) % 7 : Int) 18 := by
  simp only [NaiveDateTime.date, NaiveDate.andHour, days_eq, hours_eq] at *
  dsimp only [NaiveDateTime, NaiveDate] at *
  omega

/-- The week start is the open of the week that contains the instant, except on a
Sunday before 18:00, when that open has yet to come. -/
theorem isGreatest_weekStartFor_iff (newYork : NewYork) (instant : Int) :
    IsGreatest {opening | opening ≤ instant ∧ newYork.IsWeekOpen opening}
        (weekStartFor (toNy newYork instant)).instant ↔
      ¬((toNy newYork instant).weekday = .sun ∧ (toNy newYork instant).hour < 18) := by
  have opens := isWeekOpen_weekStartFor (toNy newYork instant)
  have reads := reading_weekStartFor (toNy newYork instant)
  have shown : (toNy newYork instant).naiveLocal = newYork.reading instant := rfl
  have reached := sundayOpen_le_iff (newYork.reading instant)
  rw [NyTime.weekday, weekday_eq_iff, NyTime.hour, NyTime.dateNaive, shown,
    Weekday.numDaysFromSunday, ← reached]
  rw [NyTime.dateNaive, shown] at reads
  rw [← reads, NewYork.reading_le_reading_iff (.inl opens.hour_ne_one)]
  constructor
  · exact fun greatest => greatest.1.1
  · intro before
    refine ⟨⟨before, opens⟩, ?_⟩
    rintro other ⟨before', isOpen⟩
    have single := isOpen.hour_ne_one
    have until' := (NewYork.reading_le_reading_iff (.inl single)).mpr before'
    refine (NewYork.reading_le_reading_iff (.inl single)).mp ?_
    obtain ⟨sunday, isSunday, shows⟩ := (NewYork.isWeekOpen_iff other).mp isOpen
    rw [shows] at until' ⊢
    rw [reads]
    exact le_sundayOpen isSunday until'

/-- Noon of a Sunday. The week start is six hours away. -/
theorem sundayNoon_not_isGreatest :
    ¬∀ (newYork : NewYork) (instant : Int),
      IsGreatest {opening | opening ≤ instant ∧ newYork.IsWeekOpen opening}
        (weekStartFor (toNy newYork instant)).instant := by
  intro claimed
  have before := (claimed .standardTime (Duration.days 19736 + Duration.hours 17)).1.1
  revert before
  decide

/-- Seven days before an open, the clock shows the date of the Sunday before. -/
theorem dateNaive_minus_week {start : NyTime newYork} (opens : newYork.IsWeekOpen start.instant) :
    (start.minus (Duration.weeks 1)).dateNaive = (start.dateNaive - 7 : Int) := by
  obtain ⟨sunday, _, shows⟩ := (NewYork.isWeekOpen_iff _).mp opens
  have offset := newYork.standard_or_daylight start.instant
  have offset' := newYork.standard_or_daylight (start.instant - Duration.weeks 1)
  unfold NyTime.dateNaive NyTime.naiveLocal NyTime.minus
  unfold NewYork.reading at shows
  generalize newYork.utcOffset start.instant = today at *
  generalize newYork.utcOffset (start.instant - Duration.weeks 1) = lastWeek at *
  generalize start.instant = instant at *
  simp only [NaiveDateTime.date, NaiveDate.andHour, Duration.weeks, days_eq, hours_eq] at *
  dsimp only [NaiveDateTime, NaiveDate, Instant, Duration] at *
  omega

/-- So the open of the previous week is dated seven days earlier. -/
theorem dateNaive_previous {start previous : NyTime newYork}
    (opens : newYork.IsWeekOpen start.instant)
    (last : IsGreatest {opening : Int | opening < start.instant ∧ newYork.IsWeekOpen opening}
      previous.instant) : previous.dateNaive = (start.dateNaive - 7 : Int) := by
  obtain ⟨sunday, isSunday, shows⟩ := (NewYork.isWeekOpen_iff _).mp opens
  obtain ⟨⟨before, opens'⟩, greatest⟩ := last
  obtain ⟨sunday', isSunday', shows'⟩ := (NewYork.isWeekOpen_iff _).mp opens'
  obtain ⟨weekBefore, _, shows''⟩ :=
    fromLocalDatetime_andHour newYork singleHour_eighteen (sunday - 7 : Int)
  have isOpen : newYork.IsWeekOpen weekBefore :=
    (NewYork.isWeekOpen_iff _).mpr ⟨sunday - 7, by omega, shows''⟩
  have earlier : weekBefore < start.instant := by
    refine (NewYork.reading_lt_reading_iff (.inl isOpen.hour_ne_one)).mp ?_
    rw [shows, shows'']
    simp only [NaiveDate.andHour, days_eq, hours_eq]
    dsimp only [NaiveDateTime, NaiveDate]
    omega
  have above := (NewYork.reading_le_reading_iff (.inl isOpen.hour_ne_one)).mpr
    (greatest ⟨earlier, isOpen⟩)
  have below := (NewYork.reading_lt_reading_iff (.inl opens'.hour_ne_one)).mpr before
  change NaiveDateTime.date (newYork.reading previous.instant) =
    (NaiveDateTime.date (newYork.reading start.instant) - 7 : Int)
  rw [shows', shows''] at above
  rw [shows, shows'] at below
  rw [shows, shows']
  simp only [NaiveDateTime.date, NaiveDate.andHour, days_eq, hours_eq] at *
  dsimp only [NaiveDateTime, NaiveDate] at *
  omega

/-- Two opens in a row are always dated seven days apart, so the check never notices that
the one before was a holiday: it is right where that was none, or this one is. -/
theorem isFullTradingWeek_iff_bothOpen (holidays : HolidayProvider) (start previous : NyTime newYork)
    (opens : newYork.IsWeekOpen start.instant)
    (last : IsGreatest {opening : Int | opening < start.instant ∧ newYork.IsWeekOpen opening}
      previous.instant) :
    previous.dateNaive = (start.dateNaive - 7 : Int) ∧
      ((isFullTradingWeek start holidays = true ↔
          holidays.isHoliday start.dateNaive = false ∧
            holidays.isHoliday previous.dateNaive = false) ↔
        (holidays.isHoliday previous.dateNaive = false ∨
          holidays.isHoliday start.dateNaive = true)) := by
  refine ⟨dateNaive_previous opens last, ?_⟩
  have full : isFullTradingWeek start holidays = !holidays.isHoliday start.dateNaive := by
    have sevenDaysApart :
        start.dateNaive - (start.minus (Duration.weeks 1)).dateNaive = (7 : Int) := by
      rw [dateNaive_minus_week opens]
      exact sub_sub_cancel start.dateNaive 7
    simp [isFullTradingWeek, sevenDaysApart]
  rw [full]
  cases holidays.isHoliday start.dateNaive <;> cases holidays.isHoliday previous.dateNaive <;> simp

/-- 18:00 of a date outside daylight time. -/
def standardOpen (sunday : NaiveDate) : NyTime .standardTime := ⟨NaiveDate.andHour sunday 23⟩

theorem reading_standardOpen (sunday : NaiveDate) :
    NewYork.standardTime.reading (standardOpen sunday).instant = NaiveDate.andHour sunday 18 := by
  simp only [standardOpen, NewYork.reading, NewYork.standardTime, NaiveDate.andHour, hours_eq]
  ring

theorem isGreatest_standardOpen {sunday : Int} (isSunday : (sunday + 4) % 7 = 0) :
    IsGreatest {opening : Int | opening < (standardOpen sunday).instant ∧
      NewYork.standardTime.IsWeekOpen opening} (standardOpen (sunday - 7 : Int)).instant := by
  refine ⟨⟨?_, (NewYork.isWeekOpen_iff _).mpr ⟨_, by omega, reading_standardOpen _⟩⟩, ?_⟩
  · simp only [standardOpen, NaiveDate.andHour, days_eq, hours_eq]
    dsimp only [NaiveDateTime, NaiveDate, Duration]
    omega
  · rintro other ⟨before, isOpen⟩
    obtain ⟨sunday', isSunday', shows⟩ := (NewYork.isWeekOpen_iff other).mp isOpen
    simp only [standardOpen, NewYork.reading, NewYork.standardTime, NaiveDate.andHour, days_eq,
      hours_eq] at *
    dsimp only [NaiveDateTime, NaiveDate, Instant, Duration] at *
    omega

/-- Two ordinary Sundays of a January. -/
theorem ordinarySunday_bothOpen :
    (standardOpen 19729).dateNaive = ((standardOpen 19736).dateNaive - 7 : Int) ∧
    ((isFullTradingWeek (standardOpen 19736) staticHolidayProvider = true ↔
        staticHolidayProvider.isHoliday (standardOpen 19736).dateNaive = false ∧
          staticHolidayProvider.isHoliday (standardOpen 19729).dateNaive = false) ↔
      (staticHolidayProvider.isHoliday (standardOpen 19729).dateNaive = false ∨
        staticHolidayProvider.isHoliday (standardOpen 19736).dateNaive = true)) :=
  isFullTradingWeek_iff_bothOpen staticHolidayProvider (standardOpen 19736) (standardOpen 19729)
    ((NewYork.isWeekOpen_iff _).mpr ⟨19736, by decide, reading_standardOpen _⟩)
    (isGreatest_standardOpen (by decide))

/-- The Sunday after one that was New Year's Day. -/
theorem afterNewYearsDay_not_bothOpen :
    ¬∀ (newYork : NewYork) (holidays : HolidayProvider) (start previous : NyTime newYork),
      newYork.IsWeekOpen start.instant →
      IsGreatest {opening : Int | opening < start.instant ∧ newYork.IsWeekOpen opening}
        previous.instant →
      (isFullTradingWeek start holidays = true ↔
        holidays.isHoliday start.dateNaive = false ∧
          holidays.isHoliday previous.dateNaive = false) := by
  intro claimed
  have wasHoliday := (claimed .standardTime staticHolidayProvider (standardOpen 19365)
    (standardOpen 19358) ((NewYork.isWeekOpen_iff _).mpr ⟨19365, by decide, reading_standardOpen _⟩)
    (isGreatest_standardOpen (by decide))).mp (by decide +kernel)
  revert wasHoliday
  decide +kernel

end weekStart

end Oboobot.SessionTime
