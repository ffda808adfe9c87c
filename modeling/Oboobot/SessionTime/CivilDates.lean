import Oboobot.SessionTime.WeekOpens

/-! Calendar dates as day counts: the cycles that years come in, and the year of a date. -/

namespace Oboobot.SessionTime

open Domain

/-- A year, taken apart into cycles of 400, 100 and 4 years. -/
structure InCycles (year era century leap rest : Int) : Prop where
  year : year = 400 * era + 100 * century + 4 * leap + rest
  century : 0 ≤ century ∧ century < 4
  leap : 0 ≤ leap ∧ leap < 25
  rest : 0 ≤ rest ∧ rest < 4

theorem exists_inCycles (year : Int) : ∃ era century leap rest, InCycles year era century leap rest := by
  refine ⟨year / 400, year % 400 / 100, year % 100 / 4, year % 4, ?_, ?_, ?_, ?_⟩ <;> omega

namespace NaiveDate

/-- The year that begins on 1 March, to which January and February belong. -/
def marchYear (year month : Int) : Int := if month ≤ 2 then year - 1 else year

/-- The days that this year has seen. -/
def marchDay (month day : Int) : Int :=
  (153 * (if month > 2 then month - 3 else month + 9) + 2) / 5 + day - 1

/-- A date in the cycles of its year. -/
theorem daysFromCivil_eq {year month day era century leap rest : Int}
    (cycles : InCycles (marchYear year month) era century leap rest) :
    daysFromCivil year month day =
      146097 * era + 36524 * century + 1461 * leap + 365 * rest + marchDay month day - 719468 := by
  obtain ⟨same, century0, leap0, rest0⟩ := cycles
  have shifted : (if month ≤ 2 then year - 1 else year) =
      400 * era + 100 * century + 4 * leap + rest := same
  have eras : (400 * era + 100 * century + 4 * leap + rest) / 400 = era := by omega
  have centuries : (400 * era + 100 * century + 4 * leap + rest - era * 400) / 100 = century := by
    omega
  have leaps : (400 * era + 100 * century + 4 * leap + rest - era * 400) / 4 =
      25 * century + leap := by omega
  simp only [daysFromCivil, shifted, eras, centuries, leaps, marchDay]
  ring

theorem daysFromCivil_add (year month day : Int) :
    daysFromCivil year month day = (daysFromCivil year month 1 + (day - 1) : Int) := by
  obtain ⟨era, century, leap, rest, cycles⟩ := exists_inCycles (marchYear year month)
  rw [daysFromCivil_eq cycles, daysFromCivil_eq cycles]
  dsimp only [marchDay, NaiveDate]
  omega

/-- The centuries of an era, of which the last is a day longer. -/
theorem centuryOfEra_eq {century inCentury : Int} (century0 : 0 ≤ century ∧ century < 4)
    (inside : 0 ≤ inCentury ∧ inCentury ≤ 36524) (leapDay : inCentury = 36524 → century = 3) :
    (36524 * century + inCentury) / 36524 - (36524 * century + inCentury) / 146096 = century := by
  obtain ⟨low, high⟩ := century0
  interval_cases century <;> omega

/-- The days that are a multiple of 1460 later than they would be without leap years. -/
theorem leapsOfEra_eq (century leap days : Int) :
    (36524 * century + (1461 * leap + days)) / 1460 =
      25 * century + leap + (24 * century + leap + days) / 1460 := by
  rw [show 36524 * century + (1461 * leap + days) =
    24 * century + leap + days + (25 * century + leap) * 1460 by ring,
    Int.add_mul_ediv_right _ _ (by decide)]
  ring

/-- A day of the leap year is lost only after the first leap day. -/
theorem dayOfYear_bounds {century leap rest dayOfYear : Int} (century0 : 0 ≤ century ∧ century < 4)
    (leap0 : 0 ≤ leap ∧ leap < 25) (rest0 : 0 ≤ rest ∧ rest < 4)
    (inside : 0 ≤ dayOfYear ∧ dayOfYear ≤ 365) (leapDay : dayOfYear = 365 → rest = 3) :
    0 ≤ dayOfYear - (24 * century + leap + (365 * rest + dayOfYear)) / 1460 ∧
      dayOfYear - (24 * century + leap + (365 * rest + dayOfYear)) / 1460 < 365 := by
  omega

/-- The year within its era is read off the day within its era. -/
theorem yearOfEra_eq {century leap rest dayOfYear : Int} (century0 : 0 ≤ century ∧ century < 4)
    (leap0 : 0 ≤ leap ∧ leap < 25) (rest0 : 0 ≤ rest ∧ rest < 4)
    (inside : 0 ≤ dayOfYear ∧ dayOfYear ≤ 365)
    (leapDay : dayOfYear = 365 → rest = 3 ∧ (leap = 24 → century = 3)) :
    let dayOfEra := 36524 * century + (1461 * leap + (365 * rest + dayOfYear))
    (dayOfEra - dayOfEra / 1460 + dayOfEra / 36524 - dayOfEra / 146096) / 365 =
      100 * century + 4 * leap + rest := by
  intro dayOfEra
  have centuries : dayOfEra / 36524 - dayOfEra / 146096 = century :=
    centuryOfEra_eq century0 (by omega) (by omega)
  have leaps : dayOfEra / 1460 =
      25 * century + leap + (24 * century + leap + (365 * rest + dayOfYear)) / 1460 :=
    leapsOfEra_eq century leap _
  have kept := dayOfYear_bounds century0 leap0 rest0 inside fun full => (leapDay full).1
  have days : dayOfEra - dayOfEra / 1460 + dayOfEra / 36524 - dayOfEra / 146096 =
      dayOfYear - (24 * century + leap + (365 * rest + dayOfYear)) / 1460 +
        (100 * century + 4 * leap + rest) * 365 := by
    rw [add_sub_assoc, centuries, leaps]
    ring
  rw [days, Int.add_mul_ediv_right _ _ (by decide), Int.ediv_eq_zero_of_lt kept.1 kept.2, zero_add]

/-- A day of a month, as `from_ymd_opt` accepts it. -/
structure Valid (year month day : Int) : Prop where
  inYear : 1 ≤ month ∧ month ≤ 12
  inMonth : 1 ≤ day ∧ day ≤ daysInMonth year month

theorem fromYmdOpt_eq_some_iff {year month day : Int} {date : NaiveDate} :
    fromYmdOpt year month day = some date ↔
      Valid year month day ∧ daysFromCivil year month day = date := by
  unfold fromYmdOpt
  constructor
  · intro found
    split at found
    · rename_i valid
      exact ⟨⟨⟨valid.1, valid.2.1⟩, valid.2.2⟩, Option.some.inj found⟩
    · cases found
  · intro given
    obtain ⟨⟨⟨low, high⟩, day⟩, rfl⟩ := given
    exact if_pos ⟨low, high, day⟩

theorem daysInMonth_bounds (year month : Int) :
    28 ≤ daysInMonth year month ∧ daysInMonth year month ≤ 31 := by
  unfold daysInMonth
  split_ifs <;> decide

/-- January and February come last in the year that begins on 1 March, a leap day at its
very end. -/
theorem Valid.marchDay {year month day : Int} (valid : Valid year month day) :
    0 ≤ marchDay month day ∧ marchDay month day ≤ 365 ∧
      (marchDay month day = 365 → month = 2 ∧ isLeapYear year = true) ∧
      (marchDay month day < 306 ↔ 2 < month) := by
  obtain ⟨⟨low, high⟩, first, last⟩ := valid
  unfold NaiveDate.marchDay
  by_cases february : month = 2
  · subst february
    cases leap : isLeapYear year <;> simp [daysInMonth, leap] at last ⊢ <;> omega
  · have short : day ≤ if month = 4 ∨ month = 6 ∨ month = 9 ∨ month = 11 then 30 else 31 := by
      simpa [daysInMonth, february] using last
    interval_cases month <;> simp at short february ⊢ <;> omega

/-- The year of a day count that is taken apart into cycles. -/
theorem year_of_cycles (era : Int) {century leap rest dayOfYear : Int}
    (century0 : 0 ≤ century ∧ century < 4) (leap0 : 0 ≤ leap ∧ leap < 25)
    (rest0 : 0 ≤ rest ∧ rest < 4) (inside : 0 ≤ dayOfYear ∧ dayOfYear ≤ 365)
    (leapDay : dayOfYear = 365 → rest = 3 ∧ (leap = 24 → century = 3)) :
    NaiveDate.year (146097 * era + (36524 * century + (1461 * leap + (365 * rest + dayOfYear))) -
      719468 : Int) =
      100 * century + 4 * leap + rest + era * 400 + if dayOfYear < 306 then 0 else 1 := by
  have marchMonth : (5 * dayOfYear + 2) / 153 < 10 ↔ dayOfYear < 306 := by omega
  have inYear : 36524 * century + (1461 * leap + (365 * rest + dayOfYear)) -
      (365 * (100 * century + 4 * leap + rest) + (100 * century + 4 * leap + rest) / 4 -
        (100 * century + 4 * leap + rest) / 100) = dayOfYear := by
    omega
  have years := yearOfEra_eq century0 leap0 rest0 inside leapDay
  have bound : 0 ≤ 36524 * century + (1461 * leap + (365 * rest + dayOfYear)) ∧
      36524 * century + (1461 * leap + (365 * rest + dayOfYear)) < 146097 := by
    clear years marchMonth inYear leapDay
    omega
  dsimp only at years
  generalize 36524 * century + (1461 * leap + (365 * rest + dayOfYear)) = dayOfEra at *
  have eras : (146097 * era + dayOfEra) / 146097 = era := by
    rw [Int.add_comm, Int.add_mul_ediv_left _ _ (by decide), Int.ediv_eq_zero_of_lt bound.1 bound.2,
      zero_add]
  have inEra : 146097 * era + dayOfEra - era * 146097 = dayOfEra := by ring
  simp only [NaiveDate.year, sub_add_cancel, eras, inEra, years, inYear, marchMonth]

/-- The year is read off the day count. -/
theorem year_daysFromCivil {year month day : Int} (valid : Valid year month day) :
    NaiveDate.year (daysFromCivil year month day) = year := by
  obtain ⟨era, century, leap, rest, cycles⟩ := exists_inCycles (marchYear year month)
  obtain ⟨low, high, leapDay, late⟩ := valid.marchDay
  have counted : daysFromCivil year month day = _ := daysFromCivil_eq cycles
  obtain ⟨same, century0, leap0, rest0⟩ := cycles
  have last : marchDay month day = 365 → rest = 3 ∧ (leap = 24 → century = 3) := by
    intro full
    obtain ⟨february, isLeap⟩ := leapDay full
    subst february
    have before : year - 1 = 400 * era + 100 * century + 4 * leap + rest := same
    simp only [isLeapYear, Bool.and_eq_true, decide_eq_true_eq, Bool.or_eq_true, bne_iff_ne] at isLeap
    obtain ⟨byFour, byHundred⟩ := isLeap
    clear counted
    have lastYear : rest = 3 := by
      clear byHundred
      omega
    refine ⟨lastYear, ?_⟩
    intro lastCycle
    rw [lastYear, lastCycle] at before
    omega
  have found := year_of_cycles era century0 leap0 rest0 ⟨low, high⟩ last
  have together : daysFromCivil year month day = (146097 * era + (36524 * century +
      (1461 * leap + (365 * rest + marchDay month day))) - 719468 : Int) := by
    rw [counted]
    ring
  have years : (if month ≤ 2 then year - 1 else year) =
      400 * era + 100 * century + 4 * leap + rest := same
  rw [together, found, if_congr late rfl rfl]
  clear found counted together leapDay last
  split at years <;> split <;> omega

end NaiveDate

end Oboobot.SessionTime
