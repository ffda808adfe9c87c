import Oboobot.SessionTime.CivilDates
import Mathlib.Data.Set.Card

/-! The holidays of a year: Easter by the formula, and the fourth Thursday of November. -/

namespace Oboobot.SessionTime

open Domain

section easter

/-- The formula counts through March and April in months of 31 days. -/
theorem fromYmdOpt_spring (year : Int) {offset : Int} (low : -21 ≤ offset) (high : offset ≤ 39) :
    NaiveDate.fromYmdOpt year ((offset + 114) / 31) ((offset + 114) % 31 + 1) =
      some (NaiveDate.daysFromCivil year 3 22 + offset : Int) := by
  rw [NaiveDate.fromYmdOpt_eq_some_iff]
  by_cases march : offset < 10
  · have month : (offset + 114) / 31 = 3 := by omega
    rw [month, NaiveDate.daysFromCivil_add, NaiveDate.daysFromCivil_add year 3 22]
    exact ⟨⟨by decide, by simp [NaiveDate.daysInMonth]; omega⟩, by omega⟩
  · have month : (offset + 114) / 31 = 4 := by omega
    have april : NaiveDate.daysFromCivil year 4 1 =
        (NaiveDate.daysFromCivil year 3 1 + 31 : Int) := by
      simp [NaiveDate.daysFromCivil]
      ring
    rw [month, NaiveDate.daysFromCivil_add, NaiveDate.daysFromCivil_add year 3 22, april]
    exact ⟨⟨by decide, by simp [NaiveDate.daysInMonth]; omega⟩, by omega⟩

variable {year era century leap rest : Int}

/-- The full moon comes at most 29 days after 21 March. -/
theorem fullMoon_bounds {golden b : Int} (golden0 : 0 ≤ golden) (b0 : 0 ≤ b) :
    let f := (b + 8).tdiv 25
    let g := (b - f + 1).tdiv 3
    0 ≤ (19 * golden + b - b.tdiv 4 - g + 15).tmod 30 ∧
      (19 * golden + b - b.tdiv 4 - g + 15).tmod 30 < 30 := by
  intro f g
  have quarter : b.tdiv 4 = b / 4 := Int.tdiv_eq_ediv_of_nonneg b0
  have proemptosis : f = (b + 8) / 25 := Int.tdiv_eq_ediv_of_nonneg (by omega)
  have nonneg : 0 ≤ b - f + 1 := by omega
  have lunar : g = (b - f + 1) / 3 := Int.tdiv_eq_ediv_of_nonneg nonneg
  rw [quarter, Int.tmod_eq_emod_of_nonneg (by omega)]
  omega

/-- The Sunday after the full moon, before the correction by a week. -/
theorem sunday_after (cycles : InCycles year era century leap rest) (moon : Int) :
    (NaiveDate.daysFromCivil year 3 22 + moon +
      (32 + 2 * century + 2 * leap - moon - rest) % 7 + 4 : Int) % 7 = 0 := by
  have march : NaiveDate.marchYear year 3 = year := by simp [NaiveDate.marchYear]
  have counted : NaiveDate.daysFromCivil year 3 22 = _ :=
    NaiveDate.daysFromCivil_eq (march.symm ▸ cycles)
  have days : NaiveDate.marchDay 3 22 = 21 := by decide
  rw [counted, days]
  omega

/-- The correction keeps the date from going beyond 25 April. -/
theorem corrected_bounds {golden moon wait : Int} (golden0 : 0 ≤ golden ∧ golden < 19)
    (moon0 : 0 ≤ moon ∧ moon < 30) (wait0 : 0 ≤ wait ∧ wait < 7) :
    0 ≤ moon + wait - 7 * ((golden + 11 * moon + 22 * wait) / 451) ∧
      moon + wait - 7 * ((golden + 11 * moon + 22 * wait) / 451) ≤ 34 := by
  omega

/-- The formula counts on from 22 March, and stops on a Sunday. -/
theorem exists_easterSunday (year0 : 0 ≤ year) :
    ∃ offset : Int, 0 ≤ offset ∧ offset ≤ 34 ∧
      (NaiveDate.daysFromCivil year 3 22 + offset + 4 : Int) % 7 = 0 ∧
      easterSunday year = some (NaiveDate.daysFromCivil year 3 22 + offset : Int) := by
  obtain ⟨era, century, leap, rest, cycles⟩ := exists_inCycles year
  have sunday := sunday_after cycles
  obtain ⟨same, century0, leap0, rest0⟩ := cycles
  obtain ⟨b, c⟩ : year.tdiv 100 = 4 * era + century ∧ year.tmod 100 = 4 * leap + rest :=
    (Int.tdiv_tmod_unique year0 (by decide)).mpr (by omega)
  obtain ⟨-, e⟩ : (4 * era + century).tdiv 4 = era ∧ (4 * era + century).tmod 4 = century :=
    (Int.tdiv_tmod_unique (by omega) (by decide)).mpr (by omega)
  obtain ⟨i, k⟩ : (4 * leap + rest).tdiv 4 = leap ∧ (4 * leap + rest).tmod 4 = rest :=
    (Int.tdiv_tmod_unique (by omega) (by decide)).mpr (by omega)
  have golden0 : 0 ≤ year.tmod 19 ∧ year.tmod 19 < 19 := by
    rw [Int.tmod_eq_emod_of_nonneg year0]
    omega
  have moon0 := fullMoon_bounds golden0.1 (b := 4 * era + century) (by omega)
  simp only [easterSunday, b, c, e, i, k]
  dsimp only at moon0
  generalize (19 * year.tmod 19 + (4 * era + century) - (4 * era + century).tdiv 4 -
    ((4 * era + century) - ((4 * era + century) + 8).tdiv 25 + 1).tdiv 3 + 15).tmod 30 = moon at *
  have l : (32 + 2 * century + 2 * leap - moon - rest).tmod 7 =
      (32 + 2 * century + 2 * leap - moon - rest) % 7 :=
    Int.tmod_eq_emod_of_nonneg (by omega)
  have wait0 : 0 ≤ (32 + 2 * century + 2 * leap - moon - rest) % 7 ∧
      (32 + 2 * century + 2 * leap - moon - rest) % 7 < 7 := by omega
  have reached := sunday moon
  rw [l]
  generalize (32 + 2 * century + 2 * leap - moon - rest) % 7 = wait at *
  have m : (year.tmod 19 + 11 * moon + 22 * wait).tdiv 451 =
      (year.tmod 19 + 11 * moon + 22 * wait) / 451 :=
    Int.tdiv_eq_ediv_of_nonneg (by omega)
  have corrected := corrected_bounds golden0 moon0 wait0
  rw [m]
  generalize (year.tmod 19 + 11 * moon + 22 * wait) / 451 = weeks at *
  refine ⟨moon + wait - 7 * weeks, corrected.1, corrected.2, ?_, ?_⟩
  · omega
  · have spring := fromYmdOpt_spring year (by omega : -21 ≤ moon + wait - 7 * weeks)
      (by omega)
    rw [Int.tdiv_eq_ediv_of_nonneg (by omega), Int.tmod_eq_emod_of_nonneg (by omega)]
    exact spring

end easter

section thanksgiving

/-- A date of a month, as `from_ymd_opt` gives it. -/
def InMonth (year month : Int) (date : NaiveDate) : Prop :=
  ∃ day, NaiveDate.fromYmdOpt year month day = some date

/-- The dates of the month before `date` that fall on this weekday. -/
def earlierInMonth (year month : Int) (weekday : Weekday) (date : NaiveDate) : Set NaiveDate :=
  {other | InMonth year month other ∧ NaiveDate.weekday other = weekday ∧ other < date}

/-- A date of a month on this weekday, which has `before` dates of the month before it on the
same weekday. -/
structure Occurrence (year month : Int) (weekday : Weekday) (before : Nat) (date : NaiveDate) :
    Prop where
  inMonth : InMonth year month date
  onWeekday : NaiveDate.weekday date = weekday
  counted : (earlierInMonth year month weekday date).ncard = before

theorem inMonth_iff {year month : Int} (calendar : 1 ≤ month ∧ month ≤ 12) (date : Int) :
    InMonth year month date ↔ NaiveDate.daysFromCivil year month 1 ≤ date ∧
      date < (NaiveDate.daysFromCivil year month 1 + NaiveDate.daysInMonth year month : Int) := by
  unfold InMonth
  constructor
  · rintro ⟨day, found⟩
    obtain ⟨valid, counted⟩ := NaiveDate.fromYmdOpt_eq_some_iff.mp found
    obtain ⟨first, last⟩ := valid.inMonth
    rw [NaiveDate.daysFromCivil_add] at counted
    omega
  · rintro ⟨first, last⟩
    refine ⟨date - NaiveDate.daysFromCivil year month 1 + 1, ?_⟩
    have counted := NaiveDate.daysFromCivil_add year month
      (date - NaiveDate.daysFromCivil year month 1 + 1)
    rw [NaiveDate.fromYmdOpt_eq_some_iff]
    exact ⟨⟨calendar, by omega⟩, by omega⟩

/-- The weeks between the first occurrence of a weekday and a later one. -/
theorem ncard_weeks {first start : Int} (near : first ≤ start ∧ start < first + 7) (weeks : Nat) :
    {date : Int | first ≤ date ∧ date < start + 7 * weeks ∧ (date - start) % 7 = 0}.ncard =
      weeks := by
  have image : {date : Int | first ≤ date ∧ date < start + 7 * weeks ∧ (date - start) % 7 = 0} =
      (fun week : Nat => start + 7 * (week : Int)) '' (Finset.range weeks : Set Nat) := by
    ext date
    simp only [Set.mem_ofPred_eq, Set.mem_image, Finset.coe_range, Set.mem_Iio]
    constructor
    · rintro ⟨low, high, same⟩
      exact ⟨((date - start) / 7).toNat, by omega, by omega⟩
    · rintro ⟨week, earlier, rfl⟩
      omega
  have injective : Function.Injective fun week : Nat => start + 7 * (week : Int) := by
    intro week other same
    dsimp only at same
    omega
  rw [image, Set.ncard_image_of_injective _ injective, Set.ncard_coe_finset, Finset.card_range]

/-- The first date of the month on this weekday. -/
def firstInMonth (year month : Int) (weekday : Weekday) : NaiveDate :=
  let first := NaiveDate.daysFromCivil year month 1
  first + (weekday.numDaysFromSunday - (first + 4)) % 7

theorem firstInMonth_bounds (year month : Int) (weekday : Weekday) :
    NaiveDate.daysFromCivil year month 1 ≤ firstInMonth year month weekday ∧
      firstInMonth year month weekday < (NaiveDate.daysFromCivil year month 1 + 7 : Int) := by
  dsimp only [firstInMonth, NaiveDate]
  omega

theorem weekday_eq_iff_weeks (year month : Int) (weekday : Weekday) (date : Int) :
    NaiveDate.weekday date = weekday ↔ (date - firstInMonth year month weekday) % 7 = 0 := by
  have range := weekday.numDaysFromSunday_range
  rw [weekday_eq_iff]
  dsimp only [firstInMonth, NaiveDate]
  omega

theorem nthWeekdayOfMonth_eq {year month : Int} (calendar : 1 ≤ month ∧ month ≤ 12)
    (weekday : Weekday) (n : Int) :
    nthWeekdayOfMonth year month weekday n =
      some (firstInMonth year month weekday + 7 * (n - 1) : Int) := by
  have first : NaiveDate.fromYmdOpt year month 1 = some (NaiveDate.daysFromCivil year month 1) := by
    rw [NaiveDate.fromYmdOpt_eq_some_iff]
    exact ⟨⟨calendar, le_refl 1, by linarith [NaiveDate.daysInMonth_bounds year month]⟩, rfl⟩
  have range := weekday.numDaysFromSunday_range
  simp only [nthWeekdayOfMonth, first, numDaysFromSunday_weekday, firstInMonth, Option.bind_eq_bind,
    Option.bind_some, pure]
  rw [Int.tmod_eq_emod_of_nonneg (by omega)]
  congr 3
  omega

/-- The occurrences before a date are the first and those whole weeks after it. -/
theorem earlierInMonth_eq {year month : Int} (calendar : 1 ≤ month ∧ month ≤ 12)
    {weekday : Weekday} {date : Int} (inMonth : InMonth year month date) :
    earlierInMonth year month weekday date =
      {other : Int | NaiveDate.daysFromCivil year month 1 ≤ other ∧ other < date ∧
        (other - firstInMonth year month weekday) % 7 = 0} := by
  obtain ⟨-, last⟩ := (inMonth_iff calendar date).mp inMonth
  ext other
  simp only [earlierInMonth, Set.mem_ofPred_eq, inMonth_iff calendar,
    weekday_eq_iff_weeks year month]
  constructor
  · rintro ⟨⟨first, -⟩, same, earlier⟩
    exact ⟨first, earlier, same⟩
  · rintro ⟨first, earlier, same⟩
    exact ⟨⟨first, lt_trans earlier last⟩, same, earlier⟩

theorem occurrence_iff {year month : Int} (calendar : 1 ≤ month ∧ month ≤ 12)
    (weekday : Weekday) {before : Nat} (few : before < 4) (date : Int) :
    Occurrence year month weekday before date ↔
      date = (firstInMonth year month weekday + 7 * before : Int) := by
  have near := firstInMonth_bounds year month weekday
  dsimp only [NaiveDate] at near
  constructor
  · intro occurs
    obtain ⟨inMonth, onWeekday, counted⟩ := occurs
    have weeks : ∃ weeks : Nat, date = (firstInMonth year month weekday + 7 * weeks : Int) := by
      have same := (weekday_eq_iff_weeks year month weekday date).mp onWeekday
      obtain ⟨first, -⟩ := (inMonth_iff calendar date).mp inMonth
      exact ⟨((date - firstInMonth year month weekday) / 7).toNat, by omega⟩
    obtain ⟨weeks, rfl⟩ := weeks
    rw [earlierInMonth_eq calendar inMonth, ncard_weeks near] at counted
    rw [counted]
  · rintro rfl
    have inMonth : InMonth year month (firstInMonth year month weekday + 7 * before : Int) := by
      have long := NaiveDate.daysInMonth_bounds year month
      rw [inMonth_iff calendar]
      omega
    refine ⟨inMonth, ?_, ?_⟩
    · rw [weekday_eq_iff_weeks year month]
      omega
    · rw [earlierInMonth_eq calendar inMonth, ncard_weeks near]

end thanksgiving

section year

variable (year : Int) (easter : NaiveDate)

/-- Thanksgiving is the Thursday of November that has three Thursdays before it. -/
def IsThanksgiving (date : NaiveDate) : Prop := Occurrence year 11 .thu 3 date

/-- Easter and the four holidays of a year. -/
structure HolidaysOf : Prop where
  computed : easterSunday year = some easter
  sunday : NaiveDate.weekday easter = .sun
  between : ∃ first last, NaiveDate.fromYmdOpt year 3 22 = some first ∧
    NaiveDate.fromYmdOpt year 4 25 = some last ∧ first ≤ easter ∧ easter ≤ last
  friday : NaiveDate.weekday (easter - 2 : Int) = .fri
  thanksgiving : ∃! date, IsThanksgiving year date
  listed : ∃ newYears christmas thanksgiving, NaiveDate.fromYmdOpt year 1 1 = some newYears ∧
    NaiveDate.fromYmdOpt year 12 25 = some christmas ∧ IsThanksgiving year thanksgiving ∧
    StaticHolidayProvider.holidaysForYear year =
      [newYears, christmas, thanksgiving, (easter - 2 : Int)]
  recognized : ∀ date, (NaiveDate.year date = year ∧ StaticHolidayProvider.isHoliday date = true) ↔
    date ∈ StaticHolidayProvider.holidaysForYear year

variable {year}

theorem year_of_fromYmdOpt {month day : Int} {date : NaiveDate}
    (found : NaiveDate.fromYmdOpt year month day = some date) : NaiveDate.year date = year := by
  obtain ⟨valid, rfl⟩ := NaiveDate.fromYmdOpt_eq_some_iff.mp found
  exact NaiveDate.year_daysFromCivil valid

theorem isThanksgiving_iff (date : Int) :
    IsThanksgiving year date ↔ nthWeekdayOfMonth year 11 .thu 4 = some date := by
  have november : (1 : Int) ≤ 11 ∧ (11 : Int) ≤ 12 := by decide
  rw [IsThanksgiving, occurrence_iff november .thu (by decide), nthWeekdayOfMonth_eq november,
    Option.some_inj, eq_comm]
  norm_num

/-- The provider knows the dates of its list by their year. -/
theorem recognized_iff
    (ofYear : ∀ date ∈ StaticHolidayProvider.holidaysForYear year, NaiveDate.year date = year)
    (date : NaiveDate) :
    (NaiveDate.year date = year ∧ StaticHolidayProvider.isHoliday date = true) ↔
      date ∈ StaticHolidayProvider.holidaysForYear year := by
  constructor
  · rintro ⟨rfl, holiday⟩
    simpa [StaticHolidayProvider.isHoliday] using holiday
  · intro listed
    have same := ofYear date listed
    refine ⟨same, ?_⟩
    simpa [StaticHolidayProvider.isHoliday, same] using listed

theorem exists_holidaysForYear {easter thanksgiving : NaiveDate}
    (computed : easterSunday year = some easter)
    (fourth : nthWeekdayOfMonth year 11 .thu 4 = some thanksgiving) :
    ∃ newYears christmas, NaiveDate.fromYmdOpt year 1 1 = some newYears ∧
      NaiveDate.fromYmdOpt year 12 25 = some christmas ∧
      StaticHolidayProvider.holidaysForYear year =
        [newYears, christmas, thanksgiving, (easter - 2 : Int)] := by
  have newYears : NaiveDate.fromYmdOpt year 1 1 = some (NaiveDate.daysFromCivil year 1 1) :=
    NaiveDate.fromYmdOpt_eq_some_iff.mpr ⟨⟨by decide, by simp [NaiveDate.daysInMonth]⟩, rfl⟩
  have christmas : NaiveDate.fromYmdOpt year 12 25 = some (NaiveDate.daysFromCivil year 12 25) :=
    NaiveDate.fromYmdOpt_eq_some_iff.mpr ⟨⟨by decide, by simp [NaiveDate.daysInMonth]⟩, rfl⟩
  refine ⟨_, _, newYears, christmas, ?_⟩
  simp [StaticHolidayProvider.holidaysForYear, newYears, christmas, fourth, computed]

/-- From 1583 on the provider lists the holidays of the year. -/
theorem exists_holidaysOf (gregorian : 1583 ≤ year) : ∃ easter, HolidaysOf year easter := by
  obtain ⟨offset, low, high, sunday, computed⟩ := @exists_easterSunday year (by omega)
  obtain ⟨thanksgiving, fourth⟩ : ∃ date, nthWeekdayOfMonth year 11 .thu 4 = some date :=
    ⟨_, nthWeekdayOfMonth_eq (by decide) .thu 4⟩
  have isThanksgiving := (isThanksgiving_iff thanksgiving).mpr fourth
  obtain ⟨newYears, christmas, january, december, listed⟩ := exists_holidaysForYear computed fourth
  refine ⟨(NaiveDate.daysFromCivil year 3 22 + offset : Int), computed, ?_, ?_, ?_, ?_, ?_, ?_⟩
  · rwa [weekday_eq_iff]
  · exact ⟨_, _, @fromYmdOpt_spring year 0 (by decide) (by decide),
      @fromYmdOpt_spring year 34 (by decide) (by decide), Int.add_le_add_left low _,
      Int.add_le_add_left high _⟩
  · rw [weekday_eq_iff, Weekday.numDaysFromSunday]
    omega
  · refine ⟨thanksgiving, isThanksgiving, ?_⟩
    intro other occurs
    rw [isThanksgiving_iff, fourth] at occurs
    exact (Option.some.inj occurs).symm
  · exact ⟨newYears, christmas, thanksgiving, january, december, isThanksgiving, listed⟩
  · apply recognized_iff
    intro date member
    obtain ⟨day, november⟩ := isThanksgiving.inMonth
    -- Good Friday may lie before 22 March, and is in the year all the same
    have goodFriday := fromYmdOpt_spring year (by omega : -21 ≤ offset - 2) (by omega)
    rw [← add_sub_assoc] at goodFriday
    simp only [listed, List.mem_cons, List.not_mem_nil, or_false] at member
    rcases member with rfl | rfl | rfl | rfl
    · exact year_of_fromYmdOpt january
    · exact year_of_fromYmdOpt december
    · exact year_of_fromYmdOpt november
    · exact year_of_fromYmdOpt goodFriday

theorem holidaysOf2026 : easterSunday 2026 = NaiveDate.fromYmdOpt 2026 4 5 ∧
    ∃ easter, HolidaysOf 2026 easter :=
  ⟨by decide, exists_holidaysOf (by decide)⟩

end year

end Oboobot.SessionTime
