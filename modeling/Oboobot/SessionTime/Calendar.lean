import Oboobot.Domain.Types

/-! New York time, the holiday calendar and the trading week. The time-zone
database is a parameter: an offset function with the two laws the callers rely on. -/

namespace Oboobot.SessionTime

open Domain

/-- A calendar date, as the number of days since 1970-01-01. -/
abbrev NaiveDate := Int

/-- A wall-clock reading, in nanoseconds since 1970-01-01T00:00 on that clock. -/
abbrev NaiveDateTime := Int

inductive Weekday where
  | sun
  | mon
  | tue
  | wed
  | thu
  | fri
  | sat
  deriving DecidableEq

namespace Weekday

def numDaysFromSunday : Weekday → Int
  | .sun => 0
  | .mon => 1
  | .tue => 2
  | .wed => 3
  | .thu => 4
  | .fri => 5
  | .sat => 6

def ofNumDaysFromSunday (count : Int) : Weekday :=
  match count with
  | 0 => .sun
  | 1 => .mon
  | 2 => .tue
  | 3 => .wed
  | 4 => .thu
  | 5 => .fri
  | _ => .sat

end Weekday

namespace NaiveDate

/-- 1970-01-01 was a Thursday. -/
def weekday (date : NaiveDate) : Weekday := .ofNumDaysFromSunday ((date + 4) % 7)

def isLeapYear (year : Int) : Bool :=
  year % 4 = 0 && (year % 100 != 0 || year % 400 = 0)

def daysInMonth (year month : Int) : Int :=
  if month = 2 then if isLeapYear year then 29 else 28
  else if month = 4 ∨ month = 6 ∨ month = 9 ∨ month = 11 then 30
  else 31

/-- Days since 1970-01-01, counted in years that begin on 1 March. -/
def daysFromCivil (year month day : Int) : Int :=
  let shifted := if month ≤ 2 then year - 1 else year
  let era := shifted / 400
  let yearOfEra := shifted - era * 400
  let dayOfYear := (153 * (if month > 2 then month - 3 else month + 9) + 2) / 5 + day - 1
  let dayOfEra := yearOfEra * 365 + yearOfEra / 4 - yearOfEra / 100 + dayOfYear
  era * 146097 + dayOfEra - 719468

def fromYmdOpt (year month day : Int) : Option NaiveDate :=
  if 1 ≤ month ∧ month ≤ 12 ∧ 1 ≤ day ∧ day ≤ daysInMonth year month then
    some (daysFromCivil year month day)
  else none

def year (date : NaiveDate) : Int :=
  let shifted := date + 719468
  let era := shifted / 146097
  let dayOfEra := shifted - era * 146097
  let yearOfEra := (dayOfEra - dayOfEra / 1460 + dayOfEra / 36524 - dayOfEra / 146096) / 365
  let dayOfYear := dayOfEra - (365 * yearOfEra + yearOfEra / 4 - yearOfEra / 100)
  let marchMonth := (5 * dayOfYear + 2) / 153
  yearOfEra + era * 400 + if marchMonth < 10 then 0 else 1

/-- `date.and_hms_opt(hour, 0, 0)`. -/
def andHour (date : NaiveDate) (hour : Int) : NaiveDateTime :=
  Duration.days date + Duration.hours hour

end NaiveDate

namespace NaiveDateTime

def date (reading : NaiveDateTime) : NaiveDate := reading / Duration.days 1

def hour (reading : NaiveDateTime) : Int := reading % Duration.days 1 / Duration.hours 1

end NaiveDateTime

/-- `instant.date_naive()` on the UTC clock. -/
def utcDateNaive (instant : Instant) : NaiveDate := NaiveDateTime.date instant

/-- What the time-zone database says about America/New_York: five or four hours
behind UTC, switching only when the clock reads 02:00. -/
structure NewYork where
  utcOffset : Instant → Duration
  standard_or_daylight : ∀ instant,
    utcOffset instant = Duration.hours (-5) ∨ utcOffset instant = Duration.hours (-4)
  switches_at_two : ∀ instant, utcOffset (instant - 1) ≠ utcOffset instant →
    (instant + utcOffset (instant - 1)) % Duration.days 1 = Duration.hours 2

/-- The offset outside daylight time. -/
def NewYork.standardTime : NewYork where
  utcOffset := fun _ => Duration.hours (-5)
  standard_or_daylight := fun _ => .inl rfl
  switches_at_two := fun _ differs => absurd rfl differs

/-- An instant that is read on the New York clock. -/
structure NyTime (newYork : NewYork) where
  instant : Instant

variable {newYork : NewYork}

namespace NyTime

def naiveLocal (time : NyTime newYork) : NaiveDateTime :=
  time.instant + newYork.utcOffset time.instant

def dateNaive (time : NyTime newYork) : NaiveDate := NaiveDateTime.date time.naiveLocal

def hour (time : NyTime newYork) : Int := NaiveDateTime.hour time.naiveLocal

def weekday (time : NyTime newYork) : Weekday := NaiveDate.weekday time.dateNaive

/-- Arithmetic moves the instant; the New York reading follows. -/
def minus (time : NyTime newYork) (duration : Duration) : NyTime newYork :=
  ⟨time.instant - duration⟩

end NyTime

variable (newYork)

def toNy (instant : Instant) : NyTime newYork := ⟨instant⟩

inductive LocalResult (newYork : NewYork) where
  | single (time : NyTime newYork)
  | ambiguous (earlier later : NyTime newYork)
  | none

/-- The instants at which a New York clock shows `reading`. Daylight time is
the earlier candidate. -/
def fromLocalDatetime (reading : NaiveDateTime) : LocalResult newYork :=
  let daylight := reading + Duration.hours 4
  let standard := reading + Duration.hours 5
  if newYork.utcOffset daylight = Duration.hours (-4) then
    if newYork.utcOffset standard = Duration.hours (-5) then .ambiguous ⟨daylight⟩ ⟨standard⟩
    else .single ⟨daylight⟩
  else if newYork.utcOffset standard = Duration.hours (-5) then .single ⟨standard⟩
  else .none

structure HolidayProvider where
  isHoliday : NaiveDate → Bool
  isLowLiquidity : NaiveDate → Bool

/-- The `n`-th occurrence of `weekday` in a month, counted from one. -/
def nthWeekdayOfMonth (year month : Int) (weekday : Weekday) (n : Int) : Option NaiveDate := do
  let firstOfMonth ← NaiveDate.fromYmdOpt year month 1
  let firstWeekdayOffset :=
    Int.tmod (7 + weekday.numDaysFromSunday - (NaiveDate.weekday firstOfMonth).numDaysFromSunday) 7
  let firstOccurrence : NaiveDate := firstOfMonth + firstWeekdayOffset
  return firstOccurrence + 7 * (n - 1)

/-- The Meeus/Jones/Butcher algorithm. -/
def easterSunday (year : Int) : Option NaiveDate :=
  let a := year.tmod 19
  let b := year.tdiv 100
  let c := year.tmod 100
  let d := b.tdiv 4
  let e := b.tmod 4
  let f := (b + 8).tdiv 25
  let g := (b - f + 1).tdiv 3
  let h := (19 * a + b - d - g + 15).tmod 30
  let i := c.tdiv 4
  let k := c.tmod 4
  let l := (32 + 2 * e + 2 * i - h - k).tmod 7
  let m := (a + 11 * h + 22 * l).tdiv 451
  let month := (h + l - 7 * m + 114).tdiv 31
  let day := (h + l - 7 * m + 114).tmod 31 + 1
  NaiveDate.fromYmdOpt year month day

namespace StaticHolidayProvider

def holidaysForYear (year : Int) : List NaiveDate :=
  let newYears := NaiveDate.fromYmdOpt year 1 1
  let christmas := NaiveDate.fromYmdOpt year 12 25
  let thanksgiving := nthWeekdayOfMonth year 11 .thu 4
  let goodFriday := (easterSunday year).map fun easter => easter - 2
  [newYears, christmas, thanksgiving, goodFriday].filterMap id

def isHoliday (date : NaiveDate) : Bool :=
  (holidaysForYear (NaiveDate.year date)).contains date

def isLowLiquidity (date : NaiveDate) : Bool :=
  let year := NaiveDate.year date
  if isHoliday date then true
  else
    let christmasWeek := match NaiveDate.fromYmdOpt year 12 26, NaiveDate.fromYmdOpt year 12 31 with
      | some start, some finish => decide (date ≥ start ∧ date ≤ finish)
      | _, _ => false
    let dayAfterThanksgiving := match nthWeekdayOfMonth year 11 .thu 4 with
      | some thanksgiving => decide (date = thanksgiving + 1)
      | none => false
    christmasWeek || dayAfterThanksgiving

end StaticHolidayProvider

def staticHolidayProvider : HolidayProvider where
  isHoliday := StaticHolidayProvider.isHoliday
  isLowLiquidity := StaticHolidayProvider.isLowLiquidity

variable {newYork}

/-- The Sunday 18:00 New York on or before the date of `reference`. -/
def weekStartFor (reference : NyTime newYork) : NyTime newYork :=
  let daysSinceSunday := reference.weekday.numDaysFromSunday
  let thisOrPreviousSunday : NaiveDate := reference.dateNaive - daysSinceSunday
  let naiveOpen := NaiveDate.andHour thisOrPreviousSunday 18
  match fromLocalDatetime newYork naiveOpen with
  | .single time => time
  | .ambiguous earlier _ => earlier
  | .none => ⟨naiveOpen⟩

def isFullTradingWeek (thisWeekStart : NyTime newYork) (holidays : HolidayProvider) : Bool :=
  let previousWeekStart := thisWeekStart.minus (Duration.weeks 1)
  let sevenDaysApart := decide (thisWeekStart.dateNaive - previousWeekStart.dateNaive = 7)
  let openIsAHoliday := holidays.isHoliday thisWeekStart.dateNaive
  sevenDaysApart && !openIsAHoliday

end Oboobot.SessionTime
