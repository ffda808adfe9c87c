import Oboobot.SessionTime.Calendar

/-! True Open levels: when one is captured, how long it holds, and the gate that
compares its bias with a signal's direction. -/

namespace Oboobot.SessionTime

open Domain

inductive Timeframe where
  | weekly
  | daily
  deriving DecidableEq

structure TrueOpenLevel where
  timeframe : Timeframe
  symbol : String
  level : Decimal
  setAt : Instant
  expiresAt : Instant
  deriving DecidableEq

def TrueOpenLevel.isExpired (level : TrueOpenLevel) (instant : Instant) : Bool :=
  instant ≥ level.expiresAt

def biasFromPrice (currentPrice trueOpenLevel : Decimal) : Bias :=
  if currentPrice > trueOpenLevel then .buy
  else if currentPrice < trueOpenLevel then .sell
  else .neutral

theorem biasFromPrice_neutral_iff (price level : Decimal) :
    biasFromPrice price level = .neutral ↔ price = level := by
  unfold biasFromPrice
  split
  · rename_i above
    simpa using ne_of_gt above
  · rename_i notAbove
    split
    · rename_i below
      simpa using ne_of_lt below
    · rename_i notBelow
      simpa using le_antisymm (not_lt.mp notAbove) (not_lt.mp notBelow)

/-- Weekly decides unless it is neutral; then Daily does. -/
def trueOpenGate (weeklyBias dailyBias : Bias) (smtDirection : Direction) :
    Except RejectionReason Unit :=
  let effectiveBias := match weeklyBias with
    | .neutral => dailyBias
    | decisive => decisive
  match effectiveBias, smtDirection with
  | .neutral, _ => .ok ()
  | .buy, .buy => .ok ()
  | .sell, .sell => .ok ()
  | _, _ => .error .trueOpenGateConflict

/-- Whether the week of `reference` gets a weekly level at all. -/
def weekQualifiesForWeeklyTrueOpen (newYork : NewYork) (reference : Instant)
    (holidays : HolidayProvider) : Bool :=
  isFullTradingWeek (weekStartFor (toNy newYork reference)) holidays

def dailyCaptureHourNy : Int := 0

def weeklyCaptureHourNy : Int := 18

/-- `while date.weekday() != target { date += 1 day }`. Seven rounds meet every weekday. -/
def seekWeekday (target : Weekday) : Nat → NaiveDate → NaiveDate
  | 0, date => date
  | rounds + 1, date =>
    if NaiveDate.weekday date = target then date
    else seekWeekday target rounds (date + 1 : Int)

variable (newYork : NewYork)

/-- The next instant after `after` that reads `hour:00` in New York, on
`weekday` if one is given. -/
def nextNyOccurrence (after : Instant) (hour : Int) (weekday : Option Weekday) : Instant :=
  let nyNow := toNy newYork after
  let today := nyNow.dateNaive
  let candidateDate : NaiveDate := if nyNow.hour ≥ hour then today + 1 else today
  let candidateDate := match weekday with
    | some target => seekWeekday target 7 candidateDate
    | none => candidateDate
  match fromLocalDatetime newYork (NaiveDate.andHour candidateDate hour) with
  | .single time => time.instant
  | .ambiguous earlier _ => earlier.instant
  | .none => after

def needsCapture (now : Instant) (current : Option TrueOpenLevel) : Bool :=
  match current with
  | none => true
  | some level => level.isExpired now

/-- A fresh level at `price`. A partial week gets no weekly level. -/
def captureLevel (timeframe : Timeframe) (symbol : String) (price : Decimal) (now : Instant)
    (holidays : HolidayProvider) : Option TrueOpenLevel :=
  match timeframe with
  | .weekly =>
    let thisWeekStart := weekStartFor (toNy newYork now)
    if isFullTradingWeek thisWeekStart holidays then
      some {
        timeframe, symbol, level := price, setAt := now
        expiresAt := nextNyOccurrence newYork now weeklyCaptureHourNy (some .mon) }
    else none
  | .daily =>
    some {
      timeframe, symbol, level := price, setAt := now
      expiresAt := nextNyOccurrence newYork now dailyCaptureHourNy none }

variable {newYork}

theorem captureLevel_symbol {timeframe : Timeframe} {symbol : String} {price : Decimal}
    {now : Instant} {holidays : HolidayProvider} {level : TrueOpenLevel}
    (captured : captureLevel newYork timeframe symbol price now holidays = some level) :
    level.symbol = symbol := by
  cases timeframe with
  | weekly =>
    simp only [captureLevel] at captured
    split at captured
    · cases captured
      rfl
    · cases captured
  | daily =>
    cases captured
    rfl

end Oboobot.SessionTime
