import Oboobot.SessionTime.Calendar

/-! The eight entry windows of a New York day. -/

namespace Oboobot.SessionTime

open Domain

variable {newYork : NewYork}

/-- The hours a window centers on; `0` is midnight. -/
def macroCycleHours : List Int := [3, 6, 9, 12, 15, 18, 21, 0]

def macroCycleHalfWidthMinutes : Int := 10

/-- Minutes between `nyTime` and the nearest `cycleHour` of today, yesterday or tomorrow. -/
def minutesFromCycleCenter (nyTime : NyTime newYork) (cycleHour : Int) : Int :=
  let todayCenter := NaiveDate.andHour nyTime.dateNaive cycleHour
  let naiveNow := nyTime.naiveLocal
  let diffToday := |Duration.numMinutes (naiveNow - todayCenter)|
  let diffPreviousDay := |Duration.numMinutes (naiveNow - (todayCenter - Duration.days 1))|
  let diffNextDay := |Duration.numMinutes (naiveNow - (todayCenter + Duration.days 1))|
  min (min diffToday diffPreviousDay) diffNextDay

variable (newYork)

def isWithinMacroCycle (instant : Instant) : Bool :=
  macroCycleHours.any fun hour =>
    minutesFromCycleCenter (toNy newYork instant) hour ≤ macroCycleHalfWidthMinutes

end Oboobot.SessionTime
