import Oboobot.Strategy.Smt

/-! The running ranges that divergence is measured against, and the spread history. -/

namespace Oboobot.Strategy

open Domain SessionTime

def dailyResetHourNy : Int := 18

def sessionBoundaryHoursNy : List Int := [18, 0, 6, 12]

structure RollingBuffer where
  high : Decimal
  low : Decimal
  resetsAt : Instant
  deriving DecidableEq

namespace RollingBuffer

def start (price : Decimal) (resetsAt : Instant) : RollingBuffer where
  high := price
  low := price
  resetsAt := resetsAt

/-- Widen the range to include `price`. -/
def observe (buffer : RollingBuffer) (price : Decimal) : RollingBuffer :=
  let buffer := if price > buffer.high then { buffer with high := price } else buffer
  if price < buffer.low then { buffer with low := price } else buffer

def isExpired (buffer : RollingBuffer) (now : Instant) : Bool := now ≥ buffer.resetsAt

def asBufferLevels (buffer : RollingBuffer) : BufferLevels where
  low := buffer.low
  high := buffer.high

theorem observe_high (buffer : RollingBuffer) (price : Decimal) :
    (buffer.observe price).high = max buffer.high price := by
  unfold observe
  rcases lt_or_ge buffer.high price with above | inside
  · rw [max_eq_right (le_of_lt above)]
    by_cases below : price < buffer.low <;> simp [above, below]
  · rw [max_eq_left inside]
    by_cases below : price < buffer.low <;> simp [not_lt.mpr inside, below]

theorem observe_low (buffer : RollingBuffer) (price : Decimal) :
    (buffer.observe price).low = min buffer.low price := by
  unfold observe
  rcases lt_or_ge price buffer.low with below | inside
  · rw [min_eq_right (le_of_lt below)]
    by_cases above : price > buffer.high <;> simp [above, below]
  · rw [min_eq_left inside]
    by_cases above : price > buffer.high <;> simp [above, not_lt.mpr inside]

@[simp] theorem observe_resetsAt (buffer : RollingBuffer) (price : Decimal) :
    (buffer.observe price).resetsAt = buffer.resetsAt := by
  unfold observe
  by_cases above : price > buffer.high <;> by_cases below : price < buffer.low <;>
    simp [above, below]

theorem observe_contains (buffer : RollingBuffer) (price : Decimal) :
    (buffer.observe price).asBufferLevels.Contains price := by
  constructor
  · exact (buffer.observe_low price).trans_le (min_le_right _ _)
  · exact (le_max_right _ _).trans_eq (buffer.observe_high price).symm

theorem observe_of_contains {buffer : RollingBuffer} {price : Decimal}
    (inside : buffer.asBufferLevels.Contains price) : buffer.observe price = buffer := by
  have below : ¬price < buffer.low := not_lt.mpr inside.1
  have above : ¬price > buffer.high := not_lt.mpr inside.2
  unfold observe
  rw [if_neg above]
  exact if_neg below

end RollingBuffer

/-- Widen a range that is still current, or start a new one. -/
def updateBuffer (resetsAt : Instant) (current : Option RollingBuffer) (price : Decimal)
    (now : Instant) : RollingBuffer :=
  match current with
  | some buffer => if buffer.isExpired now then .start price resetsAt else buffer.observe price
  | none => .start price resetsAt

/-- Whatever was on file, the range on return contains the price just observed. -/
theorem updateBuffer_contains (resetsAt : Instant) (current : Option RollingBuffer)
    (price : Decimal) (now : Instant) :
    (updateBuffer resetsAt current price now).asBufferLevels.Contains price := by
  unfold updateBuffer
  split
  · split
    · exact ⟨le_refl price, le_refl price⟩
    · exact RollingBuffer.observe_contains _ price
  · exact ⟨le_refl price, le_refl price⟩

/-- A range that has taken in a price is not changed by the same price. -/
theorem updateBuffer_idem (resetsAt : Instant) (current : Option RollingBuffer) (price : Decimal)
    (now : Instant) :
    updateBuffer resetsAt (some (updateBuffer resetsAt current price now)) price now =
      updateBuffer resetsAt current price now := by
  have again {buffer : RollingBuffer} (inside : buffer.asBufferLevels.Contains price)
      (renewed : buffer.isExpired now = true → buffer = .start price resetsAt) :
      updateBuffer resetsAt (some buffer) price now = buffer := by
    dsimp only [updateBuffer]
    split
    · rename_i expired
      exact (renewed expired).symm
    · exact RollingBuffer.observe_of_contains inside
  refine again (updateBuffer_contains resetsAt current price now) ?_
  intro expired
  cases current with
  | none => rfl
  | some buffer =>
    dsimp only [updateBuffer] at expired ⊢
    split at expired
    · rename_i old
      rw [if_pos old]
    · rename_i current
      have unchanged : (buffer.observe price).isExpired now = buffer.isExpired now := by
        unfold RollingBuffer.isExpired
        rw [RollingBuffer.observe_resetsAt]
      exact absurd (unchanged ▸ expired) current

variable (newYork : NewYork)

def nextSessionBoundary (after : Instant) : Instant :=
  ((sessionBoundaryHoursNy.map fun hour => nextNyOccurrence newYork after hour none).min?).getD after

def updateDailyBuffer (current : Option RollingBuffer) (price : Decimal) (now : Instant) :
    RollingBuffer :=
  updateBuffer (nextNyOccurrence newYork now dailyResetHourNy none) current price now

def updateSessionBuffer (current : Option RollingBuffer) (price : Decimal) (now : Instant) :
    RollingBuffer :=
  updateBuffer (nextSessionBoundary newYork now) current price now

def maxSpreadSamples : Nat := 900

structure SpreadHistory where
  samples : List Decimal
  lastUpdated : Option Instant
  deriving DecidableEq

namespace SpreadHistory

/-- `SpreadHistory::default()`. -/
def default : SpreadHistory where
  samples := []
  lastUpdated := none

def record (history : SpreadHistory) (spread : Decimal) (now : Instant) : SpreadHistory :=
  let samples := history.samples ++ [spread]
  { samples := if samples.length > maxSpreadSamples then samples.drop 1 else samples
    lastUpdated := some now }

def average (history : SpreadHistory) : Option Decimal :=
  if history.samples.isEmpty then none
  else some (history.samples.sum / history.samples.length)

/-- At or under the average times `multiplier`; a history without samples passes. -/
def passesFilter (history : SpreadHistory) (currentSpread multiplier : Decimal) : Bool :=
  match history.average with
  | some average => currentSpread ≤ average * multiplier
  | none => true

end SpreadHistory

end Oboobot.Strategy
