import Oboobot.SessionTime.TrueOpen
import Mathlib.Order.Bounds.Basic

/-! What a New York clock shows as time passes: it only ever goes back within
the hour after 01:00, so every other full hour of a date is shown once. -/

namespace Oboobot.SessionTime

open Domain

namespace NewYork

variable (newYork : NewYork)

/-- What a New York clock shows at an instant. -/
def reading (instant : Instant) : NaiveDateTime := instant + newYork.utcOffset instant

/-- The clock shows `hour:00` exactly. -/
def ShowsHour (hour : Int) (instant : Instant) : Prop :=
  newYork.reading instant % Duration.days 1 = Duration.hours hour

variable {newYork}

/-- Between two instants with different offsets lies a first switch. -/
theorem exists_switch {first last : Int} (later : first ≤ last)
    (differs : newYork.utcOffset first ≠ newYork.utcOffset last) :
    ∃ switch, first < switch ∧ switch ≤ last ∧
      newYork.utcOffset (switch - 1) = newYork.utcOffset first ∧
      newYork.utcOffset switch ≠ newYork.utcOffset first := by
  obtain ⟨steps, rfl⟩ := Int.le.dest later
  clear later
  induction steps with
  | zero => exact absurd (by simp) differs
  | succ steps ih =>
    by_cases earlier : newYork.utcOffset first = newYork.utcOffset (first + steps)
    · refine ⟨first + (steps + 1 : Nat), by omega, le_refl _, ?_, differs.symm⟩
      rw [earlier]
      congr 1
      push_cast
      ring
    · obtain ⟨switch, after, before, same, changed⟩ := ih earlier
      exact ⟨switch, after, by omega, same, changed⟩

/-- That switch comes when the clock, as it was, reaches 02:00. -/
theorem exists_switch_at_two {first last : Int} (later : first ≤ last)
    (differs : newYork.utcOffset first ≠ newYork.utcOffset last) :
    ∃ switch, first < switch ∧ switch ≤ last ∧
      (switch + newYork.utcOffset first) % Duration.days 1 = Duration.hours 2 ∧
      newYork.utcOffset (switch - 1) = newYork.utcOffset first ∧
      newYork.utcOffset switch ≠ newYork.utcOffset first := by
  obtain ⟨switch, after, before, same, changed⟩ := exists_switch later differs
  have atTwo := newYork.switches_at_two switch (same ▸ changed.symm)
  rw [same] at atTwo
  exact ⟨switch, after, before, atTwo, same, changed⟩

/-- A clock that goes back, or shows the same again, does so between 01:00 and 02:00. -/
theorem hour_of_reading_le {first last : Int} (later : first < last)
    (back : newYork.reading last ≤ newYork.reading first) :
    NaiveDateTime.hour (newYork.reading first) = 1 ∧
      NaiveDateTime.hour (newYork.reading last) = 1 := by
  unfold reading at back ⊢
  have differs : newYork.utcOffset first ≠ newYork.utcOffset last := by
    intro same
    rw [same] at back
    exact absurd later (not_lt.mpr (by simpa using back))
  obtain ⟨switch, after, before, atTwo, _, _⟩ := exists_switch_at_two (le_of_lt later) differs
  have firstOffset := newYork.standard_or_daylight first
  have lastOffset := newYork.standard_or_daylight last
  dsimp only [Instant, Duration, NaiveDateTime, NaiveDateTime.hour, Duration.days, Duration.hours,
    Duration.minutes, Duration.seconds] at *
  omega

/-- Outside that hour the clock moves forward. -/
theorem lt_of_reading_lt {first last : Instant}
    (below : newYork.reading first < newYork.reading last)
    (single : NaiveDateTime.hour (newYork.reading last) ≠ 1) : first < last := by
  by_contra reversed
  rcases lt_or_eq_of_le (not_lt.mp reversed) with after | same
  · exact single (hour_of_reading_le after (le_of_lt below)).1
  · rw [same] at below
    exact lt_irrefl _ below

theorem reading_lt_of_lt {first last : Instant} (later : first < last)
    (single : NaiveDateTime.hour (newYork.reading last) ≠ 1) :
    newYork.reading first < newYork.reading last := by
  by_contra back
  exact single (hour_of_reading_le later (not_lt.mp back)).2

/-- If either reading lies outside that hour, both clocks agree on which came first. -/
theorem reading_lt_reading_iff {first last : Int}
    (single : NaiveDateTime.hour (newYork.reading first) ≠ 1 ∨
      NaiveDateTime.hour (newYork.reading last) ≠ 1) :
    newYork.reading first < newYork.reading last ↔ first < last := by
  constructor
  · intro below
    rcases lt_trichotomy first last with earlier | same | later
    · exact earlier
    · exact absurd (same ▸ below) (lt_irrefl _)
    · obtain ⟨hourLast, hourFirst⟩ := hour_of_reading_le later (le_of_lt below)
      rcases single with notFirst | notLast
      · exact absurd hourFirst notFirst
      · exact absurd hourLast notLast
  · intro later
    by_contra back
    obtain ⟨hourFirst, hourLast⟩ := hour_of_reading_le later (not_lt.mp back)
    rcases single with notFirst | notLast
    · exact absurd hourFirst notFirst
    · exact absurd hourLast notLast

theorem reading_le_reading_iff {first last : Int}
    (single : NaiveDateTime.hour (newYork.reading first) ≠ 1 ∨
      NaiveDateTime.hour (newYork.reading last) ≠ 1) :
    newYork.reading first ≤ newYork.reading last ↔ first ≤ last := by
  rw [← not_lt, ← not_lt, reading_lt_reading_iff single.symm]

end NewYork

variable {newYork : NewYork}

/-- A full hour that the clock neither skips nor repeats. -/
structure SingleHour (hour : Int) : Prop where
  nonneg : 0 ≤ hour
  below : hour < 24
  notRepeated : hour ≠ 1
  notSkipped : hour ≠ 2

theorem andHour_emod {hour : Int} (single : SingleHour hour) (date : NaiveDate) :
    NaiveDate.andHour date hour % Duration.days 1 = Duration.hours hour := by
  obtain ⟨nonneg, below, _, _⟩ := single
  dsimp only [Instant, Duration, NaiveDateTime, NaiveDate, NaiveDate.andHour, Duration.days,
    Duration.hours, Duration.minutes, Duration.seconds]
  omega

theorem hour_andHour {hour : Int} (single : SingleHour hour) (date : NaiveDate) :
    NaiveDateTime.hour (NaiveDate.andHour date hour) = hour := by
  obtain ⟨nonneg, below, _, _⟩ := single
  simp only [NaiveDateTime.hour, NaiveDate.andHour, Duration.days, Duration.hours,
    Duration.minutes, Duration.seconds]
  omega

theorem hour_ne_one_of_showsHour {hour : Int} (single : SingleHour hour) {instant : Instant}
    (shows : newYork.ShowsHour hour instant) :
    NaiveDateTime.hour (newYork.reading instant) ≠ 1 := by
  obtain ⟨nonneg, below, notRepeated, _⟩ := single
  unfold NewYork.ShowsHour at shows
  generalize newYork.reading instant = shown at shows ⊢
  dsimp only [NaiveDateTime, NaiveDateTime.hour, Duration.days, Duration.hours, Duration.minutes,
    Duration.seconds] at *
  omega

/-- No switch falls into the hour that ends with a single full hour. -/
private theorem utcOffset_same (newYork : NewYork) {hour shown : Int} (single : SingleHour hour)
    (emod : shown % Duration.days 1 = Duration.hours hour) :
    newYork.utcOffset (shown + Duration.hours 4) = newYork.utcOffset (shown + Duration.hours 5) := by
  obtain ⟨nonneg, below, notRepeated, notSkipped⟩ := single
  by_contra differs
  have order : shown + Duration.hours 4 ≤ shown + Duration.hours 5 := by
    simp [Duration.hours, Duration.minutes, Duration.seconds]
  obtain ⟨switch, after, before, atTwo, _, _⟩ := NewYork.exists_switch_at_two order differs
  have daylight := newYork.standard_or_daylight (shown + Duration.hours 4)
  dsimp only [Instant, Duration, NaiveDateTime, Duration.days, Duration.hours, Duration.minutes,
    Duration.seconds] at *
  omega

/-- Such an hour is shown at exactly one instant of every date. -/
theorem fromLocalDatetime_andHour (newYork : NewYork) {hour : Int} (single : SingleHour hour)
    (date : NaiveDate) : ∃ instant,
      fromLocalDatetime newYork (NaiveDate.andHour date hour) = .single ⟨instant⟩ ∧
      newYork.reading instant = NaiveDate.andHour date hour := by
  have together := utcOffset_same newYork single (andHour_emod single date)
  generalize NaiveDate.andHour date hour = shown at together ⊢
  unfold fromLocalDatetime NewYork.reading
  rcases newYork.standard_or_daylight (shown + Duration.hours 5) with standard | daylight
  · refine ⟨shown + Duration.hours 5, ?_, ?_⟩
    · rw [if_neg, if_pos standard]
      rw [together, standard]
      decide
    · rw [standard]
      simp [Duration.hours, Duration.minutes, Duration.seconds]
  · refine ⟨shown + Duration.hours 4, ?_, ?_⟩
    · rw [if_pos (together.trans daylight), if_neg]
      rw [daylight]
      decide
    · rw [together, daylight]
      simp [Duration.hours, Duration.minutes, Duration.seconds]

/-- The first reading of an hour after `shown` is today's, or tomorrow's if today's has passed. -/
private theorem isLeast_andHour {hour : Int} (single : SingleHour hour) (shown : Int) :
    IsLeast {other | shown < other ∧ other % Duration.days 1 = Duration.hours hour}
      (NaiveDate.andHour (if NaiveDateTime.hour shown ≥ hour then NaiveDateTime.date shown + 1
        else NaiveDateTime.date shown) hour) := by
  obtain ⟨nonneg, below, _, _⟩ := id single
  by_cases passed : NaiveDateTime.hour shown ≥ hour
  · rw [if_pos passed]
    refine ⟨⟨?_, andHour_emod single _⟩, fun other ⟨later, shows⟩ => ?_⟩ <;>
      dsimp only [NaiveDateTime, NaiveDate, NaiveDateTime.hour, NaiveDateTime.date,
        NaiveDate.andHour, Duration.days, Duration.hours, Duration.minutes, Duration.seconds] at * <;>
      omega
  · rw [if_neg passed]
    refine ⟨⟨?_, andHour_emod single _⟩, fun other ⟨later, shows⟩ => ?_⟩ <;>
      dsimp only [NaiveDateTime, NaiveDate, NaiveDateTime.hour, NaiveDateTime.date,
        NaiveDate.andHour, Duration.days, Duration.hours, Duration.minutes, Duration.seconds] at * <;>
      omega

private theorem nextNyOccurrence_eq (newYork : NewYork) (after : Instant) {hour : Int}
    (single : SingleHour hour) :
    newYork.reading (nextNyOccurrence newYork after hour none) =
      NaiveDate.andHour (if NaiveDateTime.hour (newYork.reading after) ≥ hour then
        NaiveDateTime.date (newYork.reading after) + 1
        else NaiveDateTime.date (newYork.reading after)) hour := by
  obtain ⟨instant, converted, shows⟩ := fromLocalDatetime_andHour newYork single
    (if NaiveDateTime.hour (newYork.reading after) ≥ hour then
      NaiveDateTime.date (newYork.reading after) + 1
      else NaiveDateTime.date (newYork.reading after))
  have found : nextNyOccurrence newYork after hour none = instant := by
    unfold nextNyOccurrence
    dsimp only
    split
    · rename_i time same
      cases same.symm.trans converted
      rfl
    · rename_i same
      cases same.symm.trans converted
    · rename_i same
      cases same.symm.trans converted
  rw [found, shows]

/-- The next occurrence of an hour is the first instant after `after` at which
a New York clock shows it. -/
theorem isLeast_nextNyOccurrence (newYork : NewYork) (after : Instant) {hour : Int}
    (single : SingleHour hour) :
    IsLeast {instant | after < instant ∧ newYork.ShowsHour hour instant}
      (nextNyOccurrence newYork after hour none) := by
  have shows := nextNyOccurrence_eq newYork after single
  obtain ⟨⟨ahead, emod⟩, least⟩ := isLeast_andHour single (newYork.reading after)
  rw [← shows] at ahead emod least
  have notRepeated : NaiveDateTime.hour
      (newYork.reading (nextNyOccurrence newYork after hour none)) ≠ 1 := by
    rw [shows, hour_andHour single]
    exact single.notRepeated
  refine ⟨⟨NewYork.lt_of_reading_lt ahead notRepeated, emod⟩, ?_⟩
  intro instant ⟨later, showsHour⟩
  have notRepeated' : NaiveDateTime.hour (newYork.reading instant) ≠ 1 :=
    hour_ne_one_of_showsHour single showsHour
  have forward := NewYork.reading_lt_of_lt later notRepeated'
  by_contra before
  exact absurd (NewYork.reading_lt_of_lt (not_le.mp before) notRepeated)
    (not_lt.mpr (least ⟨forward, showsHour⟩))

/-- It is at most a day and an hour away. -/
theorem nextNyOccurrence_le (newYork : NewYork) (after : Int) {hour : Int}
    (single : SingleHour hour) :
    nextNyOccurrence newYork after hour none ≤ after + Duration.hours 25 := by
  have shows := nextNyOccurrence_eq newYork after single
  have before := newYork.standard_or_daylight after
  have then' := newYork.standard_or_daylight (nextNyOccurrence newYork after hour none)
  obtain ⟨nonneg, below, _, _⟩ := single
  unfold NewYork.reading at shows
  generalize newYork.utcOffset after = offset at shows before
  generalize nextNyOccurrence newYork after hour none = instant at shows then' ⊢
  generalize newYork.utcOffset instant = offset' at shows then'
  by_cases passed : NaiveDateTime.hour (after + offset) ≥ hour
  · rw [if_pos passed] at shows
    dsimp only [Instant, Duration, NaiveDateTime, NaiveDate, NaiveDateTime.hour,
      NaiveDateTime.date, NaiveDate.andHour, Duration.days, Duration.hours, Duration.minutes,
      Duration.seconds] at *
    omega
  · rw [if_neg passed] at shows
    dsimp only [Instant, Duration, NaiveDateTime, NaiveDate, NaiveDateTime.hour,
      NaiveDateTime.date, NaiveDate.andHour, Duration.days, Duration.hours, Duration.minutes,
      Duration.seconds] at *
    omega

/-- The last hours of a New York date, five of them or four, when UTC already counts
the next one. -/
def NewYork.IsLateEvening (newYork : NewYork) (instant : Instant) : Prop :=
  Duration.days 1 + newYork.utcOffset instant ≤ newYork.reading instant % Duration.days 1

instance (newYork : NewYork) (instant : Instant) : Decidable (newYork.IsLateEvening instant) :=
  Int.decLe _ _

/-- UTC counts the date in New York, or the one after it. -/
theorem utcDateNaive_eq (newYork : NewYork) (instant : Int) :
    utcDateNaive instant = (toNy newYork instant).dateNaive +
      if newYork.IsLateEvening instant then 1 else 0 := by
  have offset := newYork.standard_or_daylight instant
  unfold utcDateNaive NyTime.dateNaive NyTime.naiveLocal toNy
  split
  all_goals
    rename_i late
    unfold NewYork.IsLateEvening NewYork.reading at late
    dsimp only [Instant, Duration, NaiveDateTime, NaiveDate, NaiveDateTime.date, Duration.days,
      Duration.hours, Duration.minutes, Duration.seconds] at *
    omega

end Oboobot.SessionTime
