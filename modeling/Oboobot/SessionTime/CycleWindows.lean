import Oboobot.SessionTime.MacroCycle
import Oboobot.SessionTime.NyClock

/-! Where the entry windows lie in elapsed time. Windows are measured on the clock
in whole minutes, so they are wider than ten minutes, and the clock that goes
forward cuts one short. -/

namespace Oboobot.SessionTime

open Domain

theorem minutes_eq (count : Int) : Duration.minutes count = count * 60000000000 := by
  unfold Duration.minutes Duration.seconds
  ring

theorem hours_eq (count : Int) : Duration.hours count = count * 3600000000000 := by
  unfold Duration.hours
  rw [minutes_eq]
  ring

theorem days_eq (count : Int) : Duration.days count = count * 86400000000000 := by
  unfold Duration.days
  rw [hours_eq]
  ring

theorem singleHour_of_mem {hour : Int} (member : hour ∈ macroCycleHours) : SingleHour hour := by
  simp only [macroCycleHours, List.mem_cons, List.not_mem_nil, or_false] at member
  refine ⟨?_, ?_, ?_, ?_⟩ <;> omega

/-- The hours of the windows are the multiples of three. -/
theorem exists_cycleHour_iff (shown : Int) :
    (∃ hour ∈ macroCycleHours, shown % Duration.days 1 = Duration.hours hour) ↔
      shown % Duration.hours 3 = 0 := by
  simp only [macroCycleHours, List.mem_cons, List.not_mem_nil, or_false, days_eq, hours_eq]
  constructor
  · rintro ⟨hour, member, shows⟩
    omega
  · intro multiple
    refine ⟨shown % (1 * 86400000000000) / 3600000000000, ?_, ?_⟩ <;> omega

namespace NewYork

/-- A New York clock shows the hour of a window. -/
def IsCycleCenter (newYork : NewYork) (instant : Instant) : Prop :=
  ∃ hour ∈ macroCycleHours, newYork.ShowsHour hour instant

instance (newYork : NewYork) (hour : Int) (instant : Instant) :
    Decidable (newYork.ShowsHour hour instant) :=
  inferInstanceAs (Decidable (_ = _))

instance (newYork : NewYork) (instant : Instant) : Decidable (newYork.IsCycleCenter instant) :=
  inferInstanceAs (Decidable (∃ hour ∈ macroCycleHours, _))

theorem isCycleCenter_iff (newYork : NewYork) (instant : Instant) :
    newYork.IsCycleCenter instant ↔ newYork.reading instant % Duration.hours 3 = 0 :=
  exists_cycleHour_iff _

theorem isCycleCenter_dvd {newYork : NewYork} {center : Instant}
    (isCenter : newYork.IsCycleCenter center) :
    ∃ count, newYork.reading center = Duration.hours 3 * count :=
  Int.dvd_of_emod_eq_zero ((isCycleCenter_iff newYork center).mp isCenter)

/-- Centers are at least two hours apart; only where the clock changes, not three. -/
theorem hours_le_of_isCycleCenter {newYork : NewYork} {first last : Int}
    (isFirst : newYork.IsCycleCenter first) (isLast : newYork.IsCycleCenter last)
    (later : first < last) : last - first = Duration.hours 2 ∨ last - first = Duration.hours 3 ∨
      Duration.hours 4 ≤ last - first := by
  obtain ⟨hour, member, shows⟩ := id isLast
  have forward := reading_lt_of_lt later
    (hour_ne_one_of_showsHour (singleHour_of_mem member) shows)
  obtain ⟨count, reads⟩ := isCycleCenter_dvd isFirst
  obtain ⟨count', reads'⟩ := isCycleCenter_dvd isLast
  have offset := newYork.standard_or_daylight first
  have offset' := newYork.standard_or_daylight last
  rw [reads, reads'] at forward
  unfold reading at reads reads'
  simp only [hours_eq] at *
  dsimp only [Instant, Duration, NaiveDateTime] at *
  omega

end NewYork

section windows

variable {newYork : NewYork} {instant : Instant}

theorem abs_numMinutes_le_iff (duration : Int) :
    |Duration.numMinutes duration| ≤ macroCycleHalfWidthMinutes ↔
      |duration| < Duration.minutes 11 := by
  unfold Duration.numMinutes macroCycleHalfWidthMinutes
  rw [minutes_eq, minutes_eq]
  rcases le_total 0 duration with nonneg | nonpos
  · rw [Int.tdiv_eq_ediv_of_nonneg nonneg, abs_of_nonneg nonneg,
      abs_of_nonneg (Int.ediv_nonneg nonneg (by norm_num))]
    omega
  · obtain ⟨size, rfl⟩ : ∃ size, duration = -size := ⟨-duration, by omega⟩
    have nonneg : 0 ≤ size := by omega
    rw [Int.neg_tdiv, abs_neg, abs_neg, Int.tdiv_eq_ediv_of_nonneg nonneg, abs_of_nonneg nonneg,
      abs_of_nonneg (Int.ediv_nonneg nonneg (by norm_num))]
    omega

/-- The three days that the code looks at are those around the date. -/
theorem minutesFromCycleCenter_le_iff (newYork : NewYork) (instant : Instant) (hour : Int) :
    minutesFromCycleCenter (toNy newYork instant) hour ≤ macroCycleHalfWidthMinutes ↔
      ∃ date : Int, |date - NaiveDateTime.date (newYork.reading instant)| ≤ 1 ∧
        |newYork.reading instant - NaiveDate.andHour date hour| < Duration.minutes 11 := by
  have today : (toNy newYork instant).dateNaive = NaiveDateTime.date (newYork.reading instant) := rfl
  have shown : (toNy newYork instant).naiveLocal = newYork.reading instant := rfl
  unfold minutesFromCycleCenter
  rw [min_le_iff, min_le_iff, today, shown]
  rw [abs_numMinutes_le_iff, abs_numMinutes_le_iff, abs_numMinutes_le_iff]
  generalize newYork.reading instant = now
  generalize NaiveDateTime.date now = date
  simp only [NaiveDate.andHour, days_eq, hours_eq, minutes_eq, abs_lt, abs_le]
  dsimp only [NaiveDateTime, NaiveDate, Duration] at *
  constructor
  · rintro ((near | near) | near)
    · exact ⟨date, by omega, by omega⟩
    · exact ⟨date - 1, by omega, by omega⟩
    · exact ⟨date + 1, by omega, by omega⟩
  · rintro ⟨other, around, near⟩
    omega

/-- On the clock, a window is everything less than eleven minutes from a multiple of three hours. -/
theorem isWithinMacroCycle_iff_reading (newYork : NewYork) (instant : Instant) :
    isWithinMacroCycle newYork instant = true ↔
      ∃ shown : Int, shown % Duration.hours 3 = 0 ∧
        |newYork.reading instant - shown| < Duration.minutes 11 := by
  unfold isWithinMacroCycle
  simp only [List.any_eq_true, decide_eq_true_eq, minutesFromCycleCenter_le_iff]
  constructor
  · rintro ⟨hour, member, date, _, near⟩
    have shows := andHour_emod (singleHour_of_mem member) date
    exact ⟨_, (exists_cycleHour_iff _).mp ⟨hour, member, shows⟩, near⟩
  · rintro ⟨shown, multiple, near⟩
    obtain ⟨hour, member, shows⟩ := (exists_cycleHour_iff shown).mpr multiple
    have same : shown = NaiveDate.andHour (shown / Duration.days 1) hour := by
      simp only [NaiveDate.andHour, ← shows, days_eq]
      dsimp only [NaiveDateTime, Duration]
      omega
    refine ⟨hour, member, shown / Duration.days 1, ?_, same ▸ near⟩
    unfold NaiveDateTime.date
    generalize newYork.reading instant = now at near ⊢
    simp only [days_eq, minutes_eq, abs_lt, abs_le] at *
    dsimp only [NaiveDateTime, Duration] at *
    omega

/-- In elapsed time, it is everything less than eleven minutes from a center that
is read with the same offset. -/
theorem isWithinMacroCycle_iff_center (newYork : NewYork) (instant : Int) :
    isWithinMacroCycle newYork instant = true ↔
      ∃ center : Int, newYork.IsCycleCenter center ∧
        newYork.utcOffset center = newYork.utcOffset instant ∧
        |instant - center| < Duration.minutes 11 := by
  rw [isWithinMacroCycle_iff_reading]
  constructor
  · rintro ⟨shown, multiple, near⟩
    obtain ⟨count, rfl⟩ := Int.dvd_of_emod_eq_zero multiple
    obtain ⟨center, reads⟩ : ∃ center : Int,
        center + newYork.utcOffset instant = Duration.hours 3 * count :=
      ⟨Duration.hours 3 * count - newYork.utcOffset instant, by ring⟩
    have same : newYork.utcOffset center = newYork.utcOffset instant := by
      by_contra differs
      have offset := newYork.standard_or_daylight instant
      have offset' := newYork.standard_or_daylight center
      unfold NewYork.reading at near
      rcases lt_or_gt_of_ne (fun equal => differs (congrArg _ equal) : center ≠ instant) with
        earlier | later
      · obtain ⟨switch, after, before, atTwo, _, _⟩ :=
          NewYork.exists_switch_at_two (le_of_lt earlier) differs
        simp only [days_eq, hours_eq, minutes_eq, abs_lt] at *
        dsimp only [Instant, Duration, NaiveDateTime] at *
        omega
      · obtain ⟨switch, after, before, atTwo, _, _⟩ :=
          NewYork.exists_switch_at_two (le_of_lt later) (Ne.symm differs)
        simp only [days_eq, hours_eq, minutes_eq, abs_lt] at *
        dsimp only [Instant, Duration, NaiveDateTime] at *
        omega
    refine ⟨center, ?_, same, ?_⟩
    · refine (newYork.isCycleCenter_iff center).mpr ?_
      rw [NewYork.reading, same, reads, Int.mul_emod_right]
    · unfold NewYork.reading at near
      rw [← reads] at near
      simpa using near
  · rintro ⟨center, isCenter, same, near⟩
    refine ⟨newYork.reading center, (newYork.isCycleCenter_iff center).mp isCenter, ?_⟩
    unfold NewYork.reading
    rw [same]
    simpa using near

/-- A center is at most ten minutes away. -/
def NearCenter (newYork : NewYork) (instant : Int) : Prop :=
  ∃ center : Int, newYork.IsCycleCenter center ∧ |instant - center| ≤ Duration.minutes 10

/-- In the eleventh minute around a center, with no change of clocks in between. -/
def OnEdge (newYork : NewYork) (instant : Int) : Prop :=
  ∃ center : Int, newYork.IsCycleCenter center ∧
    newYork.utcOffset center = newYork.utcOffset instant ∧
    Duration.minutes 10 < |instant - center| ∧ |instant - center| < Duration.minutes 11

/-- The clock goes forward within the next ten minutes. -/
def SkipsAhead (newYork : NewYork) (instant : Int) : Prop :=
  ∃ switch : Int, instant < switch ∧ switch - instant ≤ Duration.minutes 10 ∧
    newYork.utcOffset (switch - 1) = Duration.hours (-5) ∧
    newYork.utcOffset switch = Duration.hours (-4)

theorem center_unique {center center' : Int} (isCenter : newYork.IsCycleCenter center)
    (isCenter' : newYork.IsCycleCenter center') (near : |instant - center| < Duration.minutes 11)
    (near' : |instant - center'| < Duration.minutes 11) : center = center' := by
  by_contra apart
  have spaced : Duration.hours 2 ≤ |center - center'| := by
    rcases lt_or_gt_of_ne apart with earlier | later
    · have gaps := NewYork.hours_le_of_isCycleCenter isCenter isCenter' earlier
      simp only [hours_eq, le_abs] at *
      dsimp only [Instant, Duration] at *
      omega
    · have gaps := NewYork.hours_le_of_isCycleCenter isCenter' isCenter later
      simp only [hours_eq, le_abs] at *
      dsimp only [Instant, Duration] at *
      omega
  simp only [hours_eq, minutes_eq, abs_lt, le_abs] at *
  dsimp only [Instant, Duration] at *
  omega

/-- Where the offset changes on the way to a center, that center is the instant at which
the clock goes forward. -/
theorem forward_of_offset_ne {center : Int} (isCenter : newYork.IsCycleCenter center)
    (near : |instant - center| < Duration.minutes 11)
    (differs : newYork.utcOffset center ≠ newYork.utcOffset instant) :
    instant < center ∧ newYork.utcOffset (center - 1) = Duration.hours (-5) ∧
      newYork.utcOffset center = Duration.hours (-4) := by
  obtain ⟨count, reads⟩ := NewYork.isCycleCenter_dvd isCenter
  have offset := newYork.standard_or_daylight instant
  have offset' := newYork.standard_or_daylight center
  unfold NewYork.reading at reads
  rcases lt_or_gt_of_ne (fun equal => differs (congrArg _ equal) : center ≠ instant) with
    earlier | later
  · obtain ⟨switch, after, before, atTwo, _, _⟩ :=
      NewYork.exists_switch_at_two (le_of_lt earlier) differs
    simp only [days_eq, hours_eq, minutes_eq, abs_lt] at *
    dsimp only [Instant, Duration, NaiveDateTime] at *
    omega
  · obtain ⟨switch, after, before, atTwo, kept, _⟩ :=
      NewYork.exists_switch_at_two (le_of_lt later) (Ne.symm differs)
    have here : switch = center ∧ newYork.utcOffset instant = Duration.hours (-5) ∧
        newYork.utcOffset center = Duration.hours (-4) := by
      simp only [days_eq, hours_eq, minutes_eq, abs_lt] at *
      dsimp only [Instant, Duration, NaiveDateTime] at *
      omega
    obtain ⟨rfl, standard, daylight⟩ := here
    exact ⟨later, kept.trans standard, daylight⟩

/-- The instant at which the clock goes forward is a center. -/
theorem center_of_forward {switch : Int}
    (standard : newYork.utcOffset (switch - 1) = Duration.hours (-5))
    (daylight : newYork.utcOffset switch = Duration.hours (-4)) : newYork.IsCycleCenter switch := by
  have atTwo := newYork.switches_at_two switch (by rw [standard, daylight]; decide)
  rw [standard] at atTwo
  rw [NewYork.isCycleCenter_iff, NewYork.reading, daylight]
  simp only [days_eq, hours_eq] at *
  dsimp only [Instant, Duration, NaiveDateTime] at *
  omega

/-- In the ten minutes before, the clock is still on standard time. -/
theorem standard_before_forward {instant switch : Int} (before : instant < switch)
    (near : switch - instant ≤ Duration.minutes 10)
    (standard : newYork.utcOffset (switch - 1) = Duration.hours (-5))
    (daylight : newYork.utcOffset switch = Duration.hours (-4)) :
    newYork.utcOffset instant = Duration.hours (-5) := by
  by_contra other
  have atTwo := newYork.switches_at_two switch (by rw [standard, daylight]; decide)
  rw [standard] at atTwo
  have offset := newYork.standard_or_daylight instant
  have order : instant ≤ switch - 1 := by omega
  obtain ⟨earlier, after, until', atTwo', _, _⟩ :=
    NewYork.exists_switch_at_two order fun same => other (same.trans standard)
  simp only [days_eq, hours_eq, minutes_eq] at *
  dsimp only [Instant, Duration, NaiveDateTime] at *
  omega

/-- The windows reach ten minutes either side of the centers, except that they take
in the eleventh minute and leave out the ten minutes before the clock goes forward. -/
theorem isWithinMacroCycle_iff_nearCenter (newYork : NewYork) (instant : Instant) :
    (isWithinMacroCycle newYork instant = true ↔ NearCenter newYork instant) ↔
      ¬OnEdge newYork instant ∧ ¬SkipsAhead newYork instant := by
  rw [isWithinMacroCycle_iff_center]
  constructor
  · intro claimed
    constructor
    · rintro ⟨center, isCenter, same, far, near⟩
      obtain ⟨other, isOther, nearer⟩ := claimed.mp ⟨center, isCenter, same, near⟩
      have equal := center_unique isCenter isOther near
        (nearer.trans_lt (by decide))
      exact absurd (equal ▸ nearer) (not_le.mpr far)
    · rintro ⟨switch, before, near, standard, daylight⟩
      have isCenter := center_of_forward standard daylight
      have nearCenter : |instant - switch| ≤ Duration.minutes 10 := by
        rw [abs_sub_comm, abs_of_pos (by simpa using before)]
        exact near
      obtain ⟨other, isOther, same, close⟩ := claimed.mpr ⟨switch, isCenter, nearCenter⟩
      have equal := center_unique isCenter isOther
        (nearCenter.trans_lt (by decide)) close
      rw [← equal, daylight, standard_before_forward before near standard daylight] at same
      exact absurd same (by decide)
  · rintro ⟨noEdge, noSkip⟩
    constructor
    · rintro ⟨center, isCenter, same, near⟩
      refine ⟨center, isCenter, ?_⟩
      by_contra far
      exact noEdge ⟨center, isCenter, same, not_le.mp far, near⟩
    · rintro ⟨center, isCenter, near⟩
      have close : |instant - center| < Duration.minutes 11 :=
        near.trans_lt (by decide)
      refine ⟨center, isCenter, ?_, close⟩
      by_contra differs
      obtain ⟨before, standard, daylight⟩ := forward_of_offset_ne isCenter close differs
      refine noSkip ⟨center, before, ?_, standard, daylight⟩
      rwa [abs_sub_comm, abs_of_pos (by simpa using before)] at near

/-- Ten and a half minutes after 03:00 on a winter morning. -/
theorem late_not_nearCenter :
    ¬∀ (newYork : NewYork) (instant : Instant),
      isWithinMacroCycle newYork instant = true ↔ NearCenter newYork instant := by
  intro claimed
  obtain ⟨center, isCenter, near⟩ := (claimed .standardTime
    (Duration.days 19732 + Duration.hours 8 + Duration.seconds 630)).mp (by decide)
  have atThree : NewYork.standardTime.IsCycleCenter (Duration.days 19732 + Duration.hours 8) := by
    decide
  have same := center_unique isCenter atThree (near.trans_lt (by decide)) (by decide)
  rw [same] at near
  exact absurd near (by decide)

end windows

end Oboobot.SessionTime
