import Oboobot.SessionTime.CycleWindows
import Oboobot.SessionTime.Schedule
import Oboobot.Strategy.Buffers
import Mathlib.Data.List.Induction

/-! What a rolling range holds after any number of updates: the extremes since
the last New York boundary, and the boundary to come. -/

namespace Oboobot.Strategy

open Domain SessionTime

section schedules
variable (newYork : NewYork)

/-- Every session begins in the middle of an entry window. -/
theorem sessionBoundaryHoursNy_subset : sessionBoundaryHoursNy ⊆ macroCycleHours := by decide

/-- An 18:00, 00:00, 06:00 or 12:00 in New York. -/
def SessionBoundary (instant : Instant) : Prop :=
  ∃ hour ∈ sessionBoundaryHoursNy, newYork.ShowsHour hour instant

theorem isLeast_nextSessionBoundary (after : Instant) :
    IsLeast {instant | after < instant ∧ SessionBoundary newYork instant}
      (nextSessionBoundary newYork after) := by
  have nonempty : (sessionBoundaryHoursNy.map fun hour =>
      nextNyOccurrence newYork after hour none) ≠ [] := by simp [sessionBoundaryHoursNy]
  obtain ⟨next, found⟩ := Option.isSome_iff_exists.mp (List.isSome_min?_iff.mpr nonempty)
  obtain ⟨member, least⟩ := List.min?_eq_some_iff.mp found
  obtain ⟨hour, listed, rfl⟩ := List.mem_map.mp member
  have same : nextSessionBoundary newYork after = nextNyOccurrence newYork after hour none := by
    rw [nextSessionBoundary, found]
    rfl
  rw [same]
  have single {hour : Int} (listed : hour ∈ sessionBoundaryHoursNy) : SingleHour hour :=
    singleHour_of_mem (sessionBoundaryHoursNy_subset listed)
  obtain ⟨⟨later, shows⟩, _⟩ := isLeast_nextNyOccurrence newYork after (single listed)
  refine ⟨⟨later, hour, listed, shows⟩, ?_⟩
  intro instant ⟨later', other, listed', shows'⟩
  have before := (isLeast_nextNyOccurrence newYork after (single listed')).2 ⟨later', shows'⟩
  exact (least _ (List.mem_map.mpr ⟨other, listed', rfl⟩)).trans before

theorem exists_showsHour_le {hour : Int} (single : SingleHour hour) (moment : Int) :
    ∃ instant, newYork.ShowsHour hour instant ∧ instant ≤ moment := by
  let earlier : Int := moment - Duration.hours 25
  refine ⟨nextNyOccurrence newYork earlier hour none,
    (isLeast_nextNyOccurrence newYork earlier single).1.2, ?_⟩
  exact (nextNyOccurrence_le newYork earlier single).trans_eq (sub_add_cancel _ _)

/-- A daily range starts over at every 18:00 in New York. -/
def dailySchedule : Schedule where
  boundaries := {instant | newYork.ShowsHour dailyResetHourNy instant}
  next after := nextNyOccurrence newYork after dailyResetHourNy none
  isLeast_next after := isLeast_nextNyOccurrence newYork after (singleHour_of_mem (by decide))
  reachesBack := exists_showsHour_le newYork (singleHour_of_mem (by decide))

def sessionSchedule : Schedule where
  boundaries := {instant | SessionBoundary newYork instant}
  next := nextSessionBoundary newYork
  isLeast_next := isLeast_nextSessionBoundary newYork
  reachesBack moment := by
    have evening : dailyResetHourNy ∈ sessionBoundaryHoursNy := by decide
    obtain ⟨instant, shows, before⟩ :=
      exists_showsHour_le newYork (singleHour_of_mem (sessionBoundaryHoursNy_subset evening)) moment
    exact ⟨instant, ⟨dailyResetHourNy, evening, shows⟩, before⟩

end schedules

/-- A price and when it was observed. -/
abbrev PricePoint := Decimal × Instant

/-- Feed the observations to `update` one after the other, each result into the next call. -/
def observeAll (update : Option RollingBuffer → Decimal → Instant → RollingBuffer)
    (observations : List PricePoint) : Option RollingBuffer :=
  observations.foldl (fun current (price, now) => some (update current price now)) none

theorem observeAll_append_singleton
    (update : Option RollingBuffer → Decimal → Instant → RollingBuffer)
    (earlier : List PricePoint) (price : Decimal) (now : Instant) :
    observeAll update (earlier ++ [(price, now)]) =
      some (update (observeAll update earlier) price now) := by
  simp [observeAll]

/-- At `now`, the range spans the prices observed since the last boundary and
holds until the next one. -/
def Spans (schedule : Schedule) (observations : List PricePoint) (now : Instant)
    (buffer : RollingBuffer) : Prop :=
  ∃ opened, schedule.IsLast now opened ∧
    IsGreatest {price | ∃ time, (price, time) ∈ observations ∧ opened ≤ time} buffer.high ∧
    IsLeast {price | ∃ time, (price, time) ∈ observations ∧ opened ≤ time} buffer.low ∧
    IsLeast {boundary | now < boundary ∧ boundary ∈ schedule.boundaries} buffer.resetsAt

variable {schedule : Schedule}

/-- A range that starts over after the last boundary spans one price. -/
theorem spans_start {earlier : List PricePoint} {opened now : Instant} (price : Decimal)
    (last : schedule.IsLast now opened) (before : ∀ point ∈ earlier, point.2 < opened) :
    Spans schedule (earlier ++ [(price, now)]) now (.start price (schedule.next now)) := by
  have only : {other | ∃ time, (other, time) ∈ earlier ++ [(price, now)] ∧ opened ≤ time} =
      {price} := by
    ext other
    simp only [List.mem_append, List.mem_singleton, Prod.mk.injEq, Set.mem_ofPred_eq,
      Set.mem_singleton_iff]
    constructor
    · rintro ⟨time, old | ⟨rfl, _⟩, since⟩
      · exact absurd since (not_le.mpr (before _ old))
      · rfl
    · rintro rfl
      exact ⟨now, .inr ⟨rfl, rfl⟩, last.1.1⟩
  refine ⟨opened, last, ?_, ?_, schedule.isLeast_next now⟩ <;> rw [only]
  · exact isGreatest_singleton
  · exact isLeast_singleton

/-- A range that is still current is widened by the new price. -/
theorem spans_observe {earlier : List PricePoint} {first now : Instant} {buffer : RollingBuffer}
    (price : Decimal) (spans : Spans schedule earlier first buffer) (later : first ≤ now)
    (current : now < buffer.resetsAt) :
    Spans schedule (earlier ++ [(price, now)]) now (buffer.observe price) := by
  obtain ⟨opened, last, high, low, least⟩ := spans
  have resets : buffer.resetsAt = schedule.next first := least.unique (schedule.isLeast_next first)
  rw [resets] at current
  have kept := last.keep later current
  have more : {other | ∃ time, (other, time) ∈ earlier ++ [(price, now)] ∧ opened ≤ time} =
      insert price {other | ∃ time, (other, time) ∈ earlier ∧ opened ≤ time} := by
    ext other
    simp only [List.mem_append, List.mem_singleton, Prod.mk.injEq, Set.mem_ofPred_eq,
      Set.mem_insert_iff]
    constructor
    · rintro ⟨time, old | ⟨rfl, _⟩, since⟩
      · exact .inr ⟨time, old, since⟩
      · exact .inl rfl
    · rintro (rfl | ⟨time, old, since⟩)
      · exact ⟨now, .inr ⟨rfl, rfl⟩, kept.1.1⟩
      · exact ⟨time, .inl old, since⟩
  refine ⟨opened, kept, ?_, ?_, ?_⟩
  · rw [more, RollingBuffer.observe_high, max_comm]
    exact high.insert price
  · rw [more, RollingBuffer.observe_low, min_comm]
    exact low.insert price
  · rw [RollingBuffer.observe_resetsAt, resets, ← Schedule.next_eq_of_lt later current]
    exact schedule.isLeast_next now

/-- One update keeps the range in step with the observations. -/
theorem spans_updateBuffer {earlier : List PricePoint} {first now : Instant} {buffer : RollingBuffer}
    (price : Decimal) (spans : Spans schedule earlier first buffer)
    (past : ∀ point ∈ earlier, point.2 ≤ first) (later : first ≤ now) :
    Spans schedule (earlier ++ [(price, now)]) now
      (updateBuffer (schedule.next now) (some buffer) price now) := by
  unfold updateBuffer RollingBuffer.isExpired
  by_cases expired : now ≥ buffer.resetsAt
  · obtain ⟨_, _, _, _, least⟩ := spans
    have resets := least.unique (schedule.isLeast_next first)
    obtain ⟨opened, last⟩ := schedule.exists_isLast now
    simp only [expired, decide_true, if_true]
    apply spans_start price last
    intro point member
    calc point.2 ≤ first := past point member
      _ < schedule.next first := (schedule.isLeast_next first).1.1
      _ ≤ opened := last.next_le (resets ▸ expired)
  · simp only [expired, decide_false, Bool.false_eq_true, if_false]
    exact spans_observe price spans later (not_le.mp expired)

/-- After any number of updates in the order of time, the range spans the
prices since the last boundary. -/
theorem spans_observeAll (schedule : Schedule)
    {update : Option RollingBuffer → Decimal → Instant → RollingBuffer}
    (updates : ∀ current price now,
      update current price now = updateBuffer (schedule.next now) current price now)
    (earlier : List PricePoint) (price : Decimal) (now : Instant)
    (ordered : (earlier ++ [(price, now)]).Pairwise fun before after => before.2 ≤ after.2) :
    ∃ buffer, observeAll update (earlier ++ [(price, now)]) = some buffer ∧
      Spans schedule (earlier ++ [(price, now)]) now buffer := by
  induction earlier using List.reverseRecOn generalizing price now with
  | nil =>
    obtain ⟨opened, last⟩ := schedule.exists_isLast now
    refine ⟨.start price (schedule.next now), ?_, spans_start price last (by simp)⟩
    rw [observeAll_append_singleton, updates]
    rfl
  | append_singleton before point ih =>
    obtain ⟨price', first⟩ := point
    obtain ⟨front, _, ends⟩ := List.pairwise_append.mp ordered
    obtain ⟨buffer, observed, spans⟩ := ih price' first front
    have past : ∀ point ∈ before ++ [(price', first)], point.2 ≤ first := by
      intro point member
      rcases List.mem_append.mp member with old | same
      · exact (List.pairwise_append.mp front).2.2 point old (price', first) (by simp)
      · cases List.mem_singleton.mp same
        exact le_refl _
    have later : first ≤ now := ends (price', first) (by simp) (price, now) (by simp)
    refine ⟨updateBuffer (schedule.next now) (some buffer) price now, ?_,
      spans_updateBuffer price spans past later⟩
    rw [observeAll_append_singleton, observed, updates]

/-- Fed with prices in the order of time, the daily and the session range are
the extremes since their last New York boundary, and reset at their next one. -/
theorem buffers_span (newYork : NewYork) (earlier : List PricePoint) (price : Decimal)
    (now : Instant)
    (ordered : (earlier ++ [(price, now)]).Pairwise fun before after => before.2 ≤ after.2) :
    (∃ buffer, observeAll (updateDailyBuffer newYork) (earlier ++ [(price, now)]) = some buffer ∧
      Spans (dailySchedule newYork) (earlier ++ [(price, now)]) now buffer) ∧
    ∃ buffer, observeAll (updateSessionBuffer newYork) (earlier ++ [(price, now)]) = some buffer ∧
      Spans (sessionSchedule newYork) (earlier ++ [(price, now)]) now buffer :=
  ⟨spans_observeAll (dailySchedule newYork) (fun _ _ _ => rfl) earlier price now ordered,
    spans_observeAll (sessionSchedule newYork) (fun _ _ _ => rfl) earlier price now
      ordered⟩

/-- Two prices of one New York night, an hour apart. -/
theorem twoPrices_buffers_span :
    let observations : List PricePoint := [(1.10, Duration.hours 8), (1.20, Duration.hours 9)]
    (∃ buffer, observeAll (updateDailyBuffer .standardTime) observations = some buffer ∧
      Spans (dailySchedule .standardTime) observations (Duration.hours 9) buffer) ∧
    ∃ buffer, observeAll (updateSessionBuffer .standardTime) observations = some buffer ∧
      Spans (sessionSchedule .standardTime) observations (Duration.hours 9) buffer :=
  buffers_span .standardTime [(1.10, Duration.hours 8)] 1.20 (Duration.hours 9) (by decide)

end Oboobot.Strategy
