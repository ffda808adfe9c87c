import Oboobot.Interaction.Runs
import Oboobot.Domain.Events
import Oboobot.SessionTime.NextCycle
import Mathlib.Data.List.Chain

/-! The scheduler: sleep until the next window center, announce it, over and over. -/

namespace Oboobot.Daemon

open Domain Domain.Events SessionTime Interaction

/-- What the scheduler asks of its surroundings. -/
inductive SchedulerCall where
  | clockNow
  | sleep (wait : Duration)
  | newUuid
  | publish (envelope : EventEnvelope)

/-- A publish replies whether the envelope was sent; the scheduler does not look. -/
@[reducible] def SchedulerReply : SchedulerCall → Type
  | .clockNow => Instant
  | .sleep _ => Unit
  | .newUuid => Uuid
  | .publish _ => Bool

abbrev Scheduler := Program SchedulerCall SchedulerReply Empty

abbrev SchedulerEvent := Event SchedulerCall SchedulerReply

/-- `duration.to_std().unwrap_or(ZERO)`. -/
def toStdOrZero (duration : Duration) : Duration := if duration < 0 then 0 else duration

namespace Scheduler

def perform (call : SchedulerCall) : Scheduler (SchedulerReply call) := Program.perform call

variable (newYork : NewYork)

def sleepUntilNextCycle : Scheduler Unit := do
  let now ← perform .clockNow
  let next := nextMacroCycleAfter newYork now
  let wait := toStdOrZero (next - now)
  perform (.sleep wait)

/-- `EventEnvelope::new(timestamp, payload)`. -/
def newEnvelope (timestamp : Instant) (payload : Domain.Events.Event) : Scheduler EventEnvelope := do
  let eventId ← perform .newUuid
  return { eventId, timestamp, payload }

/-- The body of both loops. -/
def announceNextCycle : Scheduler Unit := do
  sleepUntilNextCycle newYork
  let timestamp ← perform .clockNow
  let envelope ← newEnvelope timestamp .macroCycleStarted
  let _ ← perform (.publish envelope)

def runNCycles : Nat → Scheduler Unit
  | 0 => pure ()
  | cycles + 1 => do
    announceNextCycle newYork
    runNCycles cycles

/-- What `run` may have done at some moment: its loop is the same one, without an end. -/
def HasRun (events : List SchedulerEvent) : Prop :=
  ∃ cycles, Trace (runNCycles newYork cycles) events .stopped

end Scheduler

/-- A published event, and the reading of the clock with which its round began. -/
structure Announcement where
  started : Instant
  envelope : EventEnvelope

/-- The center that the scheduler slept up to before it published. -/
def Announcement.center (newYork : NewYork) (announcement : Announcement) : Instant :=
  nextMacroCycleAfter newYork announcement.started

/-- What the events so far tell about the clock and the announcements. -/
structure SchedulerLog where
  /-- The latest reading of the clock. -/
  reading : Option Instant
  /-- The sleep since that reading. -/
  slept : Duration
  /-- The reading that began the round at hand. -/
  started : Option Instant
  announced : List Announcement

namespace SchedulerLog

def empty : SchedulerLog where
  reading := none
  slept := 0
  started := none
  announced := []

def after (log : SchedulerLog) : SchedulerEvent → SchedulerLog
  | ⟨.clockNow, time⟩ => { log with
      reading := some time, slept := 0, started := log.started.or (some time) }
  | ⟨.sleep wait, _⟩ => { log with slept := log.slept + wait }
  | ⟨.newUuid, _⟩ => log
  | ⟨.publish envelope, _⟩ => { log with
      started := none
      announced := log.announced ++
        (log.started.map fun started => { started, envelope : Announcement }).toList }

def ofEvents (events : List SchedulerEvent) : SchedulerLog := events.foldl after empty

/-- The clock reads no less than before, and a sleep moves it by at least its length. -/
def Advances (log : SchedulerLog) : SchedulerEvent → Prop
  | ⟨.clockNow, time⟩ => ∀ earlier ∈ log.reading, earlier + log.slept ≤ time
  | _ => True

instance (log : SchedulerLog) : (event : SchedulerEvent) → Decidable (log.Advances event)
  | ⟨.clockNow, time⟩ =>
    inferInstanceAs (Decidable (∀ earlier ∈ log.reading, earlier + log.slept ≤ time))
  | ⟨.sleep _, _⟩ | ⟨.newUuid, _⟩ | ⟨.publish _, _⟩ => isTrue trivial

/-- So it does at every event of a run that starts with this log. -/
def AdvancesAlong (log : SchedulerLog) (events : List SchedulerEvent) : Prop :=
  Always (fun before event => (before.foldl after log).Advances event) events

instance (log : SchedulerLog) (events : List SchedulerEvent) :
    Decidable (log.AdvancesAlong events) :=
  inferInstanceAs (Decidable (Always _ events))

theorem advancesAlong_cons (log : SchedulerLog) (event : SchedulerEvent)
    (rest : List SchedulerEvent) :
    log.AdvancesAlong (event :: rest) ↔ log.Advances event ∧ (log.after event).AdvancesAlong rest :=
  always_cons event rest

/-- Every announcement so far came when its center had been reached, and every round began
no earlier than the center announced before it. -/
structure Regular (newYork : NewYork) (log : SchedulerLog) : Prop where
  between : log.started = none
  announced : ∀ announcement ∈ log.announced,
    announcement.envelope.payload = .macroCycleStarted ∧
      announcement.center newYork ≤ announcement.envelope.timestamp
  ordered : log.announced.IsChain fun earlier later => earlier.center newYork ≤ later.started
  passed : ∀ last ∈ log.announced.getLast?, ∃ reading ∈ log.reading,
    last.center newYork ≤ reading + log.slept

theorem regular_empty (newYork : NewYork) : empty.Regular newYork where
  between := rfl
  announced := fun _ member => by cases member
  ordered := .nil
  passed := fun _ member => by cases member

end SchedulerLog

section rounds

variable {newYork : NewYork} {log : SchedulerLog}

/-- The events of one round. -/
def roundEvents (newYork : NewYork) (announcement : Announcement) (sent : Bool) :
    List SchedulerEvent :=
  [⟨.clockNow, announcement.started⟩,
    ⟨.sleep (toStdOrZero (announcement.center newYork - announcement.started)), ()⟩,
    ⟨.clockNow, announcement.envelope.timestamp⟩,
    ⟨.newUuid, announcement.envelope.eventId⟩,
    ⟨.publish announcement.envelope, sent⟩]

/-- A trace that begins with a round has finished the round or published nothing. -/
theorem round_cases (log : SchedulerLog) {next : Scheduler Unit} {events : List SchedulerEvent}
    {outcome : Outcome Empty Unit}
    (trace : Trace (Scheduler.announceNextCycle newYork >>= fun _ => next) events outcome) :
    (∃ announcement sent rest, announcement.envelope.payload = .macroCycleStarted ∧
      events = roundEvents newYork announcement sent ++ rest ∧ Trace next rest outcome) ∨
    (outcome = .stopped ∧
      (events.foldl SchedulerLog.after log).announced = log.announced) := by
  cases trace with
  | stopped => exact .inr ⟨rfl, rfl⟩
  | answered started trace =>
  cases trace with
  | stopped => exact .inr ⟨rfl, rfl⟩
  | answered _ trace =>
  cases trace with
  | stopped => exact .inr ⟨rfl, rfl⟩
  | answered timestamp trace =>
  cases trace with
  | stopped => exact .inr ⟨rfl, rfl⟩
  | answered eventId trace =>
  cases trace with
  | stopped => exact .inr ⟨rfl, rfl⟩
  | answered sent trace =>
    exact .inl ⟨⟨started, ⟨eventId, timestamp, .macroCycleStarted⟩⟩, sent, _, rfl, rfl, trace⟩

/-- A finished round adds its announcement. -/
theorem foldl_roundEvents (between : log.started = none) (announcement : Announcement)
    (sent : Bool) (rest : List SchedulerEvent) :
    (roundEvents newYork announcement sent ++ rest).foldl SchedulerLog.after log =
      rest.foldl SchedulerLog.after {
        reading := some announcement.envelope.timestamp, slept := 0, started := none
        announced := log.announced ++ [announcement] } := by
  rw [List.foldl_append]
  simp [roundEvents, SchedulerLog.after, between]

theorem le_toStdOrZero (duration : Duration) : duration ≤ toStdOrZero duration := by
  unfold toStdOrZero
  split
  · rename_i negative
    exact le_of_lt negative
  · exact le_refl _

/-- What one round keeps: it begins no earlier than the center announced before, and
publishes no earlier than its own. -/
theorem SchedulerLog.Regular.round (regular : log.Regular newYork) {announcement : Announcement}
    {sent : Bool} {rest : List SchedulerEvent}
    (payload : announcement.envelope.payload = .macroCycleStarted)
    (advances : log.AdvancesAlong (roundEvents newYork announcement sent ++ rest)) :
    SchedulerLog.Regular newYork {
        reading := some announcement.envelope.timestamp, slept := 0, started := none
        announced := log.announced ++ [announcement] } ∧
      SchedulerLog.AdvancesAlong {
        reading := some announcement.envelope.timestamp, slept := 0, started := none
        announced := log.announced ++ [announcement] } rest := by
  simp only [roundEvents, List.cons_append, List.nil_append, SchedulerLog.advancesAlong_cons,
    SchedulerLog.after, regular.between] at advances
  obtain ⟨begins, _, ends, _, _, continues⟩ := advances
  have reached : announcement.center newYork ≤ announcement.envelope.timestamp := by
    have slept := ends announcement.started rfl
    have enough := le_toStdOrZero (announcement.center newYork - announcement.started)
    linarith
  refine ⟨⟨rfl, ?_, ?_, ?_⟩, continues⟩
  · intro other member
    rcases List.mem_append.mp member with old | new
    · exact regular.announced other old
    · obtain rfl := List.mem_singleton.mp new
      exact ⟨payload, reached⟩
  · refine List.isChain_append.mpr ⟨regular.ordered, .singleton _, ?_⟩
    intro last isLast first isFirst
    cases isFirst
    obtain ⟨reading, isReading, passed⟩ := regular.passed last isLast
    exact passed.trans (begins reading isReading)
  · intro last isLast
    rw [List.getLast?_concat] at isLast
    cases isLast
    exact ⟨_, rfl, by simpa using reached⟩

/-- What a whole run leaves behind. -/
theorem regular_of_trace {cycles : Nat} {events : List SchedulerEvent}
    {outcome : Outcome Empty Unit} (regular : log.Regular newYork)
    (trace : Trace (Scheduler.runNCycles newYork cycles) events outcome)
    (advances : log.AdvancesAlong events) :
    ∃ final : SchedulerLog, final.Regular newYork ∧
      final.announced = (events.foldl SchedulerLog.after log).announced ∧
      (outcome = .done () → final.announced.length = log.announced.length + cycles) := by
  induction cycles generalizing log events with
  | zero =>
    cases trace with
    | done => exact ⟨log, regular, rfl, fun _ => rfl⟩
    | stopped => exact ⟨log, regular, rfl, fun _ => rfl⟩
  | succ cycles ih =>
    rcases round_cases log trace with
      ⟨announcement, sent, rest, payload, rfl, later⟩ | ⟨stopped, same⟩
    · obtain ⟨next, continues⟩ := regular.round payload advances
      obtain ⟨final, still, announced, count⟩ := ih next later continues
      refine ⟨final, still, ?_, ?_⟩
      · rw [announced, foldl_roundEvents regular.between]
      · intro finished
        rw [count finished, List.length_append, List.length_singleton]
        omega
    · refine ⟨log, regular, same.symm, ?_⟩
      intro finished
      rw [stopped] at finished
      cases finished

end rounds

/-- Every announcement is a `MacroCycleStarted` that belongs to a window center of its
own, later than that of the announcement before. -/
structure OnePerCycle (newYork : NewYork) (announced : List Announcement) : Prop where
  started : ∀ announcement ∈ announced, announcement.envelope.payload = .macroCycleStarted ∧
    newYork.IsCycleCenter (announcement.center newYork) ∧
    announcement.center newYork ≤ announcement.envelope.timestamp
  increasing : (announced.map (Announcement.center newYork)).Pairwise (· < ·)

/-- No round begins with the clock exactly at the center that has just been announced. -/
def BeginsPastCenter (newYork : NewYork) (announced : List Announcement) : Prop :=
  announced.IsChain fun earlier later => later.started ≠ earlier.center newYork

section centers

variable {newYork : NewYork}

theorem Announcement.isCycleCenter_center (announcement : Announcement) :
    newYork.IsCycleCenter (announcement.center newYork) :=
  (isLeast_nextMacroCycleAfter newYork announcement.started).1.1.2

/-- From a center on, the next one is the same as long as the clock has not passed it. -/
theorem center_lt_center_iff {earlier later : Announcement}
    (ordered : earlier.center newYork ≤ later.started) :
    earlier.center newYork < later.center newYork ↔ later.started ≠ earlier.center newYork := by
  obtain ⟨⟨ahead, _⟩, least⟩ := (isLeast_nextMacroCycleAfter newYork later.started).1
  constructor
  · intro increases same
    exact absurd (least ⟨le_of_eq same, earlier.isCycleCenter_center⟩) (not_le.mpr increases)
  · intro apart
    exact lt_of_lt_of_le (lt_of_le_of_ne ordered apart.symm) ahead

theorem onePerCycle_iff {log : SchedulerLog} (regular : log.Regular newYork) :
    OnePerCycle newYork log.announced ↔ BeginsPastCenter newYork log.announced := by
  have chained : (log.announced.map (Announcement.center newYork)).Pairwise (· < ·) ↔
      BeginsPastCenter newYork log.announced := by
    have ordered := List.isChain_iff_forall_rel_of_append_cons_cons.mp regular.ordered
    rw [← List.isChain_iff_pairwise, List.isChain_map, BeginsPastCenter,
      List.isChain_iff_forall_rel_of_append_cons_cons,
      List.isChain_iff_forall_rel_of_append_cons_cons]
    refine forall_congr' fun earlier => forall_congr' fun later => forall_congr' fun front =>
      forall_congr' fun back => forall_congr' fun split => ?_
    exact center_lt_center_iff (ordered split)
  constructor
  · exact fun once => chained.mp once.increasing
  · intro begins
    refine ⟨?_, chained.mpr begins⟩
    intro announcement member
    obtain ⟨payload, reached⟩ := regular.announced announcement member
    exact ⟨payload, announcement.isCycleCenter_center, reached⟩

/-- With a clock that a sleep of `d` moves by at least `d`, every cycle is announced once
exactly when no round begins at the very center just announced. -/
theorem announces_onePerCycle_iff (newYork : NewYork) :
    (∀ cycles events outcome, Trace (Scheduler.runNCycles newYork cycles) events outcome →
      SchedulerLog.empty.AdvancesAlong events →
      ((OnePerCycle newYork (SchedulerLog.ofEvents events).announced ∧
          (outcome = .done () → (SchedulerLog.ofEvents events).announced.length = cycles)) ↔
        BeginsPastCenter newYork (SchedulerLog.ofEvents events).announced)) ∧
    ∀ events, Scheduler.HasRun newYork events → SchedulerLog.empty.AdvancesAlong events →
      (OnePerCycle newYork (SchedulerLog.ofEvents events).announced ↔
        BeginsPastCenter newYork (SchedulerLog.ofEvents events).announced) := by
  constructor
  · intro cycles events outcome trace advances
    obtain ⟨final, regular, same, count⟩ :=
      regular_of_trace (SchedulerLog.regular_empty newYork) trace advances
    have once := onePerCycle_iff regular
    rw [same] at once count
    constructor
    · exact fun announces => once.mp announces.1
    · intro begins
      refine ⟨once.mpr begins, ?_⟩
      intro finished
      exact (count finished).trans (Nat.zero_add cycles)
  · rintro events ⟨cycles, trace⟩ advances
    obtain ⟨final, regular, same, _⟩ :=
      regular_of_trace (SchedulerLog.regular_empty newYork) trace advances
    have once := onePerCycle_iff regular
    rwa [same] at once

end centers

/-- A clock that a sleep moves by its length and `extra` besides. -/
def sleepingClock (extra : Duration) (time : Instant) :
    (call : SchedulerCall) → SchedulerReply call × Instant
  | .clockNow => (time, time)
  | .sleep wait => ((), time + wait + extra)
  | .newUuid => (0, time)
  | .publish _ => (true, time)

/-- Two cycles from 01:30 on a winter morning. -/
def twoCycles (extra : Duration) : List SchedulerEvent × Outcome Empty Unit × Instant :=
  (Scheduler.runNCycles .standardTime 2).play (sleepingClock extra)
    (Duration.days 19732 + Duration.minutes 390)

theorem twoCycles_trace (extra : Duration) :
    Trace (Scheduler.runNCycles .standardTime 2) (twoCycles extra).1 (twoCycles extra).2.1 :=
  Program.play_trace _ _ _

/-- A millisecond of delay is enough. -/
theorem twoCycles_onePerCycle :
    OnePerCycle .standardTime (SchedulerLog.ofEvents (twoCycles 1000000).1).announced :=
  (((announces_onePerCycle_iff .standardTime).1 2 _ _ (twoCycles_trace 1000000)
    (by decide +kernel)).mpr (by unfold BeginsPastCenter; decide +kernel)).1

/-- Without one, both cycles announce 03:00. -/
theorem twoCycles_not_onePerCycle :
    ¬∀ (newYork : NewYork) (cycles : Nat) (events : List SchedulerEvent)
      (outcome : Outcome Empty Unit), Trace (Scheduler.runNCycles newYork cycles) events outcome →
      SchedulerLog.empty.AdvancesAlong events →
      OnePerCycle newYork (SchedulerLog.ofEvents events).announced ∧
        (outcome = .done () → (SchedulerLog.ofEvents events).announced.length = cycles) := by
  intro claimed
  have once := (claimed .standardTime 2 _ _ (twoCycles_trace 0) (by decide +kernel)).1.increasing
  revert once
  decide +kernel

end Oboobot.Daemon
