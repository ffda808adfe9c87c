import Oboobot.Interaction.Runs
import Mathlib.Data.Finset.Card

/-! Sessions that overlap: how many are under way at once, what a check made by
one of them is worth when others act in between, and how to play them by a schedule. -/

namespace Oboobot.Interaction

variable {Call : Type} {Reply : Call → Type} {Failure α World View Outside : Type}

/-- A session with events on both sides of a point of the history. -/
def UnderWay (before back : List (Entry Call Reply Outside)) (session : Nat) : Prop :=
  sessionEvents session before ≠ [] ∧ sessionEvents session back ≠ []

/-- At no point of the history are more than `width` sessions under way. -/
def Overlapping (width : Nat) (history : List (Entry Call Reply Outside)) : Prop :=
  ∀ before back, history = before ++ back → ∀ sessions : Finset Nat,
    (∀ session ∈ sessions, UnderWay before back session) → sessions.card ≤ width

/-- No more sessions are under way than there are. -/
theorem overlapping_of_owners {width : Nat} {history : List (Entry Call Reply Outside)}
    (owners : ∀ session, sessionEvents session history ≠ [] → session < width) :
    Overlapping width history := by
  intro before back same sessions underWay
  have within : sessions ⊆ Finset.range width := by
    intro session member
    refine Finset.mem_range.mpr (owners session ?_)
    rw [same, sessionEvents_append]
    exact fun empty => (underWay session member).1 (List.append_eq_nil_iff.mp empty).1
  simpa using Finset.card_le_card within

/-- What a session has seen of a history, as its own view folds it. -/
def viewOf (after : View → Event Call Reply → View) (fresh : View) (session : Nat)
    (history : List (Entry Call Reply Outside)) : View :=
  (sessionEvents session history).foldl after fresh

section views
variable {after : View → Event Call Reply → View} {fresh : View} {session owner : Nat}
  {before : List (Entry Call Reply Outside)}

theorem viewOf_own (event : Event Call Reply) :
    viewOf after fresh session (before ++ [.event session event]) =
      after (viewOf after fresh session before) event := by
  simp [viewOf]

theorem viewOf_other (other : owner ≠ session) (event : Event Call Reply) :
    viewOf after fresh session (before ++ [.event owner event]) =
      viewOf after fresh session before := by
  simp [viewOf, other]

theorem viewOf_outside (happening : Outside) :
    viewOf after fresh session (before ++ [.outside happening]) =
      viewOf after fresh session before := by
  simp [viewOf]

end views

/-- An invariant of a world and of what the sessions have seen of it: an event that its own
session promises keeps it, whatever the others have seen. -/
theorem Joint.invariant {step : World → Event Call Reply → World → Prop}
    {after : View → Event Call Reply → View} {promise : View → Call → Prop} {fresh : View}
    {program : Nat → Program Call Reply Failure α} {post : α → View → Prop}
    {failed : Failure → View → Prop} {start final : World} (holds : (Nat → View) → World → Prop)
    (meets : ∀ session, (program session).Meets (monitor after promise) post failed fresh)
    (initially : holds (fun _ => fresh) start)
    (keeps : ∀ views world owner event next, holds views world → promise (views owner) event.call →
      step world event next →
        holds (Function.update views owner (after (views owner) event)) next)
    {history : List (Entry Call Reply Outside)} (joint : Joint program history)
    (steps : Steps step start (jointEvents history) final) :
    holds (fun session => viewOf after fresh session history) final := by
  induction history using List.reverseRecOn generalizing final with
  | nil =>
    cases steps
    exact initially
  | append_singleton before entry ih =>
    cases entry with
    | outside happening =>
      rw [jointEvents_append_outside] at steps
      simp only [viewOf_outside]
      exact ih joint.front steps
    | event owner event =>
      rw [jointEvents_append_event] at steps
      obtain ⟨world, earlier, last⟩ := steps_append_singleton steps
      have kept := keeps _ world owner event final (ih joint.front earlier)
        (joint.promised (meets owner)) last
      have views : (fun session => viewOf after fresh session (before ++ [.event owner event])) =
          Function.update (fun session => viewOf after fresh session before) owner
            (after (viewOf after fresh owner before) event) := by
        funext session
        by_cases same : owner = session
        · subst same
          rw [Function.update_self, viewOf_own]
        · rw [Function.update_of_ne (Ne.symm same), viewOf_other same]
      rw [views]
      exact kept

/-- One check buys one action. The count grows by at most one, at an action of a
session that has checked it, and the action uses the check up; a check is made
while the count is below the limit. -/
structure CheckThenAct (step : World → Event Call Reply → World → Prop)
    (after : View → Event Call Reply → View) (promise : View → Call → Prop)
    (known checked : View → Prop) (count : World → Nat) (limit : Nat) : Prop where
  keeps : ∀ view event world next, known view → promise view event.call → step world event next →
    known (after view event)
  cases : ∀ view event world next, known view → promise view event.call → step world event next →
    (count next ≤ count world ∧ (checked (after view event) → checked view)) ∨
    (count next ≤ count world ∧ count world < limit) ∨
    (count next ≤ count world + 1 ∧ checked view ∧ ¬checked (after view event))

section bound
variable {step : World → Event Call Reply → World → Prop} {after : View → Event Call Reply → View}
  {promise : View → Call → Prop} {known checked : View → Prop} {count : World → Nat}
  {limit width : Nat} {fresh : View} {program : Nat → Program Call Reply Failure α}
  {post : α → View → Prop} {failed : Failure → View → Prop} {start : World}

/-- The count and the checks still good, at one point of a history. -/
def Reserved (after : View → Event Call Reply → View) (fresh : View) (checked : View → Prop)
    (count bound : Nat) (before back : List (Entry Call Reply Outside)) : Prop :=
  ∀ sessions : Finset Nat, (∀ session ∈ sessions, UnderWay before back session ∧
    checked (viewOf after fresh session before)) → count + sessions.card < bound

/-- A session that holds a check has an event behind it. -/
theorem underWay_of_checked {before : List (Entry Call Reply Outside)} {session : Nat}
    (unchecked : ¬checked fresh) (holds : checked (viewOf after fresh session before)) :
    sessionEvents session before ≠ [] := by
  intro empty
  rw [viewOf, empty] at holds
  exact unchecked holds

/-- Other sessions, and the acting one unless it has just checked, held their
checks before the event already. -/
theorem Reserved.held {before back : List (Entry Call Reply Outside)} {session owner : Nat}
    {event : Event Call Reply} (unchecked : ¬checked fresh)
    (own : checked (after (viewOf after fresh owner before) event) →
      checked (viewOf after fresh owner before))
    (now : UnderWay (before ++ [.event owner event]) back session ∧
      checked (viewOf after fresh session (before ++ [.event owner event]))) :
    UnderWay before (.event owner event :: back) session ∧
      checked (viewOf after fresh session before) := by
  obtain ⟨⟨_, later⟩, holds⟩ := now
  have held : checked (viewOf after fresh session before) := by
    by_cases same : owner = session
    · subst same
      rw [viewOf_own] at holds
      exact own holds
    · rwa [viewOf_other same] at holds
  refine ⟨⟨underWay_of_checked unchecked held, ?_⟩, held⟩
  by_cases same : owner = session
  · subst same
    simp
  · simpa [same] using later

theorem Reserved.event {before back : List (Entry Call Reply Outside)} {owner : Nat}
    {event : Event Call Reply} {world next : World}
    (acts : CheckThenAct step after promise known checked count limit) (unchecked : ¬checked fresh)
    (overlapping : Overlapping width (before ++ .event owner event :: back))
    (knows : known (viewOf after fresh owner before))
    (promised : promise (viewOf after fresh owner before) event.call)
    (takes : step world event next)
    (reserved : Reserved after fresh checked (count world) (limit + width) before
      (.event owner event :: back)) :
    Reserved after fresh checked (count next) (limit + width) (before ++ [.event owner event])
      back := by
  intro sessions holds
  rcases acts.cases _ event world next knows promised takes with
    ⟨fewer, own⟩ | ⟨fewer, below⟩ | ⟨onemore, checked', used⟩
  · have held := reserved sessions fun session member =>
      Reserved.held unchecked own (holds session member)
    omega
  · have few : sessions.card ≤ width := by
      refine overlapping (before ++ [.event owner event]) back (by simp) sessions ?_
      exact fun session member => (holds session member).1
    omega
  · have apart : owner ∉ sessions := by
      intro member
      have still := (holds owner member).2
      rw [viewOf_own] at still
      exact used still
    have held := reserved (insert owner sessions) fun session member => by
      rcases Finset.mem_insert.mp member with rfl | other
      · exact ⟨⟨underWay_of_checked unchecked checked', by simp⟩, checked'⟩
      · exact Reserved.held unchecked (fun _ => checked') (holds session other)
    rw [Finset.card_insert_of_notMem apart] at held
    omega

/-- However sessions interleave, the count stays below the limit plus the number
of sessions that may be under way at once. -/
theorem Joint.count_lt (acts : CheckThenAct step after promise known checked count limit)
    (knows : known fresh) (unchecked : ¬checked fresh)
    (meets : ∀ session, (program session).Meets (monitor after promise) post failed fresh)
    {history : List (Entry Call Reply Outside)} (joint : Joint program history)
    (overlapping : Overlapping width history) (initially : count start < limit + width)
    {final : World} (steps : Steps step start (jointEvents history) final) :
    count final < limit + width := by
  suffices invariant : ∀ before back world, history = before ++ back →
      Steps step start (jointEvents before) world →
      (∀ session, known (viewOf after fresh session before)) ∧
        Reserved after fresh checked (count world) (limit + width) before back by
    obtain ⟨_, reserved⟩ := invariant history [] final (by simp) steps
    simpa using reserved ∅ (by simp)
  intro before
  induction before using List.reverseRecOn with
  | nil =>
    intro back world _ steps
    cases steps
    refine ⟨fun session => knows, ?_⟩
    intro sessions holds
    have none' : sessions = ∅ := by
      refine Finset.eq_empty_of_forall_notMem fun session member => ?_
      exact unchecked (holds session member).2
    simpa [none'] using initially
  | append_singleton before entry ih =>
    intro back final same steps
    have same' : history = before ++ entry :: back := by simpa using same
    cases entry with
    | outside happening =>
      rw [jointEvents_append_outside] at steps
      obtain ⟨known', reserved⟩ := ih _ final same' steps
      refine ⟨fun session => by rw [viewOf_outside]; exact known' session, ?_⟩
      intro sessions holds
      refine reserved sessions fun session member => ?_
      simpa [UnderWay, viewOf_outside] using holds session member
    | event owner event =>
      rw [jointEvents_append_event] at steps
      obtain ⟨world, earlier, last⟩ := steps_append_singleton steps
      obtain ⟨known', reserved⟩ := ih _ world same' earlier
      have promised := (same' ▸ joint).promised (meets owner)
      refine ⟨?_, reserved.event acts unchecked (same' ▸ overlapping) (known' owner) promised last⟩
      intro session
      by_cases own : owner = session
      · subst own
        rw [viewOf_own]
        exact acts.keeps _ event world final (known' owner) promised last
      · rw [viewOf_other own]
        exact known' session

end bound

section schedule
variable (answer : World → (call : Call) → Reply call × World)

/-- Run sessions against one world, one call at a turn, in the order of a schedule. -/
def interleave : List Nat → (Nat → Program Call Reply Failure α) → World →
    List (Entry Call Reply Empty) × World
  | [], _, world => ([], world)
  | turn :: schedule, running, world =>
    match running turn with
    | .request call next =>
      let (reply, after) := answer world call
      let (history, final) := interleave schedule (Function.update running turn (next reply)) after
      (.event turn ⟨call, reply⟩ :: history, final)
    | _ => interleave schedule running world

variable {answer} {running : Nat → Program Call Reply Failure α} {turn : Nat}

theorem interleave_request {call : Call} {next : Reply call → Program Call Reply Failure α}
    (waits : running turn = .request call next) (schedule : List Nat) (world : World) :
    let after := answer world call
    let rest := interleave answer schedule
      (Function.update running turn (next after.1)) after.2
    interleave answer (turn :: schedule) running world =
      (.event turn ⟨call, after.1⟩ :: rest.1, rest.2) := by
  rw [interleave, waits]

theorem interleave_idle (ended : ∀ call next, running turn ≠ .request call next)
    (schedule : List Nat) (world : World) :
    interleave answer (turn :: schedule) running world =
      interleave answer schedule running world := by
  rw [interleave]
  split
  · rename_i call next waits
    exact absurd waits (ended call next)
  · rfl

/-- The turns of a schedule are a joint history of the sessions. -/
theorem joint_interleave (schedule : List Nat) (running : Nat → Program Call Reply Failure α)
    (world : World) :
    Joint running (interleave answer schedule running world).1 := by
  induction schedule generalizing running world with
  | nil => exact fun session => ⟨.stopped, .stopped _⟩
  | cons turn schedule ih =>
    by_cases waiting : ∃ call next, running turn = .request call next
    · obtain ⟨call, next, waits⟩ := waiting
      rw [interleave_request waits]
      intro session
      obtain ⟨outcome, trace⟩ := ih (Function.update running turn (next (answer world call).1))
        (answer world call).2 session
      by_cases same : turn = session
      · subst same
        rw [Function.update_self] at trace
        refine ⟨outcome, ?_⟩
        rw [sessionEvents_cons_own, waits]
        exact .answered _ trace
      · rw [Function.update_of_ne (Ne.symm same)] at trace
        exact ⟨outcome, by rwa [sessionEvents_cons_other same]⟩
    · rw [interleave_idle fun call next waits => waiting ⟨call, next, waits⟩]
      exact ih running world

/-- Surroundings that a world can follow, it follows through any schedule. -/
theorem steps_interleave {Host : Type} {answer : Host → (call : Call) → Reply call × Host}
    {step : World → Event Call Reply → World → Prop} {view : Host → World} {valid : Host → Prop}
    (faithful : ∀ host call, valid host →
      step (view host) ⟨call, (answer host call).1⟩ (view (answer host call).2) ∧
        valid (answer host call).2)
    (schedule : List Nat) (running : Nat → Program Call Reply Failure α) {host : Host}
    (ready : valid host) :
    let played := interleave answer schedule running host
    Steps step (view host) (jointEvents played.1) (view played.2) := by
  induction schedule generalizing running host with
  | nil => exact .nil _
  | cons turn schedule ih =>
    by_cases waiting : ∃ call next, running turn = .request call next
    · obtain ⟨call, next, waits⟩ := waiting
      obtain ⟨first, still⟩ := faithful host call ready
      rw [interleave_request waits]
      exact .cons first (ih _ still)
    · rw [interleave_idle fun call next waits => waiting ⟨call, next, waits⟩]
      exact ih running ready

/-- Only sessions that have a turn act. -/
theorem sessionEvents_interleave {session : Nat} {schedule : List Nat}
    (running : Nat → Program Call Reply Failure α) (world : World)
    (acts : sessionEvents session
      (interleave answer schedule running world).1 ≠ []) :
    session ∈ schedule := by
  induction schedule generalizing running world with
  | nil => exact absurd rfl acts
  | cons turn schedule ih =>
    by_cases same : turn = session
    · exact same ▸ List.mem_cons_self
    · refine List.mem_cons_of_mem _ ?_
      by_cases waiting : ∃ call next, running turn = .request call next
      · obtain ⟨call, next, waits⟩ := waiting
        rw [interleave_request waits, sessionEvents_cons_other same] at acts
        exact ih _ _ acts
      · rw [interleave_idle fun call next waits => waiting ⟨call, next, waits⟩] at acts
        exact ih _ _ acts

end schedule

end Oboobot.Interaction
