import Oboobot.Daemon.Ledger
import Oboobot.Daemon.StatusReports

/-! When the reconciliations of a run find the broker and the daemon at odds. -/

namespace Oboobot.Daemon

open Domain SessionTime Strategy Risk Broker Interaction

/-- Whether an event sends an order or a close to the broker. -/
def isAction : CycleEvent → Bool
  | ⟨.submitOrder _, _⟩ => true
  | ⟨.closePosition _, _⟩ => true
  | _ => false

def isMismatch : CycleEvent → Bool
  | ⟨.notify (.reconciliationMismatch _ _), _⟩ => true
  | _ => false

/-- The ids open at the broker, and those recorded in `positions.cursor`. -/
structure Desk where
  book : List Uuid
  cursor : List Uuid
  deriving DecidableEq

/-- What an event can do to them, if the broker never fails and its book is moved
by nothing but the calls: an order opens a position of a new id. -/
def Desk.Step (desk : Desk) (event : CycleEvent) (after : Desk) : Prop :=
  match event with
  | ⟨.submitOrder _, .ok _⟩ => ∃ id, id ∉ desk.book ∧ id ∉ desk.cursor ∧
      after = { desk with book := desk.book ++ [id] }
  | ⟨.submitOrder _, .error _⟩ => False
  | ⟨.closePosition id, .ok _⟩ => after = { desk with book := desk.book.filter (· ≠ id) }
  | ⟨.closePosition _, .error _⟩ => False
  | ⟨.listOpenPositions, .ok listing⟩ => SameIds (positionIds listing) desk.book ∧ after = desk
  | ⟨.listOpenPositions, .error _⟩ => False
  | ⟨.readPositions, .ok records⟩ => SameIds (positionIds records) desk.cursor ∧ after = desk
  | ⟨.appendPosition position, .ok _⟩ =>
    after = { desk with cursor := desk.cursor ++ [position.positionId] }
  | _ => after = desk

variable {Outside : Type}

/-- The journal of one invocation of a run. -/
def journalOf (session : Nat) (history : List (Entry Call Reply Outside)) : Journal :=
  .ofEvents (sessionEvents session history)

/-- The report that is made of a listing is clean, and no mismatch is notified. -/
def ReportsClean (before : List (Entry Call Reply Outside)) : Entry Call Reply Outside → Prop
  | .outside _ => True
  | .event session event =>
    (∀ listing ∈ listingOf event, (reconcile listing (journalOf session before).known).isClean = true) ∧
      isMismatch event = false

/-- A listing is made before any invocation has sent an order or a close. -/
def BeforeActing (before : List (Entry Call Reply Outside)) : Entry Call Reply Outside → Prop
  | .outside _ => True
  | .event _ event => (listingOf event).isSome → (jointEvents before).any isAction = false

instance (before : List (Entry Call Reply Outside)) :
    (entry : Entry Call Reply Outside) → Decidable (ReportsClean before entry)
  | .outside _ => inferInstanceAs (Decidable True)
  | .event _ _ => inferInstanceAs (Decidable (_ ∧ _))

/-- What an invocation knows and has been told is what the cursor records, and it
has listed nothing since it acted. -/
structure Journal.Matches (journal : Journal) (cursor : List Uuid) (acting : Bool) : Prop where
  known : if journal.read then SameIds (positionIds journal.known) cursor else journal.known = []
  listed : ∀ listing ∈ journal.listings.getLast?,
    journal.read = true ∧ SameIds (positionIds listing) cursor
  sent : journal.everActed = true → journal.acted = true ∧ acting = true

/-- The part of a journal that bears on the reports. -/
def Journal.view (journal : Journal) :
    Bool × List Position × List (List Position) × Bool × Bool :=
  (journal.read, journal.known, journal.listings, journal.acted, journal.everActed)

theorem Journal.after_view (journal : Journal) (event : CycleEvent) :
    (∃ records, event = ⟨.readPositions, .ok records⟩) ∨
    (∃ listing, event = ⟨.listOpenPositions, .ok listing⟩) ∨
    (∃ positions reply, event = ⟨.observe (.reconciled positions), reply⟩) ∨
    (isAction event = true ∧ (journal.after event).view =
      (journal.read, journal.known, journal.listings, true, true)) ∨
    (isAction event = false ∧ (journal.after event).view = journal.view) := by
  obtain ⟨call, reply⟩ := event
  cases call with
  | readPositions =>
    cases reply with
    | ok records => exact .inl ⟨records, rfl⟩
    | error failure => exact .inr (.inr (.inr (.inr ⟨rfl, rfl⟩)))
  | listOpenPositions =>
    cases reply with
    | ok listing => exact .inr (.inl ⟨listing, rfl⟩)
    | error failure => exact .inr (.inr (.inr (.inr ⟨rfl, rfl⟩)))
  | observe observation =>
    cases observation with
    | reconciled positions => exact .inr (.inr (.inl ⟨positions, reply, rfl⟩))
    | _ => exact .inr (.inr (.inr (.inr ⟨rfl, rfl⟩)))
  | submitOrder request => cases reply <;> exact .inr (.inr (.inr (.inl ⟨rfl, rfl⟩)))
  | closePosition id => exact .inr (.inr (.inr (.inl ⟨rfl, rfl⟩)))
  | notify message => cases message <;> exact .inr (.inr (.inr (.inr ⟨rfl, rfl⟩)))
  | pausedFileExists | appendDecision _ => cases reply <;> exact .inr (.inr (.inr (.inr ⟨rfl, rfl⟩)))
  | _ => exact .inr (.inr (.inr (.inr ⟨rfl, rfl⟩)))

section steps

variable {journal : Journal} {cursor : List Uuid} {acting : Bool} {event : CycleEvent}

theorem Journal.Matches.of_view {other : Journal} (kept : journal.Matches cursor acting)
    (same : other.view = journal.view) : other.Matches cursor acting := by
  simp only [Journal.view, Prod.mk.injEq] at same
  obtain ⟨read, known, listings, acted, everActed⟩ := same
  exact {
    known := by rw [read, known]; exact kept.known
    listed := by rw [read, listings]; exact kept.listed
    sent := by rw [acted, everActed]; exact kept.sent }

/-- What the others do does not show in a journal. -/
theorem Journal.Matches.acting_mono (kept : journal.Matches cursor acting) (more : Bool) :
    journal.Matches cursor (acting || more) where
  known := kept.known
  listed := kept.listed
  sent := by
    intro acted
    obtain ⟨still, earlier⟩ := kept.sent acted
    exact ⟨still, by rw [earlier, Bool.true_or]⟩

/-- Listings that come before any action leave a journal that matches the cursor. -/
theorem Journal.Matches.after (kept : journal.Matches cursor acting)
    (promised : journal.Promised event.call)
    (records : ∀ records, event = ⟨.readPositions, .ok records⟩ → SameIds (positionIds records) cursor)
    (listing : ∀ listing, event = ⟨.listOpenPositions, .ok listing⟩ →
      acting = false ∧ SameIds (positionIds listing) cursor) :
    (journal.after event).Matches cursor (acting || isAction event) := by
  rcases journal.after_view event with ⟨found, rfl⟩ | ⟨found, rfl⟩ | ⟨positions, reply, rfl⟩ |
    ⟨action, view⟩ | ⟨passive, view⟩
  · have passive : isAction ⟨.readPositions, .ok found⟩ = false := rfl
    rw [passive, Bool.or_false]
    exact {
      known := records found rfl
      listed := fun latest last => ⟨rfl, (kept.listed latest last).2⟩
      sent := kept.sent }
  · obtain ⟨idle, same⟩ := listing found rfl
    have passive : isAction ⟨.listOpenPositions, .ok found⟩ = false := rfl
    rw [passive, Bool.or_false]
    refine {
      known := kept.known
      listed := ?_
      sent := ?_ }
    · intro latest last
      have newest : (journal.listings ++ [found]).getLast? = some latest := last
      rw [List.getLast?_concat] at newest
      cases newest
      exact ⟨promised.2, same⟩
    · intro acted
      have earlier := (kept.sent acted).2
      rw [idle] at earlier
      cases earlier
  · have passive : isAction ⟨.observe (.reconciled positions), reply⟩ = false := rfl
    obtain ⟨latest, last, rfl, _⟩ := promised.2
    obtain ⟨read, same⟩ := kept.listed latest last
    rw [passive, Bool.or_false]
    refine {
      known := ?_
      listed := kept.listed
      sent := kept.sent }
    have still : (journal.after ⟨.observe (.reconciled (reconciled latest journal.known)), reply⟩).read =
        true := read
    rw [if_pos still]
    intro id
    exact (mem_positionIds_reconciled latest journal.known id).trans (same id)
  · simp only [Journal.view, Prod.mk.injEq] at view
    obtain ⟨read, known, listings, acted, everActed⟩ := view
    exact {
      known := by rw [read, known]; exact kept.known
      listed := by rw [read, listings]; exact kept.listed
      sent := fun _ => ⟨acted, by rw [action, Bool.or_true]⟩ }
  · rw [passive, Bool.or_false]
    exact kept.of_view view

end steps

theorem Desk.Step.cases {desk after : Desk} {event : CycleEvent} (step : desk.Step event after) :
    (isAction event = true ∧ after.cursor = desk.cursor ∧ ∃ id ∈ after.book, id ∉ desk.cursor) ∨
    (∃ id reply, event = ⟨.closePosition id, reply⟩ ∧ after.cursor = desk.cursor ∧ id ∉ after.book) ∨
    (∃ position reply, event = ⟨.appendPosition position, reply⟩) ∨
    (isAction event = false ∧ after = desk) := by
  obtain ⟨call, reply⟩ := event
  cases call with
  | submitOrder request =>
    cases reply with
    | error failure => exact step.elim
    | ok order =>
      obtain ⟨id, _, unrecorded, rfl⟩ := step
      exact .inl ⟨rfl, rfl, id, by simp, unrecorded⟩
  | closePosition id =>
    cases reply with
    | error failure => exact step.elim
    | ok order =>
      cases step
      exact .inr (.inl ⟨id, _, rfl, rfl, by simp⟩)
  | appendPosition position => exact .inr (.inr (.inl ⟨position, reply, rfl⟩))
  | listOpenPositions =>
    cases reply with
    | error failure => exact step.elim
    | ok listing => exact .inr (.inr (.inr ⟨rfl, step.2⟩))
  | readPositions =>
    cases reply with
    | error failure => exact .inr (.inr (.inr ⟨rfl, step⟩))
    | ok records => exact .inr (.inr (.inr ⟨rfl, step.2⟩))
  | _ => exact .inr (.inr (.inr ⟨rfl, step⟩))

/-- A run in which nothing was listed after the first action: every invocation still
goes by what the cursor recorded at the start. -/
structure Undisturbed (start : Desk) (history : List (Entry Call Reply Outside)) (desk : Desk) :
    Prop where
  cursor : desk.cursor = start.cursor
  book : (jointEvents history).any isAction = false → desk.book = start.book
  moved : (jointEvents history).any isAction = true → ¬SameIds desk.book start.cursor
  journals : ∀ session, (journalOf session history).Matches start.cursor
    ((jointEvents history).any isAction)

section runs

variable {platform : Nat → Platform} {divergence : Nat → DivergenceSource} {cli : Nat → Cli}
  {start desk after : Desk} {before history : List (Entry Call Reply Outside)} {session : Nat}
  {event : CycleEvent}

theorem Undisturbed.known (undisturbed : Undisturbed start before desk)
    (read : (journalOf session before).read = true) :
    SameIds (positionIds (journalOf session before).known) start.cursor := by
  have known := (undisturbed.journals session).known
  rwa [if_pos read] at known

/-- An invocation closes only what the cursor recorded at the start. -/
theorem Undisturbed.closes_recorded (undisturbed : Undisturbed start before desk) {id : Uuid}
    (known : id ∈ positionIds (journalOf session before).known) : id ∈ start.cursor := by
  have same := (undisturbed.journals session).known
  split at same
  · exact (same id).mp known
  · rw [same] at known
    cases known

theorem Undisturbed.desk_after (undisturbed : Undisturbed start before desk)
    (promised : (journalOf session before).Promised event.call) (step : desk.Step event after) :
    after.cursor = start.cursor ∧ (isAction event = true → ¬SameIds after.book start.cursor) ∧
      (isAction event = false → after = desk) := by
  rcases step.cases with ⟨action, cursor, id, opened, unrecorded⟩ | ⟨id, reply, rfl, cursor, closed⟩ |
    ⟨position, reply, rfl⟩ | ⟨passive, rfl⟩
  · refine ⟨cursor.trans undisturbed.cursor, ?_, ?_⟩
    · intro _ same
      rw [undisturbed.cursor] at unrecorded
      exact unrecorded ((same id).mp opened)
    · intro passive
      rw [action] at passive
      cases passive
  · refine ⟨cursor.trans undisturbed.cursor, ?_, fun passive => by cases passive⟩
    intro _ same
    exact closed ((same id).mpr (undisturbed.closes_recorded promised.2))
  · obtain ⟨acted, listed⟩ := promised.2
    have unlisted := ((undisturbed.journals session).sent acted).1
    rw [listed] at unlisted
    cases unlisted
  · refine ⟨undisturbed.cursor, ?_, fun _ => rfl⟩
    intro action
    rw [passive] at action
    cases action

theorem journalOf_append_own : journalOf session (before ++ [.event session event]) =
    (journalOf session before).after event := by
  simp [journalOf, Journal.ofEvents]

theorem journalOf_append_other {other : Nat} (elsewhere : session ≠ other) :
    journalOf other (before ++ [.event session event]) = journalOf other before := by
  simp [journalOf, elsewhere]

/-- One step of such a run. -/
theorem Undisturbed.step (undisturbed : Undisturbed start before desk)
    (agree : SameIds start.book start.cursor)
    (promised : (journalOf session before).Promised event.call)
    (unacted : BeforeActing before (.event session event)) (step : desk.Step event after) :
    Undisturbed start (before ++ [.event session event]) after := by
  obtain ⟨cursor, moves, rests⟩ := undisturbed.desk_after promised step
  have records : ∀ records, event = ⟨.readPositions, .ok records⟩ →
      SameIds (positionIds records) start.cursor := by
    rintro records rfl
    exact undisturbed.cursor ▸ step.1
  have listing : ∀ listing, event = ⟨.listOpenPositions, .ok listing⟩ →
      (jointEvents before).any isAction = false ∧ SameIds (positionIds listing) start.cursor := by
    rintro listing rfl
    have idle : (jointEvents before).any isAction = false := unacted rfl
    refine ⟨idle, ?_⟩
    have same := step.1
    rw [undisturbed.book idle] at same
    exact fun id => (same id).trans (agree id)
  have acting : (jointEvents (before ++ [.event session event])).any isAction =
      ((jointEvents before).any isAction || isAction event) := by
    simp
  refine {
    cursor := cursor
    book := ?_
    moved := ?_
    journals := ?_ }
  · intro idle
    rw [acting, Bool.or_eq_false_iff] at idle
    rw [rests idle.2]
    exact undisturbed.book idle.1
  · intro action
    rw [acting, Bool.or_eq_true] at action
    by_cases own : isAction event = true
    · exact moves own
    · rw [rests (Bool.eq_false_of_not_eq_true own)]
      exact undisturbed.moved (action.resolve_right own)
  · intro other
    rw [acting]
    by_cases same : session = other
    · subst same
      rw [journalOf_append_own]
      exact (undisturbed.journals session).after promised records listing
    · rw [journalOf_append_other same]
      exact (undisturbed.journals other).acting_mono _

theorem undisturbed_of_beforeActing
    (joint : Joint (fun session => runRealCycle (platform session) (divergence session) (cli session))
      history)
    (agree : SameIds start.book start.cursor)
    (steps : Steps Desk.Step start (jointEvents history) desk)
    (unacted : Always BeforeActing history) : Undisturbed start history desk := by
  induction history using List.reverseRecOn generalizing desk with
  | nil =>
    cases steps
    refine {
      cursor := rfl
      book := fun _ => rfl
      moved := fun action => by cases action
      journals := fun session => ?_ }
    exact {
      known := rfl
      listed := fun _ last => by cases last
      sent := fun acted => by cases acted }
  | append_singleton before entry ih =>
    cases entry with
    | outside happening =>
      rw [jointEvents_append_outside] at steps
      have undisturbed := ih joint.front steps unacted.front
      exact {
        cursor := undisturbed.cursor
        book := by simpa using undisturbed.book
        moved := by simpa using undisturbed.moved
        journals := by simpa [journalOf] using undisturbed.journals }
    | event session event =>
      rw [jointEvents_append_event] at steps
      obtain ⟨middle, earlier, last⟩ := steps_append_singleton steps
      have undisturbed := ih joint.front earlier unacted.front
      exact undisturbed.step agree (joint.promised runRealCycle_concludes) unacted.last last

/-- An invocation that has not acted is told what it knows. -/
theorem Undisturbed.reports (undisturbed : Undisturbed start before desk)
    (agree : SameIds start.book start.cursor)
    (promised : (journalOf session before).Promised event.call)
    (unacted : BeforeActing before (.event session event)) (step : desk.Step event after) :
    ReportsClean before (.event session event) := by
  obtain ⟨call, reply⟩ := event
  constructor
  · intro listing listed
    obtain rfl | other : call = .listOpenPositions ∨ listingOf ⟨call, reply⟩ = none := by
      cases call with
      | listOpenPositions => exact .inl rfl
      | _ => exact .inr rfl
    · cases reply with
      | error failure => exact step.elim
      | ok found =>
        cases listed
        have same := step.1
        rw [undisturbed.book (unacted rfl)] at same
        rw [isClean_iff]
        intro id
        exact ((same id).trans (agree id)).trans (undisturbed.known promised.2 id).symm
    · rw [other] at listed
      cases listed
  · by_contra notified
    have mismatch : isMismatch ⟨call, reply⟩ = true := by simpa using notified
    obtain ⟨orphaned, adopted, rfl⟩ : ∃ orphaned adopted,
        call = .notify (.reconciliationMismatch orphaned adopted) := by
      cases call with
      | notify message =>
        cases message with
        | reconciliationMismatch orphaned adopted => exact ⟨orphaned, adopted, rfl⟩
        | _ => cases mismatch
      | _ => cases mismatch
    obtain ⟨listing, last, unclean⟩ := promised.2
    obtain ⟨read, same⟩ := (undisturbed.journals session).listed listing last
    have clean : (reconcile listing (journalOf session before).known).isClean = true := by
      rw [isClean_iff]
      exact fun id => (same id).trans (undisturbed.known read id).symm
    rw [clean] at unclean
    cases unclean

/-- An invocation that lists the positions after an action finds a difference. -/
theorem Undisturbed.beforeActing (undisturbed : Undisturbed start before desk)
    (promised : (journalOf session before).Promised event.call)
    (reports : ReportsClean before (.event session event)) (step : desk.Step event after) :
    BeforeActing before (.event session event) := by
  intro listed
  obtain ⟨listing, found⟩ := Option.isSome_iff_exists.mp listed
  have clean := (isClean_iff _ _).mp (reports.1 listing found)
  obtain ⟨call, reply⟩ := event
  cases call with
  | listOpenPositions =>
    cases reply with
    | error failure => exact step.elim
    | ok told =>
      cases found
      have known := undisturbed.known promised.2
      apply Bool.eq_false_of_not_eq_true
      intro acted
      apply undisturbed.moved acted
      exact fun id => ((step.1 id).symm.trans (clean id)).trans (known id)
  | _ => cases found

/-- In a run that starts with broker and cursor in agreement, every report is clean
and no mismatch is notified exactly when no listing follows an order or a close. -/
theorem reportsClean_iff_beforeActing {final : Desk}
    (joint : Joint (fun session => runRealCycle (platform session) (divergence session) (cli session))
      history)
    (agree : SameIds start.book start.cursor)
    (steps : Steps Desk.Step start (jointEvents history) final) :
    Always ReportsClean history ↔ Always BeforeActing history := by
  induction history using List.reverseRecOn generalizing final with
  | nil => exact iff_of_true always_nil always_nil
  | append_singleton before entry ih =>
    cases entry with
    | outside happening =>
      rw [jointEvents_append_outside] at steps
      have earlier := ih joint.front steps
      exact ⟨fun reports => (earlier.mp reports.front).snoc trivial,
        fun unacted => (earlier.mpr unacted.front).snoc trivial⟩
    | event session event =>
      rw [jointEvents_append_event] at steps
      obtain ⟨middle, front, last⟩ := steps_append_singleton steps
      have earlier := ih joint.front front
      have promised : (journalOf session before).Promised event.call :=
        joint.promised runRealCycle_concludes
      constructor
      · intro reports
        have unacted := earlier.mp reports.front
        have undisturbed := undisturbed_of_beforeActing joint.front agree front unacted
        exact unacted.snoc (undisturbed.beforeActing promised reports.last last)
      · intro unacted
        have undisturbed := undisturbed_of_beforeActing joint.front agree front unacted.front
        exact (earlier.mpr unacted.front).snoc (undisturbed.reports agree promised unacted.last last)

end runs

/-- The step that an event makes, if an order opens the position that its reply names. -/
def Desk.next (desk : Desk) (event : CycleEvent) : Option Desk :=
  match event with
  | ⟨.submitOrder _, .ok order⟩ => order.positionId.bind fun id =>
    if desk.book.contains id || desk.cursor.contains id then none
    else some { desk with book := desk.book ++ [id] }
  | ⟨.submitOrder _, .error _⟩ => none
  | ⟨.closePosition id, .ok _⟩ => some { desk with book := desk.book.filter (· ≠ id) }
  | ⟨.closePosition _, .error _⟩ => none
  | ⟨.listOpenPositions, .ok listing⟩ =>
    if SameIds (positionIds listing) desk.book then some desk else none
  | ⟨.listOpenPositions, .error _⟩ => none
  | ⟨.readPositions, .ok records⟩ =>
    if SameIds (positionIds records) desk.cursor then some desk else none
  | ⟨.appendPosition position, .ok _⟩ =>
    some { desk with cursor := desk.cursor ++ [position.positionId] }
  | _ => some desk

theorem Desk.step_of_next {desk after : Desk} {event : CycleEvent}
    (moves : desk.next event = some after) : desk.Step event after := by
  obtain ⟨call, reply⟩ := event
  cases call with
  | submitOrder request =>
    cases reply with
    | error failure => cases moves
    | ok order =>
      obtain ⟨id, _, opened⟩ := Option.bind_eq_some_iff.mp moves
      split at opened
      · cases opened
      · rename_i new
        have fresh : id ∉ desk.book ∧ id ∉ desk.cursor := by simpa using new
        exact ⟨id, fresh.1, fresh.2, (Option.some.inj opened).symm⟩
  | closePosition id =>
    cases reply with
    | error failure => cases moves
    | ok order => exact (Option.some.inj moves).symm
  | listOpenPositions =>
    cases reply with
    | error failure => cases moves
    | ok listing =>
      simp only [Desk.next] at moves
      split at moves
      · rename_i same
        exact ⟨same, (Option.some.inj moves).symm⟩
      · cases moves
  | readPositions =>
    cases reply with
    | error failure => exact (Option.some.inj moves).symm
    | ok records =>
      simp only [Desk.next] at moves
      split at moves
      · rename_i same
        exact ⟨same, (Option.some.inj moves).symm⟩
      · cases moves
  | appendPosition position => cases reply <;> exact (Option.some.inj moves).symm
  | _ => exact (Option.some.inj moves).symm

/-- One open position, recorded in the cursor and at its stop; then a second
invocation in which nothing happens. -/
def stoppedOut : List (Entry Call Reply Empty) :=
  playTurns (fun _ => runRealCycle .winter asComputed ⟨false⟩) Host.answer 0 [([], id), ([], id)]
    { Host.fresh .default (quotedAt [("EURUSD", 1.085), ("GBPUSD", 1.25)]) with
      cursor := [boughtPosition 101 "EURUSD" 1.10 100 0 (some 1.09)]
      book := [boughtPosition 101 "EURUSD" 1.10 100 0 (some 1.09)]
      nextId := 1000 }

theorem stoppedOut_steps :
    ∃ final, Steps Desk.Step ⟨[101], [101]⟩ (jointEvents stoppedOut) final := by
  have computed : ((jointEvents stoppedOut).foldlM Desk.next ⟨[101], [101]⟩).isSome = true := by
    decide +kernel
  obtain ⟨final, moves⟩ := Option.isSome_iff_exists.mp computed
  exact ⟨final, steps_of_foldlM (fun _ _ _ => Desk.step_of_next) moves⟩

theorem stoppedOut_reportsClean_iff :
    Always ReportsClean stoppedOut ↔ Always BeforeActing stoppedOut := by
  obtain ⟨final, steps⟩ := stoppedOut_steps
  exact reportsClean_iff_beforeActing (joint_playTurns _ _ _ _) (fun _ => Iff.rfl) steps

/-- The close that the exit sweep has sent itself is reported as a mismatch. -/
theorem stoppedOut_not_reportsClean :
    ¬∀ (platform : Nat → Platform) (cli : Nat → Cli) (start final : Desk)
      (history : List (Entry Call Reply Empty)), SameIds start.book start.cursor →
      Joint (fun session => runRealCycle (platform session) asComputed (cli session)) history →
      Steps Desk.Step start (jointEvents history) final → Always ReportsClean history := by
  intro claimed
  obtain ⟨final, steps⟩ := stoppedOut_steps
  have clean := claimed (fun _ => .winter) (fun _ => ⟨false⟩) ⟨[101], [101]⟩ final stoppedOut
    (fun _ => Iff.rfl) (joint_playTurns _ _ _ _) steps
  revert clean
  decide +kernel

end Oboobot.Daemon
