import Oboobot.Daemon.PositionHistory

/-! The exit sweep closes what is flagged, once, and keeps what the broker
refuses to close. -/

namespace Oboobot.Daemon

open Domain SessionTime Strategy Risk Broker Interaction

/-- The sweep of these exits: close each, then reconcile if there were any. -/
def sweep (config : Config) (openPositions : List Position) (exits : List ExitDecision) :
    Cycle (List Position) := do
  exits.foldlM (fun _ exit => closeFlagged config openPositions exit) ()
  if exits.isEmpty then return openPositions
  else
    let openPositions ← reconcileAndNotify openPositions
    appendPositions openPositions
    return openPositions

/-- A cycle sweeps the exits that it flags against its snapshot. -/
theorem exitSweep_eq_sweep (config : Config) (snapshot : BrokerSnapshot) (now : Instant)
    (states : List PairCycleState) (openPositions : List Position) :
    exitSweep config snapshot now states openPositions =
      sweep config openPositions (flaggedExits snapshot now states openPositions) := rfl

/-- A close that the broker refused. -/
def refusalOf : CycleEvent → Option Uuid
  | ⟨.closePosition id, .error _⟩ => some id
  | _ => none

/-- The ids open at the broker, with the closes asked for and refused so far. -/
structure Sweeping where
  book : List Uuid
  asked : List Uuid
  refused : List Uuid

namespace Sweeping

/-- A successful close removes the position from the book; nothing else changes it. -/
def after (sweeping : Sweeping) : CycleEvent → Sweeping
  | ⟨.closePosition id, .ok _⟩ => { sweeping with
      book := sweeping.book.filter (· ≠ id)
      asked := sweeping.asked ++ [id] }
  | ⟨.closePosition id, .error _⟩ => { sweeping with
      asked := sweeping.asked ++ [id]
      refused := sweeping.refused ++ [id] }
  | _ => sweeping

/-- The broker lists its book, and appends succeed. -/
def Faithful (sweeping : Sweeping) : CycleEvent → Prop
  | ⟨.listOpenPositions, .ok listing⟩ => ∀ id, id ∈ positionIds listing ↔ id ∈ sweeping.book
  | ⟨.appendDecision _, reply⟩ => reply = .ok ()
  | ⟨.appendPosition _, reply⟩ => reply = .ok ()
  | _ => True

def step (sweeping : Sweeping) (event : CycleEvent) (next : Sweeping) : Prop :=
  sweeping.Faithful event ∧ next = sweeping.after event

/-- The flagged ids are closed in order, each of them once. -/
def contract (flagged : List Uuid) : Contract Call Reply Sweeping where
  step := step
  promise sweeping call := ∀ id, call = .closePosition id → sweeping.asked ++ [id] <+: flagged

/-- What a sweep has done to the book of these open positions. -/
structure Kept (openPositions : List Position) (asked : List Uuid) (sweeping : Sweeping) : Prop where
  asked : sweeping.asked = asked
  refused : ∀ id ∈ sweeping.refused, id ∈ sweeping.asked
  book : ∀ id, id ∈ sweeping.book ↔
    id ∈ positionIds openPositions ∧ (id ∉ sweeping.asked ∨ id ∈ sweeping.refused)

variable {config : Config} {openPositions : List Position} {asked flagged : List Uuid}
  {sweeping : Sweeping} {exit : ExitDecision}

theorem Kept.refuse {id : Uuid} (kept : Kept openPositions asked sweeping) (fresh : id ∉ asked) :
    Kept openPositions (asked ++ [id]) { sweeping with
      asked := sweeping.asked ++ [id]
      refused := sweeping.refused ++ [id] } where
  asked := by rw [kept.asked]
  refused := by
    intro other member
    rcases List.mem_append.mp member with earlier | last
    · exact List.mem_append_left _ (kept.refused other earlier)
    · exact List.mem_append_right _ last
  book := by
    intro other
    rw [kept.book]
    by_cases same : other = id
    · subst same
      rw [← kept.asked] at fresh
      simp [fresh]
    · simp [same]

theorem Kept.close {id : Uuid} (kept : Kept openPositions asked sweeping) (fresh : id ∉ asked) :
    Kept openPositions (asked ++ [id]) { sweeping with
      book := sweeping.book.filter (· ≠ id)
      asked := sweeping.asked ++ [id] } where
  asked := by rw [kept.asked]
  refused other member := List.mem_append_left _ (kept.refused other member)
  book := by
    intro other
    rw [List.mem_filter, kept.book]
    by_cases same : other = id
    · subst same
      have accepted : other ∉ sweeping.refused := by
        intro refused
        exact fresh (kept.asked ▸ kept.refused other refused)
      simp [accepted]
    · simp [same]

/-- One flagged position, closed or refused. -/
theorem closeFlagged_meets {failed : CycleError → Sweeping → Prop}
    (kept : Kept openPositions asked sweeping) (fresh : exit.positionId ∉ asked)
    (turn : asked ++ [exit.positionId] <+: flagged) :
    (closeFlagged config openPositions exit).Meets (contract flagged)
      (fun _ => Kept openPositions (asked ++ [exit.positionId])) failed sweeping := by
  unfold closeFlagged
  rw [meets_bind, meets_perform]
  constructor
  · intro id same
    cases same
    rw [kept.asked]
    exact turn
  · rintro reply _ ⟨-, rfl⟩
    cases reply with
    | error failure => exact kept.refuse fresh
    | ok order =>
      have closed := kept.close fresh
      simp only [meets_bind, meets_perform, appendDecision]
      refine ⟨fun _ same => (by cases same), ?_⟩
      rintro _ _ ⟨-, rfl⟩
      refine ⟨fun _ same => (by cases same), ?_⟩
      rintro timestamp _ ⟨-, rfl⟩
      refine ⟨fun _ same => (by cases same), ?_⟩
      rintro reply _ ⟨succeeds, rfl⟩
      cases succeeds
      exact closed

/-- The loop over the flagged positions, whatever the broker refuses. -/
theorem closeLoop_meets {exits : List ExitDecision} {failed : CycleError → Sweeping → Prop}
    (distinct : (exits.map ExitDecision.positionId).Nodup)
    (kept : Kept openPositions [] sweeping) :
    (exits.foldlM (fun _ exit => closeFlagged config openPositions exit) ()).Meets
      (contract (exits.map ExitDecision.positionId))
      (fun _ => Kept openPositions (exits.map ExitDecision.positionId)) failed sweeping := by
  apply meets_foldlM fun front _ => Kept openPositions (front.map ExitDecision.positionId)
  · intro front exit back _ sweeping same kept
    subst same
    have turn : (front ++ [exit]).map ExitDecision.positionId <+:
        (front ++ exit :: back).map ExitDecision.positionId :=
      (List.prefix_append (front ++ [exit]) back).map _ |>.trans (by simp)
    have fresh : exit.positionId ∉ front.map ExitDecision.positionId := by
      rw [List.map_append, List.map_cons, List.nodup_append'] at distinct
      intro earlier
      exact distinct.2.2 earlier (List.mem_cons_self ..)
    have single : (front ++ [exit]).map ExitDecision.positionId =
        front.map ExitDecision.positionId ++ [exit.positionId] := by simp
    rw [single] at turn ⊢
    exact closeFlagged_meets kept fresh turn
  · exact kept

/-- Against a listing of known ids, reconciliation only drops what is not listed. -/
theorem reconciled_of_subset {listing openPositions : List Position}
    (known : ∀ id ∈ positionIds listing, id ∈ positionIds openPositions) :
    reconciled listing openPositions =
      openPositions.filter fun position => position.positionId ∈ positionIds listing := by
  have noneAdopted : (reconcile listing openPositions).unknownToLocal = [] := by
    apply List.filter_eq_nil_iff.mpr
    intro position listed
    simpa using known position.positionId (List.mem_map_of_mem listed)
  rw [reconciled, applyReconciliation, noneAdopted, List.append_nil]
  rfl

/-- The open positions that were not flagged or whose close was refused. -/
def remaining (openPositions : List Position) (flagged refused : List Uuid) : List Position :=
  openPositions.filter fun position =>
    !flagged.contains position.positionId || refused.contains position.positionId

theorem remaining_eq (openPositions : List Position) (flagged refused : List Uuid) :
    remaining openPositions flagged refused = openPositions.filter fun position =>
      position.positionId ∉ flagged ∨ position.positionId ∈ refused := by
  apply List.filter_congr
  intro position _
  simp

theorem Kept.reconciled {listing : List Position} (kept : Kept openPositions flagged sweeping)
    (listed : ∀ id, id ∈ positionIds listing ↔ id ∈ sweeping.book) :
    reconciled listing openPositions = remaining openPositions flagged sweeping.refused := by
  have known : ∀ id ∈ positionIds listing, id ∈ positionIds openPositions := by
    intro id member
    exact ((kept.book id).mp ((listed id).mp member)).1
  rw [reconciled_of_subset known, remaining]
  apply List.filter_congr
  intro position member
  have open' : position.positionId ∈ positionIds openPositions := List.mem_map_of_mem member
  simp [listed, kept.book, kept.asked, open']

theorem appendPositions_meets {positions : List Position} {failed : CycleError → Sweeping → Prop} :
    (appendPositions positions).Meets (contract flagged) (fun _ after => after = sweeping) failed
      sweeping := by
  unfold appendPositions
  apply meets_foldlM fun _ _ after => after = sweeping
  · rintro front position back _ _ - rfl
    rw [meets_bind, meets_perform]
    refine ⟨fun _ same => (by cases same), ?_⟩
    rintro reply _ ⟨succeeds, rfl⟩
    cases succeeds
    rfl
  · rfl

theorem reconcileAndNotify_meets (kept : Kept openPositions flagged sweeping) :
    (reconcileAndNotify openPositions).Meets (contract flagged)
      (fun positions after => after.asked = flagged ∧
        positions = remaining openPositions flagged after.refused)
      (fun _ after => after.asked = flagged) sweeping := by
  unfold reconcileAndNotify
  rw [meets_bind, meets_perform]
  refine ⟨fun _ same => (by cases same), ?_⟩
  rintro reply listed ⟨faithful, rfl⟩
  rw [meets_bind, meets_ofExcept]
  constructor
  · intro listing same
    subst same
    have result : applyReconciliation (reconcile listing openPositions) =
        remaining openPositions flagged listed.refused := kept.reconciled faithful
    dsimp only
    rw [result]
    split
    · simp only [meets_bind, meets_pure, meets_perform]
      refine ⟨fun _ same => (by cases same), ?_⟩
      rintro _ _ ⟨-, rfl⟩
      exact ⟨kept.asked, rfl⟩
    · simp only [meets_bind, meets_pure, meets_perform]
      refine ⟨fun _ same => (by cases same), ?_⟩
      rintro _ _ ⟨-, rfl⟩
      refine ⟨fun _ same => (by cases same), ?_⟩
      rintro _ _ ⟨-, rfl⟩
      exact ⟨kept.asked, rfl⟩
  · intro failure same
    subst same
    exact kept.asked

/-- After a sweep the flagged ids have all been asked for, and the open
positions are the remaining ones. -/
theorem sweep_meets {exits : List ExitDecision}
    (distinct : (exits.map ExitDecision.positionId).Nodup)
    (kept : Kept openPositions [] sweeping) :
    (sweep config openPositions exits).Meets (contract (exits.map ExitDecision.positionId))
      (fun positions after => after.asked = exits.map ExitDecision.positionId ∧
        positions = remaining openPositions (exits.map ExitDecision.positionId) after.refused)
      (fun _ after => after.asked = exits.map ExitDecision.positionId) sweeping := by
  unfold sweep
  rw [meets_bind]
  apply (closeLoop_meets distinct kept).weaken
  · intro _ after kept
    by_cases none : exits.isEmpty
    · rw [if_pos none]
      cases List.isEmpty_iff.mp none
      exact ⟨kept.asked, by simp [remaining]⟩
    · rw [if_neg none, meets_bind]
      apply (reconcileAndNotify_meets kept).weaken
      · intro positions settled result
        rw [meets_bind]
        apply appendPositions_meets.weaken
        · rintro _ _ rfl
          exact result
        · exact fun _ _ given => given
      · exact fun _ _ given => given
  · exact fun _ _ given => given

theorem after_log (sweeping : Sweeping) (event : CycleEvent) :
    (sweeping.after event).asked = sweeping.asked ++ (closingOf event).toList ∧
      (sweeping.after event).refused = sweeping.refused ++ (refusalOf event).toList := by
  obtain ⟨call, reply⟩ := event
  cases call with
  | closePosition id => cases reply <;> simp [Sweeping.after, closingOf, refusalOf]
  | _ => simp [Sweeping.after, closingOf, refusalOf]

private theorem filterMap_cons_toList {Item Result : Type} (read : Item → Option Result)
    (item : Item) (rest : List Item) :
    (item :: rest).filterMap read = (read item).toList ++ rest.filterMap read := by
  cases found : read item <;> simp [found]

theorem inOrder_after {event : CycleEvent} (asked : sweeping.asked <+: flagged)
    (promised : (contract flagged).promise sweeping event.call) :
    (sweeping.after event).asked <+: flagged := by
  rw [(after_log sweeping event).1]
  obtain ⟨call, reply⟩ := event
  cases call with
  | closePosition id => exact promised id rfl
  | _ => simpa [closingOf] using asked

/-- The log agrees with the events. -/
theorem steps_log {events : List CycleEvent} {final : Sweeping}
    (steps : Steps step sweeping events final) :
    final.asked = sweeping.asked ++ events.filterMap closingOf ∧
      final.refused = sweeping.refused ++ events.filterMap refusalOf := by
  induction steps with
  | nil sweeping => simp
  | cons first rest ih =>
    obtain ⟨-, rfl⟩ := first
    obtain ⟨asked, refused⟩ := after_log _ _
    rw [ih.1, ih.2, asked, refused, filterMap_cons_toList, filterMap_cons_toList,
      List.append_assoc, List.append_assoc]
    exact ⟨rfl, rfl⟩

end Sweeping

/-- Flagging depends on each position alone, so it commutes with a choice of ids. -/
theorem evaluateExits_filter (positions : List Position) (currentPrices : BTreeMap Decimal)
    (newsEvents : List NewsEvent) (now : Instant) (newsLeadTime : Duration)
    (currentDivergences : BTreeMap (Direction × Tier)) (chosen : Uuid → Bool) :
    evaluateExits (positions.filter fun position => chosen position.positionId) currentPrices
        newsEvents now newsLeadTime currentDivergences =
      (evaluateExits positions currentPrices newsEvents now newsLeadTime currentDivergences).filter
        fun exit => chosen exit.positionId := by
  unfold evaluateExits
  rw [List.filterMap_filter, List.filter_filterMap]
  refine List.filterMap_congr fun position _ => ?_
  cases flagged : exitDecision currentPrices (shouldExitForNews newsEvents now newsLeadTime)
      currentDivergences position with
  | none => split <;> rfl
  | some exit => rw [Option.filter_some, positionId_of_exitDecision flagged]

section sweeps

variable (currentPrices : BTreeMap Decimal) (newsEvents : List NewsEvent) (now : Instant)
  (newsLeadTime : Duration) (currentDivergences : BTreeMap (Direction × Tier))

/-- What a sweep has done by the end of its events: it asks for the flagged ids
in order, for each of them once unless it is stopped before its end, and goes on
with the positions that were not flagged or were refused, of which only the
refused ones are flagged again. -/
structure SweepsOnce (openPositions : List Position) (events : List CycleEvent)
    (outcome : Outcome CycleError (List Position)) : Prop where
  inOrder : events.filterMap closingOf <+:
    (evaluateExits openPositions currentPrices newsEvents now newsLeadTime currentDivergences).map
      ExitDecision.positionId
  all : outcome ≠ .stopped → events.filterMap closingOf =
    (evaluateExits openPositions currentPrices newsEvents now newsLeadTime currentDivergences).map
      ExitDecision.positionId
  remaining : ∀ positions, outcome = .done positions → positions =
    openPositions.filter fun position => position.positionId ∉ events.filterMap closingOf ∨
      position.positionId ∈ events.filterMap refusalOf
  flaggedAgain : ∀ positions, outcome = .done positions →
    evaluateExits positions currentPrices newsEvents now newsLeadTime currentDivergences =
      (evaluateExits openPositions currentPrices newsEvents now newsLeadTime
        currentDivergences).filter fun exit => exit.positionId ∈ events.filterMap refusalOf

/-- For every pattern of refusals, whatever is open and however it is priced. -/
theorem sweep_once (config : Config) {openPositions : List Position} {book : List Uuid}
    {events : List CycleEvent} {outcome : Outcome CycleError (List Position)} {final : Sweeping}
    (distinct : (positionIds openPositions).Nodup)
    (agrees : ∀ id, id ∈ book ↔ id ∈ positionIds openPositions)
    (trace : Trace (sweep config openPositions (evaluateExits openPositions currentPrices newsEvents
      now newsLeadTime currentDivergences)) events outcome)
    (steps : Steps Sweeping.step { book, asked := [], refused := [] } events final) :
    SweepsOnce currentPrices newsEvents now newsLeadTime currentDivergences openPositions events
      outcome := by
  have ordered := evaluateExits_sublist openPositions currentPrices newsEvents now newsLeadTime
    currentDivergences
  have kept : Sweeping.Kept openPositions [] { book, asked := [], refused := [] } :=
    { asked := rfl, refused := nofun, book := by simp [agrees] }
  have meets : (sweep config openPositions _).Meets _ _ _ _ :=
    Sweeping.sweep_meets (distinct.sublist ordered) kept
  obtain ⟨asked, refused⟩ := Sweeping.steps_log steps
  rw [List.nil_append] at asked refused
  have all (ended : outcome ≠ .stopped) : events.filterMap closingOf =
      (evaluateExits openPositions currentPrices newsEvents now newsLeadTime currentDivergences).map
        ExitDecision.positionId := by
    rw [← asked]
    cases outcome with
    | done positions => exact (meets.ends_done trace steps).1
    | failed failure => exact meets.ends_failed trace steps
    | stopped => exact absurd rfl ended
  have remains (positions : List Position) (ends : outcome = .done positions) : positions =
      openPositions.filter fun position => position.positionId ∉ events.filterMap closingOf ∨
        position.positionId ∈ events.filterMap refusalOf := by
    subst ends
    rw [all nofun, ← refused]
    exact (meets.ends_done trace steps).2.trans (Sweeping.remaining_eq _ _ _)
  constructor
  · rw [← asked]
    apply meets.kept _ _ (List.nil_prefix) trace steps
    rintro sweeping event after before promised ⟨-, rfl⟩
    exact Sweeping.inOrder_after before promised
  · exact all
  · exact remains
  · intro positions ends
    rw [remains positions ends]
    rw [evaluateExits_filter openPositions currentPrices newsEvents now newsLeadTime
      currentDivergences fun id => decide (id ∉ events.filterMap closingOf ∨
        id ∈ events.filterMap refusalOf)]
    apply List.filter_congr
    intro exit member
    have closing : exit.positionId ∈ events.filterMap closingOf := by
      rw [all (by simp [ends])]
      exact List.mem_map_of_mem member
    simp [closing]

end sweeps

/-- A host that never closes position 1 and accepts no orders, with the log of a sweep. -/
def refuseFirst (world : Host × Sweeping) (call : Call) : Reply call × Host × Sweeping :=
  let (reply, host) : Reply call × Host := match call with
    | .closePosition id =>
      if id = 1 then (.error (.timeout 10000), world.1) else world.1.closePosition id
    | .submitOrder _ => (.error (.notImplemented "submit_order"), world.1)
    | other => world.1.answer other
  (reply, host, world.2.after ⟨call, reply⟩)

theorem refuseFirst_step (world : Host × Sweeping) (call : Call)
    (agrees : ∀ id, id ∈ positionIds world.1.book ↔ id ∈ world.2.book) :
    Sweeping.step world.2 ⟨call, (refuseFirst world call).1⟩ (refuseFirst world call).2.2 ∧
      ∀ id, id ∈ positionIds (refuseFirst world call).2.1.book ↔
        id ∈ (refuseFirst world call).2.2.book := by
  cases call with
  | closePosition id =>
    by_cases first : id = 1
    · simp only [refuseFirst, if_pos first]
      exact ⟨⟨trivial, rfl⟩, agrees⟩
    · simp only [refuseFirst, if_neg first]
      refine ⟨⟨trivial, rfl⟩, ?_⟩
      unfold Host.closePosition
      split
      · exact agrees
      · intro other
        rw [Sweeping.after, List.mem_filter, ← agrees]
        simp only [Host.takeId, positionIds, List.mem_map, List.mem_filter, decide_eq_true_eq]
        constructor
        · rintro ⟨position, ⟨open', other⟩, rfl⟩
          exact ⟨⟨position, open', rfl⟩, other⟩
        · rintro ⟨⟨position, open', rfl⟩, other⟩
          exact ⟨position, ⟨open', other⟩, rfl⟩
  | listOpenPositions => exact ⟨⟨agrees, rfl⟩, agrees⟩
  | appendDecision record => exact ⟨⟨rfl, rfl⟩, agrees⟩
  | appendPosition position => exact ⟨⟨rfl, rfl⟩, agrees⟩
  | _ => exact ⟨⟨trivial, rfl⟩, agrees⟩

/-- Two open positions, both at their stop. -/
def twoStopped : List Position := [
  boughtPosition 1 "EURUSD" 1.10 100 0 (some 1.09),
  boughtPosition 2 "GBPUSD" 1.30 100 0 (some 1.29)]

def fallenPrices : BTreeMap Decimal := .ofPairs [("EURUSD", 1.08), ("GBPUSD", 1.28)]

def sweepTwoStopped : Cycle (List Position) :=
  sweep .default twoStopped (evaluateExits twoStopped fallenPrices [] 0 newsLeadTime .empty)

/-- The first close is refused, the second succeeds. -/
theorem twoStopped_swept :
    let start : Host × Sweeping :=
      ({ Host.fresh .default .empty with book := twoStopped }, { book := [1, 2], asked := [], refused := [] })
    let played := sweepTwoStopped.play refuseFirst start
    played.1.filterMap refusalOf = [1] ∧
      SweepsOnce fallenPrices [] 0 newsLeadTime .empty twoStopped played.1 played.2.1 := by
  intro start played
  have trace := sweepTwoStopped.play_trace refuseFirst start
  have agrees : ∀ id, id ∈ positionIds start.1.book ↔ id ∈ start.2.book := fun _ => Iff.rfl
  have steps := Steps.played refuseFirst_step sweepTwoStopped agrees
  refine ⟨by decide +kernel, ?_⟩
  exact sweep_once fallenPrices [] 0 newsLeadTime .empty .default (by decide) (fun _ => Iff.rfl) trace
    steps

end Oboobot.Daemon
