import Oboobot.Daemon.Journal

/-! Every cycle keeps its promises to the journal, and leaves it in order. -/

namespace Oboobot.Daemon

open Domain SessionTime Strategy Risk Broker Interaction Daemon.Cycle

section silent

theorem hostHealth_silent (config : Config) (snapshot : BrokerSnapshot) (now : Instant)
    (health : HealthMonitor) : Silent (hostHealth config snapshot now health) := by
  unfold hostHealth
  apply (silent_perform rfl fun _ => rfl).bind
  intro disk
  apply (silent_perform rfl fun _ => rfl).bind
  intro memory
  exact silent_pure _

theorem convertStalenessLimits_silent (risk : RiskSection) :
    Silent (convertStalenessLimits risk) := by
  refine silent_attempt (.observe (.stalenessLimits risk)) rfl
    (fun _ => if risk.stalenessLimitsFit then .ok () else .error .panicked) id fun _ => ?_
  cases fits : risk.stalenessLimitsFit <;> simp [passesOn, fits]

theorem refreshBuffer_silent (file : String)
    (update : Option RollingBuffer → Decimal → Instant → RollingBuffer) (price : Decimal)
    (now : Instant) : Silent (refreshBuffer file update price now) := by
  unfold refreshBuffer
  apply (silent_attempt (.readBuffer file) rfl id _ fun _ => rfl).bind
  intro current
  apply (silent_attempt (.writeBuffer file _) rfl id _ fun _ => rfl).bind
  intro written
  exact silent_pure _

theorem backfillCorrelation_silent (primary secondary : String) :
    Silent (backfillCorrelation primary secondary) := by
  unfold backfillCorrelation
  apply (silent_perform rfl fun _ => rfl).bind
  intro reply
  cases reply with
  | error failure => exact silent_pure _
  | ok primaryHistory =>
    apply (silent_perform rfl fun _ => rfl).bind
    intro reply
    cases reply <;> exact silent_pure _

theorem seedCorrelation_silent (primary secondary : String) (now : Instant)
    (state : CorrelationState) : Silent (seedCorrelation primary secondary now state) := by
  unfold seedCorrelation
  split
  · apply (backfillCorrelation_silent primary secondary).bind
    intro samples
    cases samples <;> exact silent_pure _
  · exact silent_pure _

theorem recordCorrelation_silent (platform : Platform) (config : Config) (primary secondary : String)
    (primaryPrice secondaryPrice : Decimal) (now : Instant) :
    Silent (recordCorrelation platform config primary secondary primaryPrice secondaryPrice now) := by
  unfold recordCorrelation
  apply (silent_attempt (.readCorrelation _) rfl id _ fun _ => rfl).bind
  intro stored
  apply (seedCorrelation_silent primary secondary now _).bind
  intro seeded
  apply (silent_attempt (.writeCorrelation _ _) rfl id _ fun _ => rfl).bind
  intro written
  split
  · apply (silent_perform rfl fun _ => rfl).bind
    intro notified
    exact silent_pure _
  · exact silent_pure _

theorem recordSpread_silent (primary : String) (currentSpread : Decimal) (now : Instant) :
    Silent (recordSpread primary currentSpread now) := by
  unfold recordSpread
  apply (silent_attempt (.readSpreadHistory _) rfl id _ fun _ => rfl).bind
  intro stored
  apply (silent_attempt (.writeSpreadHistory _ _) rfl id _ fun _ => rfl).bind
  intro written
  exact silent_pure _

theorem readPairSets_silent (platform : Platform) (divergence : DivergenceSource) (config : Config)
    (snapshot : BrokerSnapshot) (now : Instant) :
    Silent (readPairSets platform divergence config snapshot now) := by
  apply silent_foldlM
  intro readings pairConfig
  apply Silent.bind _ fun _ => silent_pure _
  unfold readPairSet
  apply (refreshBuffer_silent _ _ _ _).bind
  intro dailyPrimary
  apply (refreshBuffer_silent _ _ _ _).bind
  intro dailySecondary
  apply (refreshBuffer_silent _ _ _ _).bind
  intro sessionPrimary
  apply (refreshBuffer_silent _ _ _ _).bind
  intro sessionSecondary
  apply (recordCorrelation_silent _ _ _ _ _ _ _).bind
  intro correlation
  apply (recordSpread_silent _ _ _).bind
  intro spread
  apply (silent_perform rfl fun _ => rfl).bind
  intro observed
  exact silent_pure _

theorem loadOrCaptureLevel_silent (platform : Platform) (timeframe : Timeframe) (symbol : String)
    (price : Decimal) (now : Instant) (holidays : HolidayProvider) :
    Silent (loadOrCaptureLevel platform timeframe symbol price now holidays) := by
  unfold loadOrCaptureLevel
  apply (silent_attempt (.readTrueOpen _) rfl id _ fun _ => rfl).bind
  intro onFile
  split
  · split
    · apply (silent_attempt (.writeTrueOpen _ _) rfl id _ fun _ => rfl).bind
      intro written
      exact silent_pure _
    · exact silent_pure _
  · exact silent_pure _

end silent

/-- Nothing has failed and no status is written yet; the known positions are
those of the cursor and of all listings so far. -/
structure Underway (journal : Journal) (openPositions : List Position) : Prop where
  running : journal.failed = false
  read : journal.read = true
  unwritten : journal.status = none
  known : journal.known = openPositions
  reconciles : journal.known = knownAfter journal.records journal.listings

/-- Besides, nothing was sent to the broker since the latest listing. -/
structure Calm (journal : Journal) (openPositions : List Position) : Prop
    extends Underway journal openPositions where
  settled : journal.acted = false

/-- An invocation that gave up, before it wrote its status. -/
structure Abandoned (journal : Journal) : Prop where
  failed : journal.failed = true
  unwritten : journal.status = none

theorem Underway.abandon {journal : Journal} {openPositions : List Position}
    (underway : Underway journal openPositions) : Abandoned { journal with failed := true } :=
  ⟨rfl, underway.unwritten⟩

/-- What the reconciliations do not touch. -/
def Journal.frame (journal : Journal) : Bool × Bool × List Evaluation × Option Config :=
  (journal.paused, journal.everActed, journal.evaluations, journal.config)

section cycle

variable {journal : Journal} {openPositions : List Position}

/-- A decision is stamped with the time, and recorded under its pair and outcome. -/
theorem appendDecision_eq (pair outcome : String) (detail : Option String) :
    ∃ recordAt : Instant → DecisionRecord,
      (∀ timestamp, (recordAt timestamp).pair = pair ∧ (recordAt timestamp).outcome = outcome) ∧
      appendDecision pair outcome detail = (do
        let timestamp ← perform .utcNow
        persisted (← perform (.appendDecision (recordAt timestamp)))) := by
  cases detail with
  | none => exact ⟨fun timestamp => .new timestamp pair outcome, fun _ => ⟨rfl, rfl⟩, rfl⟩
  | some text =>
    exact ⟨fun timestamp => (DecisionRecord.new timestamp pair outcome).withDetail text,
      fun _ => ⟨rfl, rfl⟩, rfl⟩

theorem appendDecision_amends (running : journal.failed = false) (pair outcome : String)
    (detail : Option String)
    (named : if journal.evaluations = [] then outcome = "position_closed"
      else outcome ∈ entryOutcomes) :
    (appendDecision pair outcome detail).Meets Journal.contract
      (fun _ after => ∃ record : DecisionRecord, record.pair = pair ∧ record.outcome = outcome ∧
        after = journal.amend fun evaluation =>
          { evaluation with records := evaluation.records ++ [record] })
      (fun _ after => after = { journal with failed := true }) journal := by
  obtain ⟨recordAt, names, appends⟩ := appendDecision_eq pair outcome detail
  rw [appends]
  refine meets_mild running rfl (fun _ => rfl) fun timestamp => ?_
  obtain ⟨ofPair, label⟩ := names timestamp
  rw [meets_bind, Journal.contract, meets_perform_monitor]
  refine ⟨⟨running, ?_⟩, ?_⟩
  · rw [← label] at named
    exact named
  intro reply
  cases reply with
  | error failure => simp [Program.ofExcept, Journal.after, Journal.note, passesOn]
  | ok appended =>
    refine ⟨recordAt timestamp, ofPair, label, ?_⟩
    simp only [Journal.after, Journal.note, passesOn, running, isFailure_ok, Bool.or_self,
      Journal.amend]

theorem appendPositions_keeps (running : journal.failed = false) (acted : journal.everActed = true)
    (settled : journal.acted = false) (positions : List Position) :
    (appendPositions positions).Meets Journal.contract (fun _ after => after = journal)
      (fun _ after => after = { journal with failed := true }) journal := by
  unfold appendPositions
  apply meets_foldlM fun _ _ after => after = journal
  · rintro front position back _ current - rfl
    rw [meets_bind, Journal.contract, meets_perform_monitor]
    refine ⟨⟨running, acted, settled⟩, ?_⟩
    intro reply
    cases reply with
    | error failure => simp [Program.ofExcept, Journal.after, Journal.note, passesOn]
    | ok appended =>
      simp only [Program.ofExcept, meets_done, Journal.after, Journal.note, passesOn, isFailure_ok,
        running, Bool.or_self]
      rw [← running]
  · rfl

/-- A reconciliation settles the journal, from any state underway. -/
theorem reconcileAndNotify_settles (underway : Underway journal openPositions) :
    (reconcileAndNotify openPositions).Meets Journal.contract
      (fun positions after => Calm after positions ∧ after.frame = journal.frame ∧
        ∃ listing, after.listings = journal.listings ++ [listing])
      (fun _ after => Abandoned after ∧ after.frame = journal.frame) journal := by
  unfold reconcileAndNotify
  rw [meets_bind, Journal.contract, meets_perform_monitor]
  refine ⟨⟨underway.running, underway.read⟩, ?_⟩
  intro reply
  cases reply with
  | error failure =>
    refine ⟨⟨?_, underway.unwritten⟩, rfl⟩
    simp [Journal.after, passesOn]
  | ok listing =>
    -- The journal once the report has been made, whichever way it came out.
    let reported : Journal := { journal with
      listings := journal.listings ++ [listing]
      mismatched := !(reconcile listing openPositions).isClean
      acted := false }
    have latest : reported.listings.getLast? = some listing := List.getLast?_concat
    have rest : (do
        observe (.reconciled (applyReconciliation (reconcile listing openPositions)))
        pure (applyReconciliation (reconcile listing openPositions)) : Cycle (List Position)).Meets
          (monitor Journal.after Journal.Promised)
          (fun positions after => Calm after positions ∧ after.frame = journal.frame ∧
            ∃ listing, after.listings = journal.listings ++ [listing])
          (fun _ after => Abandoned after ∧ after.frame = journal.frame) reported := by
      rw [meets_bind, meets_perform_monitor]
      refine ⟨⟨underway.running, listing, latest, ?_, ?_⟩, ?_⟩
      · rw [underway.known]
        rfl
      · rw [underway.known]
      · intro observed
        refine ⟨⟨⟨?_, underway.read, underway.unwritten, rfl, ?_⟩, rfl⟩, rfl, listing, rfl⟩
        · simp [Journal.after, passesOn, reported, underway.running]
        · simp only [Journal.after, Journal.note, reported, knownAfter, List.foldl_append,
            List.foldl_cons, List.foldl_nil]
          rw [← knownAfter, ← underway.reconciles, underway.known]
          rfl
    have listed : journal.after ⟨.listOpenPositions, .ok listing⟩ = { journal with
        listings := journal.listings ++ [listing]
        mismatched := false
        acted := false } := by
      simp [Journal.after, Journal.note, passesOn]
    simp only [Program.ofExcept, meets_bind, meets_done, listed]
    split
    · rename_i clean
      have same : ({ journal with
          listings := journal.listings ++ [listing]
          mismatched := false
          acted := false } : Journal) = reported := by simp [reported, clean]
      rw [same]
      exact rest
    · rename_i unclean
      have notClean : (reconcile listing openPositions).isClean = false := by simpa using unclean
      rw [meets_bind, meets_perform_monitor]
      refine ⟨⟨underway.running, listing, latest, by rw [← notClean, underway.known]⟩, ?_⟩
      intro notified
      have same : Journal.after { journal with
          listings := journal.listings ++ [listing]
          mismatched := false
          acted := false } ⟨.notify (.reconciliationMismatch
            (reconcile listing openPositions).orphanedLocally.length
            (reconcile listing openPositions).unknownToLocal.length), notified⟩ = reported := by
        simp [Journal.after, Journal.note, passesOn, reported, notClean]
      rw [same]
      exact rest

theorem closeFlagged_acts (config : Config) {exit : ExitDecision}
    (underway : Underway journal openPositions) (idle : journal.evaluations = [])
    (known : exit.positionId ∈ positionIds openPositions) :
    (closeFlagged config openPositions exit).Meets Journal.contract
      (fun _ after => Underway after openPositions ∧
        after.frame = (journal.paused, true, [], journal.config) ∧
        after.listings = journal.listings)
      (fun _ after => Abandoned after) journal := by
  unfold closeFlagged
  rw [meets_bind, Journal.contract, meets_perform_monitor]
  refine ⟨⟨underway.running, underway.known ▸ known⟩, ?_⟩
  intro reply
  have acted : journal.after ⟨.closePosition exit.positionId, reply⟩ =
      { journal with acted := true, everActed := true } := by
    simp [Journal.after, Journal.note, passesOn]
  have still : Underway { journal with acted := true, everActed := true } openPositions :=
    ⟨underway.running, underway.read, underway.unwritten, underway.known, underway.reconciles⟩
  have frame : Journal.frame { journal with acted := true, everActed := true } =
      (journal.paused, true, [], journal.config) := by
    simp [Journal.frame, idle]
  rw [acted]
  cases reply with
  | error failure => exact ⟨still, frame, rfl⟩
  | ok order =>
    dsimp only
    rw [meets_bind, meets_perform_monitor]
    refine ⟨⟨still.running, trivial⟩, ?_⟩
    intro notified
    have silent : Journal.after { journal with acted := true, everActed := true }
        ⟨.notify (.closedPosition exit.positionId exit.reason), notified⟩ =
          { journal with acted := true, everActed := true } := by
      simp [Journal.after, Journal.note, passesOn]
    rw [silent]
    apply (appendDecision_amends still.running _ _ _ (if_pos idle ▸ rfl)).weaken
    · rintro _ _ ⟨record, _, _, rfl⟩
      have unamended : Journal.amend { journal with acted := true, everActed := true }
          (fun evaluation => { evaluation with records := evaluation.records ++ [record] }) =
            { journal with acted := true, everActed := true } := by
        simp [Journal.amend, idle, List.modifyLast, List.modifyLast.go]
      rw [unamended]
      exact ⟨still, frame, rfl⟩
    · rintro _ _ rfl
      exact still.abandon

/-- The closes of a sweep: nothing changes without any, and else the cycle is
underway with something sent. -/
theorem closeLoop_acts (config : Config) (calm : Calm journal openPositions)
    (idle : journal.evaluations = []) {exits : List ExitDecision}
    (flagged : ∀ exit ∈ exits, exit.positionId ∈ positionIds openPositions) :
    (exits.foldlM (fun _ exit => closeFlagged config openPositions exit) ()).Meets Journal.contract
      (fun _ after => if exits = [] then after = journal else
        Underway after openPositions ∧ after.frame = (journal.paused, true, [], journal.config))
      (fun _ after => Abandoned after) journal := by
  apply meets_foldlM fun front _ after => if front = [] then after = journal else
    Underway after openPositions ∧ after.frame = (journal.paused, true, [], journal.config)
  · intro front exit back _ world same kept
    have known : exit.positionId ∈ positionIds openPositions := flagged exit (by simp [same])
    have more : (front ++ [exit] = []) = False := by simp
    simp only [more, if_false]
    by_cases first : front = []
    · rw [if_pos first] at kept
      subst kept
      apply (closeFlagged_acts config calm.toUnderway idle known).weaken
      · exact fun _ _ given => ⟨given.1, given.2.1⟩
      · exact fun _ _ given => given
    · rw [if_neg first] at kept
      obtain ⟨underway, frame⟩ := kept
      have paused : world.paused = journal.paused := congrArg Prod.fst frame
      have empty : world.evaluations = [] := congrArg (fun frame => frame.2.2.1) frame
      have configured : world.config = journal.config := congrArg (fun frame => frame.2.2.2) frame
      apply (closeFlagged_acts config underway empty known).weaken
      · exact fun _ _ given => ⟨given.1, paused ▸ configured ▸ given.2.1⟩
      · exact fun _ _ given => given
  · rfl

theorem exitSweep_settles (config : Config) (snapshot : BrokerSnapshot) (now : Instant)
    (states : List PairCycleState) (calm : Calm journal openPositions)
    (idle : journal.evaluations = []) (listed : journal.listings ≠ []) :
    (exitSweep config snapshot now states openPositions).Meets Journal.contract
      (fun positions after => Calm after positions ∧ after.evaluations = [] ∧
        after.paused = journal.paused ∧ after.listings ≠ [])
      (fun _ after => Abandoned after) journal := by
  unfold exitSweep
  rw [meets_bind]
  have flagged : ∀ exit ∈ flaggedExits snapshot now states openPositions,
      exit.positionId ∈ positionIds openPositions := by
    intro exit member
    exact (evaluateExits_sublist _ _ _ _ _ _).subset (List.mem_map_of_mem member)
  apply (closeLoop_acts config calm idle flagged).weaken
  · intro _ after kept
    by_cases none : flaggedExits snapshot now states openPositions = []
    · rw [if_pos none] at kept
      subst kept
      rw [if_pos (by simp [none])]
      exact ⟨calm, idle, rfl, listed⟩
    · rw [if_neg none] at kept
      obtain ⟨underway, frame⟩ := kept
      rw [if_neg (by simpa using none), meets_bind]
      apply (reconcileAndNotify_settles underway).weaken
      · rintro positions settled ⟨calm, same, listing, listed⟩
        rw [frame] at same
        have acted : settled.everActed = true := congrArg (fun frame => frame.2.1) same
        rw [meets_bind]
        apply (appendPositions_keeps calm.running acted calm.settled positions).weaken
        · rintro _ _ rfl
          exact ⟨calm, congrArg (fun frame => frame.2.2.1) same, congrArg Prod.fst same,
            by simp [listed]⟩
        · rintro _ _ rfl
          exact calm.toUnderway.abandon
      · exact fun _ _ given => given.1
  · exact fun _ _ given => given

end cycle

end Oboobot.Daemon
