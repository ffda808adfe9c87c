import Oboobot.Daemon.Cycle
import Mathlib.Data.List.ModifyLast

/-! What the events of a cycle leave behind: failures passed on, listings and
what was made of them, decision records, and the status. -/

namespace Oboobot.Daemon

open Domain SessionTime Strategy Risk Broker Interaction

def isFailure {ε α : Type} : Except ε α → Bool
  | .ok _ => false
  | .error _ => true

@[simp] theorem isFailure_ok {ε α : Type} (value : α) : isFailure (.ok value : Except ε α) = false :=
  rfl

@[simp] theorem isFailure_error {ε α : Type} (failure : ε) :
    isFailure (.error failure : Except ε α) = true := rfl

/-- Whether an event ends the invocation: a failure that `?` passes on, or limits whose
conversion panics. -/
def passesOn : CycleEvent → Bool
  | ⟨.createStateDir, reply⟩ => isFailure reply
  | ⟨.readConfigFile, file⟩ => match Config.load file with
    | .ok config => config.pairs.isEmpty
    | .error _ => true
  | ⟨.readPositions, reply⟩ => isFailure reply
  | ⟨.appendPosition _, reply⟩ => isFailure reply
  | ⟨.appendDecision _, reply⟩ => isFailure reply
  | ⟨.readBuffer _, reply⟩ => isFailure reply
  | ⟨.writeBuffer _ _, reply⟩ => isFailure reply
  | ⟨.readCorrelation _, reply⟩ => isFailure reply
  | ⟨.writeCorrelation _ _, reply⟩ => isFailure reply
  | ⟨.readSpreadHistory _, reply⟩ => isFailure reply
  | ⟨.writeSpreadHistory _ _, reply⟩ => isFailure reply
  | ⟨.readTrueOpen _, reply⟩ => isFailure reply
  | ⟨.writeTrueOpen _ _, reply⟩ => isFailure reply
  | ⟨.listOpenPositions, reply⟩ => isFailure reply
  | ⟨.submitOrder _, reply⟩ => isFailure reply
  | ⟨.getAccountEquity, reply⟩ => isFailure reply
  | ⟨.observe observation, _⟩ => match observation with
    | .stalenessLimits risk => !risk.stalenessLimitsFit
    | _ => false
  | _ => false

/-- One pair-set's turn in the entry loop: the positions known when it began, the
biases and the decision of the risk engine it came to, whether an order of it was
accepted, and the records it has left in `decisions.cursor`. -/
structure Evaluation where
  state : PairCycleState
  known : List Position
  biases : List Bias
  decision : Option RiskDecision
  ordered : Bool
  records : List DecisionRecord

def Evaluation.begun (state : PairCycleState) (known : List Position) : Evaluation where
  state := state
  known := known
  biases := []
  decision := none
  ordered := false
  records := []

/-- The labels of the records that the entry loop leaves. -/
def entryOutcomes : List String :=
  ["spread_rejected", "no_divergence", "gate_rejected", "collision_skip", "risk_rejected",
    "order_submitted"]

structure Journal where
  failed : Bool
  paused : Bool
  config : Option Config
  /-- The records of `positions.cursor`, once read, and the list made of them since. -/
  read : Bool
  records : List Position
  known : List Position
  listings : List (List Position)
  /-- A mismatch with the latest listing has been reported. -/
  mismatched : Bool
  /-- An order or a close has been sent: since the latest listing, or ever. -/
  acted : Bool
  everActed : Bool
  evaluations : List Evaluation
  /-- The status last sent to be written. -/
  status : Option StatusSnapshot

namespace Journal

def empty : Journal where
  failed := false
  paused := false
  config := none
  read := false
  records := []
  known := []
  listings := []
  mismatched := false
  acted := false
  everActed := false
  evaluations := []
  status := none

/-- Note something down for the pair-set whose turn it is. -/
def amend (journal : Journal) (change : Evaluation → Evaluation) : Journal :=
  { journal with evaluations := journal.evaluations.modifyLast change }

def note (journal : Journal) : CycleEvent → Journal
  | ⟨.pausedFileExists, .ok exists'⟩ => { journal with paused := exists' }
  | ⟨.readConfigFile, file⟩ => { journal with config := (Config.load file).toOption }
  | ⟨.readPositions, .ok records⟩ => { journal with read := true, records, known := records }
  | ⟨.listOpenPositions, .ok listing⟩ => { journal with
      listings := journal.listings ++ [listing]
      mismatched := false
      acted := false }
  | ⟨.notify (.reconciliationMismatch _ _), _⟩ => { journal with mismatched := true }
  | ⟨.observe (.reconciled openPositions), _⟩ => { journal with known := openPositions }
  | ⟨.closePosition _, _⟩ => { journal with acted := true, everActed := true }
  | ⟨.submitOrder _, .ok _⟩ =>
    { journal with acted := true, everActed := true }.amend fun evaluation =>
      { evaluation with ordered := true }
  | ⟨.submitOrder _, .error _⟩ => { journal with acted := true, everActed := true }
  | ⟨.observe (.evaluating state), _⟩ => { journal with
      evaluations := journal.evaluations ++ [.begun state journal.known] }
  | ⟨.observe (.trueOpenBias _ _ _ _ bias), _⟩ => journal.amend fun evaluation =>
      { evaluation with biases := evaluation.biases ++ [bias] }
  | ⟨.observe (.riskDecision _ _ _ decision), _⟩ => journal.amend fun evaluation =>
      { evaluation with decision := some decision }
  | ⟨.appendDecision record, .ok ()⟩ => journal.amend fun evaluation =>
      { evaluation with records := evaluation.records ++ [record] }
  | ⟨.writeStatus snapshot, _⟩ => { journal with status := some snapshot }
  | _ => journal

def after (journal : Journal) (event : CycleEvent) : Journal :=
  { journal.note event with failed := journal.failed || passesOn event }

def ofEvents (events : List CycleEvent) : Journal := events.foldl after empty

/-- A change that is noted for the last turn changes only that. -/
theorem amend_eq {journal : Journal} {earlier : List Evaluation} {evaluation : Evaluation}
    (turns : journal.evaluations = earlier ++ [evaluation]) (change : Evaluation → Evaluation) :
    journal.amend change = { journal with evaluations := earlier ++ [change evaluation] } := by
  rw [amend, turns, List.modifyLast_concat]

theorem amend_idle {journal : Journal} (idle : journal.evaluations = [])
    (change : Evaluation → Evaluation) : journal.amend change = journal := by
  cases journal
  cases idle
  rfl

/-- What a cycle promises of a call: nothing follows a failure, and a listing is
compared with the positions known before it. -/
def Promised (journal : Journal) (call : Call) : Prop :=
  journal.failed = false ∧ match call with
  | .readPositions => journal.listings = []
  | .listOpenPositions => journal.read = true
  | .getSnapshot symbols => ∃ config, journal.config = some config ∧
      symbols = allSymbols config.pairs
  | .notify (.reconciliationMismatch _ _) => ∃ listing, journal.listings.getLast? = some listing ∧
      (reconcile listing journal.known).isClean = false
  | .observe (.reconciled openPositions) => ∃ listing,
      journal.listings.getLast? = some listing ∧
      openPositions = reconciled listing journal.known ∧
      journal.mismatched = !(reconcile listing journal.known).isClean
  | .closePosition id => id ∈ positionIds journal.known
  | .submitOrder _ => journal.acted = false
  | .appendPosition _ => journal.everActed = true ∧ journal.acted = false
  | .appendDecision record => if journal.evaluations = [] then record.outcome = "position_closed"
      else record.outcome ∈ entryOutcomes
  | _ => True

def contract : Contract Call Reply Journal := monitor after Promised

end Journal

/-- Calls that the journal has no room for. -/
def Call.isUnnoted : Call → Bool
  | .createStateDir => true
  | .readBuffer _ | .writeBuffer _ _ => true
  | .readCorrelation _ | .writeCorrelation _ _ => true
  | .readSpreadHistory _ | .writeSpreadHistory _ _ => true
  | .readTrueOpen _ | .writeTrueOpen _ _ => true
  | .getAccountEquity | .fetchHistoricalPrices _ _ => true
  | .clockNow | .utcNow | .newUuid | .availableDiskMb | .residentMemoryMb => true
  | .notify message => match message with
    | .reconciliationMismatch _ _ => false
    | _ => true
  | .observe observation => match observation with
    | .reconciled _ | .evaluating _ | .trueOpenBias _ _ _ _ _ | .riskDecision _ _ _ _ => false
    | _ => true
  | _ => false

theorem Journal.note_unnoted (journal : Journal) {call : Call} (unnoted : call.isUnnoted)
    (reply : Reply call) : journal.note ⟨call, reply⟩ = journal := by
  cases call with
  | notify message =>
    cases message with
    | reconciliationMismatch _ _ => cases unnoted
    | _ => rfl
  | observe observation =>
    cases observation with
    | reconciled _ | evaluating _ | trueOpenBias _ _ _ _ _ | riskDecision _ _ _ _ => cases unnoted
    | _ => rfl
  | pausedFileExists | readConfigFile | readPositions | listOpenPositions | submitOrder _ =>
    cases unnoted
  | appendDecision _ | closePosition _ | writeStatus _ => cases unnoted
  | _ => rfl

theorem Journal.promised_unnoted {journal : Journal} {call : Call} (unnoted : call.isUnnoted)
    (running : journal.failed = false) : journal.Promised call := by
  refine ⟨running, ?_⟩
  cases call with
  | notify message =>
    cases message with
    | reconciliationMismatch _ _ => cases unnoted
    | _ => trivial
  | observe observation =>
    cases observation with
    | reconciled _ => cases unnoted
    | _ => trivial
  | readPositions | listOpenPositions | getSnapshot _ => cases unnoted
  | closePosition _ | submitOrder _ | appendPosition _ | appendDecision _ => cases unnoted
  | _ => trivial

/-- Only reading the configuration file changes the configuration. -/
theorem Journal.after_config (journal : Journal) (event : CycleEvent) :
    (∃ file, event = ⟨.readConfigFile, file⟩) ∨ (journal.after event).config = journal.config := by
  obtain ⟨call, reply⟩ := event
  cases call with
  | readConfigFile => exact .inl ⟨reply, rfl⟩
  | pausedFileExists | readPositions | listOpenPositions | submitOrder _ | appendDecision _ =>
    cases reply <;> exact .inr rfl
  | notify message => cases message <;> exact .inr rfl
  | observe observation => cases observation <;> exact .inr rfl
  | _ => exact .inr rfl

/-- A call that cannot end the invocation, and for which the journal has no room. -/
theorem meets_mild {α : Type} {call : Call} {next : Reply call → Cycle α}
    {post : α → Journal → Prop} {failed : CycleError → Journal → Prop} {journal : Journal}
    (running : journal.failed = false) (unnoted : call.isUnnoted)
    (mild : ∀ reply, passesOn ⟨call, reply⟩ = false)
    (rest : ∀ reply, (next reply).Meets Journal.contract post failed journal) :
    (Cycle.perform call >>= next).Meets Journal.contract post failed journal := by
  rw [meets_bind]
  refine ⟨journal.promised_unnoted unnoted running, ?_⟩
  rintro reply _ rfl
  have same : journal.after ⟨call, reply⟩ = journal := by
    simp [Journal.after, journal.note_unnoted unnoted, mild]
  rw [same]
  exact rest reply

/-- A program of unnoted calls, which gives up exactly on a failure that is passed on. -/
def Silent {α : Type} (program : Cycle α) : Prop :=
  ∀ journal : Journal, journal.failed = false → program.Meets Journal.contract
    (fun _ after => after = journal) (fun _ after => after = { journal with failed := true }) journal

section silent

variable {α β : Type}

theorem silent_pure (value : α) : Silent (pure value : Cycle α) := fun _ _ => rfl

theorem Silent.bind {program : Cycle α} {next : α → Cycle β} (first : Silent program)
    (rest : ∀ value, Silent (next value)) : Silent (program >>= next) := by
  intro journal running
  rw [meets_bind]
  apply (first journal running).weaken
  · rintro value after rfl
    exact rest value after running
  · exact fun _ _ given => given

theorem silent_perform {call : Call} (unnoted : call.isUnnoted)
    (mild : ∀ reply, passesOn ⟨call, reply⟩ = false) : Silent (Cycle.perform call) := by
  intro journal running
  refine ⟨journal.promised_unnoted unnoted running, ?_⟩
  rintro reply _ rfl
  simp [Journal.after, journal.note_unnoted unnoted, mild]

/-- A call whose failure is passed on with `?`. -/
theorem silent_attempt {ε : Type} (call : Call) (unnoted : call.isUnnoted)
    (result : Reply call → Except ε α) (convert : ε → CycleError)
    (passed : ∀ reply, passesOn ⟨call, reply⟩ = isFailure (result reply)) :
    Silent (Cycle.perform call >>= fun reply => Program.ofExcept convert (result reply)) := by
  intro journal running
  rw [meets_bind]
  refine ⟨journal.promised_unnoted unnoted running, ?_⟩
  rintro reply _ rfl
  rw [meets_done, meets_ofExcept]
  constructor
  · intro value same
    simp [Journal.after, journal.note_unnoted unnoted, passed, same]
  · intro failure same
    simp [Journal.after, journal.note_unnoted unnoted, passed, same]

theorem silent_foldlM {Item : Type} {items : List Item} {body : α → Item → Cycle α}
    (round : ∀ state item, Silent (body state item)) (state : α) : Silent (items.foldlM body state) := by
  induction items generalizing state with
  | nil => exact silent_pure state
  | cons item rest ih =>
    rw [List.foldlM_cons]
    exact (round state item).bind ih

end silent

end Oboobot.Daemon
