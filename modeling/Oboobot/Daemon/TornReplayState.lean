import Oboobot.Daemon.ReplayBook

/-! A replay state whose write fails, and one that cannot be read back. -/

namespace Oboobot.Daemon

open Domain Broker
open Persistence (Bytes utf8 fromUtf8 fromUtf8_utf8)

variable (json : ReplayJson) (broker : FiledBroker)

/-- What is open and what the account is worth are reported as before. -/
def SameReports (after : FiledBroker) : Prop :=
  after.listOpenPositions json = broker.listOpenPositions json ∧
    after.getAccountEquity json = broker.getAccountEquity json

/-- The call returns an error, and the broker reports what it did before. -/
def FailsCleanly (call : BookCall) (ending : WriteEnd) : Prop :=
  (broker.perform json call ending).1.isOk = false ∧
    SameReports json broker (broker.perform json call ending).2

/-- There is a state file, but no state in it. -/
def Damaged (file : StateFile) : Prop :=
  file ≠ .missing ∧ FiledBroker.stateOnFile json file = none

/-- A damaged state file is an error to every operation, and stays as it is. -/
def ReportsDamage : Prop :=
  Damaged json broker.stateFile →
    (broker.listOpenPositions json).isOk = false ∧ (broker.getAccountEquity json).isOk = false ∧
    ∀ call ending, (broker.perform json call ending).1.isOk = false ∧
      (broker.perform json call ending).2 = broker

/-- What `serde_json` is relied on for: the text of a state parses to it, and no
proper beginning of the text parses. -/
structure TextOf (state : ReplayState) (text : String) : Prop where
  written : json.toStringPretty state = .ok text
  parsed : json.fromStr text = some state
  torn : ∀ count < (utf8 text).length,
    FiledBroker.stateOnFile json (.content ((utf8 text).take count)) = none

variable {json broker}

theorem sameReports_iff (after : FiledBroker) (equity : after.startingEquity = broker.startingEquity) :
    SameReports json broker after ↔ after.loadState json = broker.loadState json := by
  constructor
  · intro same
    obtain ⟨listed, valued⟩ := same
    have positions : (after.loadState json).positions = (broker.loadState json).positions :=
      Except.ok.inj listed
    have total := congrArg Usd.asDecimal (Except.ok.inj valued)
    have realized : (after.loadState json).realizedPnlTotal =
        (broker.loadState json).realizedPnlTotal := by
      simpa [ReplayBroker.getAccountEquity, FiledBroker.opened, equity, Usd.fromDecimal,
        Usd.asDecimal] using total
    cases later : after.loadState json
    cases earlier : broker.loadState json
    simp_all
  · intro same
    simp [SameReports, FiledBroker.listOpenPositions, FiledBroker.getAccountEquity,
      FiledBroker.opened, ReplayBroker.getAccountEquity, same, equity]

/-- A call that is carried out opens a position or takes one away. -/
theorem state_ne_of_perform {memory after : ReplayBroker} {call : BookCall} {order : Order}
    (carriedOut : memory.perform call = .ok (order, after)) : after.state ≠ memory.state := by
  intro same
  have length := congrArg (fun state => state.positions.length) same
  cases call with
  | submitOrder positionId now request =>
    obtain ⟨_, rfl⟩ := ReplayBroker.submitOrder_ok carriedOut
    simp at length
  | closePosition orderId now positionId =>
    obtain ⟨position, found, rfl⟩ := ReplayBroker.closePosition_ok carriedOut
    have member := List.mem_of_find?_eq_some found
    have named := List.find?_some found
    have shorter : (memory.state.positions.eraseP fun position =>
        position.positionId = positionId).length = memory.state.positions.length - 1 :=
      List.length_eraseP_of_mem member named
    have nonempty := List.length_pos_of_mem member
    dsimp only at length
    omega

/-- A write that is stopped leaves a beginning of the new text. -/
theorem perform_stopped {call : BookCall} {order : Order} {after : ReplayBroker} {text : String}
    (carriedOut : (broker.opened json).perform call = .ok (order, after))
    (content : TextOf json after.state text) (written : Nat) (error : String) :
    broker.perform json call (.stopped written error) =
      (.error (.connectionFailed ("failed to persist replay state: " ++ error)),
        { broker with stateFile := .content ((utf8 text).take written) }) := by
  simp [FiledBroker.perform, carriedOut, FiledBroker.saveState, content.written, Except.map]

/-- The reports after a failed write are those before it exactly if nothing was
written, or if there was nothing to lose and the new state was not all written. -/
theorem failsCleanly_iff {call : BookCall} {ending : WriteEnd} {order : Order}
    {after : ReplayBroker} {text : String}
    (carriedOut : (broker.opened json).perform call = .ok (order, after))
    (content : TextOf json after.state text) (fails : ending ≠ .completed) :
    FailsCleanly json broker call ending ↔
      (∃ error, ending = .notOpened error) ∨
        (broker.loadState json = .default ∧ ∃ written error, ending = .stopped written error ∧
          written < (utf8 text).length) := by
  cases ending with
  | completed => exact absurd rfl fails
  | notOpened error =>
    have result : broker.perform json call (.notOpened error) =
        (.error (.connectionFailed ("failed to persist replay state: " ++ error)), broker) := by
      simp [FiledBroker.perform, carriedOut, FiledBroker.saveState, content.written, Except.map]
    refine iff_of_true ?_ (.inl ⟨error, rfl⟩)
    rw [FailsCleanly, result]
    exact ⟨rfl, rfl, rfl⟩
  | stopped written error =>
    have clean : FailsCleanly json broker call (.stopped written error) ↔
        (FiledBroker.stateOnFile json (.content ((utf8 text).take written))).getD .default =
          broker.loadState json := by
      rw [FailsCleanly, perform_stopped carriedOut content]
      exact (and_iff_right rfl).trans (sameReports_iff _ rfl)
    rw [clean]
    by_cases short : written < (utf8 text).length
    · rw [content.torn written short]
      constructor
      · intro same
        exact .inr ⟨same.symm, written, error, rfl, short⟩
      · rintro (⟨_, other⟩ | ⟨nothing, _⟩)
        · cases other
        · exact nothing.symm
    · have whole : FiledBroker.stateOnFile json (.content ((utf8 text).take written)) =
          some after.state := by
        rw [List.take_of_length_le (not_lt.mp short)]
        simp [FiledBroker.stateOnFile, content.parsed]
      rw [whole]
      constructor
      · intro same
        exact absurd same (state_ne_of_perform carriedOut)
      · rintro (⟨_, other⟩ | ⟨_, _, _, same, shorter⟩)
        · cases other
        · cases same
          exact absurd shorter short

/-- Both listing and valuing always succeed, so only a file that is not damaged is
handled as one. -/
theorem reportsDamage_iff : ReportsDamage json broker ↔ ¬Damaged json broker.stateFile := by
  constructor
  · intro reports damaged
    simpa [FiledBroker.listOpenPositions, Except.isOk, Except.toBool] using (reports damaged).1
  · intro sound damaged
    exact absurd damaged sound

/-- A failed write is harmless, and damage noticed, exactly if the state file holds a
state or is missing, and either could not be opened for writing, or there was nothing
to lose and the new state was not all written. -/
theorem failed_save_harmless_iff (json : ReplayJson) (broker : FiledBroker) (call : BookCall)
    (ending : WriteEnd) (order : Order) (after : ReplayBroker) (text : String)
    (carriedOut : (broker.opened json).perform call = .ok (order, after))
    (content : TextOf json after.state text) (fails : ending ≠ .completed) :
    FailsCleanly json broker call ending ∧ ReportsDamage json broker ↔
      ((∃ error, ending = .notOpened error) ∨
        (broker.loadState json = .default ∧ ∃ written error, ending = .stopped written error ∧
          written < (utf8 text).length)) ∧
      ¬Damaged json broker.stateFile :=
  and_congr (failsCleanly_iff carriedOut content fails) reportsDamage_iff

section yen

/-- The yen position is open, at the second bar. -/
def yenBroker : FiledBroker where
  stateFile := .content (utf8 (stateText yenPositionText "0"))
  bars := yenBars
  currentIndex := 1
  startingEquity := .fromDecimal 10000

def yenSale : BookCall := .closePosition 7 0 1

theorem yenBroker_stateOnFile :
    FiledBroker.stateOnFile yenJson yenBroker.stateFile = some yenOpened :=
  FiledBroker.stateOnFile_text yenJson_parsed.2.2

theorem yenBroker_loadState : yenBroker.loadState yenJson = yenOpened := by
  rw [FiledBroker.loadState, yenBroker_stateOnFile]
  rfl

theorem yenBroker_opened :
    yenBroker.opened yenJson = ⟨yenOpened, yenBars, 1, .fromDecimal 10000⟩ := by
  rw [FiledBroker.opened, yenBroker_loadState]
  rfl

theorem yenSale_carriedOut : ∃ order, (yenBroker.opened yenJson).perform yenSale =
    .ok (order, { yenBroker.opened yenJson with state := yenClosed }) := by
  rw [yenBroker_opened]
  have state : ((⟨yenOpened, yenBars, 1, .fromDecimal 10000⟩ : ReplayBroker).perform
      yenSale).toOption.map (fun result => result.2.state) = some yenClosed := by decide +kernel
  cases carriedOut : (⟨yenOpened, yenBars, 1, .fromDecimal 10000⟩ : ReplayBroker).perform
    yenSale with
  | error failure => simp [carriedOut, Except.toOption] at state
  | ok result =>
    have closed : result.2.state = yenClosed := by simpa [carriedOut, Except.toOption] using state
    refine ⟨result.1, ?_⟩
    rw [← closed, ← ReplayBroker.perform_fields carriedOut]

theorem yenClosed_text : TextOf yenJson yenClosed (stateText "" "6") where
  written := yenJson_written.2.1
  parsed := yenJson_parsed.2.1
  torn _ := yenJson_torn

/-- The disk is full as the position is sold: the sale fails, and the position is gone. -/
theorem yenSale_loses_position :
    let after := (yenBroker.perform yenJson yenSale (.stopped 0 "No space left on device")).2
    yenBroker.listOpenPositions yenJson = .ok [yenPosition] ∧
      after.listOpenPositions yenJson = .ok [] ∧
      ¬(FailsCleanly yenJson yenBroker yenSale (.stopped 0 "No space left on device") ∧
        ReportsDamage yenJson yenBroker) := by
  have before : yenBroker.listOpenPositions yenJson = .ok [yenPosition] := by
    rw [FiledBroker.listOpenPositions, yenBroker_loadState]
    rfl
  obtain ⟨order, carriedOut⟩ := yenSale_carriedOut
  have lost : ((yenBroker.perform yenJson yenSale
      (.stopped 0 "No space left on device")).2.listOpenPositions yenJson) = .ok [] := by
    have nonempty : 0 < (utf8 (stateText "" "6")).length := by
      rw [stateText_closed]
      exact List.length_pos_of_mem (List.mem_append_right _ List.mem_cons_self)
    rw [perform_stopped carriedOut yenClosed_text, FiledBroker.listOpenPositions,
      FiledBroker.loadState, yenClosed_text.torn 0 nonempty]
    rfl
  refine ⟨before, lost, ?_⟩
  intro harmless
  obtain ⟨⟨_, same, _⟩, _⟩ := harmless
  rw [before, lost] at same
  cases same

/-- The sale would be harmless if the file could not even be opened. -/
theorem yenSale_harmless : FailsCleanly yenJson yenBroker yenSale (.notOpened "Permission denied") ∧
    ReportsDamage yenJson yenBroker := by
  obtain ⟨order, carriedOut⟩ := yenSale_carriedOut
  apply (failed_save_harmless_iff yenJson yenBroker yenSale (.notOpened "Permission denied") order _
    _ carriedOut yenClosed_text (by simp)).mpr
  refine ⟨.inl ⟨_, rfl⟩, ?_⟩
  intro reported
  obtain ⟨_, unread⟩ := reported
  rw [yenBroker_stateOnFile] at unread
  cases unread

end yen

end Oboobot.Daemon
