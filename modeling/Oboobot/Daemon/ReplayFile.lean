import Oboobot.Daemon.Replay
import Mathlib.Data.List.Induction

/-! The replay broker with its state on file, loaded anew and written back by
every call, against the broker that simply keeps it. -/

namespace Oboobot.Daemon

open Domain Broker
open Persistence (Bytes utf8 fromUtf8 fromUtf8_utf8 utf8_append utf8_of_fromUtf8)

deriving instance DecidableEq for ReplayState

/-- `ReplayState::default()`. -/
def ReplayState.default : ReplayState := { positions := [], realizedPnlTotal := 0 }

/-- What is found at the path of the state file. -/
inductive StateFile where
  | missing
  | unreadable
  | content (bytes : Bytes)
  deriving DecidableEq

/-- How `std::fs::write` ends. A write that was `stopped` had emptied the file and
put so many bytes into it. -/
inductive WriteEnd where
  | completed
  | notOpened (error : String)
  | stopped (written : Nat) (error : String)

/-- `serde_json`, for the replay state. -/
structure ReplayJson where
  toStringPretty : ReplayState → Except String String
  fromStr : String → Option ReplayState

/-- The calls that change the book. -/
inductive BookCall where
  | submitOrder (positionId : Uuid) (now : Instant) (request : OrderRequest)
  | closePosition (orderId : Uuid) (now : Instant) (positionId : Uuid)

inductive ReplayCall where
  | book (call : BookCall)
  | advance

/-- How far the calls move the bar. -/
def advances (calls : List ReplayCall) : Nat :=
  calls.countP fun call => match call with
    | .advance => true
    | .book _ => false

namespace ReplayBroker

def perform (broker : ReplayBroker) : BookCall → Except BrokerError (Order × ReplayBroker)
  | .submitOrder positionId now request => broker.submitOrder positionId now request
  | .closePosition orderId now positionId => broker.closePosition orderId now positionId

/-- The broker after a call, which is the same one if the call returned an error. -/
def after (broker : ReplayBroker) : ReplayCall → ReplayBroker
  | .book call => match broker.perform call with
    | .ok (_, after) => after
    | .error _ => broker
  | .advance => broker.advance

theorem after_ok {broker after : ReplayBroker} {call : BookCall} {order : Order}
    (performed : broker.perform call = .ok (order, after)) : broker.after (.book call) = after := by
  simp [ReplayBroker.after, performed]

theorem after_error {broker : ReplayBroker} {call : BookCall} {failure : BrokerError}
    (performed : broker.perform call = .error failure) : broker.after (.book call) = broker := by
  simp [ReplayBroker.after, performed]

def afterAll (broker : ReplayBroker) (calls : List ReplayCall) : ReplayBroker :=
  calls.foldl after broker

theorem afterAll_append_singleton (broker : ReplayBroker) (calls : List ReplayCall)
    (call : ReplayCall) :
    broker.afterAll (calls ++ [call]) = (broker.afterAll calls).after call := by
  simp [afterAll]

end ReplayBroker

/-- A replay broker as the process holds it, and its state file. -/
structure FiledBroker where
  stateFile : StateFile
  bars : List (String × List Decimal)
  currentIndex : Nat
  startingEquity : Usd

namespace FiledBroker

def new (bars : List (String × List Decimal)) (startingEquity : Usd) : FiledBroker where
  stateFile := .missing
  bars := bars
  currentIndex := 0
  startingEquity := startingEquity

variable (json : ReplayJson)

/-- The state that the file holds, if it can be read and parsed. -/
def stateOnFile : StateFile → Option ReplayState
  | .content bytes => (fromUtf8 bytes).bind json.fromStr
  | _ => none

def loadState (broker : FiledBroker) : ReplayState :=
  (stateOnFile json broker.stateFile).getD .default

def saveState (broker : FiledBroker) (state : ReplayState) (ending : WriteEnd) :
    Except BrokerError Unit × FiledBroker :=
  match json.toStringPretty state with
  | .error error =>
    (.error (.malformedResponse ("failed to serialize replay state: " ++ error)), broker)
  | .ok content => match ending with
    | .completed => (.ok (), { broker with stateFile := .content (utf8 content) })
    | .notOpened error =>
      (.error (.connectionFailed ("failed to persist replay state: " ++ error)), broker)
    | .stopped written error =>
      (.error (.connectionFailed ("failed to persist replay state: " ++ error)),
        { broker with stateFile := .content ((utf8 content).take written) })

/-- The broker with the state that a call loads. -/
def opened (broker : FiledBroker) : ReplayBroker where
  state := broker.loadState json
  bars := broker.bars
  currentIndex := broker.currentIndex
  startingEquity := broker.startingEquity

/-- `submit_order` and `close_position`: load, change, save; the order is returned once
the state is saved. -/
def perform (broker : FiledBroker) (call : BookCall) (ending : WriteEnd) :
    Except BrokerError Order × FiledBroker :=
  match (broker.opened json).perform call with
  | .error failure => (.error failure, broker)
  | .ok (order, after) =>
    let (saved, broker) := broker.saveState json after.state ending
    (saved.map fun _ => order, broker)

def getAccountEquity (broker : FiledBroker) : Except BrokerError Usd :=
  .ok (broker.opened json).getAccountEquity

def listOpenPositions (broker : FiledBroker) : Except BrokerError (List Position) :=
  .ok (broker.loadState json).positions

/-- The broker after a call whose write, if it comes to one, completes. -/
def after (broker : FiledBroker) : ReplayCall → FiledBroker
  | .book call => (broker.perform json call .completed).2
  | .advance => { broker with currentIndex := broker.currentIndex + 1 }

def afterAll (broker : FiledBroker) (calls : List ReplayCall) : FiledBroker :=
  calls.foldl (after json) broker

/-- A call has an effect on the state file only. -/
theorem perform_effect (broker : FiledBroker) (call : BookCall) (ending : WriteEnd) :
    (broker.perform json call ending).2 =
      { broker with stateFile := (broker.perform json call ending).2.stateFile } := by
  unfold perform saveState
  cases (broker.opened json).perform call with
  | error failure => rfl
  | ok result =>
    dsimp only
    cases json.toStringPretty result.2.state with
    | error error => rfl
    | ok content => cases ending <;> rfl

theorem afterAll_append_singleton (broker : FiledBroker) (calls : List ReplayCall)
    (call : ReplayCall) :
    broker.afterAll json (calls ++ [call]) = (broker.afterAll json calls).after json call := by
  simp [afterAll]

theorem afterAll_currentIndex (broker : FiledBroker) (calls : List ReplayCall) :
    (broker.afterAll json calls).currentIndex = broker.currentIndex + advances calls := by
  induction calls using List.reverseRecOn with
  | nil => rfl
  | append_singleton earlier call ih =>
    rw [afterAll_append_singleton, advances, List.countP_append, ← advances]
    cases call with
    | advance => simp [after, ih, Nat.add_assoc]
    | book call =>
      rw [after, perform_effect]
      simp [ih]

end FiledBroker

/-- What is written of this state is read back as this state. -/
def ReplayJson.RoundTrips (json : ReplayJson) (state : ReplayState) : Prop :=
  (json.toStringPretty state).toOption.bind json.fromStr = some state

instance (json : ReplayJson) (state : ReplayState) : Decidable (json.RoundTrips state) :=
  inferInstanceAs (Decidable (_ = _))

section refinement

variable {json : ReplayJson}

theorem ReplayJson.roundTrips_of_text {state : ReplayState} {text : String}
    (written : json.toStringPretty state = .ok text) (parsed : json.fromStr text = some state) :
    json.RoundTrips state := by
  rw [ReplayJson.RoundTrips, written]
  exact parsed

theorem ReplayJson.RoundTrips.text {state : ReplayState} (law : json.RoundTrips state) :
    ∃ text, json.toStringPretty state = .ok text ∧ json.fromStr text = some state := by
  unfold ReplayJson.RoundTrips at law
  cases written : json.toStringPretty state with
  | error error =>
    rw [written] at law
    cases law
  | ok text =>
    rw [written] at law
    exact ⟨text, rfl, law⟩

theorem FiledBroker.stateOnFile_text {text : String} {state : ReplayState}
    (parsed : json.fromStr text = some state) :
    FiledBroker.stateOnFile json (.content (utf8 text)) = some state := by
  simp [FiledBroker.stateOnFile, parsed]

/-- No call touches the series or the starting equity. -/
theorem ReplayBroker.perform_fields {broker after : ReplayBroker} {call : BookCall} {order : Order}
    (performed : broker.perform call = .ok (order, after)) :
    after = { broker with state := after.state } := by
  cases call with
  | submitOrder positionId now request =>
    simp only [ReplayBroker.perform, ReplayBroker.submitOrder] at performed
    cases price : broker.closeOf request.pair with
    | error failure =>
      rw [price] at performed
      cases performed
    | ok close =>
      rw [price] at performed
      cases performed
      rfl
  | closePosition orderId now positionId =>
    simp only [ReplayBroker.perform, ReplayBroker.closePosition] at performed
    split at performed
    · cases performed
    · cases performed
      rfl

/-- A call on file does what it does in memory, if its new state is saved. -/
theorem FiledBroker.opened_perform (broker : FiledBroker) (call : BookCall)
    (law : json.RoundTrips ((broker.opened json).after (.book call)).state) :
    (broker.perform json call .completed).1 =
        (((broker.opened json).perform call).map Prod.fst) ∧
      (broker.perform json call .completed).2.opened json =
        (broker.opened json).after (.book call) := by
  unfold FiledBroker.perform
  cases performed : (broker.opened json).perform call with
  | error failure =>
    rw [ReplayBroker.after_error performed]
    exact ⟨rfl, rfl⟩
  | ok result =>
    obtain ⟨order, after⟩ := result
    rw [ReplayBroker.after_ok performed] at law ⊢
    obtain ⟨text, written, parsed⟩ := law.text
    simp only [FiledBroker.saveState, written]
    refine ⟨rfl, ?_⟩
    rw [ReplayBroker.perform_fields performed]
    simp [FiledBroker.opened, FiledBroker.loadState, FiledBroker.stateOnFile_text parsed]

/-- As long as the file system and the JSON library do their work, the broker on file
behaves as the broker in memory. -/
theorem FiledBroker.opened_afterAll (broker : FiledBroker) {calls : List ReplayCall}
    (laws : ∀ before, before <+: calls →
      json.RoundTrips ((broker.opened json).afterAll before).state) :
    (broker.afterAll json calls).opened json = (broker.opened json).afterAll calls := by
  induction calls using List.reverseRecOn with
  | nil => rfl
  | append_singleton earlier call ih =>
    have before := ih fun before within =>
      laws before (within.trans (List.prefix_append earlier [call]))
    rw [FiledBroker.afterAll_append_singleton, ReplayBroker.afterAll_append_singleton, ← before]
    cases call with
    | advance => rfl
    | book call =>
      have law := laws (earlier ++ [.book call]) List.prefix_rfl
      rw [ReplayBroker.afterAll_append_singleton, ← before] at law
      exact (FiledBroker.opened_perform _ call law).2

end refinement

/-- Two closes of one pair. -/
def yenBars : List (String × List Decimal) := [("USDJPY", [100, 103])]

def yenOrder : OrderRequest where
  orderId := 4
  traceId := 2
  signalId := 3
  pair := "USDJPY"
  side := .buy
  size := 2
  orderType := .market
  price := none
  stopLoss := none
  takeProfit := none
  confirmingSnapshotId := 5

def yenPosition : Position where
  positionId := 1
  traceId := 2
  signalId := 3
  pair := "USDJPY"
  direction := .buy
  legs := [{ price := 100, size := 2, filledAt := 0 }]
  entryPrice := 100
  currentPrice := 100
  unrealizedPnl := 0
  realizedPnl := 0
  entryTime := 0
  lastUpdate := 0
  status := .filled
  exitReason := none
  stopLoss := none
  takeProfit := none

def yenPositionFields : String := "    \x7b
      \"position_id\": \"00000000-0000-0000-0000-000000000001\",
      \"trace_id\": \"00000000-0000-0000-0000-000000000002\",
      \"signal_id\": \"00000000-0000-0000-0000-000000000003\",
      \"pair\": \"USDJPY\",
      \"direction\": \"Buy\",
      \"legs\": [
        \x7b
          \"price\": \"100\",
          \"size\": \"2\",
          \"filled_at\": \"1970-01-01T00:00:00Z\"
        \x7d
      ],
      \"entry_price\": \"100\",
      \"current_price\": \"100\",
      \"unrealized_pnl\": \"0\",
      \"realized_pnl\": \"0\",
      \"entry_time\": \"1970-01-01T00:00:00Z\",
      \"last_update\": \"1970-01-01T00:00:00Z\",
      \"status\": \"Filled\",
      \"exit_reason\": null,
      \"stop_loss\": null,
      \"take_profit\": null
    \x7d
  "

def yenPositionText : String := "\n" ++ yenPositionFields

def realizedText (realized : String) : String :=
  ",\n  \"realized_pnl_total\": \"" ++ (realized ++ "\"\n\x7d")

/-- The text of a state: its positions, then what they have realized. -/
def stateText (positions realized : String) : String :=
  "\x7b\n  \"positions\": [" ++ (positions ++ ("]" ++ realizedText realized))

def yenOpened : ReplayState := { positions := [yenPosition], realizedPnlTotal := 0 }

def yenClosed : ReplayState := { positions := [], realizedPnlTotal := 6 }

/-- `serde_json` on the states of one trade in yen. -/
def yenJson : ReplayJson where
  toStringPretty state :=
    if state = .default then .ok (stateText "" "0")
    else if state = yenClosed then .ok (stateText "" "6")
    else if state = yenOpened then .ok (stateText yenPositionText "0")
    else .error "not a state of this trade"
  fromStr text :=
    if text = stateText "" "0" then some .default
    else if text = stateText "" "6" then some yenClosed
    else if text = stateText yenPositionText "0" then some yenOpened
    else none

theorem stateText_flat_ne (realized : String) :
    stateText "" realized ≠ stateText yenPositionText "0" := by
  intro same
  have rest := (String.append_right_inj _).mp same
  have bracket : ("]" : String) = String.singleton ']' := rfl
  have newline : ("\n" : String) = String.singleton '\n' := rfl
  rw [String.empty_append, yenPositionText, String.append_assoc, bracket, newline] at rest
  exact absurd (String.singleton_append_inj.mp rest).1 (by decide)

theorem stateText_realized_inj {positions first second : String}
    (same : stateText positions first = stateText positions second) : first = second := by
  have rest := (String.append_right_inj _).mp same
  have rest := (String.append_right_inj _).mp ((String.append_right_inj _).mp rest)
  exact (String.append_left_inj _).mp ((String.append_right_inj _).mp rest)

theorem yenJson_parsed :
    yenJson.fromStr (stateText "" "0") = some .default ∧
      yenJson.fromStr (stateText "" "6") = some yenClosed ∧
      yenJson.fromStr (stateText yenPositionText "0") = some yenOpened := by
  have other : stateText "" "6" ≠ stateText "" "0" := by
    intro same
    exact absurd (stateText_realized_inj same) (by decide)
  have first := (stateText_flat_ne "0").symm
  have second := (stateText_flat_ne "6").symm
  unfold yenJson
  dsimp only
  rw [if_pos rfl, if_neg other, if_pos rfl, if_neg first, if_neg second, if_pos rfl]
  exact ⟨rfl, rfl, rfl⟩

theorem yenJson_written :
    yenJson.toStringPretty .default = .ok (stateText "" "0") ∧
      yenJson.toStringPretty yenClosed = .ok (stateText "" "6") ∧
      yenJson.toStringPretty yenOpened = .ok (stateText yenPositionText "0") := by
  have closed : yenClosed ≠ .default := by decide
  have opened : yenOpened ≠ .default := by decide
  have apart : yenOpened ≠ yenClosed := by decide
  unfold yenJson
  dsimp only
  rw [if_pos rfl, if_neg closed, if_pos rfl, if_neg opened, if_neg apart, if_pos rfl]
  exact ⟨rfl, rfl, rfl⟩

theorem exists_of_yenJson {text : String} {state : ReplayState}
    (parsed : yenJson.fromStr text = some state) :
    ∃ positions realized, text = stateText positions realized := by
  unfold yenJson at parsed
  dsimp only at parsed
  split at parsed
  · rename_i same
    exact ⟨_, _, same⟩
  · split at parsed
    · rename_i same
      exact ⟨_, _, same⟩
    · split at parsed
      · rename_i same
        exact ⟨_, _, same⟩
      · cases parsed

/-- `}`. -/
def closingBrace : UInt8 := 125

theorem regroup (first second third fourth fifth last : String) :
    first ++ (second ++ (third ++ (fourth ++ (fifth ++ last)))) =
      first ++ (second ++ (third ++ (fourth ++ fifth))) ++ last := by
  simp only [String.append_assoc]

theorem utf8_closed (front : String) :
    utf8 (front ++ "\"\n\x7d") = utf8 front ++ [34, 10] ++ [closingBrace] := by
  have ending : utf8 "\"\n\x7d" = [34, 10] ++ [closingBrace] := by decide
  rw [utf8_append, ending, List.append_assoc]

/-- The text of a state up to its last line. -/
def stateFront (positions realized : String) : String :=
  "\x7b\n  \"positions\": [" ++ (positions ++ ("]" ++ (",\n  \"realized_pnl_total\": \"" ++ realized)))

theorem stateText_closed (positions realized : String) : utf8 (stateText positions realized) =
    utf8 (stateFront positions realized) ++ [34, 10] ++ [closingBrace] := by
  have regrouped : stateText positions realized = stateFront positions realized ++ "\"\n\x7d" :=
    regroup _ _ _ _ _ _
  rw [regrouped, utf8_closed]

/-- No proper beginning of the text of a closed book parses. -/
theorem yenJson_torn {count : Nat} (short : count < (utf8 (stateText "" "6")).length) :
    FiledBroker.stateOnFile yenJson (.content ((utf8 (stateText "" "6")).take count)) = none := by
  have unclosed : closingBrace ∉ (utf8 (stateText "" "6")).take count := by
    rw [stateText_closed] at short ⊢
    rw [List.length_append, List.length_singleton] at short
    rw [List.take_append_of_le_length (Nat.le_of_lt_succ short)]
    intro member
    have inside := List.mem_of_mem_take member
    revert inside
    decide +kernel
  cases state : FiledBroker.stateOnFile yenJson
    (.content ((utf8 (stateText "" "6")).take count)) with
  | none => rfl
  | some found =>
    obtain ⟨text, decoded, parsed⟩ := Option.bind_eq_some_iff.mp state
    obtain ⟨positions, realized, rfl⟩ := exists_of_yenJson parsed
    rw [← utf8_of_fromUtf8 decoded, stateText_closed] at unclosed
    simp at unclosed

theorem yenJson_roundTrips {state : ReplayState}
    (known : state = .default ∨ state = yenClosed ∨ state = yenOpened) :
    yenJson.RoundTrips state := by
  obtain ⟨fresh, closed, opened⟩ := yenJson_written
  obtain ⟨readFresh, readClosed, readOpened⟩ := yenJson_parsed
  rcases known with rfl | rfl | rfl
  · exact ReplayJson.roundTrips_of_text fresh readFresh
  · exact ReplayJson.roundTrips_of_text closed readClosed
  · exact ReplayJson.roundTrips_of_text opened readOpened

end Oboobot.Daemon
