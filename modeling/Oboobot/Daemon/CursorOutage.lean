import Oboobot.Persistence.TornAppend
import Oboobot.Daemon.Host
import Mathlib.Tactic.DeriveEncodable
import Mathlib.Logic.Equiv.List
import Mathlib.Data.Rat.Encodable

/-! The bytes of `positions.cursor` under invocations that may be cut short while they
append to it: when the daemon can go on reading it, and what becomes of it when not. -/

namespace Oboobot.Daemon

open Domain SessionTime Strategy Risk Broker Interaction Daemon.Cycle
open Persistence hiding written

def positionsCursor : String := "positions.cursor"

/-- The file, and every append to it so far with where it was cut short. -/
structure CursorWorld where
  file : Option Bytes
  calls : List (AppendCall Position)

def CursorWorld.fresh : CursorWorld where
  file := none
  calls := []

variable (serde : SerdeJson Position)

/-- One append, whole or cut short, and what it returns. -/
def CursorWorld.append (world : CursorWorld) (call : AppendCall Position) :
    Except PersistenceError Unit × CursorWorld :=
  let (result, file) := Persistence.append serde positionsCursor call.record call.cut world.file
  (result.map fun _ => (), { file, calls := world.calls ++ [call] })

/-- The file is read as it is, and appends may be cut short anywhere. -/
def CursorStep (world : CursorWorld) (event : CycleEvent) (after : CursorWorld) : Prop :=
  match event with
  | ⟨.readPositions, reply⟩ => reply = readAll serde positionsCursor world.file ∧ after = world
  | ⟨.appendPosition position, reply⟩ => ∃ cut, (reply, after) = world.append serde ⟨position, cut⟩
  | _ => after = world

def cursorContract (promise : CursorWorld → Call → Prop) : Contract Call Reply CursorWorld where
  step := CursorStep serde
  promise := promise

/-- The states of invocations that run one after the other, each killed anywhere, with a
file that nobody else writes to. -/
def CursorReachable (start : CursorWorld) : Option (Cycle Unit) → CursorWorld → Prop :=
  Reachable (cursorContract serde fun _ _ => True)
    (fun program => ∃ platform divergence cli, program = runRealCycle platform divergence cli)
    (fun world after => after = world) (fun world => world = start)

/-- What an invocation does before it has read its positions. -/
def Call.IsOffline : Call → Prop
  | .createStateDir | .pausedFileExists | .readConfigFile | .readPositions => True
  | .utcNow | .writeStatus _ => True
  | _ => False

variable {serde} {text : Position → String}

/-- The file holds what the appends have written, one after the other. -/
def HoldsWritten (text : Position → String) (world : CursorWorld) : Prop :=
  world.file.getD [] = world.calls.flatMap (Persistence.written text)

theorem HoldsWritten.step (laws : RoundTrips serde text) {world after : CursorWorld}
    (holds : HoldsWritten text world) {event : CycleEvent} (step : CursorStep serde world event after) :
    HoldsWritten text after := by
  obtain ⟨call, reply⟩ := event
  cases call with
  | readPositions => exact step.2 ▸ holds
  | appendPosition position =>
    obtain ⟨cut, same⟩ := step
    obtain rfl := (Prod.mk.inj same).2
    have grown : ((Persistence.append serde positionsCursor position cut world.file).2).getD [] =
        world.file.getD [] ++ Persistence.written text ⟨position, cut⟩ :=
      by rw [append_file laws ⟨position, cut⟩ world.file, Option.getD_some]
    change ((Persistence.append serde positionsCursor position cut world.file).2).getD [] =
      (world.calls ++ [(⟨position, cut⟩ : AppendCall Position)]).flatMap (Persistence.written text)
    rw [grown, holds, List.flatMap_append, List.flatMap_singleton]
  | _ => exact (step : after = world) ▸ holds

theorem holdsWritten_of_reachable (laws : RoundTrips serde text) {running : Option (Cycle Unit)}
    {world : CursorWorld} (reached : CursorReachable serde .fresh running world) :
    HoldsWritten text world := by
  have initially : ∀ world : CursorWorld, world = .fresh → HoldsWritten text world := by
    rintro world rfl
    rfl
  refine (Reachable.invariant initially ?_ ?_ ?_ reached).1
  · exact fun program world _ _ => program.meets_unpromised (fun _ _ => trivial) world
  · exact fun world event after holds _ step => holds.step laws step
  · rintro world after holds rfl
    exact holds

variable {platform : Platform} {divergence : DivergenceSource} {cli : Cli}

/-- An offline call leaves the file as it is. -/
theorem cursorStep_offline {world after : CursorWorld} {event : CycleEvent}
    (offline : event.call.IsOffline) (step : CursorStep serde world event after) : after = world := by
  obtain ⟨call, reply⟩ := event
  cases call with
  | readPositions => exact step.2
  | appendPosition position => cases offline
  | _ => exact step

/-- Calls that are offline, one after the other. -/
abbrev offlineContract (serde : SerdeJson Position) : Contract Call Reply CursorWorld :=
  cursorContract serde fun _ call => call.IsOffline

theorem meets_offline {α : Type} {post : α → CursorWorld → Prop}
    {failed : CycleError → CursorWorld → Prop} {world : CursorWorld} {call : Call}
    {next : Reply call → Cycle α} (offline : call.IsOffline)
    (rest : ∀ reply, CursorStep serde world ⟨call, reply⟩ world →
      (next reply).Meets (offlineContract serde) post failed world) :
    (perform call >>= next).Meets (offlineContract serde) post failed world := by
  rw [meets_bind, meets_perform]
  refine ⟨offline, fun reply after step => ?_⟩
  obtain rfl := cursorStep_offline offline step
  exact rest reply step

/-- While its positions cannot be read, an invocation stays offline. -/
theorem runRealCycle_offline {world : CursorWorld} {failure : PersistenceError}
    (unread : readAll serde positionsCursor world.file = .error failure) :
    (runRealCycle platform divergence cli).Meets (offlineContract serde) (fun _ _ => True)
      (fun _ _ => True) world := by
  have configured (config : Config) : (configuredCycle platform divergence cli config).Meets
      (offlineContract serde) (fun _ _ => True) (fun _ _ => True) world := by
    unfold configuredCycle
    refine meets_offline trivial fun reply step => ?_
    rw [step.1, unread]
    trivial
  refine runRealCycle_meets_of (fun current => current = world) rfl ?_ (fun _ _ _ => trivial) ?_ ?_
  · rintro _ call opens rfl
    have offline : call.IsOffline := by rcases opens with rfl | rfl | rfl <;> trivial
    exact ⟨offline, fun _ _ step => cursorStep_offline offline step⟩
  · rintro _ rfl
    unfold writeStatus
    refine meets_offline trivial fun _ _ => ?_
    exact meets_offline trivial fun _ _ => trivial
  · rintro _ _ _ config _ _ rfl
    exact configured config

/-- From this state on the daemon is out: the file never changes again, and every
invocation ends before it has asked the broker anything. -/
def OutForGood (serde : SerdeJson Position) (world : CursorWorld) : Prop :=
  ∀ running later, CursorReachable serde world running later → later = world ∧
    ∀ call next, running = some (.request call next) → call.IsOffline

theorem outForGood_of_unread {world : CursorWorld} {failure : PersistenceError}
    (unread : readAll serde positionsCursor world.file = .error failure) : OutForGood serde world := by
  intro running later reached
  have offline : Reachable (offlineContract serde)
      (fun program => ∃ platform divergence cli, program = runRealCycle platform divergence cli)
      (fun world after => after = world) (fun start => start = world) running later := by
    refine Reachable.of_step ?_ reached
    exact fun _ _ _ step => step
  have initially : ∀ start : CursorWorld, start = world → start = world := fun _ same => same
  have invariant := Reachable.invariant initially ?_ ?_ ?_ offline
  · refine ⟨invariant.1, ?_⟩
    rintro call next rfl
    exact (invariant.2 _ rfl).1
  · rintro program start ⟨platform, divergence, cli, rfl⟩ rfl
    exact runRealCycle_offline unread
  · rintro start event after rfl promised step
    exact cursorStep_offline promised step
  · rintro start after same rfl
    exact same

/-- In any run of invocations, either no append has left a torn line, and the positions
can be read with every record whose append returned; or one has, and the daemon is out
for good. -/
theorem readable_or_outForGood (laws : RoundTrips serde text)
    (unreadable : TornUnreadable text serde positionsCursor) {world : CursorWorld}
    (reached : CursorReachable serde .fresh none world) :
    (LeavesWholeLines text world.calls ∧ ∃ records,
        readAll serde positionsCursor world.file = .ok records ∧ Retained world.calls records) ∨
      (¬LeavesWholeLines text world.calls ∧ OutForGood serde world) := by
  have holds : HoldsWritten text world := holdsWritten_of_reachable laws reached
  have reads : readAll serde positionsCursor world.file =
      readLines serde positionsCursor (lines (world.calls.flatMap (Persistence.written text))) := by
    rw [readAll_getD, holds]
  by_cases whole : LeavesWholeLines text world.calls
  · exact .inl ⟨whole, reads ▸ readLines_of_leavesWholeLines laws whole⟩
  · refine .inr ⟨whole, ?_⟩
    cases read : readAll serde positionsCursor world.file with
    | error failure => exact outForGood_of_unread read
    | ok records =>
      exact absurd (leavesWholeLines_of_readLines laws unreadable (reads.symm.trans read)) whole

section tally
variable {T : Type} [Encodable T]

/-- One object, with as many ones as the record's number says. -/
def tallyText (record : T) : String :=
  .ofList ('\x7b' :: (List.replicate (Encodable.encode record) '1' ++ ['\x7d']))

def tallyJson : SerdeJson T where
  toString record := some (tallyText record)
  fromStr text := (Encodable.decode (text.toList.count '1')).filter fun record =>
    tallyText record = text

theorem utf8_ones (count : Nat) : utf8 (.ofList (List.replicate count '1')) = List.replicate count 49 := by
  induction count with
  | zero => rfl
  | succ count ih =>
    have split : String.ofList (List.replicate (count + 1) '1') =
        "1" ++ String.ofList (List.replicate count '1') := by
      rw [← String.toList_inj]
      simp [List.replicate_succ]
    rw [split, utf8_append, ih]
    rfl

theorem utf8_tallyText (record : T) : utf8 (tallyText record) =
    123 :: (List.replicate (Encodable.encode record) 49 ++ [125]) := by
  have split : tallyText record =
      "\x7b" ++ String.ofList (List.replicate (Encodable.encode record) '1') ++ "\x7d" := by
    rw [← String.toList_inj]
    simp [tallyText]
  rw [split, utf8_append, utf8_append, utf8_ones]
  rfl

theorem fromStr_tallyText (record : T) : tallyJson.fromStr (tallyText record) = some record := by
  simp [tallyJson, tallyText, List.count_append]

theorem tallyText_of_fromStr {text : String} {record : T}
    (parsed : tallyJson.fromStr text = some record) : text = tallyText record := by
  obtain ⟨_, same⟩ := Option.filter_eq_some_iff.mp parsed
  exact (of_decide_eq_true same).symm

theorem tallyJson_roundTrips : RoundTrips (tallyJson (T := T)) tallyText where
  toString_eq _ := rfl
  fromStr_eq := fromStr_tallyText
  oneLine record := by
    simp [utf8_tallyText, newline]
  nonempty record empty := by
    have := congrArg String.toList empty
    simp [tallyText] at this
  compact record := by
    simp [tallyText, trimEnd, List.rdropWhile, isWhitespace]

/-- What is read without an error is blank or a record's whole text. -/
theorem tally_of_readLine {path : String} {text : String} {ending : Bytes} {found : Option T}
    (ended : ending = [] ∨ ending = [newline])
    (read : readLine tallyJson path (utf8 text ++ ending) = .ok found) :
    trimEnd text = "" ∨ ∃ record : T, trimEnd text = tallyText record := by
  have trimmed : ∃ whole, utf8 text ++ ending = utf8 whole ∧ trimEnd whole = trimEnd text := by
    rcases ended with rfl | rfl
    · exact ⟨text, List.append_nil _, rfl⟩
    · exact ⟨text ++ "\n", (utf8_line text).symm, trimEnd_newline text⟩
  obtain ⟨whole, bytes, same⟩ := trimmed
  simp only [bytes, readLine, fromUtf8_utf8, same] at read
  split at read
  · rename_i blank
    exact .inl (by simpa using blank)
  · cases parsed : (tallyJson (T := T)).fromStr (trimEnd text) with
    | none => simp [parsed] at read
    | some record => exact .inr ⟨record, tallyText_of_fromStr parsed⟩

/-- Every piece opens one object, and only a whole text closes it. -/
theorem tally_fragment {piece : Bytes} {record : T} (start : piece <+: utf8 (tallyText record))
    (nonempty : piece ≠ []) : ∃ text, piece = utf8 text ∧ text.toList.count '\x7b' = 1 ∧
      (piece ≠ utf8 (tallyText record) → text.toList.count '\x7d' = 0) := by
  by_cases whole : piece = utf8 (tallyText record)
  · exact ⟨_, whole, by simp [tallyText, List.count_append, List.count_replicate],
      fun short => absurd whole short⟩
  · rw [utf8_tallyText] at start whole
    obtain empty | ⟨rest, rfl, more⟩ := List.prefix_cons_iff.mp start
    · exact absurd empty nonempty
    · obtain closed | ones := List.prefix_concat_iff.mp more
      · exact absurd (congrArg _ closed) whole
      · obtain ⟨_, same⟩ := List.prefix_replicate_iff.mp ones
        refine ⟨"\x7b" ++ String.ofList (List.replicate rest.length '1'), ?_, ?_, fun _ => ?_⟩
        · rw [utf8_append, utf8_ones, ← same]
          rfl
        · simp [List.count_replicate]
        · simp [List.count_replicate]

theorem tally_pieces {pieces : List Bytes}
    (fragments : ∀ piece ∈ pieces, Fragment (tallyText (T := T)) piece) :
    ∃ text, pieces.flatten = utf8 text ∧ text.toList.count '\x7b' = pieces.length := by
  induction pieces with
  | nil => exact ⟨"", rfl, rfl⟩
  | cons piece rest ih =>
    obtain ⟨nonempty, record, start⟩ := fragments piece List.mem_cons_self
    obtain ⟨first, bytes, opens, _⟩ := tally_fragment start nonempty
    obtain ⟨others, more, count⟩ := ih fun piece member =>
      fragments piece (List.mem_cons_of_mem _ member)
    refine ⟨first ++ others, ?_, ?_⟩
    · rw [List.flatten_cons, bytes, more, utf8_append]
    · rw [String.toList_append, List.count_append, opens, count, List.length_cons, Nat.add_comm]

theorem tallyJson_tornUnreadable {path : String} :
    TornUnreadable (tallyText (T := T)) tallyJson path := by
  have once : ∀ record : T, (tallyText record).toList.count '\x7b' = 1 := fun record => by
    simp [tallyText, List.count_append, List.count_replicate]
  intro pieces torn ending ended found read
  obtain ⟨fragments, several | ⟨record, piece, rfl, start, short⟩⟩ := torn
  · obtain ⟨text, bytes, opened⟩ := tally_pieces fragments
    rw [bytes] at read
    rw [← count_trimEnd (by decide)] at opened
    rcases tally_of_readLine ended read with blank | ⟨record, whole⟩
    · rw [blank] at opened
      simp at opened
      omega
    · rw [whole, once] at opened
      omega
  · obtain ⟨nonempty, _⟩ := fragments piece (List.mem_singleton_self piece)
    obtain ⟨text, bytes, opened, closed⟩ := tally_fragment start nonempty
    have unclosed := closed short
    rw [List.flatten_singleton, bytes] at read
    rw [← count_trimEnd (by decide)] at opened unclosed
    rcases tally_of_readLine ended read with blank | ⟨other, whole⟩
    · rw [blank] at opened
      cases opened
    · rw [whole] at unclosed
      simp [tallyText] at unclosed

end tally

instance uuidEncodable : Encodable Uuid :=
  .ofLeftInverse BitVec.toNat (BitVec.ofNat 128) fun id => by simp

instance charEncodable : Encodable Char := .ofLeftInverse Char.toNat Char.ofNat fun c => by simp

instance stringEncodable : Encodable String :=
  .ofLeftInverse String.toList String.ofList fun text => by simp

deriving instance Encodable for Direction, FillLeg, PositionStatus, ExitReason, Position

/-- The reply of a host whose appends are all cut short after one byte. -/
def answerTorn (world : Host × CursorWorld) : (call : Call) → Reply call × Host × CursorWorld
  | .readPositions => (readAll tallyJson positionsCursor world.2.file, world)
  | .appendPosition position =>
    let (reply, cursor) := world.2.append tallyJson ⟨position, some 1⟩
    (reply, world.1, cursor)
  | call =>
    let (reply, host) := world.1.answer call
    (reply, host, world.2)

theorem answerTorn_step (world : Host × CursorWorld) (call : Call) :
    CursorStep tallyJson world.2 ⟨call, (answerTorn world call).1⟩ (answerTorn world call).2.2 := by
  cases call with
  | readPositions => exact ⟨rfl, rfl⟩
  | appendPosition position => exact ⟨some 1, rfl⟩
  | _ => rfl

/-- A host about to open its first position. -/
def openingHost : Host × CursorWorld :=
  (Host.fresh .default (quotedAt [("EURUSD", 1.10), ("GBPUSD", 1.20)]), .fresh)

/-- One byte of the first position is enough. -/
theorem openingHost_outForGood :
    let after := ((runRealCycle .winter secondarySwept ⟨false⟩).play answerTorn openingHost).2.2.2
    ¬LeavesWholeLines tallyText after.calls ∧ OutForGood tallyJson after := by
  intro after
  have cuts : after.calls.map AppendCall.cut = [some 1] := by decide +kernel
  have torn : ¬LeavesWholeLines tallyText after.calls := by
    obtain ⟨⟨position, cut⟩, same, rfl⟩ := List.map_eq_singleton_iff.mp cuts
    rw [same]
    rintro ⟨whole, _⟩
    simp [Whole, Persistence.written, utf8_tallyText] at whole
  have launched : CursorReachable tallyJson .fresh
      (some (runRealCycle .winter secondarySwept ⟨false⟩)) openingHost.2 :=
    .launch (.start rfl) ⟨_, _, _, rfl⟩
  have faithful : ∀ (world : Host × CursorWorld) (call : Call), True →
      (cursorContract tallyJson fun _ _ => True).step world.2 ⟨call, (answerTorn world call).1⟩
        (answerTorn world call).2.2 ∧ True :=
    fun world call _ => ⟨answerTorn_step world call, trivial⟩
  have reached : CursorReachable tallyJson .fresh none after :=
    (Reachable.played faithful trivial launched).1
  rcases readable_or_outForGood tallyJson_roundTrips tallyJson_tornUnreadable reached with
    ⟨whole, _⟩ | out
  · exact absurd whole torn
  · exact out

end Oboobot.Daemon
