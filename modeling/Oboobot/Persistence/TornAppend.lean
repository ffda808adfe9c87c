import Oboobot.Persistence.Cursor
import Mathlib.Data.List.Infix

/-! Which appends may be cut short without harm to what is read back. -/

namespace Oboobot.Persistence

variable {T : Type}

/-- Every record whose append returned `Ok`, in order, and any of the others in
their places. -/
inductive Retained : List (AppendCall T) → List T → Prop where
  | nil : Retained [] []
  | returned {calls : List (AppendCall T)} {records : List T} (record : T)
      (rest : Retained calls records) : Retained (⟨record, none⟩ :: calls) (record :: records)
  | present {calls : List (AppendCall T)} {records : List T} (record : T) (written : Nat)
      (rest : Retained calls records) :
      Retained (⟨record, some written⟩ :: calls) (record :: records)
  | absent {calls : List (AppendCall T)} {records : List T} (record : T) (written : Nat)
      (rest : Retained calls records) : Retained (⟨record, some written⟩ :: calls) records

/-- Reading succeeds and returns what was retained. -/
def Recovers (serde : SerdeJson T) (path : String) (calls : List (AppendCall T)) : Prop :=
  ∃ records, readAll serde path (fileAfter serde path none calls) = .ok records ∧
    Retained calls records

section torn
variable (text : T → String)

/-- The bytes that an append adds to the file. -/
def written (call : AppendCall T) : Bytes :=
  match call.cut with
  | none => utf8 (text call.record) ++ [newline]
  | some count => (utf8 (text call.record) ++ [newline]).take count

/-- Nothing or a whole line, or the whole text with no byte after it. -/
def Whole (call : AppendCall T) (later : List (AppendCall T)) : Prop :=
  written text call = [] ∨ written text call = utf8 (text call.record) ++ [newline] ∨
    written text call = utf8 (text call.record) ∧ later.flatMap (written text) = []

/-- No append leaves a torn line behind. -/
def LeavesWholeLines : List (AppendCall T) → Prop
  | [] => True
  | call :: later => Whole text call later ∧ LeavesWholeLines later

instance (call : AppendCall T) (later : List (AppendCall T)) :
    Decidable (Whole text call later) :=
  inferInstanceAs (Decidable (_ ∨ _ ∨ _))

instance decidableLeavesWholeLines :
    (calls : List (AppendCall T)) → Decidable (LeavesWholeLines text calls)
  | [] => isTrue trivial
  | call :: later =>
    have := decidableLeavesWholeLines later
    inferInstanceAs (Decidable (Whole text call later ∧ LeavesWholeLines text later))

/-- The beginning of a record's text, up to all of it. -/
def Fragment (piece : Bytes) : Prop := piece ≠ [] ∧ ∃ record, piece <+: utf8 (text record)

/-- Pieces of record texts that no line should be made of: two or more, or one
that is cut short. -/
def TornPieces (pieces : List Bytes) : Prop :=
  (∀ piece ∈ pieces, Fragment text piece) ∧
    (2 ≤ pieces.length ∨ ∃ record piece, pieces = [piece] ∧ piece <+: utf8 (text record) ∧
      piece ≠ utf8 (text record))

/-- No line made of such pieces can be read, as with JSON objects of one type. -/
def TornUnreadable (serde : SerdeJson T) (path : String) : Prop :=
  ∀ pieces, TornPieces text pieces → ∀ ending, ending = [] ∨ ending = [newline] →
    ∀ found, readLine serde path (pieces.flatten ++ ending) ≠ .ok found

theorem written_cases (call : AppendCall T) :
    written text call = [] ∨ written text call = utf8 (text call.record) ++ [newline] ∨
      written text call ≠ [] ∧ written text call <+: utf8 (text call.record) := by
  obtain ⟨record, cut⟩ := call
  cases cut with
  | none => exact .inr (.inl rfl)
  | some count =>
    by_cases within : count ≤ (utf8 (text record)).length
    · have same : written text ⟨record, some count⟩ = (utf8 (text record)).take count :=
        List.take_append_of_le_length within
      by_cases empty : written text ⟨record, some count⟩ = []
      · exact .inl empty
      · exact .inr (.inr ⟨empty, same ▸ List.take_prefix _ _⟩)
    · refine .inr (.inl (List.take_of_length_le ?_))
      simpa using Nat.succ_le_of_lt (Nat.lt_of_not_le within)

variable {text}

variable {serde : SerdeJson T} {path : String}

theorem append_file (laws : RoundTrips serde text) (call : AppendCall T) (file : Option Bytes) :
    (append serde path call.record call.cut file).2 = some (file.getD [] ++ written text call) := by
  obtain ⟨record, cut⟩ := call
  cases cut <;> simp [append, laws.toString_eq, written, utf8_line]

/-- The file holds what the appends have written, one after the other. -/
theorem fileAfter_getD (laws : RoundTrips serde text) (calls : List (AppendCall T))
    (file : Option Bytes) :
    (fileAfter serde path file calls).getD [] = file.getD [] ++ calls.flatMap (written text) := by
  induction calls generalizing file with
  | nil => simp [fileAfter]
  | cons call later ih =>
    have rest := ih (append serde path call.record call.cut file).2
    rw [append_file laws] at rest
    rw [fileAfter, List.foldl_cons, append_file laws]
    simpa [fileAfter, List.append_assoc] using rest

theorem readAll_getD (file : Option Bytes) :
    readAll serde path file = readLines serde path (lines (file.getD [])) := by
  cases file with
  | none => rfl
  | some bytes => simp [readAll, readFrom]

theorem readAll_fileAfter (laws : RoundTrips serde text) (calls : List (AppendCall T)) :
    readAll serde path (fileAfter serde path none calls) =
      readLines serde path (lines (calls.flatMap (written text))) := by
  rw [readAll_getD, fileAfter_getD laws]
  rfl

theorem readLine_text (laws : RoundTrips serde text) (record : T) :
    readLine serde path (utf8 (text record)) = .ok (some record) := by
  have nonempty : (text record).isEmpty = false := by
    simpa using laws.nonempty record
  simp [readLine, laws.compact, laws.fromStr_eq, nonempty]

theorem readLine_line (laws : RoundTrips serde text) (record : T) :
    readLine serde path (utf8 (text record) ++ [newline]) = .ok (some record) := by
  have nonempty : (text record).isEmpty = false := by
    simpa using laws.nonempty record
  rw [← utf8_line]
  simp [readLine, trimEnd_newline, laws.compact, laws.fromStr_eq, nonempty]

theorem utf8_ne_nil (laws : RoundTrips serde text) (record : T) : utf8 (text record) ≠ [] := by
  intro empty
  apply laws.nonempty record
  have decoded := fromUtf8_utf8 (text record)
  have blank : fromUtf8 [] = some "" := fromUtf8_utf8 ""
  rw [empty, blank] at decoded
  exact (Option.some.inj decoded).symm

/-- Where every append leaves whole lines, what it wrote is read back. -/
theorem readLines_of_leavesWholeLines (laws : RoundTrips serde text) {calls : List (AppendCall T)}
    (whole : LeavesWholeLines text calls) :
    ∃ records, readLines serde path (lines (calls.flatMap (written text))) = .ok records ∧
      Retained calls records := by
  induction calls with
  | nil => exact ⟨[], rfl, .nil⟩
  | cons call later ih =>
    obtain ⟨here, after⟩ := whole
    obtain ⟨records, read, retained⟩ := ih after
    obtain ⟨record, cut⟩ := call
    rw [List.flatMap_cons]
    have kept : Retained (⟨record, cut⟩ :: later) (record :: records) := by
      cases cut with
      | none => exact .returned record retained
      | some count => exact .present record count retained
    rcases here with nothing | line | ⟨all, last⟩
    · rw [nothing, List.nil_append]
      refine ⟨records, read, ?_⟩
      cases cut with
      | none => simp [written] at nothing
      | some count => exact .absent record count retained
    · refine ⟨record :: records, ?_, kept⟩
      rw [line, List.append_assoc, List.singleton_append, lines_terminated (laws.oneLine record),
        readLines, readLine_line laws, read]
      rfl
    · refine ⟨record :: records, ?_, kept⟩
      have none : records = [] := by
        rw [last] at read
        exact (Except.ok.inj read).symm
      rw [all, last, List.append_nil, none,
        lines_unterminated (laws.oneLine record) (utf8_ne_nil laws record), readLines,
        readLine_text laws]
      rfl

theorem leavesWholeLines_of_nothing {calls : List (AppendCall T)}
    (nothing : calls.flatMap (written text) = []) : LeavesWholeLines text calls := by
  induction calls with
  | nil => trivial
  | cons call later ih =>
    rw [List.flatMap_cons, List.append_eq_nil_iff] at nothing
    exact ⟨.inl nothing.1, ih nothing.2⟩

/-- A line that does not end with its first piece goes on with pieces of later records. -/
theorem torn_line (laws : RoundTrips serde text) {front : Bytes} (unbroken : newline ∉ front)
    (nonempty : front ≠ []) (later : List (AppendCall T)) : ∃ more ending rest,
      (∀ piece ∈ more, Fragment text piece) ∧ (ending = [] ∨ ending = [newline]) ∧
      (more = [] → later.flatMap (written text) = []) ∧
      lines (front ++ later.flatMap (written text)) = (front ++ more.flatten ++ ending) :: rest := by
  induction later generalizing front with
  | nil =>
    refine ⟨[], [], [], by simp, .inl rfl, fun _ => rfl, ?_⟩
    simpa using lines_unterminated unbroken nonempty
  | cons call later ih =>
    rw [List.flatMap_cons]
    rcases written_cases text call with nothing | line | ⟨some', start⟩
    · rw [nothing, List.nil_append]
      exact ih unbroken nonempty
    · have whole : newline ∉ front ++ utf8 (text call.record) := by
        simpa [unbroken] using laws.oneLine call.record
      refine ⟨[utf8 (text call.record)], [newline], lines (later.flatMap (written text)), ?_,
        .inr rfl, by simp, ?_⟩
      · intro piece member
        rw [List.mem_singleton.mp member]
        exact ⟨utf8_ne_nil laws call.record, call.record, List.prefix_rfl⟩
      · have split := lines_terminated whole (later.flatMap (written text))
        simpa [line, List.append_assoc] using split
    · have whole : newline ∉ front ++ written text call := by
        have clean : newline ∉ written text call :=
          fun member => laws.oneLine call.record (start.subset member)
        simpa [unbroken] using clean
      obtain ⟨more, ending, rest, fragments, ended, _, split⟩ :=
        ih whole (List.append_ne_nil_of_left_ne_nil nonempty _)
      refine ⟨written text call :: more, ending, rest, ?_, ended, by simp, ?_⟩
      · intro piece member
        rcases List.mem_cons.mp member with here | there
        · exact here ▸ ⟨some', call.record, start⟩
        · exact fragments piece there
      · simpa [List.append_assoc] using split

/-- Where torn lines cannot be read, only whole lines can have been left. -/
theorem leavesWholeLines_of_readLines (laws : RoundTrips serde text)
    (unreadable : TornUnreadable text serde path) {calls : List (AppendCall T)} {records : List T}
    (read : readLines serde path (lines (calls.flatMap (written text))) = .ok records) :
    LeavesWholeLines text calls := by
  induction calls generalizing records with
  | nil => trivial
  | cons call later ih =>
    rw [List.flatMap_cons] at read
    rcases written_cases text call with nothing | line | ⟨some', start⟩
    · rw [nothing, List.nil_append] at read
      exact ⟨.inl nothing, ih read⟩
    · rw [line, List.append_assoc, List.singleton_append,
        lines_terminated (laws.oneLine call.record), readLines, readLine_line laws] at read
      cases others : readLines serde path (lines (later.flatMap (written text))) with
      | error failure =>
        rw [others] at read
        cases read
      | ok found => exact ⟨.inr (.inl line), ih others⟩
    · by_cases last : written text call = utf8 (text call.record) ∧
        later.flatMap (written text) = []
      · exact ⟨.inr (.inr last), leavesWholeLines_of_nothing last.2⟩
      · have clean : newline ∉ written text call :=
          fun member => laws.oneLine call.record (start.subset member)
        obtain ⟨more, ending, rest, fragments, ended, goesOn, split⟩ :=
          torn_line laws clean some' later
        have torn : TornPieces text (written text call :: more) := by
          refine ⟨?_, ?_⟩
          · intro piece member
            rcases List.mem_cons.mp member with here | there
            · exact here ▸ ⟨some', call.record, start⟩
            · exact fragments piece there
          · cases more with
            | nil => exact .inr ⟨call.record, _, rfl, start, fun all => last ⟨all, goesOn rfl⟩⟩
            | cons next others => exact .inl (by simp)
        have fails := unreadable _ torn ending ended
        rw [List.flatten_cons] at fails
        rw [split, readLines] at read
        cases first : readLine serde path (written text call ++ more.flatten ++ ending) with
        | error failure =>
          rw [first] at read
          cases read
        | ok found => exact absurd first (fails found)

end torn

/-- Reading recovers every append that returned if all of them leave whole lines
behind, and only if torn lines cannot be read. -/
theorem recovers_iff_leavesWholeLines {serde : SerdeJson T} {text : T → String} {path : String}
    (laws : RoundTrips serde text) (calls : List (AppendCall T)) :
    (LeavesWholeLines text calls → Recovers serde path calls) ∧
      (TornUnreadable text serde path → Recovers serde path calls →
        LeavesWholeLines text calls) := by
  rw [Recovers, readAll_fileAfter laws]
  constructor
  · exact readLines_of_leavesWholeLines laws
  · intro unreadable ⟨records, read, _⟩
    exact leavesWholeLines_of_readLines laws unreadable read

/-- A record with one flag, as compact JSON. -/
def flagText (flag : Bool) : String :=
  if flag then "\x7b\"open\":true\x7d" else "\x7b\"open\":false\x7d"

def flagJson : SerdeJson Bool where
  toString flag := some (flagText flag)
  fromStr text := if text = flagText true then some true
    else if text = flagText false then some false else none

theorem flagJson_roundTrips : RoundTrips flagJson flagText where
  toString_eq _ := rfl
  fromStr_eq := by decide +kernel
  oneLine := by decide +kernel
  nonempty := by decide +kernel
  compact := by decide +kernel

section flag
variable {path : String}

theorem flag_of_fromStr {text : String} {flag : Bool} (parsed : flagJson.fromStr text = some flag) :
    text = flagText flag := by
  simp only [flagJson] at parsed
  split at parsed
  · rename_i same
    cases parsed
    exact same
  · split at parsed
    · rename_i same
      cases parsed
      exact same
    · cases parsed

/-- What is read without an error is blank or a flag's whole text. -/
theorem flag_of_readLine {text : String} {ending : Bytes} {found : Option Bool}
    (ended : ending = [] ∨ ending = [newline])
    (read : readLine flagJson path (utf8 text ++ ending) = .ok found) :
    trimEnd text = "" ∨ ∃ flag, trimEnd text = flagText flag := by
  have trimmed : ∃ whole, utf8 text ++ ending = utf8 whole ∧ trimEnd whole = trimEnd text := by
    rcases ended with rfl | rfl
    · exact ⟨text, List.append_nil _, rfl⟩
    · exact ⟨text ++ "\n", (utf8_line text).symm, trimEnd_newline text⟩
  obtain ⟨whole, bytes, same⟩ := trimmed
  simp only [bytes, readLine, fromUtf8_utf8, same] at read
  split at read
  · rename_i blank
    exact .inl (by simpa using blank)
  · cases parsed : flagJson.fromStr (trimEnd text) with
    | none => simp [parsed] at read
    | some flag => exact .inr ⟨flag, flag_of_fromStr parsed⟩

/-- Every piece opens one object, and only a whole text closes it. -/
theorem flag_fragment {piece : Bytes} {flag : Bool} (start : piece <+: utf8 (flagText flag))
    (nonempty : piece ≠ []) : ∃ text, piece = utf8 text ∧ text.toList.count '\x7b' = 1 ∧
      (piece ≠ utf8 (flagText flag) → text.toList.count '\x7d' = 0) := by
  have each : ∀ flag, ∀ piece ∈ (utf8 (flagText flag)).inits, piece ≠ [] →
      utf8 ((fromUtf8 piece).getD "") = piece ∧
      ((fromUtf8 piece).getD "").toList.count '\x7b' = 1 ∧
      (piece ≠ utf8 (flagText flag) → ((fromUtf8 piece).getD "").toList.count '\x7d' = 0) := by
    decide +kernel
  obtain ⟨bytes, counts⟩ := each flag piece ((List.mem_inits _ _).mpr start) nonempty
  exact ⟨_, bytes.symm, counts⟩

theorem flag_pieces {pieces : List Bytes} (fragments : ∀ piece ∈ pieces, Fragment flagText piece) :
    ∃ text, pieces.flatten = utf8 text ∧ text.toList.count '\x7b' = pieces.length := by
  induction pieces with
  | nil => exact ⟨"", rfl, rfl⟩
  | cons piece rest ih =>
    obtain ⟨nonempty, flag, start⟩ := fragments piece List.mem_cons_self
    obtain ⟨first, bytes, opens, _⟩ := flag_fragment start nonempty
    obtain ⟨others, more, count⟩ := ih fun piece member =>
      fragments piece (List.mem_cons_of_mem _ member)
    refine ⟨first ++ others, ?_, ?_⟩
    · rw [List.flatten_cons, bytes, more, utf8_append]
    · rw [String.toList_append, List.count_append, opens, count, List.length_cons, Nat.add_comm]

theorem flagJson_tornUnreadable : TornUnreadable flagText flagJson path := by
  intro pieces torn ending ended found read
  obtain ⟨fragments, several | ⟨flag, piece, rfl, start, short⟩⟩ := torn
  · obtain ⟨text, bytes, opened⟩ := flag_pieces fragments
    rw [bytes] at read
    rw [← count_trimEnd (by decide)] at opened
    rcases flag_of_readLine ended read with blank | ⟨flag, whole⟩
    · have none : pieces.length = 0 := by rw [← opened, blank]; rfl
      omega
    · have once : ∀ flag, (flagText flag).toList.count '\x7b' = 1 := by decide +kernel
      have single : pieces.length = 1 := by rw [← opened, whole, once]
      omega
  · obtain ⟨nonempty, _⟩ := fragments piece (List.mem_singleton_self piece)
    obtain ⟨text, bytes, opened, closed⟩ := flag_fragment start nonempty
    have unclosed := closed short
    rw [List.flatten_singleton, bytes] at read
    rw [← count_trimEnd (by decide)] at opened unclosed
    rcases flag_of_readLine ended read with blank | ⟨other, whole⟩
    · rw [blank] at opened
      cases opened
    · have once : ∀ flag, (flagText flag).toList.count '\x7d' = 1 := by decide +kernel
      rw [whole, once] at unclosed
      cases unclosed

end flag

/-- An append that left nothing and one that left its whole line do no harm; a
single byte of a third one does. -/
theorem flagJson_recovers_iff :
    Recovers flagJson "positions.cursor" [⟨true, none⟩, ⟨true, some 0⟩, ⟨false, some 15⟩, ⟨true, none⟩] ∧
      ¬Recovers flagJson "positions.cursor" [⟨true, none⟩, ⟨false, some 1⟩, ⟨true, none⟩] := by
  constructor
  · exact (recovers_iff_leavesWholeLines flagJson_roundTrips _).1 (by decide +kernel)
  · intro recovers
    have whole := (recovers_iff_leavesWholeLines flagJson_roundTrips _).2 flagJson_tornUnreadable
      recovers
    revert whole
    decide +kernel

/-- One byte of a cut-short append makes the next append unreadable. -/
theorem tornFlag_not_recovers :
    ¬∀ (T : Type) (serde : SerdeJson T) (text : T → String) (path : String)
      (calls : List (AppendCall T)), RoundTrips serde text → Recovers serde path calls := by
  intro claimed
  obtain ⟨records, read, _⟩ := claimed Bool flagJson flagText "positions.cursor"
    [⟨true, some 1⟩, ⟨false, none⟩] flagJson_roundTrips
  have fails : readAll flagJson "positions.cursor" (fileAfter flagJson "positions.cursor" none
      [⟨true, some 1⟩, ⟨false, none⟩]) = .error (.serde "positions.cursor") := by decide +kernel
  rw [fails] at read
  cases read

end Oboobot.Persistence
