import Oboobot.Persistence.Lines

/-! The append-only cursor file: what an append leaves on disk when it is cut
short, and what is read back afterwards. -/

namespace Oboobot.Persistence

/-- A failure on a file, with the file's path. -/
inductive PersistenceError where
  | io (path : String)
  | serde (path : String)
  deriving DecidableEq

/-- How a record type is written as JSON text and read from it. -/
structure SerdeJson (T : Type) where
  toString : T → Option String
  fromStr : String → Option T

/-- A type that round-trips through one line of compact JSON. -/
structure RoundTrips {T : Type} (serde : SerdeJson T) (text : T → String) : Prop where
  toString_eq : ∀ record, serde.toString record = some (text record)
  fromStr_eq : ∀ record, serde.fromStr (text record) = some record
  oneLine : ∀ record, newline ∉ utf8 (text record)
  nonempty : ∀ record, text record ≠ ""
  compact : ∀ record, trimEnd (text record) = text record

variable {T : Type}

/-- `cut` says after how many bytes a crash or a full disk stops the write. A
file that does not exist is `none`. -/
def append (serde : SerdeJson T) (path : String) (record : T) (cut : Option Nat)
    (file : Option Bytes) : Except PersistenceError Nat × Option Bytes :=
  match serde.toString record with
  | none => (.error (.serde path), file)
  | some text =>
    let line := utf8 (text ++ "\n")
    match cut with
    | none =>
      let bytes := file.getD [] ++ line
      (.ok bytes.length, some bytes)
    | some written => (.error (.io path), some (file.getD [] ++ line.take written))

/-- An append returns `Ok` exactly when its write was not cut short. -/
theorem append_isOk_iff {serde : SerdeJson T} {text : T → String} (laws : RoundTrips serde text)
    (path : String) (record : T) (cut : Option Nat) (file : Option Bytes) :
    (append serde path record cut file).1.isOk = true ↔ cut = none := by
  cases cut <;> simp [append, laws.toString_eq, Except.isOk, Except.toBool]

/-- One round of the reading loop; a blank line holds no record. -/
def readLine (serde : SerdeJson T) (path : String) (line : Bytes) :
    Except PersistenceError (Option T) :=
  match fromUtf8 line with
  | none => .error (.io path)
  | some text =>
    let trimmed := trimEnd text
    if trimmed.isEmpty then .ok none
    else match serde.fromStr trimmed with
      | none => .error (.serde path)
      | some record => .ok (some record)

def readLines (serde : SerdeJson T) (path : String) :
    List Bytes → Except PersistenceError (List T)
  | [] => .ok []
  | line :: rest => do
    let found ← readLine serde path line
    let records ← readLines serde path rest
    return found.toList ++ records

def readFrom (serde : SerdeJson T) (path : String) (offset : Nat) (file : Option Bytes) :
    Except PersistenceError (List T) :=
  match file with
  | none => .ok []
  | some bytes => readLines serde path (lines (bytes.drop offset))

/-- `current_offset`: a file that does not exist ends at 0. -/
def currentOffset (file : Option Bytes) : Nat := (file.getD []).length

def readAll (serde : SerdeJson T) (path : String) (file : Option Bytes) :
    Except PersistenceError (List T) :=
  readFrom serde path 0 file

/-- An append, and after how many bytes it was cut short, if it was. -/
structure AppendCall (T : Type) where
  record : T
  cut : Option Nat
  deriving DecidableEq

/-- The file after a sequence of appends. -/
def fileAfter (serde : SerdeJson T) (path : String) (file : Option Bytes)
    (calls : List (AppendCall T)) : Option Bytes :=
  calls.foldl (fun file call => (append serde path call.record call.cut file).2) file

end Oboobot.Persistence
