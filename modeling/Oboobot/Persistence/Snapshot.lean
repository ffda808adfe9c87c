import Oboobot.Persistence.Cursor
import Oboobot.Persistence.Files

/-! The snapshot file: one current value, replaced through a temp file that is
renamed into place. -/

namespace Oboobot.Persistence

/-- The file name without its extension; a dot in front does not start one. -/
def fileStem (name : List Char) : List Char :=
  match name.rdropWhile (· ≠ '.') with
  | [] | [_] => name
  | upToDot => upToDot.dropLast

/-- `path.with_extension(extension)`, for a path that ends in a file name. -/
def withExtension (path extension : String) : String :=
  let chars := path.toList
  let directory := chars.rdropWhile (· ≠ '/')
  let name := chars.rtakeWhile (· ≠ '/')
  .ofList (directory ++ fileStem name ++ '.' :: extension.toList)

/-- A snapshot is not kept under the name of its own temp file. -/
structure SnapshotFile where
  path : String
  apart : withExtension path "tmp" ≠ path

namespace SnapshotFile

variable {T : Type} (serde : SerdeJson T) (snapshot : SnapshotFile)

def read (files : Files) : Except PersistenceError (Option T) :=
  match files snapshot.path with
  | none => .ok none
  | some bytes => match fromUtf8 bytes with
    | none => .error (.io snapshot.path)
    | some contents =>
      if (trim contents).isEmpty then .ok none
      else match serde.fromStr (trim contents) with
        | none => .error (.serde snapshot.path)
        | some value => .ok (some value)

def tmpPath : String := withExtension snapshot.path "tmp"

/-- What a write asks of the file system. -/
def writeOps (json : String) : List FileOp :=
  [.create snapshot.tmpPath, .writeAll snapshot.tmpPath (utf8 json), .syncAll snapshot.tmpPath,
    .rename snapshot.tmpPath snapshot.path]

/-- `stop` says how far the write got when a failed operation or a crash ended it. -/
def write (value : T) (stop : Option Interruption) (files : Files) :
    Except PersistenceError Unit × Files :=
  match serde.toString value with
  | none => (.error (.serde snapshot.path), files)
  | some json => match stop with
    | none => (.ok (), performAll (snapshot.writeOps json) files)
    | some stop => (.error (.io snapshot.path), performUntil stop (snapshot.writeOps json) files)

/-- Whether a write that was stopped here had replaced the value: all four of its
operations were completed. -/
def renamed (stop : Interruption) : Bool := 4 ≤ stop.completed

end SnapshotFile

theorem withExtension_json_ne (stem : String) :
    withExtension (stem ++ ".json") "tmp" ≠ stem ++ ".json" := by
  intro same
  have last := congrArg (fun path => path.toList.getLast?) same
  simp [withExtension] at last

/-- Every snapshot of the daemon is a `.json` file of the state directory. -/
def SnapshotFile.json (stem : String) : SnapshotFile where
  path := stem ++ ".json"
  apart := withExtension_json_ne stem

end Oboobot.Persistence
