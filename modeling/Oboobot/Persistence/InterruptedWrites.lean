import Oboobot.Persistence.Snapshot
import Oboobot.Persistence.TornAppend

/-! What a snapshot reads as after writes that were cut short. -/

namespace Oboobot.Persistence

variable {T : Type}

/-- A type that round-trips through compact JSON, which neither starts nor ends with
whitespace. -/
structure RoundTripsTrimmed (serde : SerdeJson T) (text : T → String) : Prop where
  toString_eq : ∀ value, serde.toString value = some (text value)
  fromStr_eq : ∀ value, serde.fromStr (text value) = some value
  nonempty : ∀ value, text value ≠ ""
  trimmed : ∀ value, trim (text value) = text value

/-- A write, and how far it got before it was interrupted. -/
structure InterruptedWrite (T : Type) where
  value : T
  stop : Interruption
  deriving DecidableEq

/-- The files after a sequence of interrupted writes. -/
def filesAfter (serde : SerdeJson T) (snapshot : SnapshotFile) (files : Files)
    (writes : List (InterruptedWrite T)) : Files :=
  writes.foldl (fun files write => (snapshot.write serde write.value (some write.stop) files).2) files

/-- The value of the last write whose rename took effect. -/
def lastRenamed (writes : List (InterruptedWrite T)) : Option T :=
  ((writes.filter fun write => SnapshotFile.renamed write.stop).getLast?).map InterruptedWrite.value

namespace SnapshotFile

variable {serde : SerdeJson T} {text : T → String} {snapshot : SnapshotFile} {files : Files}

/-- A read looks at one file only. -/
theorem read_congr {others : Files} (same : files snapshot.path = others snapshot.path) :
    snapshot.read serde files = snapshot.read serde others := by
  rw [read, read, same]

theorem read_missing (missing : files snapshot.path = none) :
    snapshot.read serde files = .ok none := by
  rw [read, missing]

theorem read_text (laws : RoundTripsTrimmed serde text) {value : T}
    (kept : files snapshot.path = some (utf8 (text value))) :
    snapshot.read serde files = .ok (some value) := by
  have solid : (text value).isEmpty = false := by simpa using laws.nonempty value
  simp [read, kept, solid, laws.trimmed, laws.fromStr_eq]

theorem performAll_writeOps (json : String) (files : Files) :
    performAll (snapshot.writeOps json) files snapshot.path = some (utf8 json) := by
  simp [performAll, writeOps, FileOp.perform]

/-- Up to the rename, a write has only worked on its temp file. -/
theorem performUntil_writeOps {stop : Interruption} (early : renamed stop = false) (json : String)
    (files : Files) :
    performUntil stop (snapshot.writeOps json) files snapshot.path = files snapshot.path := by
  have other : snapshot.path ≠ snapshot.tmpPath := snapshot.apart.symm
  have before : stop.completed ≤ 3 := by simpa [renamed, Nat.lt_succ_iff] using early
  have spared : ∀ op ∈ [FileOp.create snapshot.tmpPath, .writeAll snapshot.tmpPath (utf8 json),
      .syncAll snapshot.tmpPath], op.Spares snapshot.path := by
    simp [FileOp.Spares, other]
  exact (congrFun (performUntil_rename before files) _).trans (performUntil_spared spared files)

/-- An interrupted write has replaced the value or left it as it was. -/
theorem write_stopped (laws : RoundTripsTrimmed serde text) (value : T) (stop : Interruption)
    (files : Files) :
    (snapshot.write serde value (some stop) files).2 snapshot.path =
      if renamed stop then some (utf8 (text value)) else files snapshot.path := by
  simp only [write, laws.toString_eq]
  cases late : renamed stop with
  | true =>
    have finished : (snapshot.writeOps (text value)).length ≤ stop.completed := of_decide_eq_true late
    rw [performUntil_finished finished, performAll_writeOps, if_pos rfl]
  | false => exact performUntil_writeOps late _ files

/-- The last write to be renamed into place decides what the file holds. -/
theorem filesAfter_path (laws : RoundTripsTrimmed serde text) (snapshot : SnapshotFile)
    (files : Files) (writes : List (InterruptedWrite T)) :
    filesAfter serde snapshot files writes snapshot.path =
      ((lastRenamed writes).map fun value => utf8 (text value)).or (files snapshot.path) := by
  induction writes using List.reverseRecOn with
  | nil => rfl
  | append_singleton earlier last ih =>
    rw [filesAfter, List.foldl_append, List.foldl_cons, List.foldl_nil, ← filesAfter,
      write_stopped laws, ih]
    cases late : renamed last.stop <;> simp [lastRenamed, late]

theorem read_filesAfter (laws : RoundTripsTrimmed serde text) (snapshot : SnapshotFile)
    (files : Files) (writes : List (InterruptedWrite T)) :
    snapshot.read serde (filesAfter serde snapshot files writes) = match lastRenamed writes with
      | some value => .ok (some value)
      | none => snapshot.read serde files := by
  have kept := filesAfter_path laws snapshot files writes
  cases last : lastRenamed writes with
  | none => exact read_congr (by simpa [last] using kept)
  | some value => exact read_text laws (by simpa [last] using kept)

/-- A write that is not interrupted is read back, whatever its temp file held before. -/
theorem read_write (laws : RoundTripsTrimmed serde text) (value : T) (files : Files) :
    (snapshot.write serde value none files).1 = .ok () ∧
      snapshot.read serde (snapshot.write serde value none files).2 = .ok (some value) := by
  simp only [write, laws.toString_eq]
  exact ⟨trivial, read_text laws (performAll_writeOps _ files)⟩

end SnapshotFile

/-- A snapshot file that has never been written, or that holds a value. -/
def Holds (text : T → String) (snapshot : SnapshotFile) (files : Files) : Option T → Prop
  | none => files snapshot.path = none
  | some value => files snapshot.path = some (utf8 (text value))

/-- After any interrupted writes a read returns the value of the last one that was
renamed into place, or else what it returned before them; a write that is not
interrupted is read back. -/
theorem interruptedWrites_settle {serde : SerdeJson T} {text : T → String}
    (laws : RoundTripsTrimmed serde text) (snapshot : SnapshotFile) (files : Files)
    (writes : List (InterruptedWrite T)) :
    let after := filesAfter serde snapshot files writes
    snapshot.read serde after = (match lastRenamed writes with
      | some value => .ok (some value)
      | none => snapshot.read serde files) ∧
    (∀ onFile, Holds text snapshot files onFile → snapshot.read serde files = .ok onFile ∧
      snapshot.read serde after = .ok ((lastRenamed writes).or onFile)) ∧
    ∀ value, (snapshot.write serde value none after).1 = .ok () ∧
      snapshot.read serde (snapshot.write serde value none after).2 = .ok (some value) := by
  intro after
  have settled := SnapshotFile.read_filesAfter laws snapshot files writes
  refine ⟨settled, ?_, fun value => SnapshotFile.read_write laws value after⟩
  intro onFile holds
  have before : snapshot.read serde files = .ok onFile := by
    cases onFile with
    | none => exact SnapshotFile.read_missing holds
    | some value => exact SnapshotFile.read_text laws holds
  refine ⟨before, settled.trans ?_⟩
  cases lastRenamed writes with
  | none => exact before
  | some value => rfl

theorem flagJson_roundTripsTrimmed : RoundTripsTrimmed flagJson flagText where
  toString_eq _ := rfl
  fromStr_eq := by decide +kernel
  nonempty := by decide +kernel
  trimmed := by decide +kernel

/-- The first write stops within its temp file, the second is renamed into place
before its process dies, and the third stops before its rename. -/
def threeStopped : List (InterruptedWrite Bool) :=
  [⟨true, ⟨1, 5⟩⟩, ⟨false, ⟨4, 0⟩⟩, ⟨true, ⟨3, 0⟩⟩]

theorem threeStopped_settle :
    (SnapshotFile.json "status").read flagJson
        (filesAfter flagJson (.json "status") (fun _ => none) threeStopped) = .ok (some false) :=
  (interruptedWrites_settle flagJson_roundTripsTrimmed (.json "status") (fun _ => none)
    threeStopped).1

end Oboobot.Persistence
