import Oboobot.Persistence.Lines

/-! Operations on the files of a directory, and runs of them that are cut short. -/

namespace Oboobot.Persistence

/-- The files of a directory, by path. -/
abbrev Files := String → Option Bytes

/-- What a process asks of the file system. -/
inductive FileOp where
  | create (path : String)
  | writeAll (path : String) (bytes : Bytes)
  | syncAll (path : String)
  | rename (source target : String)
  deriving DecidableEq

namespace FileOp

/-- Creating truncates, and a rename replaces its target in one step. -/
def perform (op : FileOp) (files : Files) : Files :=
  match op with
  | create path => fun other => if other = path then some [] else files other
  | writeAll path bytes => fun other =>
    if other = path then some ((files path).getD [] ++ bytes) else files other
  | syncAll _ => files
  | rename source target => match files source with
    | none => files
    | some bytes => fun other =>
      if other = target then some bytes else if other = source then none else files other

/-- What is left of an operation that is interrupted: of a write, its first bytes. -/
def begin (op : FileOp) (count : Nat) (files : Files) : Files :=
  match op with
  | writeAll path bytes => (writeAll path (bytes.take count)).perform files
  | _ => files

/-- The operation has nothing to do with the file. -/
def Spares (path : String) : FileOp → Prop
  | create other => path ≠ other
  | writeAll other _ => path ≠ other
  | syncAll _ => True
  | rename source target => path ≠ source ∧ path ≠ target

theorem Spares.perform {path : String} {op : FileOp} (spares : op.Spares path) (files : Files) :
    op.perform files path = files path := by
  cases op with
  | create other => exact if_neg spares
  | writeAll other bytes => exact if_neg spares
  | syncAll other => rfl
  | rename source target =>
    cases kept : files source with
    | none => simp [FileOp.perform, kept]
    | some bytes => simp [FileOp.perform, kept, spares.1, spares.2]

theorem Spares.begin {path : String} {op : FileOp} (spares : op.Spares path) (count : Nat)
    (files : Files) : op.begin count files path = files path := by
  cases op with
  | writeAll other bytes => exact if_neg spares
  | _ => rfl

end FileOp

/-- How far a sequence of operations got: how many were completed, and how many
bytes of the next one had reached the disk. -/
structure Interruption where
  completed : Nat
  count : Nat
  deriving DecidableEq

def performAll (ops : List FileOp) (files : Files) : Files :=
  ops.foldl (fun files op => op.perform files) files

def performUntil (stop : Interruption) (ops : List FileOp) (files : Files) : Files :=
  let files := performAll (ops.take stop.completed) files
  match ops[stop.completed]? with
  | some op => op.begin stop.count files
  | none => files

section runs

variable {path : String} {ops : List FileOp} {stop : Interruption}

theorem performAll_spared (spared : ∀ op ∈ ops, op.Spares path) (files : Files) :
    performAll ops files path = files path := by
  induction ops generalizing files with
  | nil => rfl
  | cons op rest ih =>
    obtain ⟨first, later⟩ := List.forall_mem_cons.mp spared
    exact (ih later _).trans (first.perform files)

theorem performUntil_spared (spared : ∀ op ∈ ops, op.Spares path) (files : Files) :
    performUntil stop ops files path = files path := by
  have front : performAll (ops.take stop.completed) files path = files path :=
    performAll_spared (fun op member => spared op (List.mem_of_mem_take member)) files
  cases next : ops[stop.completed]? with
  | none => simpa [performUntil, next] using front
  | some op =>
    have begun := (spared op (List.mem_of_getElem? next)).begin stop.count
      (performAll (ops.take stop.completed) files)
    simpa [performUntil, next] using begun.trans front

/-- Operations that were all completed have been performed. -/
theorem performUntil_finished (finished : ops.length ≤ stop.completed) (files : Files) :
    performUntil stop ops files = performAll ops files := by
  rw [performUntil, List.take_of_length_le finished, List.getElem?_eq_none finished]

/-- A rename that was not completed has not been begun. -/
theorem performUntil_rename {source target : String} (early : stop.completed ≤ ops.length)
    (files : Files) :
    performUntil stop (ops ++ [.rename source target]) files = performUntil stop ops files := by
  unfold performUntil
  rw [List.take_append_of_le_length early]
  rcases Nat.lt_or_eq_of_le early with inside | last
  · rw [List.getElem?_append_left inside]
  · have next : (ops ++ [FileOp.rename source target])[stop.completed]? =
        some (.rename source target) := by simp [last]
    have none' : ops[stop.completed]? = none := List.getElem?_eq_none (le_of_eq last.symm)
    rw [next, none']
    rfl

end runs

end Oboobot.Persistence
