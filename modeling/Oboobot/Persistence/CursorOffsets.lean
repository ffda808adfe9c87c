import Oboobot.Persistence.TornAppend
import Mathlib.Order.Interval.Set.Defs
import Mathlib.Order.Monotone.Defs

/-! The offsets that appends return, as the places to go on reading from. -/

namespace Oboobot.Persistence

variable {T : Type}

/-- Appends that are not cut short. -/
def appendsOf (records : List T) : List (AppendCall T) :=
  records.map fun record => ⟨record, none⟩

/-- What each of a sequence of appends returns. -/
def returned (serde : SerdeJson T) (path : String) :
    Option Bytes → List (AppendCall T) → List (Except PersistenceError Nat)
  | _, [] => []
  | file, call :: later =>
    let (result, file) := append serde path call.record call.cut file
    result :: returned serde path file later

section offsets

variable {serde : SerdeJson T} {text : T → String} {path : String}

/-- The content of a file that holds these records and nothing else. -/
def linesOf (text : T → String) (records : List T) : Bytes :=
  records.flatMap fun record => utf8 (text record) ++ [newline]

def offsetAfter (text : T → String) (records : List T) : Nat := (linesOf text records).length

theorem linesOf_cons (record : T) (rest : List T) :
    linesOf text (record :: rest) = utf8 (text record) ++ newline :: linesOf text rest := by
  simp [linesOf]

theorem linesOf_append (front back : List T) :
    linesOf text (front ++ back) = linesOf text front ++ linesOf text back :=
  List.flatMap_append

theorem offsetAfter_append (front back : List T) :
    offsetAfter text (front ++ back) = offsetAfter text front + offsetAfter text back := by
  simp [offsetAfter, linesOf_append]

theorem offsetAfter_pos {records : List T} (nonempty : records ≠ []) :
    0 < offsetAfter text records := by
  cases records with
  | nil => exact absurd rfl nonempty
  | cons record rest =>
    rw [offsetAfter, linesOf_cons, List.length_append, List.length_cons]
    omega

/-- Every further record moves the end of the file. -/
theorem offsetAfter_take_lt (records : List T) {fewer more : Nat} (less : fewer < more)
    (within : more ≤ records.length) :
    offsetAfter text (records.take fewer) < offsetAfter text (records.take more) := by
  have split : records.take more = records.take fewer ++ (records.take more).drop fewer := by
    have front : (records.take more).take fewer = records.take fewer := by
      rw [List.take_take, Nat.min_eq_left (le_of_lt less)]
    rw [← front, List.take_append_drop]
  have added : (records.take more).drop fewer ≠ [] := by
    intro none'
    have short := List.drop_eq_nil_iff.mp none'
    rw [List.length_take_of_le within] at short
    omega
  rw [split, offsetAfter_append]
  have moved : 0 < offsetAfter text ((records.take more).drop fewer) := offsetAfter_pos added
  omega

/-- Behind the first records stand the lines of the others. -/
theorem drop_offsetAfter (records : List T) (k : Nat) :
    (linesOf text records).drop (offsetAfter text (records.take k)) =
      linesOf text (records.drop k) := by
  have split : linesOf text (records.take k ++ records.drop k) = _ := linesOf_append _ _
  rw [List.take_append_drop] at split
  rw [split, offsetAfter, List.drop_left]

theorem fileAfter_appendsOf (laws : RoundTrips serde text) (records : List T) (file : Option Bytes) :
    (fileAfter serde path file (appendsOf records)).getD [] =
      file.getD [] ++ linesOf text records := by
  rw [fileAfter_getD laws]
  simp [appendsOf, List.flatMap_map, written, linesOf]

/-- Each append returns the length that the file then has. -/
theorem returned_appendsOf (laws : RoundTrips serde text) (records : List T)
    (file : Option Bytes) :
    returned serde path file (appendsOf records) = (List.range records.length).map fun k =>
      .ok ((file.getD []).length + offsetAfter text (records.take (k + 1))) := by
  induction records generalizing file with
  | nil => rfl
  | cons record rest ih =>
    have line : append serde path record none file =
        (.ok ((file.getD []).length + offsetAfter text [record]),
          some (file.getD [] ++ (utf8 (text record) ++ [newline]))) := by
      simp [append, laws.toString_eq, offsetAfter, linesOf, utf8_line]
    rw [appendsOf, List.map_cons, returned]
    simp only [line]
    rw [← appendsOf, ih, List.length_cons, List.range_succ_eq_map, List.map_cons, List.map_map]
    congr 1
    apply List.map_congr_left
    intro k _
    simp [offsetAfter, linesOf_cons, Nat.add_assoc, Nat.add_comm, Nat.add_left_comm]

/-- Whole lines are read as the records they were written for. -/
theorem readLines_records (laws : RoundTrips serde text) (records : List T) :
    readLines serde path (lines (linesOf text records)) = .ok records := by
  induction records with
  | nil => rfl
  | cons record rest ih =>
    rw [linesOf_cons, lines_terminated (laws.oneLine record), readLines, readLine_line laws, ih]
    rfl

theorem readFrom_getD (offset : Nat) (file : Option Bytes) :
    readFrom serde path offset file = readLines serde path (lines ((file.getD []).drop offset)) := by
  cases file with
  | none => simp [readFrom, lines, readLines]
  | some bytes => rfl

end offsets

/-- The end of the file after some appends, whether an append returned it or it was
asked for, is where exactly the records of the later appends begin. -/
theorem readFrom_returned_offset {serde : SerdeJson T} {text : T → String} (path : String)
    (laws : RoundTrips serde text) (file : Option Bytes) (blank : file.getD [] = [])
    (records : List T) : ∃ offset : Nat → Nat,
    offset 0 = 0 ∧ StrictMonoOn offset (Set.Iic records.length) ∧
    returned serde path file (appendsOf records) =
      ((List.range records.length).map fun k => .ok (offset (k + 1))) ∧
    ∀ k ≤ records.length,
      currentOffset (fileAfter serde path file (appendsOf (records.take k))) = offset k ∧
      readFrom serde path (offset k) (fileAfter serde path file (appendsOf records)) =
        .ok (records.drop k) := by
  refine ⟨fun k => offsetAfter text (records.take k), rfl, ?_, ?_, ?_⟩
  · intro fewer _ more within less
    exact offsetAfter_take_lt records less within
  · simp [returned_appendsOf laws, blank]
  · intro k _
    refine ⟨?_, ?_⟩
    · rw [currentOffset, fileAfter_appendsOf laws, blank]
      rfl
    · rw [readFrom_getD, fileAfter_appendsOf laws, blank, List.nil_append, drop_offsetAfter,
        readLines_records laws]

/-- Two flags in a new file. -/
theorem twoFlags_readFrom : ∃ offset : Nat → Nat,
    offset 0 = 0 ∧ StrictMonoOn offset (Set.Iic 2) ∧
    returned flagJson "flags.cursor" none (appendsOf [true, false]) =
      ((List.range 2).map fun k => .ok (offset (k + 1))) ∧
    ∀ k ≤ 2,
      currentOffset (fileAfter flagJson "flags.cursor" none (appendsOf ([true, false].take k))) =
        offset k ∧
      readFrom flagJson "flags.cursor" (offset k)
        (fileAfter flagJson "flags.cursor" none (appendsOf [true, false])) =
        .ok ([true, false].drop k) :=
  readFrom_returned_offset "flags.cursor" flagJson_roundTrips none rfl [true, false]

end Oboobot.Persistence
