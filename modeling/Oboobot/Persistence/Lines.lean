import Mathlib.Data.List.DropRight

/-! Text files as bytes: UTF-8, and the pieces that reading line by line returns. -/

namespace Oboobot.Persistence

abbrev Bytes := List UInt8

/-- `text.as_bytes()`. -/
def utf8 (text : String) : Bytes := text.toUTF8.data.toList

/-- `String::from_utf8`. -/
def fromUtf8 (bytes : Bytes) : Option String := String.fromUTF8? ⟨bytes.toArray⟩

@[simp] theorem fromUtf8_utf8 (text : String) : fromUtf8 (utf8 text) = some text := by
  have whole : (⟨(utf8 text).toArray⟩ : ByteArray) = text.toByteArray := by simp [utf8]
  rw [fromUtf8, whole, String.fromUTF8?, dif_pos text.isValidUTF8]
  rfl

theorem utf8_of_fromUtf8 {bytes : Bytes} {text : String} (decoded : fromUtf8 bytes = some text) :
    utf8 text = bytes := by
  rw [fromUtf8, String.fromUTF8?] at decoded
  split at decoded
  · cases decoded
    simp [utf8, String.fromUTF8]
  · cases decoded

theorem utf8_append (front back : String) : utf8 (front ++ back) = utf8 front ++ utf8 back := by
  simp [utf8]

/-- The Unicode property `White_Space`. -/
def isWhitespace (c : Char) : Bool :=
  let code := c.toNat
  (9 ≤ code && code ≤ 13) || code == 32 || code == 0x85 || code == 0xA0 || code == 0x1680 ||
    (0x2000 ≤ code && code ≤ 0x200A) || code == 0x2028 || code == 0x2029 || code == 0x202F ||
    code == 0x205F || code == 0x3000

/-- `text.trim_end()`. -/
def trimEnd (text : String) : String := .ofList (text.toList.rdropWhile isWhitespace)

/-- `text.trim()`. -/
def trim (text : String) : String := trimEnd (.ofList (text.toList.dropWhile isWhitespace))

theorem trimEnd_newline (text : String) : trimEnd (text ++ "\n") = trimEnd text := by
  have newline : ("\n" : String).toList = ['\n'] := rfl
  rw [trimEnd, String.toList_append, newline, List.rdropWhile_concat_pos _ _ _ (by decide), trimEnd]

/-- Trimming drops whitespace only. -/
theorem count_trimEnd {c : Char} (solid : isWhitespace c = false) (text : String) :
    (trimEnd text).toList.count c = text.toList.count c := by
  rw [trimEnd, String.toList_ofList]
  induction text.toList using List.reverseRecOn with
  | nil => rfl
  | append_singleton front last ih =>
    by_cases white : isWhitespace last = true
    · have other : last ≠ c := by
        intro same
        rw [same, solid] at white
        cases white
      rw [List.rdropWhile_concat_pos _ _ _ white, ih, List.count_append,
        List.count_singleton, if_neg (by simpa using other), Nat.add_zero]
    · rw [List.rdropWhile_concat_neg _ _ _ white]

def newline : UInt8 := 10

theorem utf8_line (text : String) : utf8 (text ++ "\n") = utf8 text ++ [newline] := utf8_append text "\n"

/-- What repeated `read_line` calls return: each piece ends with its newline,
except that the last one may lack it. -/
def lines : Bytes → List Bytes
  | [] => []
  | byte :: rest =>
    if byte = newline then [byte] :: lines rest
    else match lines rest with
      | [] => [[byte]]
      | line :: others => (byte :: line) :: others

theorem lines_terminated {line : Bytes} (unbroken : newline ∉ line) (back : Bytes) :
    lines (line ++ newline :: back) = (line ++ [newline]) :: lines back := by
  induction line with
  | nil => simp [lines]
  | cons byte rest ih =>
    have other := List.ne_of_not_mem_cons unbroken
    have tail := List.not_mem_of_not_mem_cons unbroken
    rw [List.cons_append, lines, if_neg (Ne.symm other), ih tail, List.cons_append]

theorem lines_unterminated {line : Bytes} (unbroken : newline ∉ line) (nonempty : line ≠ []) :
    lines line = [line] := by
  induction line with
  | nil => exact absurd rfl nonempty
  | cons byte rest ih =>
    have other := List.ne_of_not_mem_cons unbroken
    have tail := List.not_mem_of_not_mem_cons unbroken
    rw [lines, if_neg (Ne.symm other)]
    cases rest with
    | nil => rfl
    | cons next more => rw [ih tail (List.cons_ne_nil next more)]

end Oboobot.Persistence
