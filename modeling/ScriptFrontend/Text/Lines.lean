/-
This file finds the line of a text that holds a given byte.
-/

import ScriptFrontend.Text.Bytes

namespace ScriptFrontend.Text

/-- Every line but the last ends with its newline, and the last line holds none. -/
def lines : List Char → List (List Char)
  | [] => [[]]
  | c :: rest =>
    if c = '\n' then [c] :: lines rest
    else
      match lines rest with
      | [] => [[c]]
      | line :: others => (c :: line) :: others

/-- A place names a line by its number from one and a byte by its column in that line. -/
structure Place where
  number : Nat
  line : List Char
  column : Nat
  deriving DecidableEq

/-- The end of the text belongs to the last line. -/
def locateIn (number : Nat) : List (List Char) → Nat → Option Place
  | [], _ => none
  | [line], byte => if byte ≤ byteLength line then some ⟨number, line, byte⟩ else none
  | line :: next :: others, byte =>
    if byte < byteLength line then some ⟨number, line, byte⟩
    else locateIn (number + 1) (next :: others) (byte - byteLength line)

/-- The place of a byte exists when the byte is at most the length of the text. -/
def locate? (text : String) (byte : Nat) : Option Place :=
  locateIn 1 (lines text.toList) byte

/-- The lines make up the text. -/
@[simp] theorem flatten_lines (text : List Char) : (lines text).flatten = text := by
  fun_induction lines text <;> simp_all

theorem lines_ne_nil (text : List Char) : lines text ≠ [] := by
  fun_induction lines text <;> simp_all

end ScriptFrontend.Text
