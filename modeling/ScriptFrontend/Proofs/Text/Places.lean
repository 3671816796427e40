/-
This file shows that the place of a byte is the one that the encoding of the text gives it.
-/

import Mathlib.Data.List.DropRight
import ScriptFrontend.Proofs.Text.Lines

namespace ScriptFrontend.Text

/-- The encoding of a text in UTF-8. -/
def encode (text : List Char) : List UInt8 :=
  text.flatMap String.utf8EncodeChar

@[simp] theorem encode_nil : encode [] = [] := rfl

@[simp] theorem encode_append (first second : List Char) :
    encode (first ++ second) = encode first ++ encode second :=
  List.flatMap_append

@[simp] theorem length_encode (text : List Char) : (encode text).length = byteLength text := by
  induction text with
  | nil => rfl
  | cons c text ih =>
    rw [encode, List.flatMap_cons, List.length_append, String.length_utf8EncodeChar]
    exact congrArg (c.utf8Size + ·) ih

theorem encode_toList (source : String) : encode source.toList = source.toUTF8.data.toList := by
  rw [String.toUTF8_eq_toByteArray, ← String.utf8Encode_toList, List.utf8Encode,
    List.toList_data_toByteArray, encode]

/-- The byte that encodes a newline. -/
def newline : UInt8 := 10

theorem encode_newline (text : List Char) : encode ('\n' :: text) = newline :: encode text := rfl

/-- A character of one byte is this byte, and the bytes of all others are at least 128. -/
theorem eq_of_newline_mem_utf8EncodeChar {c : Char} (member : newline ∈ String.utf8EncodeChar c) :
    c = '\n' := by
  have apart {low high : Nat} (small : low + high < 256) (above : 10 < high) :
      newline ≠ UInt8.ofNat (low + high) := by
    intro same
    have value := congrArg UInt8.toNat same
    rw [UInt8.toNat_ofNat_of_lt' small] at value
    change 10 = low + high at value
    omega
  unfold String.utf8EncodeChar at member
  dsimp only at member
  split at member
  · next single =>
    have small : c.val.toNat < 256 := by omega
    have value := congrArg UInt8.toNat (List.mem_singleton.1 member)
    rw [UInt8.toNat_ofNat_of_lt' small] at value
    exact Char.ext (UInt32.toNat_inj.1 value.symm)
  · exfalso
    split at member
    · simp only [List.mem_cons, List.not_mem_nil, or_false] at member
      rcases member with same | same <;> exact apart (by omega) (by omega) same
    · split at member
      · simp only [List.mem_cons, List.not_mem_nil, or_false] at member
        rcases member with same | same | same <;> exact apart (by omega) (by omega) same
      · simp only [List.mem_cons, List.not_mem_nil, or_false] at member
        rcases member with same | same | same | same <;> exact apart (by omega) (by omega) same

theorem newline_not_mem_encode {row : List Char} (clean : '\n' ∉ row) : newline ∉ encode row := by
  intro member
  obtain ⟨c, inside, encoded⟩ := List.mem_flatMap.1 member
  rw [eq_of_newline_mem_utf8EncodeChar encoded] at inside
  exact clean inside

/-- A line goes through the next newline, or to the end. -/
def lineFrom (bytes : List UInt8) : List UInt8 :=
  bytes.takeWhile (· != newline) ++ (bytes.dropWhile (· != newline)).take 1

/-- A line starts behind the last newline in front of it. -/
def lineStart (front : List UInt8) : Nat :=
  (front.rdropWhile (· != newline)).length

/-- A byte of an encoded text has the number of its line, the bytes of the line and its column. The
newlines in front of the byte add to the number of the first line. -/
def locateByte? (number : Nat) (bytes : List UInt8) (offset : Nat) :
    Option (Nat × List UInt8 × Nat) :=
  let front := bytes.take offset
  if offset ≤ bytes.length then
    some (number + front.count newline, lineFrom (bytes.drop (lineStart front)),
      offset - lineStart front)
  else none

def Place.encoded (place : Place) : Nat × List UInt8 × Nat :=
  (place.number, encode place.line, place.column)

section Rows

variable {row : List UInt8} (clean : newline ∉ row)
include clean

theorem bne_newline_of_mem : ∀ byte ∈ row, (byte != newline) = true := by
  intro byte member
  rw [bne_iff_ne]
  rintro rfl
  exact clean member

theorem lineFrom_of_row : lineFrom row = row := by
  have inside := bne_newline_of_mem clean
  rw [lineFrom, List.takeWhile_eq_self_iff.2 inside, List.dropWhile_eq_nil_iff.2 inside,
    List.take_nil, List.append_nil]

theorem lineFrom_append_newline (rest : List UInt8) :
    lineFrom (row ++ newline :: rest) = row ++ [newline] := by
  have inside := bne_newline_of_mem clean
  rw [lineFrom, List.takeWhile_append_of_pos inside, List.dropWhile_append_of_pos inside]
  simp

theorem lineStart_of_row : lineStart row = 0 := by
  rw [lineStart, List.rdropWhile_eq_nil_iff.2 (bne_newline_of_mem clean), List.length_nil]

end Rows

theorem lineStart_append_newline (row front : List UInt8) :
    lineStart (row ++ newline :: front) = row.length + 1 + lineStart front := by
  have kept : (row ++ newline :: front).rdropWhile (· != newline) =
      row ++ newline :: front.rdropWhile (· != newline) := by
    induction front using List.reverseRecOn with
    | nil => exact List.rdropWhile_concat_neg _ _ _ (by simp)
    | append_singleton front byte ih =>
      rw [← List.cons_append, ← List.append_assoc, List.rdropWhile_concat, List.rdropWhile_concat,
        ih]
      split
      · rfl
      · rw [List.append_assoc]
        rfl
  rw [lineStart, kept, List.length_append, List.length_cons, lineStart]
  omega

/-- A byte of the first row is located in it, and a byte behind its newline as in what comes there. -/
theorem locateByte?_append_newline {row : List UInt8} (clean : newline ∉ row) (number : Nat)
    (rest : List UInt8) (offset : Nat) :
    locateByte? number (row ++ newline :: rest) offset =
      if offset < row.length + 1 then some (number, row ++ [newline], offset)
      else locateByte? (number + 1) rest (offset - (row.length + 1)) := by
  by_cases inside : offset < row.length + 1
  · have front : (row ++ newline :: rest).take offset = row.take offset :=
      List.take_append_of_le_length (by omega)
    have plain : newline ∉ row.take offset := fun member => clean (List.mem_of_mem_take member)
    have fits : offset ≤ (row ++ newline :: rest).length := by
      rw [List.length_append, List.length_cons]
      omega
    rw [if_pos inside, locateByte?, front, lineStart_of_row plain, List.count_eq_zero.2 plain,
      List.drop_zero, lineFrom_append_newline clean]
    exact if_pos fits
  · obtain ⟨beyond, rfl⟩ : ∃ beyond, offset = row.length + 1 + beyond :=
      Nat.exists_eq_add_of_le (Nat.le_of_not_lt inside)
    have whole : row ++ newline :: rest = (row ++ [newline]) ++ rest := by simp
    have size : (row ++ [newline]).length = row.length + 1 := by simp
    have front : (row ++ newline :: rest).take (row.length + 1 + beyond) =
        row ++ newline :: rest.take beyond := by
      rw [whole, ← size, List.take_length_add_append]
      simp
    have behind (count : Nat) : (row ++ newline :: rest).drop (row.length + 1 + count) =
        rest.drop count := by
      rw [whole, ← size, List.drop_length_add_append]
    have fits : row.length + 1 + beyond ≤ row.length + (rest.length + 1) ↔ beyond ≤ rest.length := by
      omega
    have later (count : Nat) : number + (0 + (count + 1)) = number + 1 + count := by omega
    rw [if_neg inside, locateByte?, locateByte?, front, lineStart_append_newline, behind,
      List.count_append, List.count_eq_zero.2 clean, List.count_cons_self, List.length_append,
      List.length_cons, Nat.add_sub_cancel_left, Nat.add_sub_add_left, later]
    exact if_congr fits rfl rfl

theorem locateIn_lines {rows : List (List Char)} (clean : ∀ row ∈ rows, '\n' ∉ row)
    {last : List Char} (lastClean : '\n' ∉ last) (number offset : Nat) :
    (locateIn number (lines (writeRows rows ++ last)) offset).map Place.encoded =
      locateByte? number (encode (writeRows rows ++ last)) offset := by
  induction rows generalizing number offset with
  | nil =>
    have plain := newline_not_mem_encode lastClean
    have front : newline ∉ (encode last).take offset :=
      fun member => plain (List.mem_of_mem_take member)
    simp only [writeRows_nil, List.nil_append, lines_of_row lastClean, locateIn, locateByte?,
      length_encode, lineStart_of_row front, List.count_eq_zero.2 front, List.drop_zero,
      lineFrom_of_row plain]
    by_cases inside : offset ≤ byteLength last
    · rw [if_pos inside, if_pos inside]
      rfl
    · rw [if_neg inside, if_neg inside]
      rfl
  | cons row rows ih =>
    obtain ⟨first, others⟩ := List.forall_mem_cons.1 clean
    obtain ⟨next, more, some⟩ := List.exists_cons_of_ne_nil (lines_ne_nil (writeRows rows ++ last))
    have size : byteLength (row ++ ['\n']) = (encode row).length + 1 := by
      rw [length_encode, byteLength_append]
      rfl
    have onward := ih others (number + 1) (offset - ((encode row).length + 1))
    rw [some] at onward
    rw [writeRows_cons, List.append_assoc, List.cons_append, lines_append_newline _ first, some,
      locateIn, size, encode_append, encode_newline,
      locateByte?_append_newline (newline_not_mem_encode first), ← onward]
    split
    · rw [Option.map_some, Place.encoded, encode_append]
      rfl
    · rfl

/-- The last byte of a character of two bytes is one column behind its first byte. -/
example : (locate? "a\nbé" 4).map Place.encoded = some (2, encode "bé".toList, 2) := by
  decide +kernel

end ScriptFrontend.Text
