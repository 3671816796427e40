/-
This file shows what is left of a text without its indentation and the blanks at its end.
-/

import ScriptFrontend.Text.Blank
import ScriptFrontend.Text.Bytes

namespace ScriptFrontend.Text

theorem isBlank_newline : isBlank '\n' = true := rfl

/-- A text without blanks is a part of one line. -/
theorem newline_not_mem_of_solid {text : List Char} (solid : ∀ c ∈ text, isBlank c = false) :
    '\n' ∉ text := by
  intro member
  have noBlank := solid '\n' member
  rw [isBlank_newline] at noBlank
  cases noBlank

/-- Blanks are dropped only behind the last character that is none. -/
theorem trimEnd_append {front : List Char} (solid : ∀ c ∈ front.getLast?, isBlank c = false)
    (rest : List Char) : trimEnd (front ++ rest) = front ++ trimEnd rest := by
  have stays : front.reverse.dropWhile isBlank = front.reverse := by
    rw [← List.head?_reverse] at solid
    cases same : front.reverse with
    | nil => rfl
    | cons c others =>
      rw [same] at solid
      exact List.dropWhile_cons_of_neg (by simp [solid c rfl])
  unfold trimEnd
  rw [List.reverse_append, List.dropWhile_append]
  split
  · next empty =>
    rw [List.isEmpty_iff.1 empty, stays, List.reverse_reverse]
    simp
  · rw [List.reverse_append, List.reverse_reverse]

theorem trimEnd_concat_newline (text : List Char) : trimEnd (text ++ ['\n']) = trimEnd text := by
  unfold trimEnd
  rw [List.reverse_append, List.reverse_singleton, List.singleton_append,
    List.dropWhile_cons_of_pos isBlank_newline]

theorem mem_of_mem_trimEnd {c : Char} {text : List Char} (member : c ∈ trimEnd text) : c ∈ text :=
  List.mem_reverse.1 ((List.dropWhile_sublist isBlank).subset (List.mem_reverse.1 member))

/-- The indentation of a line is at most the text in front of a character that does not indent. -/
theorem dropWhile_isIndent_append {c : Char} (noIndent : isIndent c = false)
    (front rest : List Char) :
    (front ++ c :: rest).dropWhile isIndent = front.dropWhile isIndent ++ c :: rest := by
  have stays : (c :: rest).dropWhile isIndent = c :: rest :=
    List.dropWhile_cons_of_neg (by simp [noIndent])
  rw [List.dropWhile_append]
  split
  · next empty => rw [stays, List.isEmpty_iff.1 empty, List.nil_append]
  · rfl

theorem takeWhile_isIndent_append {c : Char} (noIndent : isIndent c = false)
    (front rest : List Char) :
    (front ++ c :: rest).takeWhile isIndent = front.takeWhile isIndent := by
  have stops : (c :: rest).takeWhile isIndent = [] :=
    List.takeWhile_cons_of_neg (by simp [noIndent])
  rw [List.takeWhile_append, stops, List.append_nil]
  split
  · next all => exact ((List.takeWhile_prefix isIndent).eq_of_length all).symm
  · rfl

/-- Every character of an indentation takes one byte. -/
theorem byteLength_takeWhile_isIndent (text : List Char) :
    byteLength (text.takeWhile isIndent) = (text.takeWhile isIndent).length := by
  induction text with
  | nil => rfl
  | cons c text ih =>
    by_cases indent : isIndent c = true
    · have size : c.utf8Size = 1 := by
        simp only [isIndent, Bool.or_eq_true, beq_iff_eq] at indent
        rcases indent with rfl | rfl <;> rfl
      rw [List.takeWhile_cons_of_pos indent, byteLength_cons, ih, size, List.length_cons,
        Nat.add_comm]
    · rw [List.takeWhile_cons_of_neg indent]
      rfl

end ScriptFrontend.Text
