/-
This file relates the lines of a text to its newlines.
-/

import ScriptFrontend.Text.Blank
import ScriptFrontend.Text.Lines

namespace ScriptFrontend.Text

/-- Every row is written with a newline behind it. -/
def writeRows (rows : List (List Char)) : List Char :=
  rows.flatMap fun row => row ++ ['\n']

@[simp] theorem writeRows_nil : writeRows [] = [] := rfl

@[simp] theorem writeRows_cons (row : List Char) (rows : List (List Char)) :
    writeRows (row :: rows) = row ++ '\n' :: writeRows rows := by
  simp [writeRows]

/-- A text is some rows and what stands behind the last newline. -/
theorem exists_rows (text : List Char) : ∃ rows last, text = writeRows rows ++ last ∧
    (∀ row ∈ rows, '\n' ∉ row) ∧ '\n' ∉ last ∧ rows.length = text.count '\n' := by
  induction text with
  | nil => exact ⟨[], [], rfl, List.forall_mem_nil _, List.not_mem_nil, rfl⟩
  | cons c text ih =>
    obtain ⟨rows, last, rfl, clean, lastClean, length⟩ := ih
    by_cases newline : c = '\n'
    · subst newline
      refine ⟨[] :: rows, last, rfl, ?_, lastClean, ?_⟩
      · exact List.forall_mem_cons.2 ⟨List.not_mem_nil, clean⟩
      · rw [List.count_cons_self, List.length_cons, length]
    · have other : '\n' ≠ c := Ne.symm newline
      have count : (c :: (writeRows rows ++ last)).count '\n' = rows.length := by
        rw [List.count_cons_of_ne newline, length]
      cases rows with
      | nil => exact ⟨[], c :: last, rfl, clean, by simp [other, lastClean], count.symm⟩
      | cons row rows =>
        obtain ⟨first, others⟩ := List.forall_mem_cons.1 clean
        refine ⟨(c :: row) :: rows, last, by simp, ?_, lastClean, count.symm⟩
        exact List.forall_mem_cons.2 ⟨by simp [other, first], others⟩

theorem lines_of_row {row : List Char} (clean : '\n' ∉ row) : lines row = [row] := by
  induction row with
  | nil => rfl
  | cons c row ih =>
    rw [List.mem_cons, not_or] at clean
    rw [lines, if_neg (Ne.symm clean.1), ih clean.2]

theorem lines_append_newline {row : List Char} (rest : List Char) (clean : '\n' ∉ row) :
    lines (row ++ '\n' :: rest) = (row ++ ['\n']) :: lines rest := by
  induction row with
  | nil => simp [lines]
  | cons c row ih =>
    rw [List.mem_cons, not_or] at clean
    rw [List.cons_append, lines, if_neg (Ne.symm clean.1), ih clean.2]
    rfl

/-- Every row in front adds to the number of the line. -/
theorem locateIn_rows {rows : List (List Char)} (clean : ∀ row ∈ rows, '\n' ∉ row)
    (number : Nat) (rest : List Char) (byte : Nat) :
    locateIn number (lines (writeRows rows ++ rest)) (byteLength (writeRows rows) + byte) =
      locateIn (number + rows.length) (lines rest) byte := by
  induction rows generalizing number with
  | nil => simp
  | cons row rows ih =>
    obtain ⟨first, others⟩ := List.forall_mem_cons.1 clean
    obtain ⟨next, more, some⟩ := List.exists_cons_of_ne_nil (lines_ne_nil (writeRows rows ++ rest))
    have beyond : ¬ byteLength (writeRows (row :: rows)) + byte < byteLength (row ++ ['\n']) := by
      simp only [writeRows_cons, byteLength_append, byteLength_cons, byteLength_nil]
      omega
    have remains : byteLength (writeRows (row :: rows)) + byte - byteLength (row ++ ['\n']) =
        byteLength (writeRows rows) + byte := by
      simp only [writeRows_cons, byteLength_append, byteLength_cons, byteLength_nil]
      omega
    have onward := ih others (number + 1)
    rw [some] at onward
    rw [writeRows_cons, List.append_assoc, List.cons_append, lines_append_newline _ first, some,
      ← writeRows_cons, locateIn, if_neg beyond, remains, onward, List.length_cons,
      Nat.add_right_comm, Nat.add_assoc]

theorem newline_not_mem_takeWhile (text : List Char) : '\n' ∉ text.takeWhile (· != '\n') := by
  intro member
  have other := List.all_eq_true.1 List.all_takeWhile '\n' member
  simp at other

theorem dropWhile_eq_newline (text : List Char) :
    text.dropWhile (· != '\n') = [] ∨ ∃ rest, text.dropWhile (· != '\n') = '\n' :: rest := by
  have stops := List.head?_dropWhile_not (· != '\n') text
  cases behind : text.dropWhile (· != '\n') with
  | nil => exact .inl rfl
  | cons c rest =>
    rw [behind] at stops
    obtain rfl : c = '\n' := by simpa using stops
    exact .inr ⟨rest, rfl⟩

/-- The text up to the next newline, which belongs to it, or to the end. -/
def throughNewline (text : List Char) : List Char :=
  text.takeWhile (· != '\n') ++ (text.dropWhile (· != '\n')).take 1

/-- A text without a newline is a part of what it is written in front of. -/
theorem throughNewline_append {row : List Char} (clean : '\n' ∉ row) (rest : List Char) :
    throughNewline (row ++ rest) = row ++ throughNewline rest := by
  have inside : ∀ c ∈ row, (c != '\n') = true := by
    intro c member
    rw [bne_iff_ne]
    rintro rfl
    exact clean member
  rw [throughNewline, List.takeWhile_append_of_pos inside, List.dropWhile_append_of_pos inside,
    List.append_assoc, throughNewline]

/-- Only the end of it may be a newline. -/
theorem throughNewline_eq (text : List Char) : ∃ row, '\n' ∉ row ∧
    (throughNewline text = row ∨ throughNewline text = row ++ ['\n']) := by
  refine ⟨text.takeWhile (· != '\n'), newline_not_mem_takeWhile text, ?_⟩
  rw [throughNewline]
  obtain nothing | ⟨rest, newline⟩ := dropWhile_eq_newline text
  · rw [nothing]
    exact .inl (List.append_nil _)
  · rw [newline]
    exact .inr rfl

/-- What is left of the first line, behind a part of it, is the text through the next newline. -/
theorem locateIn_row {row : List Char} (clean : '\n' ∉ row) (number : Nat) (rest : List Char) :
    locateIn number (lines (row ++ rest)) (byteLength row) =
      some ⟨number, row ++ throughNewline rest, byteLength row⟩ := by
  have whole : '\n' ∉ row ++ rest.takeWhile (· != '\n') := by
    rw [List.mem_append, not_or]
    exact ⟨clean, newline_not_mem_takeWhile rest⟩
  have split : row ++ rest =
      row ++ rest.takeWhile (· != '\n') ++ rest.dropWhile (· != '\n') := by
    rw [List.append_assoc, List.takeWhile_append_dropWhile]
  rw [split, throughNewline]
  obtain nothing | ⟨more, newline⟩ := dropWhile_eq_newline rest
  · rw [nothing, List.append_nil, lines_of_row whole, locateIn, if_pos (by simp)]
    simp
  · obtain ⟨next, others, some⟩ := List.exists_cons_of_ne_nil (lines_ne_nil more)
    have positive := Char.utf8Size_pos '\n'
    rw [newline, lines_append_newline more whole, some, locateIn, if_pos]
    · simp
    · simp only [byteLength_append, byteLength_cons, byteLength_nil]
      omega

/-- Where a text is split, the number of the line counts the newlines in front, and the line has the
column behind the last of them. -/
theorem exists_locate? (before rest : List Char) : ∃ row, '\n' ∉ row ∧
    locate? (String.ofList (before ++ rest)) (byteLength before) =
      some ⟨1 + before.count '\n', row ++ throughNewline rest, byteLength row⟩ := by
  obtain ⟨rows, last, same, clean, lastClean, length⟩ := exists_rows before
  refine ⟨last, lastClean, ?_⟩
  rw [← length, same, locate?, String.toList_ofList, List.append_assoc, byteLength_append,
    locateIn_rows clean, locateIn_row lastClean]

end ScriptFrontend.Text
