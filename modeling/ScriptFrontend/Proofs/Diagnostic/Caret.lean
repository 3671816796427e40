/-
This file compares the dashes of a report with the characters that stand above them.
-/

import ScriptFrontend.Proofs.Diagnostic.Pointing

namespace ScriptFrontend

open Text

namespace Text

theorem length_le_byteLength (text : List Char) : text.length ≤ byteLength text := by
  induction text with
  | nil => exact Nat.le_refl 0
  | cons c text ih =>
    have positive := c.utf8Size_pos
    rw [List.length_cons, byteLength_cons]
    omega

/-- A text has as many bytes as characters only when each of them takes a single byte. -/
theorem byteLength_eq_length_iff (text : List Char) :
    byteLength text = text.length ↔ ∀ c ∈ text, c.utf8Size = 1 := by
  induction text with
  | nil => simp
  | cons c text ih =>
    have positive := c.utf8Size_pos
    have enough := length_le_byteLength text
    rw [List.length_cons, byteLength_cons, List.forall_mem_cons, ← ih]
    omega

end Text

namespace Diagnostic

/-- The dashes of a report count the bytes of what stands in front of the token that is blamed. They
are as many as its characters, and the caret stands below the token, only when each character takes a
single byte. -/
theorem dashes_report {source file : String} (small : byteLength source.toList < UInt32.size)
    {limit : Nat} {failure : Diagnostic}
    (member : failure ∈ (readScript source file limit).errors)
    (inside : failure.position.offset.toNat ≠ byteLength source.toList) :
    ∃ token ∈ tokenize source file, failure.Blames token ∧ ∃ number dashes front tail,
      (failure.report source).toList =
        writeRows (failure.rows number dashes (front ++ (token.text.toList ++ tail))) ∧
      dashes = byteLength front ∧
      (dashes = front.length ↔ ∀ c ∈ front, c.utf8Size = 1) := by
  obtain ⟨token, present, blames, nonempty, solid, before, rest, split, -, place, spelled⟩ :=
    exists_written small member
  obtain rfl | ⟨behind, rfl⟩ := spelled
  · rw [split, List.append_nil] at inside
    exact absurd place inside
  obtain ⟨row, -, located⟩ := exists_locate? before (token.text.toList ++ behind)
  rw [← split, String.ofList_toList, ← place] at located
  obtain ⟨tail, shown⟩ :=
    exists_tail_shownLine nonempty solid (1 + before.count '\n') row behind
  obtain ⟨front, line, dashes⟩ := eq_append_of_dropBytes? shown
  refine ⟨token, present, blames, 1 + before.count '\n', byteLength front, front, tail, ?_, rfl, ?_⟩
  · rw [report_eq_rows located, line, ← dashes]
  · exact byteLength_eq_length_iff front

/-- Seven characters stand in front of the token, but the first of them takes two bytes. -/
example : (readScript "é; let = 5;" "shell" 8).errors.map (fun failure =>
      ((failure.report "é; let = 5;").toList.count '-', failure.position.offset)) =
    [(1, 0), (9, 8)] := by
  decide +kernel

end Diagnostic

end ScriptFrontend
