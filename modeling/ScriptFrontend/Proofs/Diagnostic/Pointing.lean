/-
This file shows that a report points at the token that its diagnostic blames.
-/

import ScriptFrontend.Diagnostic.Report
import ScriptFrontend.Proofs.Reading.Attribution
import ScriptFrontend.Proofs.Lexeme.Tiling
import ScriptFrontend.Proofs.Text.Lines
import ScriptFrontend.Proofs.Text.Trimming

namespace ScriptFrontend

open Text

namespace Text

theorem newline_not_mem_repr (number : Nat) : '\n' ∉ number.repr.toList := by
  rw [Nat.toList_repr]
  intro member
  have digit := Nat.isDigit_of_mem_toDigits (by decide) (by decide) member
  exact absurd digit (by decide)

theorem newline_not_mem_append {first second : String} (left : '\n' ∉ first.toList)
    (right : '\n' ∉ second.toList) : '\n' ∉ (first ++ second).toList := by
  rw [String.toList_append, List.mem_append, not_or]
  exact ⟨left, right⟩

end Text

namespace Diagnostic

/-- What a report shows of a line is a row of its own. -/
theorem newline_not_mem_shownLine {row : List Char} (clean : '\n' ∉ row) (rest : List Char) :
    '\n' ∉ (shownLine (row ++ throughNewline rest)).toList := by
  rw [shownLine, String.toList_ofList]
  intro member
  obtain ⟨front, frontClean, same | same⟩ := throughNewline_eq rest
  · rw [same] at member
    have inside := (List.dropWhile_sublist isIndent).subset (mem_of_mem_trimEnd member)
    exact (List.mem_append.1 inside).elim clean frontClean
  · rw [same, ← List.append_assoc, dropWhile_isIndent_append rfl, trimEnd_concat_newline] at member
    have inside := (List.dropWhile_sublist isIndent).subset (mem_of_mem_trimEnd member)
    exact (List.mem_append.1 inside).elim clean frontClean

/-- The text at the column of a line is shown behind as many bytes as the caret has dashes. -/
theorem exists_tail_shownLine {text : List Char} (present : text ≠ [])
    (solid : ∀ c ∈ text, isBlank c = false) (number : Nat) (row rest : List Char) :
    ∃ tail, dropBytes? (caretColumn ⟨number, row ++ throughNewline (text ++ rest), byteLength row⟩)
      (shownLine (row ++ throughNewline (text ++ rest))).toList = some (text ++ tail) := by
  obtain ⟨c, others, rfl⟩ := List.exists_cons_of_ne_nil present
  have noIndent : isIndent c = false := by
    refine Bool.eq_false_iff.2 fun indent => ?_
    have blank := isBlank_of_isIndent indent
    rw [solid c List.mem_cons_self] at blank
    cases blank
  have ends : ∀ last ∈ (row.dropWhile isIndent ++ c :: others).getLast?, isBlank last = false := by
    intro last here
    rw [List.getLast?_append_of_ne_nil _ (List.cons_ne_nil c others)] at here
    exact solid last (List.mem_of_getLast? here)
  have column : byteLength row - (row.takeWhile isIndent).length =
      byteLength (row.dropWhile isIndent) := by
    have whole : byteLength (row.takeWhile isIndent ++ row.dropWhile isIndent) =
        byteLength row := by rw [List.takeWhile_append_dropWhile]
    rw [byteLength_append, byteLength_takeWhile_isIndent] at whole
    omega
  refine ⟨trimEnd (throughNewline rest), ?_⟩
  rw [throughNewline_append (newline_not_mem_of_solid solid), caretColumn, shownLine,
    String.toList_ofList, List.cons_append, takeWhile_isIndent_append noIndent,
    dropWhile_isIndent_append noIndent, column, ← List.cons_append, ← List.append_assoc,
    trimEnd_append ends, List.append_assoc, dropBytes?_append]

theorem newline_not_mem_kind : ∀ kind : Token.Kind, '\n' ∉ kind.name.toList := by
  intro kind
  cases kind <;> decide

theorem newline_not_mem_name (diagnostic : Diagnostic) : '\n' ∉ diagnostic.name.toList := by
  unfold name Problem.name
  split <;> decide

/-- A tip quotes a token, a kind or a number, and none of them has a newline. -/
theorem newline_not_mem_tip {diagnostic : Diagnostic} {token : Token} {tip : String}
    (blames : diagnostic.Blames token) (worded : diagnostic.Worded)
    (clean : '\n' ∉ token.text.toList) (tipped : diagnostic.tip? = some tip) :
    '\n' ∉ tip.toList := by
  obtain ⟨problem, position⟩ := diagnostic
  obtain ⟨-, holds⟩ := blames
  cases problem with
  | unrecognised => cases tipped
  | cannotBeginExpression text =>
    obtain rfl : _ = tip := Option.some.inj tipped
    obtain ⟨rfl, -⟩ := holds
    exact newline_not_mem_append (newline_not_mem_append (by decide) clean) (by decide)
  | unexpected text message =>
    obtain rfl : _ = tip := Option.some.inj tipped
    obtain ⟨rfl, -⟩ := holds
    obtain rfl : message = "expected identifier" := worded
    exact newline_not_mem_append
      (newline_not_mem_append (newline_not_mem_append (by decide) clean) (by decide)) (by decide)
  | missing expected found =>
    obtain rfl : _ = tip := Option.some.inj tipped
    obtain ⟨rfl, kind, rfl, -⟩ := holds
    exact newline_not_mem_append (newline_not_mem_append (newline_not_mem_append
      (newline_not_mem_append (by decide) (newline_not_mem_kind kind)) (by decide)) clean)
      (by decide)
  | integerOutOfRange text =>
    obtain rfl : _ = tip := Option.some.inj tipped
    obtain ⟨rfl, -⟩ := holds
    exact newline_not_mem_append (newline_not_mem_append (by decide) clean) (by decide)
  | nestingTooDeep limit =>
    obtain rfl : _ = tip := Option.some.inj tipped
    exact newline_not_mem_append
      (newline_not_mem_append (by decide) (newline_not_mem_repr limit)) (by decide)

/-- The first row of a report names the problem and adds the tip if there is one. -/
def headingRow (diagnostic : Diagnostic) : String :=
  match diagnostic.tip? with
  | none => "Error: " ++ diagnostic.name
  | some tip => "Error: " ++ diagnostic.name ++ " (" ++ tip ++ ")"

theorem heading_eq (diagnostic : Diagnostic) :
    diagnostic.heading = diagnostic.headingRow ++ "\n" := by
  unfold heading headingRow
  cases diagnostic.tip? with
  | none => rfl
  | some tip =>
    dsimp only
    rw [@String.append_assoc _ ")" "\n"]
    rfl

theorem newline_not_mem_headingRow {diagnostic : Diagnostic} {token : Token}
    (blames : diagnostic.Blames token) (worded : diagnostic.Worded)
    (clean : '\n' ∉ token.text.toList) : '\n' ∉ diagnostic.headingRow.toList := by
  have named : '\n' ∉ ("Error: " ++ diagnostic.name).toList :=
    newline_not_mem_append (by decide) diagnostic.newline_not_mem_name
  unfold headingRow
  cases tipped : diagnostic.tip? with
  | none => exact named
  | some tip =>
    have tipClean := newline_not_mem_tip blames worded clean tipped
    exact newline_not_mem_append
      (newline_not_mem_append (newline_not_mem_append named (by decide)) tipClean) (by decide)

/-- The rows of a report are the heading, the file, a gutter, the numbered line and the caret behind
its dashes. -/
def rows (diagnostic : Diagnostic) (number dashes : Nat) (shown : List Char) : List (List Char) :=
  [diagnostic.headingRow.toList, ("-> " ++ diagnostic.position.file).toList,
    (gutter number).toList, (number.repr ++ " | ").toList ++ shown,
    (gutter number ++ " ").toList ++ (List.replicate dashes '-' ++ ['^'])]

theorem report_eq_rows {diagnostic : Diagnostic} {source : String} {place : Text.Place}
    (located : locate? source diagnostic.position.offset.toNat = some place) :
    (diagnostic.report source).toList =
      writeRows (diagnostic.rows place.number (caretColumn place)
        (shownLine place.line).toList) := by
  simp [report, located, picture, rows, heading_eq]

theorem newline_not_mem_gutter (number : Nat) : '\n' ∉ (gutter number).toList := by
  simp [gutter]

/-- No row of a report that blames a token without a newline has one. -/
theorem newline_not_mem_rows {diagnostic : Diagnostic} {token : Token}
    (blames : diagnostic.Blames token) (worded : diagnostic.Worded)
    (clean : '\n' ∉ token.text.toList) (named : '\n' ∉ diagnostic.position.file.toList)
    {shown : List Char} (plain : '\n' ∉ shown) (number dashes : Nat) :
    ∀ row ∈ diagnostic.rows number dashes shown, '\n' ∉ row := by
  have picture : '\n' ∉ (number.repr ++ " | ").toList :=
    newline_not_mem_append (newline_not_mem_repr number) (by decide)
  have below : '\n' ∉ (gutter number ++ " ").toList :=
    newline_not_mem_append (newline_not_mem_gutter number) (by decide)
  unfold rows
  simp only [List.forall_mem_cons, List.mem_append, not_or]
  refine ⟨newline_not_mem_headingRow blames worded clean,
    newline_not_mem_append (by decide) named, newline_not_mem_gutter number, ⟨picture, plain⟩,
    ⟨below, ?_, by decide⟩, List.forall_mem_nil _⟩
  intro member
  exact absurd (List.eq_of_mem_replicate member) (by decide)

/-- What it means that the report of a failure points at a token. The number of the line counts the
newlines before the failure, and no row has a newline of its own. -/
structure PointsAt (failure : Diagnostic) (source file : String) (token : Token)
    (before : List Char) (dashes : Nat) (shown : List Char) : Prop where
  file : failure.position.file = file
  front : before <+: source.toList
  place : byteLength before = failure.position.offset.toNat
  report : (failure.report source).toList =
    writeRows (failure.rows (1 + before.count '\n') dashes shown)
  clean : ∀ row ∈ failure.rows (1 + before.count '\n') dashes shown, '\n' ∉ row
  blames : failure.Blames token
  /-- The dashes end where the line shows the token, but nothing shows the end of the script. -/
  below : failure.position.offset.toNat ≠ byteLength source.toList →
    ∃ tail, dropBytes? dashes shown = some (token.text.toList ++ tail)

/-- Every failure of a script was found where the token that it blames is written, or at the end of
the script. -/
theorem exists_written {source file : String} (small : byteLength source.toList < UInt32.size)
    {limit : Nat} {failure : Diagnostic}
    (member : failure ∈ (readScript source file limit).errors) :
    ∃ token ∈ tokenize source file, failure.Blames token ∧ token.text.toList ≠ [] ∧
      (∀ c ∈ token.text.toList, isBlank c = false) ∧
      ∃ before rest, source.toList = before ++ rest ∧
        failure.position = Position.ofByte (byteLength before) file ∧
        failure.position.offset.toNat = byteLength before ∧
        (rest = [] ∨ token.text.toList <+: rest) := by
  obtain ⟨indices, attribution⟩ := exists_attribution (tokenize source file) file limit
  rw [withEnd_tokenize] at attribution
  obtain ⟨token, present, blames⟩ := attribution.exists_blamed member
  obtain ⟨extents, tiles⟩ := exists_tiles_tokenize source file
  obtain ⟨nonempty, solid⟩ := tiles.solid token present
  obtain ⟨before, rest, split, start, spelled⟩ := tiles.exists_split token present
  rw [Nat.zero_add] at start
  have position : failure.position = Position.ofByte (byteLength before) file :=
    blames.1.trans start
  refine ⟨token, present, blames, nonempty, solid, before, rest, split, position, ?_, spelled⟩
  rw [split, byteLength_append] at small
  rw [position]
  exact Position.ofByte_offset file (by omega)

end Diagnostic

/-- The second line is indented, and the name in it has a character of two bytes. -/
def indentedScript : String :=
  "let a = 1;\n  \tlet ü = a;\n"

/-- The name of the second line is no identifier. -/
def misnamed : Diagnostic :=
  ⟨.unexpected "ü" "expected identifier", Position.ofByte 18 "indented"⟩

end ScriptFrontend
