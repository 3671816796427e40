/-
This file writes a diagnostic as a report that points into the script.
-/

import ScriptFrontend.Diagnostic.Basic
import ScriptFrontend.Text.Blank
import ScriptFrontend.Text.Lines

namespace ScriptFrontend.Diagnostic

open Text

/-- The heading names the problem and adds the tip if there is one. -/
def heading (diagnostic : Diagnostic) : String :=
  match diagnostic.tip? with
  | none => "Error: " ++ diagnostic.name ++ "\n"
  | some tip => "Error: " ++ diagnostic.name ++ " (" ++ tip ++ ")\n"

/-- The gutter of a line that shows no source is as wide as the number of the line it belongs to. -/
def gutter (number : Nat) : String :=
  String.ofList (List.replicate (number.repr.length + 1) ' ') ++ "|"

/-- The shown line has neither indentation nor blanks at its end. -/
def shownLine (line : List Char) : String :=
  String.ofList (trimEnd (line.dropWhile isIndent))

/-- The caret moves left by the width of the indentation, but not past the first column. -/
def caretColumn (place : Place) : Nat :=
  place.column - (place.line.takeWhile isIndent).length

/-- The picture of a place has a gutter, the line itself, and a caret below it. -/
def picture (place : Place) : String :=
  gutter place.number ++ "\n" ++
    place.number.repr ++ " | " ++ shownLine place.line ++ "\n" ++
    gutter place.number ++ " " ++ String.ofList (List.replicate (caretColumn place) '-') ++ "^\n"

/-- The report has no picture when the position lies outside the source. -/
def report (diagnostic : Diagnostic) (source : String) : String :=
  let opening := diagnostic.heading ++ "-> " ++ diagnostic.position.file ++ "\n"
  match locate? source diagnostic.position.offset.toNat with
  | none => opening
  | some place => opening ++ picture place

end ScriptFrontend.Diagnostic
