/-
This file reads whole scripts.
-/

import ScriptFrontend.Lexeme
import ScriptFrontend.Reading.Reader

namespace ScriptFrontend

/-- A reading gives the program of the statements that could be read, the failures of the others
and the events in their order. -/
structure Reading where
  program : Program
  errors : List Diagnostic
  events : List Event

/-- Reading tokens never fails as a whole. The program starts at the first byte and stops with the
token that ends the reading. -/
def readTokens (tokens : List Token) (file : String) (limit : Nat) : Reading :=
  let state := Rule.State.ofTokens tokens file
  let (statements, final) := state.statementsUntil (Nested.within limit limit) .endOfInput
  { program := ⟨statements, ⟨Position.ofByte 0 file, final.current.span.stop⟩⟩
    errors := final.errors.toList
    events :=
      .started state.cursor.size file :: final.events.toList ++
        [.finished statements.length file final.errors.size] }

/-- A character that begins no token is an event of its own. -/
def Lexeme.event? (file : String) (lexeme : Lexeme) : Option Event :=
  match lexeme.form, lexeme.text with
  | .illegal, character :: _ => some (.illegalCharacter character file lexeme.start)
  | _, _ => none

/-- The events of cutting a script into tokens come before those of reading the tokens. -/
def readScript (source file : String) (limit : Nat) : Reading :=
  let reading := readTokens (tokenize source file) file limit
  { reading with events := (Lexeme.scan source).filterMap (Lexeme.event? file) ++ reading.events }

end ScriptFrontend
