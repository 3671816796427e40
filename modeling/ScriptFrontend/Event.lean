/-
This file defines what reading a script tells about its course.
-/

import ScriptFrontend.Diagnostic.Basic
import ScriptFrontend.Token

namespace ScriptFrontend

open Text

/-- An event is one step in reading a script that an observer may see. -/
inductive Event where
  | illegalCharacter (character : Char) (file : String) (byte : Nat)
  | started (tokens : Nat) (file : String)
  | statementKeyword (kind : Token.Kind)
  | failed (diagnostic : Diagnostic)
  | resynchronized (index : Nat) (token : Token)
  | finished (statements : Nat) (file : String) (errors : Nat)
  deriving DecidableEq

namespace Event

/-- The start and the end of a reading are information, and the rest is detail. -/
inductive Level where
  | info
  | debug
  deriving DecidableEq

def Level.name : Level → String
  | info => "INFO"
  | debug => "DEBUG"

def level : Event → Level
  | started _ _ | finished _ _ _ => .info
  | _ => .debug

def message : Event → String
  | illegalCharacter character file byte =>
    "illegal character " ++ quoteChar character ++ " at " ++ file ++ ":" ++ byte.repr
  | started tokens file => "parsing " ++ tokens.repr ++ " tokens from " ++ file
  | statementKeyword kind => "parsing " ++ kind.name ++ " statement"
  | failed diagnostic =>
    "parse error at " ++ diagnostic.position.file ++ ":" ++
      diagnostic.position.offset.toNat.repr ++ ": " ++ diagnostic.message
  | resynchronized index token =>
    "resynchronized at token " ++ index.repr ++ " (" ++ token.describe ++ ")"
  | finished statements file errors =>
    "parsed " ++ statements.repr ++ " statements from " ++ file ++ " with " ++ errors.repr ++
      " errors"

end Event

end ScriptFrontend
