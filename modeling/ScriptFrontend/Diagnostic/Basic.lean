/-
This file defines the failures of reading a script and their wording.
-/

import ScriptFrontend.Position
import ScriptFrontend.Text.Quoted

namespace ScriptFrontend

open Text

/-- A problem is the reason why a piece of a script cannot be read. -/
inductive Diagnostic.Problem where
  | unrecognised (token : String)
  | cannotBeginExpression (token : String)
  | unexpected (token message : String)
  | missing (expected found : String)
  | integerOutOfRange (token : String)
  | nestingTooDeep (limit : Nat)
  deriving DecidableEq

/-- A diagnostic is a problem together with the position where it was found. -/
structure Diagnostic where
  problem : Diagnostic.Problem
  position : Position
  deriving DecidableEq

namespace Diagnostic

namespace Problem

def name : Problem → String
  | unrecognised _ => "UnrecognisedToken"
  | cannotBeginExpression _ => "UnexpectedToken"
  | unexpected _ _ => "UnexpectedTokenDetailed"
  | missing _ _ => "ExpectedToken"
  | integerOutOfRange _ => "NumberParseError"
  | nestingTooDeep _ => "StackLimitExceeded"

/-- The message quotes every text of the script. -/
def message : Problem → String
  | unrecognised token => "unrecognised token: " ++ quote token
  | cannotBeginExpression token => "no prefix parse function for " ++ quote token ++ " found"
  | unexpected token message =>
    "unexpected token (" ++ quote message ++ "): " ++ quote token
  | missing expected found =>
    "expected next token to be " ++ expected ++ ", got " ++ quote found ++ " instead"
  | integerOutOfRange token => "could not parse " ++ quote token ++ " as integer"
  | nestingTooDeep limit => "expression nesting exceeds limit of " ++ limit.repr

/-- The tip shows every text of the script as it is. -/
def tip? : Problem → Option String
  | unrecognised _ => none
  | cannotBeginExpression token =>
    some ("Unexpected token: `" ++ token ++ "`, it cannot start an expression")
  | unexpected token message =>
    some ("Unexpected token: `" ++ token ++ "`, " ++ message)
  | missing expected found => some ("Expected " ++ expected ++ ", found `" ++ found ++ "`")
  | integerOutOfRange token =>
    some ("Invalid number: `" ++ token ++ "`, is it above the integer limit?")
  | nestingTooDeep limit =>
    some ("Expressions may nest at most " ++ limit.repr ++ " levels deep")

end Problem

def name (diagnostic : Diagnostic) : String :=
  diagnostic.problem.name

def message (diagnostic : Diagnostic) : String :=
  diagnostic.problem.message

def tip? (diagnostic : Diagnostic) : Option String :=
  diagnostic.problem.tip?

end Diagnostic

end ScriptFrontend
