/-
This file defines the tree of a script.
-/

import ScriptFrontend.Token

namespace ScriptFrontend

mutual

/-- An expression has no form for parentheses, because they only decide its shape. -/
inductive Expression where
  | identifier (token : Token)
  | integer (token : Token) (value : Int64)
  | boolean (token : Token) (value : Bool)
  | unary (operator : Token) (operand : Expression) (span : Span)
  | binary (left : Expression) (operator : Token) (right : Expression) (span : Span)
  | conditional (token : Token) (condition : Expression) (consequence : Block)
      (alternative : Option Block) (span : Span)
  | function (token : Token) (parameters : List Token) (body : Block) (span : Span)
  | call (callee : Expression) (token : Token) (arguments : List Expression) (span : Span)

/-- A statement is a binding, a return or an expression on its own. -/
inductive Statement where
  | binding (token : Token) (name : Token) (value : Expression) (span : Span)
  | returning (token : Token) (value : Option Expression) (span : Span)
  | expression (token : Token) (expression : Expression) (span : Span)

/-- A block is a list of statements between braces. -/
inductive Block where
  | braces (token : Token) (statements : List Statement) (span : Span)

end

namespace Expression

/-- The token that introduces an expression, which is the operator where there is one. -/
def token : Expression → Token
  | identifier token | integer token _ | boolean token _ | conditional token _ _ _ _
  | function token _ _ _ | call _ token _ _ => token
  | unary operator _ _ | binary _ operator _ _ => operator

def span : Expression → Span
  | identifier token | integer token _ | boolean token _ => token.span
  | unary _ _ span | binary _ _ _ span | conditional _ _ _ _ span | function _ _ _ span
  | call _ _ _ span => span

end Expression

namespace Statement

def token : Statement → Token
  | binding token _ _ _ | returning token _ _ | expression token _ _ => token

def span : Statement → Span
  | binding _ _ _ span | returning _ _ span | expression _ _ span => span

/-- A bare expression is the only statement that its own text does not end. -/
def isExpression : Statement → Bool
  | expression _ _ _ => true
  | _ => false

end Statement

namespace Block

def token : Block → Token
  | braces token _ _ => token

def statements : Block → List Statement
  | braces _ statements _ => statements

def span : Block → Span
  | braces _ _ span => span

end Block

/-- A program is the list of the statements at the top of a script. -/
structure Program where
  statements : List Statement
  span : Span

/-- The first statement gives a program its literal, and an empty program has an empty one. -/
def Program.literal (program : Program) : String :=
  match program.statements with
  | [] => ""
  | first :: _ => first.token.text

end ScriptFrontend
