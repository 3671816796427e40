/-
This file writes a tree in its canonical form.
-/

import ScriptFrontend.Tree.Basic

namespace ScriptFrontend

/-- The items of a list are separated by a comma and a space. -/
def commaJoined : List String → String
  | [] => ""
  | [last] => last
  | item :: next :: others => item ++ ", " ++ commaJoined (next :: others)

mutual

/-- Every operation has its own pair of parentheses. -/
def Expression.render : Expression → String
  | .identifier token | .integer token _ => token.text
  | .boolean _ value => if value then "true" else "false"
  | .unary operator operand _ => "(" ++ operator.text ++ operand.render ++ ")"
  | .binary left operator right _ =>
    "(" ++ left.render ++ " " ++ operator.text ++ " " ++ right.render ++ ")"
  | .conditional token condition consequence alternative _ =>
    token.text ++ " (" ++ condition.render ++ ") " ++ consequence.render ++
      Block.renderAlternative alternative
  | .function token parameters body _ =>
    token.text ++ "(" ++ commaJoined (parameters.map Token.text) ++ ") " ++ body.render
  | .call callee _ arguments _ =>
    callee.render ++ "(" ++ commaJoined (Expression.renderEach arguments) ++ ")"

def Expression.renderEach : List Expression → List String
  | [] => []
  | expression :: others => expression.render :: Expression.renderEach others

def Expression.renderOptional : Option Expression → String
  | none => ""
  | some expression => expression.render

/-- A return without a value keeps the space before its semicolon. -/
def Statement.render : Statement → String
  | .binding token name value _ => token.text ++ " " ++ name.text ++ " = " ++ value.render ++ ";"
  | .returning token value _ => token.text ++ " " ++ Expression.renderOptional value ++ ";"
  | .expression _ expression _ => expression.render

def Block.render : Block → String
  | .braces _ statements _ => "\x7b " ++ Statement.renderBody statements ++ "\x7d"

/-- Inside a block every bare expression ends with a semicolon, so that a parenthesis after it does
not continue it. -/
def Statement.renderBody : List Statement → String
  | [] => ""
  | statement :: others =>
    statement.render ++ (if statement.isExpression then "; " else " ") ++
      Statement.renderBody others

def Block.renderAlternative : Option Block → String
  | none => ""
  | some block => " else " ++ block.render

end

/-- At the top of a script only a bare expression that is not the last statement ends with a
semicolon of its own. -/
def Program.renderStatements : List Statement → String
  | [] => ""
  | [last] => last.render
  | statement :: next :: others =>
    statement.render ++ (if statement.isExpression then "; " else "") ++
      Program.renderStatements (next :: others)

def Program.render (program : Program) : String :=
  Program.renderStatements program.statements

theorem Expression.renderEach_eq_map (expressions : List Expression) :
    Expression.renderEach expressions = expressions.map Expression.render := by
  induction expressions with
  | nil => rfl
  | cons expression others ih => simp [Expression.renderEach, ih]

end ScriptFrontend
