/-
This file counts how deep the canonical form of a tree nests.
-/

import ScriptFrontend.Tree.Basic

namespace ScriptFrontend

mutual

/-- Every operation pays one level for its own parentheses. Apart from these a left operand and a
callee lie as deep as the whole expression, and all other parts lie one level deeper. -/
def Expression.depth : Expression → Nat
  | .identifier _ | .integer _ _ | .boolean _ _ => 1
  | .unary _ operand _ => operand.depth + 1 + 1
  | .binary left _ right _ => max left.depth (right.depth + 1) + 1
  | .conditional _ condition consequence alternative _ =>
    max (condition.depth + 1) (max (consequence.depth + 1) (Block.depthOptional alternative))
  | .function _ _ body _ => body.depth + 1
  | .call callee _ arguments _ => max callee.depth (Expression.depthEach arguments)

def Expression.depthEach : List Expression → Nat
  | [] => 0
  | expression :: others => max (expression.depth + 1) (Expression.depthEach others)

def Expression.depthOptional : Option Expression → Nat
  | none => 0
  | some expression => expression.depth

/-- A statement lies as deep as its value. -/
def Statement.depth : Statement → Nat
  | .binding _ _ value _ => value.depth
  | .returning _ value _ => Expression.depthOptional value
  | .expression _ expression _ => expression.depth

def Statement.depthEach : List Statement → Nat
  | [] => 0
  | statement :: others => max statement.depth (Statement.depthEach others)

def Block.depth : Block → Nat
  | .braces _ statements _ => Statement.depthEach statements + 1

def Block.depthOptional : Option Block → Nat
  | none => 0
  | some block => block.depth + 1

end

/-- The room that the canonical form of a program needs. -/
def Program.depth (program : Program) : Nat :=
  Statement.depthEach program.statements

end ScriptFrontend
