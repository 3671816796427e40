/-
This file reads expressions by the binding powers of their operators.
-/

import ScriptFrontend.Grammar.RuleTable
import ScriptFrontend.Reading.Rule
import ScriptFrontend.Text.Integer
import ScriptFrontend.Tree.Basic

namespace ScriptFrontend

/-- The two rules that open one more level of nesting, as the rules of this level see them. -/
structure Nested where
  expression : BindingPower → Rule Expression
  block : Rule Block

namespace Rule

open Text

/-- A literal is an integer that fits, an identifier or a truth value. -/
def literal : Rule Expression := do
  let token ← current
  match token.kind with
  | .integer =>
    match readInteger? token.text with
    | some value =>
      let _ ← advance
      return .integer token value
    | none => throw ⟨.integerOutOfRange token.text, token.span.start⟩
  | .identifier => return .identifier (← advance)
  | .trueKeyword => return .boolean (← advance) true
  | .falseKeyword => return .boolean (← advance) false
  | _ => throw ⟨.cannotBeginExpression token.text, token.span.start⟩

/-- The operand of a unary operator takes in calls but no binary operation. -/
def unary (inner : Nested) : Rule Expression := do
  let operator ← advance
  let operand ← inner.expression .unary
  return .unary operator operand ⟨operator.span.start, operand.span.stop⟩

def grouping (inner : Nested) : Rule Expression := do
  let _ ← advance
  let expression ← inner.expression .lowest
  let _ ← expect .closeParen
  return expression

/-- The second block of a conditional follows its own keyword or is absent. -/
def alternative (inner : Nested) : Rule (Option Block) := do
  if ← skipOptional .elseKeyword then return some (← inner.block) else return none

def conditional (inner : Nested) : Rule Expression := do
  let token ← advance
  let _ ← expect .openParen
  let condition ← inner.expression .lowest
  let _ ← expect .closeParen
  let consequence ← inner.block
  let alternative ← alternative inner
  return .conditional token condition consequence alternative ⟨token.span.start, ← lastEnd⟩

def function (inner : Nested) : Rule Expression := do
  let token ← advance
  let _ ← expect .openParen
  let parameters ← parenthesized (expect .identifier)
  let body ← inner.block
  return .function token parameters body ⟨token.span.start, ← lastEnd⟩

/-- The right operand takes only operators that bind tighter, so that equal operators group to the
left. -/
def binary (inner : Nested) (power : BindingPower) (left : Expression) : Rule Expression := do
  let operator ← advance
  let right ← inner.expression power
  return .binary left operator right ⟨left.span.start, right.span.stop⟩

def call (inner : Nested) (callee : Expression) : Rule Expression := do
  let token ← advance
  let arguments ← parenthesized (inner.expression .lowest)
  return .call callee token arguments ⟨callee.span.start, ← lastEnd⟩

def leading (inner : Nested) : LeadingRule → Rule Expression
  | .literal => literal
  | .unary => unary inner
  | .grouping => grouping inner
  | .conditional => conditional inner
  | .function => function inner

def following (inner : Nested) (power : BindingPower) (left : Expression) :
    FollowingRule → Rule Expression
  | .binary => binary inner power left
  | .call => call inner left

/-- An expression begins with a token that has a leading rule. -/
def opening (inner : Nested) : Rule Expression := do
  let token ← current
  match RuleTable.standard.leading token.kind with
  | some rule => leading inner rule
  | none =>
    if token.kind = .illegal then throw ⟨.unrecognised token.text, token.span.start⟩
    else throw ⟨.cannotBeginExpression token.text, token.span.start⟩

/-- The expression grows as long as the next operator binds tighter than the power. Every round
consumes an operator, so there are at most as many rounds as unread tokens. -/
def climb (inner : Nested) (power : BindingPower) : Nat → Expression → Rule Expression
  | 0, left => return left
  | rounds + 1, left => do
    match RuleTable.standard.following (← current).kind with
    | none => return left
    | some (strength, rule) =>
      if power < strength then
        climb inner power rounds (← following inner strength left rule)
      else return left

def expression (inner : Nested) (power : BindingPower) : Rule Expression := do
  let left ← opening inner
  climb inner power (← unread) left

end Rule

end ScriptFrontend
