/-
This file describes trees and failures by the indices of the tokens that they are made of.
-/

import ScriptFrontend.Script

namespace ScriptFrontend

variable {size : Nat}

/-- A place in a script is where one of its tokens starts or stops. -/
inductive Place (size : Nat) where
  | start (index : Fin size)
  | stop (index : Fin size)

def Place.fill (tokens : Fin size → Token) : Place size → Position
  | start index => (tokens index).span.start
  | stop index => (tokens index).span.stop

/-- A stretch is a span between two places. -/
structure Stretch (size : Nat) where
  start : Place size
  stop : Place size

def Stretch.fill (tokens : Fin size → Token) (stretch : Stretch size) : Span :=
  ⟨stretch.start.fill tokens, stretch.stop.fill tokens⟩

mutual

/-- The plan of an expression has an index wherever the expression has a token. Only the values of
literals are a part of it. -/
inductive Expression.Plan (size : Nat) where
  | identifier (token : Fin size)
  | integer (token : Fin size) (value : Int64)
  | boolean (token : Fin size) (value : Bool)
  | unary (operator : Fin size) (operand : Expression.Plan size) (span : Stretch size)
  | binary (left : Expression.Plan size) (operator : Fin size) (right : Expression.Plan size)
      (span : Stretch size)
  | conditional (token : Fin size) (condition : Expression.Plan size)
      (consequence : Block.Plan size) (alternative : Option (Block.Plan size)) (span : Stretch size)
  | function (token : Fin size) (parameters : List (Fin size)) (body : Block.Plan size)
      (span : Stretch size)
  | call (callee : Expression.Plan size) (token : Fin size) (arguments : List (Expression.Plan size))
      (span : Stretch size)

inductive Statement.Plan (size : Nat) where
  | binding (token : Fin size) (name : Fin size) (value : Expression.Plan size)
      (span : Stretch size)
  | returning (token : Fin size) (value : Option (Expression.Plan size)) (span : Stretch size)
  | expression (token : Fin size) (expression : Expression.Plan size) (span : Stretch size)

inductive Block.Plan (size : Nat) where
  | braces (token : Fin size) (statements : List (Statement.Plan size)) (span : Stretch size)

end

section Fill

variable (tokens : Fin size → Token)

mutual

/-- Tokens turn the plan of an expression into an expression. -/
def Expression.Plan.fill : Expression.Plan size → Expression
  | .identifier token => .identifier (tokens token)
  | .integer token value => .integer (tokens token) value
  | .boolean token value => .boolean (tokens token) value
  | .unary operator operand span => .unary (tokens operator) operand.fill (span.fill tokens)
  | .binary left operator right span =>
    .binary left.fill (tokens operator) right.fill (span.fill tokens)
  | .conditional token condition consequence alternative span =>
    .conditional (tokens token) condition.fill consequence.fill
      (Block.Plan.fillOptional alternative) (span.fill tokens)
  | .function token parameters body span =>
    .function (tokens token) (parameters.map tokens) body.fill (span.fill tokens)
  | .call callee token arguments span =>
    .call callee.fill (tokens token) (Expression.Plan.fillEach arguments) (span.fill tokens)

def Expression.Plan.fillEach : List (Expression.Plan size) → List Expression
  | [] => []
  | plan :: others => plan.fill :: Expression.Plan.fillEach others

def Expression.Plan.fillOptional : Option (Expression.Plan size) → Option Expression
  | none => none
  | some plan => some plan.fill

def Statement.Plan.fill : Statement.Plan size → Statement
  | .binding token name value span =>
    .binding (tokens token) (tokens name) value.fill (span.fill tokens)
  | .returning token value span =>
    .returning (tokens token) (Expression.Plan.fillOptional value) (span.fill tokens)
  | .expression token expression span =>
    .expression (tokens token) expression.fill (span.fill tokens)

def Statement.Plan.fillEach : List (Statement.Plan size) → List Statement
  | [] => []
  | plan :: others => plan.fill :: Statement.Plan.fillEach others

def Block.Plan.fill : Block.Plan size → Block
  | .braces token statements span =>
    .braces (tokens token) (Statement.Plan.fillEach statements) (span.fill tokens)

def Block.Plan.fillOptional : Option (Block.Plan size) → Option Block
  | none => none
  | some plan => some plan.fill

end

theorem Expression.Plan.fillEach_eq_map (plans : List (Expression.Plan size)) :
    Expression.Plan.fillEach tokens plans = plans.map fun plan => plan.fill tokens := by
  induction plans with
  | nil => rfl
  | cons plan others ih => simp [Expression.Plan.fillEach, ih]

theorem Statement.Plan.fillEach_eq_map (plans : List (Statement.Plan size)) :
    Statement.Plan.fillEach tokens plans = plans.map fun plan => plan.fill tokens := by
  induction plans with
  | nil => rfl
  | cons plan others ih => simp [Statement.Plan.fillEach, ih]

theorem Expression.Plan.fillOptional_eq_map (plan : Option (Expression.Plan size)) :
    Expression.Plan.fillOptional tokens plan = plan.map fun plan => plan.fill tokens := by
  cases plan <;> rfl

theorem Block.Plan.fillOptional_eq_map (plan : Option (Block.Plan size)) :
    Block.Plan.fillOptional tokens plan = plan.map fun plan => plan.fill tokens := by
  cases plan <;> rfl

/-- A literal stretches over its token. -/
def Expression.Plan.span : Expression.Plan size → Stretch size
  | .identifier token | .integer token _ | .boolean token _ => ⟨.start token, .stop token⟩
  | .unary _ _ span | .binary _ _ _ span | .conditional _ _ _ _ span | .function _ _ _ span
  | .call _ _ _ span => span

@[simp] theorem Expression.Plan.span_fill (plan : Expression.Plan size) :
    (plan.fill tokens).span = plan.span.fill tokens := by
  cases plan <;> rfl

end Fill

/-- The plan of a problem leaves out the text of the token that is blamed. -/
inductive Diagnostic.Problem.Plan where
  | unrecognised
  | cannotBeginExpression
  | unexpected (message : String)
  | missing (expected : String)
  | integerOutOfRange
  | nestingTooDeep (limit : Nat)

def Diagnostic.Problem.Plan.fill (text : String) : Problem.Plan → Problem
  | unrecognised => .unrecognised text
  | cannotBeginExpression => .cannotBeginExpression text
  | unexpected message => .unexpected text message
  | missing expected => .missing expected text
  | integerOutOfRange => .integerOutOfRange text
  | nestingTooDeep limit => .nestingTooDeep limit

/-- A failure blames one token, with its text and at its start. -/
structure Diagnostic.Plan (size : Nat) where
  problem : Diagnostic.Problem.Plan
  token : Fin size

def Diagnostic.Plan.fill (tokens : Fin size → Token) (plan : Diagnostic.Plan size) : Diagnostic :=
  ⟨plan.problem.fill (tokens plan.token).text, (tokens plan.token).span.start⟩

/-- The plan of a reading leaves out the events, and the program stops with some token. -/
structure Reading.Plan (size : Nat) where
  statements : List (Statement.Plan size)
  errors : List (Diagnostic.Plan size)
  last : Fin size

/-- A plan describes a reading when its program and its failures are the ones that the tokens turn
the plan into. Only the start of the program is not taken from a token. -/
structure Reading.Plan.Describes (plan : Reading.Plan size) (tokens : Fin size → Token)
    (file : String) (reading : Reading) : Prop where
  statements : reading.program.statements = plan.statements.map fun part => part.fill tokens
  span : reading.program.span = ⟨Position.ofByte 0 file, (tokens plan.last).span.stop⟩
  errors : reading.errors = plan.errors.map fun part => part.fill tokens

end ScriptFrontend
