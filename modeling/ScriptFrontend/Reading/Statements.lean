/-
This file reads statements and goes on after those that fail.
-/

import ScriptFrontend.Reading.Expressions

namespace ScriptFrontend.Rule

def binding (inner : Nested) : Rule Statement := do
  let token ← advance
  let found ← current
  let name ← expectOr .identifier ⟨.unexpected found.text "expected identifier", found.span.start⟩
  let _ ← expect .assignment
  let value ← inner.expression .lowest
  let _ ← skipOptional .semicolon
  return .binding token name value ⟨token.span.start, ← lastEnd⟩

/-- A return has no value when a token follows that ends the statement. -/
def endsReturn : Token.Kind → Bool
  | .semicolon | .closeCurly | .endOfInput => true
  | _ => false

def returned (inner : Nested) : Rule (Option Expression) := do
  if endsReturn (← current).kind then return none
  else return some (← inner.expression .lowest)

def returning (inner : Nested) : Rule Statement := do
  let token ← advance
  let value ← returned inner
  let _ ← skipOptional .semicolon
  return .returning token value ⟨token.span.start, ← lastEnd⟩

/-- The semicolon after an expression is not part of its statement. -/
def bareExpression (inner : Nested) : Rule Statement := do
  let token ← current
  let expression ← inner.expression .lowest
  let _ ← skipOptional .semicolon
  return .expression token expression ⟨token.span.start, expression.span.stop⟩

def statement (inner : Nested) : Rule Statement := do
  let kind := (← current).kind
  match RuleTable.standard.statement kind with
  | none => bareExpression inner
  | some rule =>
    note (.statementKeyword kind)
    match rule with
    | .binding => binding inner
    | .returning => returning inner

/-- A failed statement is skipped up to one of these kinds. -/
def isBoundary (closing : Token.Kind) (kind : Token.Kind) : Bool :=
  kind = .endOfInput || kind = .semicolon || kind = closing

/-- The next boundary is found, and a semicolon there is consumed. -/
def State.skipToBoundary (closing : Token.Kind) (state : State) : State :=
  let found := state.skipWhile fun token => !isBoundary closing token.kind
  let after := if found.current.kind = .semicolon then found.advance else found
  after.note (.resynchronized after.cursor.index after.current)

/-- A statement that failed at its first token loses that token, so that every failure consumes
something, and a lone semicolon is lost without notice. -/
def State.resynchronize (start : Nat) (closing : Token.Kind) (state : State) : State :=
  if state.cursor.index = start then
    if state.current.kind = .semicolon then state.advance
    else state.advance.skipToBoundary closing
  else state.skipToBoundary closing

/-- A statement that fails is recorded and gives no node. Every round consumes a token, so there are
at most as many rounds as unread tokens. -/
def State.statementsIn (inner : Nested) (closing : Token.Kind) :
    Nat → State → List Statement × State
  | 0, state => ([], state)
  | rounds + 1, state =>
    if state.current.kind = .endOfInput ∨ state.current.kind = closing then ([], state)
    else
      match statement inner state with
      | .ok first after =>
        let (others, final) := after.statementsIn inner closing rounds
        (first :: others, final)
      | .error failure after =>
        ((after.record failure).resynchronize state.cursor.index closing).statementsIn
          inner closing rounds

/-- The statements reach up to the closing kind or to the end of the input. -/
def State.statementsUntil (inner : Nested) (closing : Token.Kind) (state : State) :
    List Statement × State :=
  state.statementsIn inner closing state.cursor.ahead.length

/-- A list of statements never fails. -/
def statementsUntil (inner : Nested) (closing : Token.Kind) : Rule (List Statement) :=
  modifyGet (State.statementsUntil inner closing)

theorem statementsUntil_apply (inner : Nested) (closing : Token.Kind) (state : State) :
    statementsUntil inner closing state =
      .ok (state.statementsUntil inner closing).1 (state.statementsUntil inner closing).2 := rfl

/-- Only a missing brace makes a block fail. -/
def block (inner : Nested) : Rule Block := do
  let token ← expect .openCurly
  let statements ← statementsUntil inner .closeCurly
  let _ ← expect .closeCurly
  return .braces token statements ⟨token.span.start, ← lastEnd⟩

/-- Where no room for nesting is left, both rules fail at the current token. -/
def tooDeep {α : Type} (limit : Nat) : Rule α := do
  throw ⟨.nestingTooDeep limit, (← current).span.start⟩

end ScriptFrontend.Rule

namespace ScriptFrontend

/-- Every expression and every block takes one level of the room that is left. -/
def Nested.within (limit : Nat) : Nat → Nested
  | 0 => ⟨fun _ => Rule.tooDeep limit, Rule.tooDeep limit⟩
  | room + 1 =>
    ⟨fun power state => Rule.expression (Nested.within limit room) power state,
      fun state => Rule.block (Nested.within limit room) state⟩

@[simp] theorem Nested.within_zero_expression (limit : Nat) (power : BindingPower) :
    (Nested.within limit 0).expression power = Rule.tooDeep limit := rfl

@[simp] theorem Nested.within_zero_block (limit : Nat) :
    (Nested.within limit 0).block = Rule.tooDeep limit := rfl

@[simp] theorem Nested.within_succ_expression (limit room : Nat) (power : BindingPower) :
    (Nested.within limit (room + 1)).expression power =
      Rule.expression (Nested.within limit room) power := rfl

@[simp] theorem Nested.within_succ_block (limit room : Nat) :
    (Nested.within limit (room + 1)).block = Rule.block (Nested.within limit room) := rfl

end ScriptFrontend
