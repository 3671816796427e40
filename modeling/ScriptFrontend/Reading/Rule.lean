/-
This file defines the rules that read tokens and the steps that they are made of.
-/

import ScriptFrontend.Event
import ScriptFrontend.Reading.Cursor

namespace ScriptFrontend

/-- The state of a reading holds the unread tokens, the failures so far and the events so far. -/
structure Rule.State where
  cursor : Cursor
  errors : Array Diagnostic
  events : Array Event

/-- A rule reads something or fails, and it keeps its state in both cases. -/
abbrev Rule : Type → Type :=
  EStateM Diagnostic Rule.State

namespace Rule

namespace State

def ofTokens (tokens : List Token) (file : String) : State :=
  ⟨Cursor.ofTokens tokens file, #[], #[]⟩

def current (state : State) : Token :=
  state.cursor.current

def advance (state : State) : State :=
  { state with cursor := state.cursor.advance }

def skipWhile (condition : Token → Bool) (state : State) : State :=
  { state with cursor := state.cursor.skipWhile condition }

def note (event : Event) (state : State) : State :=
  { state with events := state.events.push event }

/-- A recorded failure is kept and noted. -/
def record (failure : Diagnostic) (state : State) : State :=
  { state.note (.failed failure) with errors := state.errors.push failure }

end State

def current : Rule Token := do
  return (← get).current

/-- The end of the last consumed token. -/
def lastEnd : Rule Position := do
  return (← get).cursor.lastEnd

/-- The number of tokens before the end mark. -/
def unread : Rule Nat := do
  return (← get).cursor.ahead.length

/-- The answer is the token that was current before. -/
def advance : Rule Token :=
  modifyGet fun state => (state.current, state.advance)

def note (event : Event) : Rule Unit :=
  modify (State.note event)

/-- A token of the expected kind is consumed, and another token fails with the given diagnostic. -/
def expectOr (kind : Token.Kind) (failure : Diagnostic) : Rule Token := do
  if (← current).kind = kind then advance else throw failure

def expect (kind : Token.Kind) : Rule Token := do
  let found ← current
  expectOr kind ⟨.missing kind.name found.text, found.span.start⟩

/-- The answer tells whether a token of the kind was consumed. -/
def skipOptional (kind : Token.Kind) : Rule Bool := do
  if (← current).kind = kind then
    let _ ← advance
    return true
  else return false

/-- The items are separated by commas, and there is at least one. Every round consumes a comma, so
there are at most as many rounds as unread tokens. -/
def separatedIn {α : Type} (item : Rule α) : Nat → Rule (List α)
  | 0 => do return [← item]
  | rounds + 1 => do
    let first ← item
    if ← skipOptional .comma then
      return first :: (← separatedIn item rounds)
    else return [first]

/-- There may be no item before a closing parenthesis. -/
def listed {α : Type} (item : Rule α) : Rule (List α) := do
  if (← current).kind = .closeParen then return []
  else separatedIn item (← unread)

/-- A list in parentheses may be empty, but no comma ends it. -/
def parenthesized {α : Type} (item : Rule α) : Rule (List α) := do
  let items ← listed item
  let _ ← expect .closeParen
  return items

@[simp] theorem current_apply (state : State) : current state = .ok state.current state := rfl

@[simp] theorem lastEnd_apply (state : State) :
    lastEnd state = .ok state.cursor.lastEnd state := rfl

@[simp] theorem unread_apply (state : State) :
    unread state = .ok state.cursor.ahead.length state := rfl

@[simp] theorem advance_apply (state : State) :
    advance state = .ok state.current state.advance := rfl

@[simp] theorem note_apply (event : Event) (state : State) :
    note event state = .ok () (state.note event) := rfl

/-- An unexpected token is not consumed. -/
theorem expectOr_apply (kind : Token.Kind) (failure : Diagnostic) (state : State) :
    expectOr kind failure state =
      if state.current.kind = kind then .ok state.current state.advance
      else .error failure state := by
  change (if state.current.kind = kind then advance else throw failure : Rule Token) state = _
  split <;> rfl

theorem skipOptional_apply (kind : Token.Kind) (state : State) :
    skipOptional kind state =
      if state.current.kind = kind then .ok true state.advance else .ok false state := by
  change (if state.current.kind = kind then _ else _ : Rule Bool) state = _
  split <;> rfl

end Rule

end ScriptFrontend
