/-
This file defines a reader that carries its nesting depth from one rule to the next.
-/

import ScriptFrontend.Reading.Statements

namespace ScriptFrontend

/-- A reader has used some of the levels of nesting that its limit allows. -/
structure Reader where
  state : Rule.State
  limit : Nat
  depth : Nat

namespace Reader

/-- Without a limit of its own a reader allows this many levels. -/
def defaultLimit : Nat := 64

def ofTokens (tokens : List Token) (file : String) (limit : Nat) : Reader :=
  ⟨Rule.State.ofTokens tokens file, limit, 0⟩

/-- The rules that open the next level see the room that the depth leaves. -/
def inner (reader : Reader) : Nested :=
  Nested.within reader.limit (reader.limit - reader.depth)

/-- A rule changes the state of the reader and leaves its depth as it was. -/
def perform {α : Type} (reader : Reader) (rule : Nested → Rule α) :
    Except Diagnostic α × Reader :=
  match rule reader.inner reader.state with
  | .ok value state => (.ok value, { reader with state })
  | .error failure state => (.error failure, { reader with state })

def current (reader : Reader) : Token :=
  reader.state.current

def next (reader : Reader) : Token :=
  reader.state.cursor.next

def position (reader : Reader) : Position :=
  reader.current.span.start

def lastEnd (reader : Reader) : Position :=
  reader.state.cursor.lastEnd

def errors (reader : Reader) : List Diagnostic :=
  reader.state.errors.toList

def atEnd (reader : Reader) : Bool :=
  reader.current.kind = .endOfInput

/-- The power of the current token as an operator behind an expression. -/
def currentPower (reader : Reader) : BindingPower :=
  RuleTable.standard.power reader.current.kind

/-- A level is entered only while the limit leaves room for it. -/
def enterNesting (reader : Reader) : Except Diagnostic Unit × Reader :=
  if reader.depth < reader.limit then
    (.ok (), { reader with depth := reader.depth + 1 })
  else (.error ⟨.nestingTooDeep reader.limit, reader.position⟩, reader)

/-- Leaving the outermost level changes nothing. -/
def exitNesting (reader : Reader) : Reader :=
  { reader with depth := reader.depth - 1 }

def record (failure : Diagnostic) (reader : Reader) : Reader :=
  { reader with state := reader.state.record failure }

end Reader

end ScriptFrontend
