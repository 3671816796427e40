/-
This file defines sessions, in which a caller chooses every step of a reading.
-/

import ScriptFrontend.Reading.Reader

namespace ScriptFrontend

/-- A session holds the last expression that was read, and a following rule may extend it. -/
structure Session where
  reader : Reader
  held : Option Expression

/-- An operation is one step of a session. -/
inductive Session.Operation where
  | advance
  | next
  | expect (kind : Token.Kind)
  | expectOr (kind : Token.Kind) (failure : Diagnostic)
  | skipOptional (kind : Token.Kind)
  | enterNesting
  | exitNesting
  | record (failure : Diagnostic)
  | messages
  | errors
  | statementsUntil (closing : Token.Kind)
  | statement
  | binding
  | returning
  | block
  | expression (power : BindingPower)
  | literal
  | unary
  | grouping
  | conditional
  | function
  | binary (power : BindingPower)
  | call

/-- The answer of an operation that fails is the failure, which the session does not record. -/
inductive Session.Answer where
  | token (token : Token)
  | truth (value : Bool)
  | done
  | messages (texts : List String)
  | errors (failures : List Diagnostic)
  | statements (statements : List Statement)
  | statement (statement : Statement)
  | block (block : Block)
  | expression (expression : Expression)
  | nothingHeld
  | failed (failure : Diagnostic)

namespace Session

def ofTokens (tokens : List Token) (file : String) (limit : Nat) : Session :=
  ⟨Reader.ofTokens tokens file limit, none⟩

/-- The reader performs the rule, and its value becomes the answer. -/
def answer {α : Type} (session : Session) (rule : Nested → Rule α) (form : α → Answer) :
    Answer × Session :=
  match session.reader.perform rule with
  | (.ok value, reader) => (form value, { session with reader })
  | (.error failure, reader) => (.failed failure, { session with reader })

/-- An expression that is read becomes the held one. -/
def hold (session : Session) (rule : Nested → Rule Expression) : Answer × Session :=
  match session.reader.perform rule with
  | (.ok expression, reader) => (.expression expression, ⟨reader, some expression⟩)
  | (.error failure, reader) => (.failed failure, { session with reader })

/-- A following rule needs a held expression. -/
def extend (session : Session) (rule : Nested → Expression → Rule Expression) :
    Answer × Session :=
  match session.held with
  | none => (.nothingHeld, session)
  | some left => session.hold fun inner => rule inner left

def step (session : Session) : Operation → Answer × Session
  | .advance => session.answer (fun _ => Rule.advance) .token
  | .next => (.token session.reader.next, session)
  | .expect kind => session.answer (fun _ => Rule.expect kind) .token
  | .expectOr kind failure => session.answer (fun _ => Rule.expectOr kind failure) .token
  | .skipOptional kind => session.answer (fun _ => Rule.skipOptional kind) .truth
  | .enterNesting =>
    match session.reader.enterNesting with
    | (.ok _, reader) => (.truth true, { session with reader })
    | (.error failure, reader) => (.failed failure, { session with reader })
  | .exitNesting => (.done, { session with reader := session.reader.exitNesting })
  | .record failure =>
    (.done, { session with reader := session.reader.record failure })
  | .messages => (.messages (session.reader.errors.map Diagnostic.message), session)
  | .errors => (.errors session.reader.errors, session)
  | .statementsUntil closing =>
    session.answer (fun inner => Rule.statementsUntil inner closing) .statements
  | .statement => session.answer Rule.statement .statement
  | .binding => session.answer Rule.binding .statement
  | .returning => session.answer Rule.returning .statement
  | .block => session.answer Nested.block .block
  | .expression power => session.hold fun inner => inner.expression power
  | .literal => session.hold fun _ => Rule.literal
  | .unary => session.hold Rule.unary
  | .grouping => session.hold Rule.grouping
  | .conditional => session.hold Rule.conditional
  | .function => session.hold Rule.function
  | .binary power => session.extend fun inner => Rule.binary inner power
  | .call => session.extend Rule.call

/-- The steps follow one another, and every one of them sees what those before it left. -/
def run (session : Session) : List Operation → List (Answer × Session)
  | [] => []
  | operation :: others =>
    let (answer, after) := session.step operation
    (answer, after) :: after.run others

end Session

end ScriptFrontend
