/-
This file defines a cursor over the tokens of a script.
-/

import ScriptFrontend.Token

namespace ScriptFrontend

/-- A cursor has the unread tokens ahead of it, and the end mark behind them is never consumed. -/
structure Cursor where
  index : Nat
  lastEnd : Position
  ahead : List Token
  endMark : Token
  endMark_kind : endMark.kind = .endOfInput

namespace Cursor

/-- The last token is the end mark if it ends the input, and otherwise an end mark is added where
the last token stops. -/
def ofTokens (tokens : List Token) (file : String) : Cursor :=
  match tokens.getLast? with
  | none => ⟨0, Position.ofByte 0 file, [], Token.endAt (Position.ofByte 0 file), rfl⟩
  | some last =>
    if ends : last.kind = .endOfInput then
      ⟨0, Position.ofByte 0 file, tokens.dropLast, last, ends⟩
    else ⟨0, Position.ofByte 0 file, tokens, Token.endAt last.span.stop, rfl⟩

def current (cursor : Cursor) : Token :=
  cursor.ahead.headD cursor.endMark

/-- Behind the last token the end mark repeats. -/
def next (cursor : Cursor) : Token :=
  cursor.ahead.tail.headD cursor.endMark

/-- The cursor stays at the end mark. -/
def advance (cursor : Cursor) : Cursor :=
  match cursor.ahead with
  | [] => cursor
  | token :: rest =>
    { cursor with index := cursor.index + 1, lastEnd := token.span.stop, ahead := rest }

def advanceBy (cursor : Cursor) : Nat → Cursor
  | 0 => cursor
  | count + 1 => cursor.advance.advanceBy count

/-- The cursor passes the tokens that satisfy the condition, up to the first that does not. -/
def skipWhile (condition : Token → Bool) (cursor : Cursor) : Cursor :=
  cursor.advanceBy (cursor.ahead.takeWhile condition).length

/-- The number of tokens counts the end mark. -/
def size (cursor : Cursor) : Nat :=
  cursor.ahead.length + 1

theorem current_of_nil {cursor : Cursor} (done : cursor.ahead = []) :
    cursor.current = cursor.endMark := by
  simp [current, done]

theorem current_of_cons {cursor : Cursor} {token : Token} {rest : List Token}
    (unread : cursor.ahead = token :: rest) : cursor.current = token := by
  simp [current, unread]

@[simp] theorem ahead_advance (cursor : Cursor) : cursor.advance.ahead = cursor.ahead.tail := by
  unfold advance
  split <;> simp [*]

@[simp] theorem endMark_advance (cursor : Cursor) : cursor.advance.endMark = cursor.endMark := by
  unfold advance
  split <;> rfl

@[simp] theorem ahead_advanceBy (cursor : Cursor) (count : Nat) :
    (cursor.advanceBy count).ahead = cursor.ahead.drop count := by
  induction count generalizing cursor with
  | zero => rfl
  | succ count ih => simp [advanceBy, ih]

theorem ahead_skipWhile (condition : Token → Bool) (cursor : Cursor) :
    (cursor.skipWhile condition).ahead = cursor.ahead.dropWhile condition := by
  rw [skipWhile, ahead_advanceBy]
  induction cursor.ahead with
  | nil => rfl
  | cons token rest ih => by_cases holds : condition token <;> simp [holds, ih]

end Cursor

end ScriptFrontend
