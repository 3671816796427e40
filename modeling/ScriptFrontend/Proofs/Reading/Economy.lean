/-
This file shows that failures cost tokens.
-/

import ScriptFrontend.Proofs.Reading.Guarding
import ScriptFrontend.Proofs.Reading.Placement
import ScriptFrontend.Proofs.Reading.Rounds

namespace ScriptFrontend.Rule

/-- What goes on after a failed statement has one failure more. -/
theorem State.size_errors_resynchronize (failure : Diagnostic) (start : Nat) (closing : Token.Kind)
    (state : State) :
    ((state.record failure).resynchronize start closing).errors.size = state.errors.size + 1 := by
  rw [errors_resynchronize, record, Array.size_push]

/-- The first token that is consumed is spent on no failure, hence the balance falls. -/
def State.Saves (before after : State) : Prop :=
  (after.cursor = before.cursor ∧ after.errors = before.errors) ∨ after.balance < before.balance

namespace State.Saves

theorem balance_le {before after : State} (saves : before.Saves after) :
    after.balance ≤ before.balance := by
  obtain ⟨cursor, errors⟩ | less := saves
  · exact Nat.le_of_eq (by rw [balance, balance, cursor, errors])
  · exact Nat.le_of_lt less

theorem motion : Motion State.Saves where
  refl _ := .inl ⟨rfl, rfl⟩
  trans := by
    intro first second third start finish
    obtain ⟨cursor, errors⟩ | less := start
    · rwa [Saves, balance, balance, ← cursor, ← errors]
    · exact .inr (Nat.lt_of_le_of_lt finish.balance_le less)
  advance passable := .inr (balance_advance_lt passable.1)
  note _ _ := .inl ⟨rfl, rfl⟩

/-- The failure of a statement costs the first token of the statement, and if it consumed none, the
token that is skipped. -/
theorem balance_resynchronize_le {before middle : State} (saves : before.Saves middle)
    {failure : Diagnostic} {closing : Token.Kind}
    (shorter : ((middle.record failure).resynchronize before.cursor.index closing).cursor.ahead.length <
      before.cursor.ahead.length) :
    ((middle.record failure).resynchronize before.cursor.index closing).balance ≤
      before.balance := by
  have onward := (Reaches.resynchronize before.cursor.index closing (middle.record failure)).length_le
  have unmoved : (middle.record failure).cursor = middle.cursor := rfl
  rw [balance, size_errors_resynchronize, balance]
  obtain ⟨-, errors⟩ | less := saves
  · rw [errors]
    omega
  · rw [unmoved] at onward
    rw [balance, balance] at less
    omega

end State.Saves

section Statements

variable {inner : Nested} (each : ∀ state, Keeping State.Saves Statement state (statement inner))
include each

/-- A whole list of statements may spend all of its tokens on failures. -/
theorem Rounds.balance_le {closing : Token.Kind} {state final : State} {statements : List Statement}
    (rounds : Rounds inner closing state statements final) : final.balance ≤ state.balance := by
  induction rounds with
  | done => exact Nat.le_refl _
  | @read state after _ _ _ _ outcome _ _ ih =>
    have saves : state.Saves after := (each state).of_ok outcome
    exact Nat.le_trans ih saves.balance_le
  | @failed state middle _ _ _ _ outcome passes _ ih =>
    have saves : state.Saves middle := (each state).of_error outcome
    exact Nat.le_trans ih (saves.balance_resynchronize_le passes.length_lt)

/-- The opening brace of a block is spent on no failure. -/
theorem saves_block (steady : inner.Steady) (state : State) :
    Keeping State.Saves Block state (block inner) := by
  have read {state : State} (opens : state.current.kind = .openCurly) :
      (state.advance.statementsUntil inner .closeCurly).2.balance < state.balance :=
    Nat.lt_of_le_of_lt (Rounds.balance_le each (rounds_statementsUntil steady _ _))
      (State.balance_advance_lt (by rw [opens]; decide))
  apply State.Saves.motion.block
  · intro state opens _
    exact .inr (read opens)
  · intro state opens closes
    exact .inr (Nat.lt_trans (State.balance_advance_lt (by rw [closes]; decide)) (read opens))

end Statements

theorem saves_within (limit room : Nat) :
    (Nested.within limit room).Has fun α rule => ∀ state, Keeping State.Saves α state rule := by
  apply State.Saves.motion.stepwise.within
  intro room deeper
  exact saves_block (State.Saves.motion.stepwise.statement deeper) (Nested.steady_within limit room)

theorem saves_statement (limit room : Nat) (state : State) :
    Keeping State.Saves Statement state (statement (.within limit room)) :=
  State.Saves.motion.stepwise.statement (saves_within limit room) state

end ScriptFrontend.Rule
