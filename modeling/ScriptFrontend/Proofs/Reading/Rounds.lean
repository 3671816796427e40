/-
This file takes a list of statements apart into the rounds of its loop.
-/

import ScriptFrontend.Proofs.Reading.Progress

namespace ScriptFrontend.Rule

/-- A state is passed on the way to another when at least one token is consumed in between. -/
structure State.Passes (before after : State) : Prop where
  reaches : before.Reaches after
  index : before.cursor.index < after.cursor.index

namespace State.Passes

variable {before after : State}

theorem of_length_lt (reaches : before.Reaches after)
    (shorter : after.cursor.ahead.length < before.cursor.ahead.length) : before.Passes after := by
  obtain ⟨count, moved⟩ := reaches.cursor
  have total := before.cursor.index_add_length_advanceBy count
  rw [← moved] at total
  exact ⟨reaches, by omega⟩

theorem length_lt (passes : before.Passes after) :
    after.cursor.ahead.length < before.cursor.ahead.length := by
  obtain ⟨count, moved⟩ := passes.reaches.cursor
  have total := before.cursor.index_add_length_advanceBy count
  have onward := passes.index
  rw [← moved] at total
  omega

end State.Passes

/-- The loop over statements has one round after another. Every round begins in front of a token that
does not end the statements and passes this token, whether its statement is read or fails. The loop
is done only where the statements end. -/
inductive Rounds (inner : Nested) (closing : Token.Kind) : State → List Statement → State → Prop where
  | done {state : State} (ends : endsStatements closing state.current.kind) :
      Rounds inner closing state [] state
  | read {state after final : State} {first : Statement} {others : List Statement}
      (goesOn : ¬ endsStatements closing state.current.kind)
      (outcome : statement inner state = .ok first after) (passes : state.Passes after)
      (rest : Rounds inner closing after others final) :
      Rounds inner closing state (first :: others) final
  | failed {state middle final : State} {failure : Diagnostic} {statements : List Statement}
      (goesOn : ¬ endsStatements closing state.current.kind)
      (outcome : statement inner state = .error failure middle)
      (passes : state.Passes ((middle.record failure).resynchronize state.cursor.index closing))
      (rest : Rounds inner closing
        ((middle.record failure).resynchronize state.cursor.index closing) statements final) :
      Rounds inner closing state statements final

theorem Rounds.ends {inner : Nested} {closing : Token.Kind} {state final : State}
    {statements : List Statement} (rounds : Rounds inner closing state statements final) :
    endsStatements closing final.current.kind := by
  induction rounds with
  | done ends => exact ends
  | read _ _ _ _ ih => exact ih
  | failed _ _ _ _ ih => exact ih

section Steady

variable {inner : Nested} (steady : inner.Steady)
include steady

/-- As many rounds as unread tokens are enough for the loop to come to its end. -/
theorem rounds_statementsIn {closing : Token.Kind} {rounds : Nat} {state : State}
    (enough : state.cursor.ahead.length ≤ rounds) :
    Rounds inner closing state (state.statementsIn inner closing rounds).1
      (state.statementsIn inner closing rounds).2 := by
  induction rounds generalizing state with
  | zero =>
    exact .done (.inl (endOfInput_of_ahead_nil (List.length_eq_zero_iff.1 (Nat.le_zero.1 enough))))
  | succ rounds ih =>
    rw [State.statementsIn]
    split
    · next ends => exact .done ends
    · next goesOn =>
      have present : state.current.kind ≠ .endOfInput := fun ended => goesOn (.inl ended)
      have forward := forward_closed.statement steady.forward
      cases outcome : statement inner state with
      | ok first after =>
        have passes := State.Passes.of_length_lt (forward.of_ok outcome)
          (length_statement_lt steady present outcome)
        have shorter := passes.length_lt
        exact .read goesOn outcome passes (ih (by omega))
      | error failure middle =>
        have reaches := (forward.of_error outcome).trans (State.Reaches.record failure middle)
        have passes := State.Passes.of_length_lt
          (reaches.trans (State.Reaches.resynchronize state.cursor.index closing _))
          (length_resynchronize_lt reaches present)
        have shorter := passes.length_lt
        exact .failed goesOn outcome passes (ih (by omega))

theorem rounds_statementsUntil (closing : Token.Kind) (state : State) :
    Rounds inner closing state (state.statementsUntil inner closing).1
      (state.statementsUntil inner closing).2 :=
  rounds_statementsIn steady (Nat.le_refl _)

theorem rounds_of_statementsUntil {closing : Token.Kind} {state final : State}
    {statements : List Statement}
    (read : statementsUntil inner closing state = .ok statements final) :
    Rounds inner closing state statements final := by
  obtain ⟨rfl, rfl⟩ := EStateM.Result.ok.inj read
  exact rounds_statementsUntil steady closing state

end Steady

end ScriptFrontend.Rule
