/-
This file tells the course of a reading with the statements that fail on it.
-/

import ScriptFrontend.Proofs.Reading.Guarding
import ScriptFrontend.Proofs.Reading.Rounds

namespace ScriptFrontend.Rule

/-- A failed statement is known by the token with which it begins and by its failure. -/
structure FailedStatement where
  first : Token
  failure : Diagnostic

/-- A course runs along the statements of a list, which are read with some room for deeper levels, or
it runs inside of one statement. -/
inductive Course.Scope where
  | statements (room : Nat) (closing : Token.Kind)
  | inside

/-- The course of a reading leads from one state to another, and it tells which statements fail on the
way. The statements of a list are begun one after the other up to the end of the list. Inside of a
statement every brace belongs to a block, whose statements are a list of their own, so that their
failures come before that of the statement around them. -/
inductive Course (limit : Nat) : Course.Scope → State → List FailedStatement → State → Prop where
  | done {room : Nat} {closing : Token.Kind} {state : State}
      (ends : endsStatements closing state.current.kind) :
      Course limit (.statements room closing) state [] state
  | read {room : Nat} {closing : Token.Kind} {state after last : State} {tree : Statement}
      {failed others : List FailedStatement} (goesOn : ¬ endsStatements closing state.current.kind)
      (outcome : statement (.within limit room) state = .ok tree after)
      (inside : Course limit .inside state failed after)
      (rest : Course limit (.statements room closing) after others last) :
      Course limit (.statements room closing) state (failed ++ others) last
  | failed {room : Nat} {closing : Token.Kind} {state middle last : State} {failure : Diagnostic}
      {failed others : List FailedStatement} (goesOn : ¬ endsStatements closing state.current.kind)
      (outcome : statement (.within limit room) state = .error failure middle)
      (inside : Course limit .inside state failed middle)
      (rest : Course limit (.statements room closing)
        ((middle.record failure).resynchronize state.cursor.index closing) others last) :
      Course limit (.statements room closing) state (failed ++ ⟨state.current, failure⟩ :: others)
        last
  | stay {state : State} : Course limit .inside state [] state
  | consume {state after : State} {failed : List FailedStatement}
      (passable : state.current.kind.IsPassable)
      (rest : Course limit .inside state.advance failed after) :
      Course limit .inside state failed after
  | announce {state after : State} {kind : Token.Kind} {failed : List FailedStatement}
      (rest : Course limit .inside (state.note (.statementKeyword kind)) failed after) :
      Course limit .inside state failed after
  | block {room : Nat} {state last after : State} {failed others : List FailedStatement}
      (opens : state.current.kind = .openCurly)
      (statements : Course limit (.statements room .closeCurly) state.advance failed last)
      (rest : Course limit .inside (final (expect .closeCurly) last) others after) :
      Course limit .inside state (failed ++ others) after

theorem final_expect (kind : Token.Kind) (state : State) :
    final (expect kind) state = if state.current.kind = kind then state.advance else state := by
  rw [final, expect_apply]
  split
  · next outcome =>
    split at outcome
    · next found => cases outcome; rw [if_pos found]
    · cases outcome
  · next outcome =>
    split at outcome
    · cases outcome
    · next other => cases outcome; rw [if_neg other]

namespace Course

variable {limit : Nat}

theorem trans {first second third : State} {failed others : List FailedStatement}
    (start : Course limit .inside first failed second)
    (finish : Course limit .inside second others third) :
    Course limit .inside first (failed ++ others) third := by
  generalize inside : Scope.inside = scope at start
  induction start with
  | done | read | failed => cases inside
  | stay => exact finish
  | consume passable _ ih => exact .consume passable (ih finish inside)
  | announce _ ih => exact .announce (ih finish inside)
  | block opens statements _ _ ih =>
    rw [List.append_assoc]
    exact .block opens statements (ih finish inside)

/-- A list of statements ends where its rounds end. -/
theorem last_eq {room : Nat} {closing : Token.Kind} {state last final : State}
    {failed : List FailedStatement} {statements : List Statement}
    (course : Course limit (.statements room closing) state failed last)
    (rounds : Rounds (.within limit room) closing state statements final) : last = final := by
  generalize along : Scope.statements room closing = scope at course
  induction course generalizing statements with
  | stay | consume | announce | block => cases along
  | done ends =>
    cases along
    cases rounds with
    | done => rfl
    | read goesOn => exact absurd ends goesOn
    | failed goesOn => exact absurd ends goesOn
  | read goesOn outcome _ _ _ ih =>
    cases along
    cases rounds with
    | done ends => exact absurd ends goesOn
    | read _ same _ rest =>
      cases outcome.symm.trans same
      exact ih rest rfl
    | failed _ other =>
      cases outcome.symm.trans other
  | failed goesOn outcome _ _ _ ih =>
    cases along
    cases rounds with
    | done ends => exact absurd ends goesOn
    | read _ other =>
      cases outcome.symm.trans other
    | failed _ same _ rest =>
      cases outcome.symm.trans same
      exact ih rest rfl

end Course

/-- Some course leads from the one state to the other inside of a statement. -/
def State.Leads (limit : Nat) (before after : State) : Prop :=
  ∃ failed, Course limit .inside before failed after

theorem State.leads_motion (limit : Nat) : Motion (State.Leads limit) where
  refl _ := ⟨[], .stay⟩
  trans := by
    intro first second third start finish
    obtain ⟨failed, course⟩ := start
    obtain ⟨others, continued⟩ := finish
    exact ⟨failed ++ others, course.trans continued⟩
  advance passable := ⟨[], .consume passable .stay⟩
  note _ _ := ⟨[], .announce .stay⟩

section Statements

variable {limit room : Nat}
  (each : ∀ state, Keeping (State.Leads limit) Statement state (statement (.within limit room)))
include each

/-- The rounds of a list make up its course. -/
theorem Rounds.exists_course {closing : Token.Kind} {state final : State}
    {statements : List Statement}
    (rounds : Rounds (.within limit room) closing state statements final) :
    ∃ failed, Course limit (.statements room closing) state failed final := by
  induction rounds with
  | done ends => exact ⟨[], .done ends⟩
  | @read state after _ _ _ goesOn outcome _ _ ih =>
    obtain ⟨failed, inside⟩ : state.Leads limit after := (each state).of_ok outcome
    obtain ⟨others, rest⟩ := ih
    exact ⟨failed ++ others, .read goesOn outcome inside rest⟩
  | @failed state middle _ failure _ goesOn outcome _ _ ih =>
    obtain ⟨failed, inside⟩ : state.Leads limit middle := (each state).of_error outcome
    obtain ⟨others, rest⟩ := ih
    exact ⟨failed ++ ⟨state.current, failure⟩ :: others, .failed goesOn outcome inside rest⟩

/-- A block has the course of its statements, whether its closing brace is there or not. -/
theorem leads_block (state : State) :
    Keeping (State.Leads limit) Block state (block (.within limit room)) := by
  have leads {state : State} (opens : state.current.kind = .openCurly) :
      state.Leads limit (final (expect .closeCurly)
        (state.advance.statementsUntil (.within limit room) .closeCurly).2) := by
    obtain ⟨failed, statements⟩ := Rounds.exists_course each
      (rounds_statementsUntil (Nested.steady_within limit room) .closeCurly state.advance)
    exact ⟨failed ++ [], .block opens statements .stay⟩
  apply (State.leads_motion limit).block
  · intro state opens missing
    have through := leads opens
    rwa [final_expect, if_neg missing] at through
  · intro state opens closes
    have through := leads opens
    rwa [final_expect, if_pos closes] at through

end Statements

theorem leads_statement (limit room : Nat) (state : State) :
    Keeping (State.Leads limit) Statement state (statement (.within limit room)) := by
  have stepwise := (State.leads_motion limit).stepwise
  apply stepwise.statement
  exact stepwise.within limit (fun _ deeper => leads_block (stepwise.statement deeper)) room

/-- Every list of statements has a course. -/
theorem exists_course (limit room : Nat) (closing : Token.Kind) (state : State) :
    ∃ failed, Course limit (.statements room closing) state failed
      (state.statementsUntil (.within limit room) closing).2 :=
  Rounds.exists_course (leads_statement limit room)
    (rounds_statementsUntil (Nested.steady_within limit room) closing state)

end ScriptFrontend.Rule
