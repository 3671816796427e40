/-
This file shows that what every step of a reading preserves holds when the reading ends.
-/

import ScriptFrontend.Proofs.Reading.Compatibility

namespace ScriptFrontend.Rule

/-- An invariant holds inside of statements. Between the statements of a list a weaker one may hold,
because a failure that blames the closing token is recorded before that token is consumed. -/
structure Invariant (inside : State → Prop) (between : Token.Kind → State → Prop) : Prop where
  note : ∀ {state : State} (event : Event), inside state → inside (state.note event)
  take : ∀ {state : State}, inside state → state.current.kind ≠ .endOfInput → inside state.advance
  pause : ∀ {state : State} (closing : Token.Kind), inside state → between closing state
  resume : ∀ {state : State} {closing : Token.Kind}, between closing state →
    state.current.kind ≠ closing → inside state
  fail : ∀ {origin state : State} {failure : Diagnostic} {closing : Token.Kind}, inside origin →
    ¬ endsStatements closing origin.current.kind → inside state → failure.Blames state.current →
      failure.Worded → between closing ((state.record failure).resynchronize origin.cursor.index closing)
  close : ∀ {state : State}, between .closeCurly state → state.current.kind = .closeCurly →
    inside state.advance

/-- What is read keeps the invariant, and a failure blames the token where reading stopped in the
words of the rules. -/
def Keeps (inside : State → Prop) (α : Type) (state : State) (outcome : Outcome α) : Prop :=
  inside state →
    match outcome with
    | .ok _ after => inside after
    | .error failure after => inside after ∧ failure.Blames after.current ∧ failure.Worded

namespace Invariant

variable {inside : State → Prop} {between : Token.Kind → State → Prop}
  (invariant : Invariant inside between)
include invariant

/-- The weaker invariant passes from one statement of a list to the next. -/
theorem statementsIn {inner : Nested}
    (each : ∀ state : State, state.current.kind ≠ .endOfInput →
      Keeps inside Statement state (statement inner state))
    (closing : Token.Kind) (rounds : Nat) {state : State} (holds : between closing state) :
    between closing (state.statementsIn inner closing rounds).2 := by
  induction rounds generalizing state with
  | zero => exact holds
  | succ rounds ih =>
    rw [State.statementsIn]
    split
    · exact holds
    · next goesOn =>
      have here : inside state := invariant.resume holds fun ends => goesOn (.inr ends)
      have kept := each state (fun ended => goesOn (.inl ended)) here
      cases outcome : statement inner state with
      | ok first after =>
        rw [outcome] at kept
        exact ih (invariant.pause closing kept)
      | error failure after =>
        rw [outcome] at kept
        exact ih (invariant.fail here goesOn kept.1 kept.2.1 kept.2.2)

theorem enclosed {inner : Nested}
    (each : ∀ state : State, state.current.kind ≠ .endOfInput →
      Keeps inside Statement state (statement inner state)) (state : State) :
    Keeps inside (List Statement) state (enclosed inner state) := by
  intro here
  have holds : between .closeCurly (state.statementsUntil inner .closeCurly).2 :=
    invariant.statementsIn each .closeCurly _ (invariant.pause _ here)
  rw [enclosed_apply]
  dsimp only
  by_cases closes : (state.statementsUntil inner .closeCurly).2.current.kind = .closeCurly
  · rw [if_pos closes]
    exact invariant.close holds closes
  · rw [if_neg closes]
    exact ⟨invariant.resume holds closes, ⟨rfl, rfl, .closeCurly, rfl, closes⟩, trivial⟩

theorem compatible : Compatible fun _ α state outcome _ => Keeps inside α state outcome where
  ok _ _ here := here
  blame blames worded _ here := ⟨here, blames, worded⟩
  bind := by
    intro room α β first second next other state start rest here
    have kept := start here
    rw [bind_apply]
    cases outcome : first state with
    | ok value after =>
      rw [outcome] at kept
      exact rest value after outcome kept
    | error failure after =>
      rw [outcome] at kept
      exact kept
  note := by
    intro room α event state first second kept here
    exact kept (invariant.note event here)
  take := by
    intro room α state first second present kept here
    exact kept (invariant.take here present)
  weaken kept := kept
  enclosed := invariant.enclosed

theorem statement (limit room : Nat) (state : State) :
    Keeps inside Statement state (statement (.within limit room) state) := by
  have exhausted : (Nested.within limit 0).Meets
      (fun α state outcome _ => Keeps inside α state outcome) (Nested.within limit 0) := by
    constructor
    · intro power state here
      exact ⟨here, ⟨rfl, trivial⟩, trivial⟩
    · intro state here
      exact ⟨here, ⟨rfl, trivial⟩, trivial⟩
  have deeper := invariant.compatible.within exhausted room
  exact @Compatible.statement _ invariant.compatible room _ _ deeper state

/-- The invariant holds at the end of a list of statements at every depth of nesting. -/
theorem statementsUntil (limit room : Nat) (closing : Token.Kind) {state : State}
    (here : inside state) :
    between closing (state.statementsUntil (Nested.within limit room) closing).2 :=
  invariant.statementsIn (fun begun _ => invariant.statement limit room begun) closing _
    (invariant.pause closing here)

end Invariant

/-- A statement that fails blames the token in front of which it stops. -/
theorem blames_of_statement {limit room : Nat} {state middle : State} {failure : Diagnostic}
    (outcome : statement (.within limit room) state = .error failure middle) :
    failure.Blames middle.current := by
  have anything : Invariant (fun _ => True) fun _ _ => True := by
    constructor <;> intros <;> trivial
  have kept := anything.statement limit room state trivial
  rw [outcome] at kept
  exact kept.2.1

end ScriptFrontend.Rule
