/-
This file shows that a reading logs the tokens at which it goes on where they stand in its buffer.
-/

import ScriptFrontend.Proofs.Reading.Guarding
import ScriptFrontend.Proofs.Reading.Placement

namespace ScriptFrontend.Rule

/-- The cursor stands in the buffer, and wherever the reading went on after a failure, it stood at a
token of the buffer. -/
structure State.LogsIn (buffer : List Token) (state : State) : Prop where
  stands : state.cursor.StandsIn buffer
  logged : ∀ index token, Event.resynchronized index token ∈ state.events.toList →
    buffer[index]? = some token

namespace State.LogsIn

variable {buffer : List Token} {state : State} (logs : state.LogsIn buffer)
include logs

theorem advance : state.advance.LogsIn buffer :=
  ⟨logs.stands.advance, logs.logged⟩

theorem note {event : Event} (here : ∀ index token, event = .resynchronized index token →
    buffer[index]? = some token) : (state.note event).LogsIn buffer := by
  refine ⟨logs.stands, fun index token member => ?_⟩
  rw [State.note, Array.toList_push] at member
  rcases List.mem_append.1 member with before | last
  · exact logs.logged index token before
  · exact here index token (List.mem_singleton.1 last).symm

theorem record (failure : Diagnostic) : (state.record failure).LogsIn buffer := by
  have noted : (state.note (.failed failure)).LogsIn buffer := logs.note nofun
  exact ⟨noted.stands, noted.logged⟩

theorem resynchronize (start : Nat) (closing : Token.Kind) :
    (state.resynchronize start closing).LogsIn buffer := by
  have stands := (State.Reaches.resynchronize start closing state).standsIn logs.stands
  refine ⟨stands, fun index token member => ?_⟩
  rw [State.events_resynchronize] at member
  split at member
  · exact logs.logged index token member
  · rw [Array.toList_push] at member
    obtain before | last := List.mem_append.1 member
    · exact logs.logged index token before
    · cases List.mem_singleton.1 last
      exact stands.getElem?_index

end State.LogsIn

/-- What is logged before is kept, so that logging in a buffer goes on as it began. -/
theorem logging_transition (buffer : List Token) :
    Transition fun before after => before.LogsIn buffer → after.LogsIn buffer where
  refl _ logs := logs
  trans first second logs := second (first logs)
  advance _ logs := logs.advance
  note _ _ logs := logs.note nofun
  survives _ _ kept logs := ((kept logs).record _).resynchronize _ _
  opens _ logs := logs.advance
  braces _ inside _ logs := (inside logs.advance).advance

/-- Every token at which the statements go on is logged with its place in the buffer. -/
theorem State.LogsIn.statementsUntil {buffer : List Token} {state : State}
    (logs : state.LogsIn buffer) (limit room : Nat) (closing : Token.Kind) :
    (state.statementsUntil (Nested.within limit room) closing).2.LogsIn buffer :=
  (logging_transition buffer).statementsUntil limit room
    (fun _ _ kept logs => ((kept logs).record _).resynchronize _ _) state logs

end ScriptFrontend.Rule
