/-
This file shows that reading goes on in the same way whatever was read before.
-/

import ScriptFrontend.Proofs.Reading.Progress

namespace ScriptFrontend

namespace Rule

/-- Two results match when they have the same value or the same failure, and their states are
related by the relation for that case. -/
def Matches {α : Type} (after failed : State → State → Prop) :
    EStateM.Result Diagnostic State α → EStateM.Result Diagnostic State α → Prop
  | .ok value first, .ok other second => value = other ∧ after first second
  | .error failure first, .error other second => failure = other ∧ failed first second
  | _, _ => False

theorem Matches.ok_or_error {α : Type} {after failed : State → State → Prop}
    {first second : EStateM.Result Diagnostic State α} (matched : Matches after failed first second) :
    (∃ value firstAfter secondAfter, first = .ok value firstAfter ∧
        second = .ok value secondAfter ∧ after firstAfter secondAfter) ∨
      ∃ failure firstAfter secondAfter, first = .error failure firstAfter ∧
        second = .error failure secondAfter ∧ failed firstAfter secondAfter := by
  cases first with
  | ok value firstAfter =>
    cases second with
    | ok other secondAfter =>
      obtain ⟨same, related⟩ := matched
      exact .inl ⟨value, firstAfter, secondAfter, rfl, by rw [same], related⟩
    | error other secondAfter => exact matched.elim
  | error failure firstAfter =>
    cases second with
    | ok other secondAfter => exact matched.elim
    | error other secondAfter =>
      obtain ⟨same, related⟩ := matched
      exact .inr ⟨failure, firstAfter, secondAfter, rfl, by rw [same], related⟩

/-- A rule carries a relation on when it gives matching results in related states. -/
def Carries {α : Type} (before after failed : State → State → Prop) (rule : Rule α) : Prop :=
  ∀ first second, before first second → Matches after failed (rule first) (rule second)

namespace Carries

variable {α β : Type} {before middle after failed : State → State → Prop}

theorem pure (value : α) : Carries after after failed (pure value) := by
  intro first second related
  exact ⟨rfl, related⟩

theorem throw (failure : Diagnostic) : Carries failed after failed (throw failure : Rule α) := by
  intro first second related
  exact ⟨rfl, related⟩

theorem bind {rule : Rule α} {next : α → Rule β} (start : Carries before middle failed rule)
    (rest : ∀ value, Carries middle after failed (next value)) :
    Carries before after failed (rule >>= next) := by
  intro first second related
  rw [bind_apply, bind_apply]
  obtain ⟨value, firstAfter, secondAfter, firstRead, secondRead, relatedAfter⟩ |
    ⟨failure, firstAfter, secondAfter, firstFailed, secondFailed, relatedAfter⟩ :=
    (start first second related).ok_or_error
  · rw [firstRead, secondRead]
    exact rest value firstAfter secondAfter relatedAfter
  · rw [firstFailed, secondFailed]
    exact ⟨rfl, relatedAfter⟩

theorem imp {rule : Rule α} {other : State → State → Prop}
    (carries : Carries before after failed rule)
    (weaker : ∀ first second, after first second → other first second) :
    Carries before other failed rule := by
  intro first second related
  obtain ⟨value, firstAfter, secondAfter, firstRead, secondRead, relatedAfter⟩ |
    ⟨failure, firstAfter, secondAfter, firstFailed, secondFailed, relatedAfter⟩ :=
    (carries first second related).ok_or_error
  · rw [firstRead, secondRead]
    exact ⟨rfl, weaker firstAfter secondAfter relatedAfter⟩
  · rw [firstFailed, secondFailed]
    exact ⟨rfl, relatedAfter⟩

end Carries

end Rule

/-- The second cursor has the same tokens ahead as the first, at a higher index. -/
structure Cursor.Later (shift : Nat) (first second : Cursor) : Prop where
  index : second.index = shift + first.index
  lastEnd : second.lastEnd = first.lastEnd
  ahead : second.ahead = first.ahead
  endMark : second.endMark = first.endMark

namespace Cursor.Later

variable {shift : Nat} {first second : Cursor} (later : Cursor.Later shift first second)
include later

theorem current : second.current = first.current := by
  rw [Cursor.current, Cursor.current, later.ahead, later.endMark]

theorem advance : Cursor.Later shift first.advance second.advance := by
  cases unread : first.ahead with
  | nil =>
    have done : second.ahead = [] := by rw [later.ahead, unread]
    have stays : first.advance = first := by simp [Cursor.advance, unread]
    have staysToo : second.advance = second := by simp [Cursor.advance, done]
    rw [stays, staysToo]
    exact later
  | cons token rest =>
    have unreadToo : second.ahead = token :: rest := by rw [later.ahead, unread]
    constructor
    · simp [Cursor.advance, unread, unreadToo, later.index]
      omega
    · simp [Cursor.advance, unread, unreadToo]
    · simp [later.ahead]
    · simp [later.endMark]

theorem advanceBy (count : Nat) :
    Cursor.Later shift (first.advanceBy count) (second.advanceBy count) := by
  induction count generalizing first second with
  | zero => exact later
  | succ count ih => exact ih later.advance

theorem skipWhile (condition : Token → Bool) :
    Cursor.Later shift (first.skipWhile condition) (second.skipWhile condition) := by
  unfold Cursor.skipWhile
  rw [later.ahead]
  exact later.advanceBy _

end Cursor.Later

namespace Rule

/-- The second state is the first one further on, with failures from before. -/
structure State.Later (shift : Nat) (earlier : Array Diagnostic) (first second : State) : Prop where
  cursor : Cursor.Later shift first.cursor second.cursor
  errors : second.errors = earlier ++ first.errors

namespace State.Later

variable {shift : Nat} {earlier : Array Diagnostic} {first second : State}
  (later : State.Later shift earlier first second)
include later

theorem current : second.current = first.current :=
  later.cursor.current

theorem advance : State.Later shift earlier first.advance second.advance :=
  ⟨later.cursor.advance, later.errors⟩

/-- The events are not compared, because an event shows the index at which reading went on. -/
theorem note (event other : Event) : State.Later shift earlier (first.note event) (second.note other) :=
  ⟨later.cursor, later.errors⟩

theorem record (failure : Diagnostic) :
    State.Later shift earlier (first.record failure) (second.record failure) := by
  refine ⟨later.cursor, ?_⟩
  change second.errors.push failure = earlier ++ first.errors.push failure
  rw [later.errors, Array.append_push]

theorem skipToBoundary (closing : Token.Kind) :
    State.Later shift earlier (first.skipToBoundary closing) (second.skipToBoundary closing) := by
  have found : State.Later shift earlier
      (first.skipWhile fun token => !isBoundary closing token.kind)
      (second.skipWhile fun token => !isBoundary closing token.kind) :=
    ⟨later.cursor.skipWhile _, later.errors⟩
  unfold State.skipToBoundary
  dsimp only
  rw [found.current]
  split
  · exact found.advance.note _ _
  · exact found.note _ _

theorem resynchronize {start otherStart : Nat} (closing : Token.Kind)
    (starts : otherStart = shift + start) :
    State.Later shift earlier (first.resynchronize start closing)
      (second.resynchronize otherStart closing) := by
  have standing : second.cursor.index = otherStart ↔ first.cursor.index = start := by
    have index := later.cursor.index
    omega
  unfold State.resynchronize
  rw [later.current]
  by_cases stands : first.cursor.index = start
  · rw [if_pos stands, if_pos (standing.2 stands)]
    split
    · exact later.advance
    · exact later.advance.skipToBoundary closing
  · rw [if_neg stands, if_neg (fun same => stands (standing.1 same))]
    exact later.skipToBoundary closing

end State.Later

/-- Every rule does the same further on. -/
theorem carries_later_closed (shift : Nat) (earlier : Array Diagnostic) :
    Closed fun _ => Carries (State.Later shift earlier) (State.Later shift earlier)
      (State.Later shift earlier) where
  pure := Carries.pure
  throw := Carries.throw
  bind := Carries.bind
  current _ _ later := ⟨later.current.symm, later⟩
  lastEnd _ _ later := ⟨later.cursor.lastEnd.symm, later⟩
  unread _ _ later := ⟨(congrArg List.length later.cursor.ahead).symm, later⟩
  advance _ _ later := ⟨later.current.symm, later.advance⟩
  note event _ _ later := ⟨rfl, later.note event event⟩
  attempt := by
    intro closing rule carries first second later
    unfold attempt
    obtain ⟨value, firstAfter, secondAfter, firstRead, secondRead, laterAfter⟩ |
      ⟨failure, firstAfter, secondAfter, firstFailed, secondFailed, laterAfter⟩ :=
      (carries first second later).ok_or_error
    · rw [firstRead, secondRead]
      exact ⟨rfl, laterAfter⟩
    · rw [firstFailed, secondFailed]
      exact ⟨rfl, (laterAfter.record failure).resynchronize closing later.cursor.index⟩

/-- The state with another end of the last consumed token. -/
def State.endingAt (position : Position) (state : State) : State :=
  { state with cursor := { state.cursor with lastEnd := position } }

/-- A token that is consumed determines where the last consumed token ends. -/
theorem State.advance_endingAt {position : Position} {state : State}
    (present : state.current.kind ≠ .endOfInput) :
    (state.endingAt position).advance = state.advance := by
  have unread := Cursor.ahead_ne_nil_of_kind present
  unfold State.advance State.endingAt Cursor.advance
  cases ahead : state.cursor.ahead with
  | nil => exact absurd ahead unread
  | cons token rest => rfl

/-- A statement that failed at its first token loses that token. -/
theorem State.resynchronize_endingAt {start : Nat} (closing : Token.Kind) (position : Position)
    {state : State} (present : state.current.kind ≠ .endOfInput)
    (stands : state.cursor.index = start) :
    (state.endingAt position).resynchronize start closing = state.resynchronize start closing := by
  have standsToo : (state.endingAt position).cursor.index = start := stands
  have same : (state.endingAt position).current = state.current := rfl
  unfold State.resynchronize
  rw [if_pos stands, if_pos standsToo, same, State.advance_endingAt present]

/-- A rule starts afresh when it consumes the current token or fails at it, so that the end of the
last consumed token has no part in it. -/
def StartsAfresh {α : Type} (rule : Rule α) : Prop :=
  ∀ (position : Position) (state : State), state.current.kind ≠ .endOfInput →
    rule (state.endingAt position) = rule state ∨
      ∃ failure after, rule state = .error failure after ∧
        rule (state.endingAt position) = .error failure (after.endingAt position) ∧
          after.cursor = state.cursor

namespace StartsAfresh

variable {α β : Type}

theorem throw (failure : Diagnostic) : StartsAfresh (throw failure : Rule α) := by
  intro position state present
  exact .inr ⟨failure, state, rfl, rfl, rfl⟩

theorem advance (next : Token → Rule α) : StartsAfresh (Rule.advance >>= next) := by
  intro position state present
  left
  change next state.current (state.endingAt position).advance = next state.current state.advance
  rw [State.advance_endingAt present]

theorem bind {rule : Rule α} (start : StartsAfresh rule) (next : α → Rule β) :
    StartsAfresh (rule >>= next) := by
  intro position state present
  rw [bind_apply, bind_apply]
  obtain same | ⟨failure, after, failed, failedToo, stands⟩ := start position state present
  · rw [same]
    exact .inl rfl
  · rw [failed, failedToo]
    exact .inr ⟨failure, after, rfl, rfl, stands⟩

theorem current {next : Token → Rule α} (rest : ∀ token, StartsAfresh (next token)) :
    StartsAfresh (Rule.current >>= next) := by
  intro position state present
  exact rest state.current position state present

theorem note (event : Event) {next : Unit → Rule α} (rest : StartsAfresh (next ())) :
    StartsAfresh (Rule.note event >>= next) := by
  intro position state present
  exact rest position (state.note event) present

theorem literal : StartsAfresh literal := by
  apply current
  intro token
  split
  · split
    · exact advance _
    · exact throw _
  · exact advance _
  · exact advance _
  · exact advance _
  · exact throw _

theorem opening (inner : Nested) : StartsAfresh (opening inner) := by
  apply current
  intro token
  split
  · next rule dispatched =>
    cases rule with
    | literal => exact literal
    | unary => exact advance _
    | grouping => exact advance _
    | conditional => exact advance _
    | function => exact advance _
  · split
    · exact throw _
    · exact throw _

theorem expression (limit room : Nat) (power : BindingPower) :
    StartsAfresh ((Nested.within limit room).expression power) := by
  cases room with
  | zero => exact current fun _ => throw _
  | succ room => exact (opening _).bind _

theorem statement (limit room : Nat) : StartsAfresh (statement (Nested.within limit room)) := by
  apply current
  intro token
  dsimp only
  split
  · exact current fun _ => (expression limit room .lowest).bind _
  · next rule dispatched =>
    cases rule with
    | binding => exact note _ (advance _)
    | returning => exact note _ (advance _)

/-- A failed attempt consumes a token too. -/
theorem attempt_eq {rule : Rule Statement} (afresh : StartsAfresh rule) (closing : Token.Kind)
    (position : Position) {state : State} (present : state.current.kind ≠ .endOfInput) :
    Rule.attempt closing rule (state.endingAt position) = Rule.attempt closing rule state := by
  unfold Rule.attempt
  obtain same | ⟨failure, after, failed, failedToo, stands⟩ := afresh position state present
  · rw [same]
    rfl
  · have kind : (after.record failure).current.kind ≠ .endOfInput := by
      change after.cursor.current.kind ≠ _
      rwa [stands]
    have index : (after.record failure).cursor.index = state.cursor.index := congrArg _ stands
    have resumed := State.resynchronize_endingAt closing position kind index
    rw [failed, failedToo]
    exact congrArg (EStateM.Result.ok none) resumed

end StartsAfresh

section Statements

variable {limit room : Nat} {closing : Token.Kind} {trees : List Statement}

theorem statementsUntil_of_ends {inner : Nested} (steady : inner.Steady) {state : State}
    (ends : endsStatements closing state.current.kind) :
    statementsUntil inner closing state = .ok [] state := by
  rw [statementsUntil_step steady, bind_apply, current_apply]
  dsimp only
  rw [if_pos ends]
  rfl

theorem statementsUntil_of_attempt {inner : Nested} (steady : inner.Steady)
    {state middle after : State} {tree : Option Statement}
    (goesOn : ¬ endsStatements closing state.current.kind)
    (attempted : attempt closing (statement inner) state = .ok tree middle)
    (read : statementsUntil inner closing middle = .ok trees after) :
    statementsUntil inner closing state = .ok (tree.toList ++ trees) after := by
  rw [statementsUntil_step steady, bind_apply, current_apply]
  dsimp only
  rw [if_neg goesOn, bind_apply, attempted]
  dsimp only
  rw [bind_apply, read]
  rfl

/-- The statements that follow do not depend on where the last consumed token ends. -/
theorem statementsUntil_endingAt (position : Position) {state after : State}
    (read : statementsUntil (Nested.within limit room) closing state = .ok trees after) :
    ∃ other, statementsUntil (Nested.within limit room) closing (state.endingAt position) =
        .ok trees other ∧ other.errors = after.errors := by
  have steady := Nested.steady_within limit room
  by_cases ends : endsStatements closing state.current.kind
  · have endsToo : endsStatements closing (state.endingAt position).current.kind := ends
    rw [statementsUntil_of_ends steady ends] at read
    cases read
    exact ⟨_, statementsUntil_of_ends steady endsToo, rfl⟩
  · have goesOn : ¬ endsStatements closing (state.endingAt position).current.kind := ends
    have attempted := (StartsAfresh.statement limit room).attempt_eq closing position
      fun ended => ends (.inl ended)
    refine ⟨after, ?_, rfl⟩
    rw [← read, statementsUntil_step steady, bind_apply, bind_apply, current_apply, current_apply]
    dsimp only
    rw [if_neg ends, if_neg goesOn, bind_apply, bind_apply, attempted]

/-- The same tokens give the same statements and the same failures further on in a script, where
other failures come before them. -/
theorem statementsUntil_resumed {first second after : State} {earlier : Array Diagnostic}
    (index : first.cursor.index ≤ second.cursor.index)
    (ahead : second.cursor.ahead = first.cursor.ahead)
    (endMark : second.cursor.endMark = first.cursor.endMark)
    (errors : second.errors = earlier ++ first.errors)
    (read : statementsUntil (Nested.within limit room) closing first = .ok trees after) :
    ∃ other, statementsUntil (Nested.within limit room) closing second = .ok trees other ∧
      other.errors = earlier ++ after.errors := by
  obtain ⟨shift, further⟩ := Nat.exists_eq_add_of_le' index
  have later : State.Later shift earlier (first.endingAt second.cursor.lastEnd) second :=
    ⟨⟨further, rfl, ahead, endMark⟩, errors⟩
  have closed := carries_later_closed shift earlier
  have matched := closed.statementsUntil (closed.within limit room) closing _ _ later
  obtain ⟨middle, readMiddle, sameErrors⟩ :=
    statementsUntil_endingAt second.cursor.lastEnd read
  rw [readMiddle, statementsUntil_apply] at matched
  obtain ⟨sameTrees, laterAfter⟩ := matched
  refine ⟨_, ?_, laterAfter.errors.trans (congrArg _ sameErrors)⟩
  rw [statementsUntil_apply, sameTrees]

end Statements

end Rule

end ScriptFrontend
