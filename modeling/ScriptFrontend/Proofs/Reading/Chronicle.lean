/-
This file shows that the log of a reading recounts the course of the reading.
-/

import ScriptFrontend.Proofs.Lexeme.Rejection
import ScriptFrontend.Proofs.Reading.Attribution
import ScriptFrontend.Proofs.Reading.Course

namespace ScriptFrontend

namespace Event

/-- The failure of which an event tells. -/
def failure? : Event → Option Diagnostic
  | .failed failure => some failure
  | _ => none

/-- The index of the token at which the reading goes on, where an event tells of it. -/
def resumption? : Event → Option Nat
  | .resynchronized index _ => some index
  | _ => none

/-- Every failure in a log comes with the answer whether the very next event tells where the reading
goes on. -/
def followUps : List Event → List (Diagnostic × Bool)
  | [] => []
  | .failed failure :: later =>
    (failure, (later.head?.bind resumption?).isSome) :: followUps later
  | _ :: later => followUps later

end Event

namespace Rule

/-- A log recounts the failures of statements. After each of them it tells where the reading goes on,
which is between the first index and the last one and never further back than before. Only a statement
that begins with a semicolon is dropped without a word. -/
inductive Recounts : Nat → List Event → List FailedStatement → Nat → Prop where
  | nil {start stop : Nat} (onward : start ≤ stop) : Recounts start [] [] stop
  | keyword {start stop : Nat} {kind : Token.Kind} {log : List Event} {failed : List FailedStatement}
      (rest : Recounts start log failed stop) :
      Recounts start (.statementKeyword kind :: log) failed stop
  | dropped {start stop : Nat} {first : Token} {failure : Diagnostic} {log : List Event}
      {failed : List FailedStatement} (semicolon : first.kind = .semicolon)
      (rest : Recounts start log failed stop) :
      Recounts start (.failed failure :: log) (⟨first, failure⟩ :: failed) stop
  | resumed {start index stop : Nat} {first token : Token} {failure : Diagnostic} {log : List Event}
      {failed : List FailedStatement} (other : first.kind ≠ .semicolon) (onward : start ≤ index)
      (rest : Recounts index log failed stop) :
      Recounts start (.failed failure :: .resynchronized index token :: log)
        (⟨first, failure⟩ :: failed) stop

namespace Recounts

variable {start middle stop : Nat} {log others : List Event} {failed more : List FailedStatement}

theorem behind {earlier : Nat} (onward : earlier ≤ start)
    (recounts : Recounts start log failed stop) : Recounts earlier log failed stop := by
  induction recounts with
  | nil further => exact .nil (Nat.le_trans onward further)
  | keyword _ ih => exact .keyword (ih onward)
  | dropped semicolon _ ih => exact .dropped semicolon (ih onward)
  | resumed other further rest => exact .resumed other (Nat.le_trans onward further) rest

theorem append (first : Recounts start log failed middle)
    (second : Recounts middle others more stop) :
    Recounts start (log ++ others) (failed ++ more) stop := by
  induction first with
  | nil onward => exact second.behind onward
  | keyword _ ih => exact .keyword (ih second)
  | dropped semicolon _ ih => exact .dropped semicolon (ih second)
  | resumed other onward _ ih => exact .resumed other onward (ih second)

/-- No log begins with the place where the reading goes on. -/
theorem isSome_head? (recounts : Recounts start log failed stop) :
    (log.head?.bind Event.resumption?).isSome = false := by
  cases recounts <;> rfl

theorem followUps_eq (recounts : Recounts start log failed stop) :
    Event.followUps log = failed.map fun statement =>
      (statement.failure, decide (statement.first.kind ≠ .semicolon)) := by
  induction recounts with
  | nil => rfl
  | keyword _ ih => exact ih
  | dropped semicolon rest ih =>
    rw [Event.followUps, rest.isSome_head?, ih, List.map_cons, decide_eq_false (not_not.2 semicolon)]
  | @resumed _ index _ _ token failure log _ other _ _ ih =>
    have told : Event.followUps (.failed failure :: .resynchronized index token :: log) =
        (failure, true) :: Event.followUps log := rfl
    rw [told, ih, List.map_cons, decide_eq_true other]

theorem filterMap_failure? (recounts : Recounts start log failed stop) :
    log.filterMap Event.failure? = failed.map FailedStatement.failure := by
  induction recounts with
  | nil => rfl
  | keyword _ ih => exact ih
  | dropped _ _ ih => exact congrArg _ ih
  | resumed _ _ _ ih => exact congrArg _ ih

theorem pairwise_resumption? (recounts : Recounts start log failed stop) :
    (log.filterMap Event.resumption?).Pairwise (· ≤ ·) ∧
      ∀ index ∈ log.filterMap Event.resumption?, start ≤ index := by
  induction recounts with
  | nil => exact ⟨.nil, List.forall_mem_nil _⟩
  | keyword _ ih => exact ih
  | dropped _ _ ih => exact ih
  | resumed _ onward _ ih =>
    obtain ⟨ordered, behind⟩ := ih
    exact ⟨.cons behind ordered, List.forall_mem_cons.2
      ⟨onward, fun later member => Nat.le_trans onward (behind later member)⟩⟩

/-- The log is made of details of the reading and has no illegal characters in it. -/
theorem detailed (recounts : Recounts start log failed stop) :
    ∀ event ∈ log, event.level = .debug ∧
      ∀ character file byte, event ≠ .illegalCharacter character file byte := by
  induction recounts with
  | nil => exact List.forall_mem_nil _
  | keyword _ ih => exact List.forall_mem_cons.2 ⟨⟨rfl, nofun⟩, ih⟩
  | dropped _ _ ih => exact List.forall_mem_cons.2 ⟨⟨rfl, nofun⟩, ih⟩
  | resumed _ _ _ ih =>
    exact List.forall_mem_cons.2 ⟨⟨rfl, nofun⟩, List.forall_mem_cons.2 ⟨⟨rfl, nofun⟩, ih⟩⟩

end Recounts

/-- Between two states the failures of the statements are recorded, and the log recounts them. -/
structure State.Logs (before : State) (failed : List FailedStatement) (after : State) : Prop where
  errors : after.errors.toList = before.errors.toList ++ failed.map FailedStatement.failure
  log : ∃ log, after.events.toList = before.events.toList ++ log ∧
    Recounts before.cursor.index log failed after.cursor.index

namespace State.Logs

variable {first second third state : State} {failed others : List FailedStatement}

theorem refl (state : State) : state.Logs [] state :=
  ⟨(List.append_nil _).symm, [], (List.append_nil _).symm, .nil (Nat.le_refl _)⟩

theorem trans (start : first.Logs failed second) (finish : second.Logs others third) :
    first.Logs (failed ++ others) third := by
  obtain ⟨log, before, recounts⟩ := start.log
  obtain ⟨later, after, recountsLater⟩ := finish.log
  refine ⟨?_, log ++ later, ?_, recounts.append recountsLater⟩
  · rw [finish.errors, start.errors, List.map_append, List.append_assoc]
  · rw [after, before, List.append_assoc]

theorem advance (state : State) : state.Logs [] state.advance :=
  ⟨(List.append_nil _).symm, [], (List.append_nil _).symm, .nil (Reaches.advance state).index_le⟩

theorem note (kind : Token.Kind) (state : State) :
    state.Logs [] (state.note (.statementKeyword kind)) :=
  ⟨(List.append_nil _).symm, [.statementKeyword kind], Array.toList_push,
    .keyword (.nil (Nat.le_refl _))⟩

theorem expect (kind : Token.Kind) (state : State) :
    state.Logs [] (final (expect kind) state) := by
  rw [final_expect]
  split
  · exact advance state
  · exact refl state

end State.Logs

/-- A statement cannot begin with a semicolon, and it does not consume one. -/
theorem statement_of_semicolon (limit room : Nat) {state : State}
    (semicolon : state.current.kind = .semicolon) :
    ∃ failure, statement (.within limit room) state = .error failure state := by
  have fails : ∃ failure, (Nested.within limit room).expression .lowest state =
      .error failure state := by
    cases room with
    | zero => exact ⟨_, rfl⟩
    | succ room =>
      rw [Nested.within_succ_expression, expression_eq, bind_apply, opening_apply, semicolon]
      exact ⟨_, rfl⟩
  obtain ⟨failure, failed⟩ := fails
  refine ⟨failure, ?_⟩
  rw [statement_apply, semicolon]
  change bareExpression _ state = _
  rw [bareExpression, bind_apply, current_apply]
  dsimp only
  rw [bind_apply, failed]

/-- A failed statement stops at a semicolon without a consumed token exactly if it begins with it. -/
theorem stands_at_semicolon_iff {limit room : Nat} {state middle : State} {failure : Diagnostic}
    (outcome : statement (.within limit room) state = .error failure middle) :
    middle.cursor.index = state.cursor.index ∧ middle.current.kind = .semicolon ↔
      state.current.kind = .semicolon := by
  constructor
  · intro stands
    have reaches : state.Reaches middle :=
      (forward_closed.statement (forward_closed.within limit room)).of_error outcome
    rw [← stands.2, State.current, State.current, reaches.cursor_eq_of_index stands.1]
  · intro semicolon
    obtain ⟨failed, stays⟩ := statement_of_semicolon limit room semicolon
    cases outcome.symm.trans stays
    exact ⟨rfl, semicolon⟩

/-- The failure of a statement is recorded and told, and behind a token other than a lone semicolon
the log tells where the reading goes on. -/
theorem State.Logs.failed {limit room : Nat} {state middle : State} {failure : Diagnostic}
    (outcome : statement (.within limit room) state = .error failure middle)
    (closing : Token.Kind) :
    middle.Logs [⟨state.current, failure⟩]
      ((middle.record failure).resynchronize state.cursor.index closing) := by
  have onward : middle.cursor.index ≤ _ :=
    (Reaches.resynchronize state.cursor.index closing (middle.record failure)).index_le
  have errors := errors_resynchronize state.cursor.index closing (middle.record failure)
  have events := events_resynchronize state.cursor.index closing (middle.record failure)
  have recorded : (middle.record failure).events.toList =
      middle.events.toList ++ [.failed failure] := Array.toList_push
  -- A failure is recorded where the statement stopped, since this consumes nothing.
  have stands := stands_at_semicolon_iff outcome
  have dropped : (middle.record failure).cursor.index = state.cursor.index ∧
      (middle.record failure).current.kind = .semicolon ↔ state.current.kind = .semicolon := stands
  generalize (middle.record failure).resynchronize state.cursor.index closing = after
    at onward errors events ⊢
  constructor
  · rw [errors]
    exact Array.toList_push
  · by_cases semicolon : state.current.kind = .semicolon
    · rw [if_pos (dropped.2 semicolon)] at events
      exact ⟨[.failed failure], by rw [events, recorded], .dropped semicolon (.nil onward)⟩
    · rw [if_neg (mt dropped.1 semicolon)] at events
      have told : after.events.toList = middle.events.toList ++
          [.failed failure, .resynchronized after.cursor.index after.current] := by
        rw [events, Array.toList_push, recorded, List.append_assoc]
        rfl
      exact ⟨_, told, .resumed semicolon onward (.nil (Nat.le_refl _))⟩

/-- Whatever course a reading takes, its log recounts the statements that fail on it. By induction on
the course, what is inside of a failed statement is told before the failure itself. -/
theorem Course.logs {limit : Nat} {scope : Course.Scope} {before after : State}
    {failed : List FailedStatement} (course : Course limit scope before failed after) :
    before.Logs failed after := by
  induction course with
  | done => exact .refl _
  | read _ _ _ _ inside rest => exact inside.trans rest
  | failed _ outcome _ _ inside rest => exact inside.trans ((State.Logs.failed outcome _).trans rest)
  | stay => exact .refl _
  | consume _ _ rest => exact (State.Logs.advance _).trans rest
  | announce _ rest => exact (State.Logs.note _ _).trans rest
  | block _ _ _ statements rest =>
    exact ((State.Logs.advance _).trans statements).trans ((State.Logs.expect _ _).trans rest)

end Rule

theorem Cursor.size_ofTokens (tokens : List Token) (file : String) :
    (ofTokens tokens file).size = (withEnd tokens file).length := by
  have stands := standsIn_ofTokens tokens file
  unfold StandsIn at stands
  rw [index_ofTokens, List.drop_zero] at stands
  rw [← stands, List.length_append]
  rfl

/-- From the beginning of a script on, the log recounts the failed statements of any course. -/
theorem Rule.Course.recounts {tokens : List Token} {file : String} {limit : Nat}
    {failed : List FailedStatement} {last : State}
    (course : Course limit (.statements limit .endOfInput) (.ofTokens tokens file) failed last) :
    let final := ((State.ofTokens tokens file).statementsUntil (.within limit limit) .endOfInput).2
    final.errors.toList = failed.map FailedStatement.failure ∧
      Recounts (Cursor.ofTokens tokens file).index final.events.toList failed
        final.cursor.index := by
  obtain ⟨errors, log, events, recounts⟩ := course.logs
  rw [course.last_eq (rounds_statementsUntil (Nested.steady_within limit limit) .endOfInput _)]
    at errors events recounts
  obtain rfl : _ = log := events
  exact ⟨errors, recounts⟩

/-- What it means that the log of a script is a faithful trace of its reading. -/
structure Chronicle (source file : String) (limit : Nat) (rejections details : List Event) : Prop where
  /-- The characters that begin no token come first, and two counts enclose the details. -/
  events : (readScript source file limit).events =
    rejections ++ .started (tokenize source file).length file :: details ++
      [.finished (readScript source file limit).program.statements.length file
        (readScript source file limit).errors.length]
  rejects : List.Forall₂ (Event.Rejects source file) rejections
    ((tokenize source file).filter (·.kind = .illegal))
  detailed : ∀ event ∈ details, event.level = .debug ∧
    ∀ character file byte, event ≠ .illegalCharacter character file byte
  failures : details.filterMap Event.failure? = (readScript source file limit).errors
  /-- The reading has a course, and whatever course it takes, the failures are those of the statements
  that fail on it. The log tells where the reading goes on exactly behind the failures of statements that
  do not begin with a semicolon. -/
  followUps : (∃ failed last, Rule.Course limit (.statements limit .endOfInput)
      (.ofTokens (tokenize source file) file) failed last) ∧
    ∀ failed last, Rule.Course limit (.statements limit .endOfInput)
      (.ofTokens (tokenize source file) file) failed last →
        (readScript source file limit).errors = failed.map Rule.FailedStatement.failure ∧
          Event.followUps details = failed.map fun statement =>
            (statement.failure, decide (statement.first.kind ≠ .semicolon))
  onward : (details.filterMap Event.resumption?).Pairwise (· ≤ ·)

/-- The semicolon in the block is a statement that is dropped without a word. The block and the script
both end at a failure, and the reading goes on at the end of the script for each of them. -/
example :
    let events := (readScript "fn() \x7b ; let" defaultFile 8).events
    (Event.followUps events).map Prod.snd = [false, true, true] ∧
      events.filterMap Event.resumption? = [6, 6] := by
  decide +kernel

end ScriptFrontend
