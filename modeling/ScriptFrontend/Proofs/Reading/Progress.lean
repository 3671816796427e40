/-
This file shows that every rule moves forward and that the loops have as many rounds as they need.
-/

import ScriptFrontend.Proofs.Reading.Closure

namespace ScriptFrontend

namespace Cursor

theorem index_ofTokens (tokens : List Token) (file : String) :
    (ofTokens tokens file).index = 0 := by
  unfold ofTokens
  split
  · rfl
  · split <;> rfl

theorem lastEnd_ofTokens (tokens : List Token) (file : String) :
    (ofTokens tokens file).lastEnd = Position.ofByte 0 file := by
  unfold ofTokens
  split
  · rfl
  · split <;> rfl

theorem ofTokens_concat (tokens : List Token) (file : String) {last : Token}
    (ends : last.kind = .endOfInput) :
    ofTokens (tokens ++ [last]) file = ⟨0, Position.ofByte 0 file, tokens, last, ends⟩ := by
  unfold ofTokens
  rw [List.getLast?_concat]
  dsimp only
  rw [dif_pos ends, List.dropLast_concat]

theorem advanceBy_add (cursor : Cursor) (first second : Nat) :
    cursor.advanceBy (first + second) = (cursor.advanceBy first).advanceBy second := by
  induction first generalizing cursor with
  | zero => rw [Nat.zero_add, advanceBy]
  | succ first ih => rw [Nat.succ_add, advanceBy, advanceBy, ih]

/-- At the end mark no number of steps changes anything. -/
theorem advanceBy_of_ahead_nil {cursor : Cursor} (done : cursor.ahead = []) (count : Nat) :
    cursor.advanceBy count = cursor := by
  have stays : cursor.advance = cursor := by
    unfold advance
    split
    · rfl
    · simp_all
  induction count with
  | zero => rfl
  | succ count ih => rw [advanceBy, stays, ih]

@[simp] theorem endMark_advanceBy (cursor : Cursor) (count : Nat) :
    (cursor.advanceBy count).endMark = cursor.endMark := by
  induction count generalizing cursor with
  | zero => rfl
  | succ count ih => rw [advanceBy, ih, endMark_advance]

/-- The index counts the tokens that are no longer ahead. -/
theorem index_add_length_advanceBy (cursor : Cursor) (count : Nat) :
    (cursor.advanceBy count).index + (cursor.advanceBy count).ahead.length =
      cursor.index + cursor.ahead.length := by
  induction count generalizing cursor with
  | zero => rfl
  | succ count ih =>
    rw [advanceBy, ih]
    unfold advance
    split
    · rfl
    · next token rest unread =>
      rw [unread, List.length_cons]
      dsimp only
      omega

theorem ahead_ne_nil_of_kind {cursor : Cursor} (present : cursor.current.kind ≠ .endOfInput) :
    cursor.ahead ≠ [] := by
  intro done
  rw [current_of_nil done] at present
  exact present cursor.endMark_kind

theorem length_ahead_advance_lt {cursor : Cursor} (present : cursor.current.kind ≠ .endOfInput) :
    cursor.advance.ahead.length < cursor.ahead.length := by
  have unread := List.length_pos_iff.2 (ahead_ne_nil_of_kind present)
  rw [ahead_advance, List.length_tail]
  omega

theorem skipWhile_of_holds {cursor : Cursor} {condition : Token → Bool} (unread : cursor.ahead ≠ [])
    (holds : condition cursor.current = true) :
    cursor.skipWhile condition = cursor.advance.skipWhile condition := by
  obtain ⟨token, others, ahead⟩ := List.exists_cons_of_ne_nil unread
  rw [current_of_cons ahead] at holds
  unfold skipWhile
  rw [ahead_advance, ahead, List.takeWhile_cons_of_pos holds, List.tail_cons, List.length_cons,
    advanceBy]

theorem skipWhile_of_not {cursor : Cursor} {condition : Token → Bool}
    (stops : condition cursor.current = false) : cursor.skipWhile condition = cursor := by
  unfold skipWhile
  cases ahead : cursor.ahead with
  | nil => rfl
  | cons token others =>
    rw [current_of_cons ahead] at stops
    rw [List.takeWhile_cons_of_neg (by simp [stops])]
    rfl

end Cursor

namespace Rule

/-- A state is reached from another when the cursor moved forward and failures were only added. -/
structure State.Reaches (before after : State) : Prop where
  cursor : ∃ count, after.cursor = before.cursor.advanceBy count
  errors : before.errors.toList <+: after.errors.toList

namespace State.Reaches

theorem refl (state : State) : state.Reaches state :=
  ⟨⟨0, rfl⟩, List.prefix_refl _⟩

theorem trans {first second third : State} (start : first.Reaches second)
    (finish : second.Reaches third) : first.Reaches third := by
  obtain ⟨before, moved⟩ := start.cursor
  obtain ⟨after, movedOn⟩ := finish.cursor
  refine ⟨⟨before + after, ?_⟩, start.errors.trans finish.errors⟩
  rw [movedOn, moved, Cursor.advanceBy_add]

theorem advance (state : State) : state.Reaches state.advance :=
  ⟨⟨1, rfl⟩, List.prefix_refl _⟩

theorem note (event : Event) (state : State) : state.Reaches (state.note event) :=
  ⟨⟨0, rfl⟩, List.prefix_refl _⟩

theorem record (failure : Diagnostic) (state : State) : state.Reaches (state.record failure) := by
  refine ⟨⟨0, rfl⟩, ?_⟩
  simp [State.record, State.note]

theorem skipToBoundary (closing : Token.Kind) (state : State) :
    state.Reaches (state.skipToBoundary closing) := by
  have found : state.Reaches
      (state.skipWhile fun token => !isBoundary closing token.kind) :=
    ⟨⟨_, rfl⟩, List.prefix_refl _⟩
  unfold State.skipToBoundary
  dsimp only
  split
  · exact found.trans ((advance _).trans (note _ _))
  · exact found.trans (note _ _)

theorem resynchronize (start : Nat) (closing : Token.Kind) (state : State) :
    state.Reaches (state.resynchronize start closing) := by
  unfold State.resynchronize
  split
  · split
    · exact advance state
    · exact (advance state).trans (skipToBoundary closing _)
  · exact skipToBoundary closing state

/-- The tokens ahead are a last part of those that were ahead before. -/
theorem taken {before after : State} (reaches : before.Reaches after) :
    ∃ tokens, before.cursor.ahead = tokens ++ after.cursor.ahead := by
  obtain ⟨count, moved⟩ := reaches.cursor
  refine ⟨before.cursor.ahead.take count, ?_⟩
  rw [moved, Cursor.ahead_advanceBy, List.take_append_drop]

theorem length_le {before after : State} (reaches : before.Reaches after) :
    after.cursor.ahead.length ≤ before.cursor.ahead.length := by
  obtain ⟨tokens, split⟩ := reaches.taken
  rw [split, List.length_append]
  omega

theorem size_le {before after : State} (reaches : before.Reaches after) :
    before.errors.size ≤ after.errors.size := by
  simpa using reaches.errors.length_le

/-- A state in between has no new failures when the last one has none. -/
theorem errors_eq {first second third : State} (start : first.Reaches second)
    (finish : second.Reaches third) (same : third.errors = first.errors) :
    second.errors = first.errors ∧ third.errors = second.errors := by
  have firstLength := start.errors.length_le
  have lastLength := finish.errors.length_le
  rw [same] at lastLength
  have equal := start.errors.eq_of_length (by omega)
  have middle : second.errors = first.errors := (Array.toList_inj.1 equal).symm
  exact ⟨middle, same.trans middle.symm⟩

theorem cursor_eq_of_index {before after : State} (reaches : before.Reaches after)
    (same : after.cursor.index = before.cursor.index) : after.cursor = before.cursor := by
  obtain ⟨count, moved⟩ := reaches.cursor
  have total := before.cursor.index_add_length_advanceBy count
  rw [← moved, same] at total
  have length : after.cursor.ahead.length = before.cursor.ahead.length := by omega
  rw [moved, Cursor.ahead_advanceBy, List.length_drop] at length
  cases count with
  | zero => rw [moved, Cursor.advanceBy]
  | succ count =>
    have done : before.cursor.ahead = [] := List.length_eq_zero_iff.1 (by omega)
    rw [moved, Cursor.advanceBy_of_ahead_nil done]

end State.Reaches

/-- The state in which a rule ends, whether it read something or failed. -/
def final {α : Type} (rule : Rule α) (state : State) : State :=
  match rule state with
  | .ok _ after => after
  | .error _ after => after

theorem final_of_ok {α : Type} {rule : Rule α} {state after : State} {value : α}
    (read : rule state = .ok value after) : final rule state = after := by
  rw [final, read]

theorem final_of_error {α : Type} {rule : Rule α} {state after : State} {failure : Diagnostic}
    (failed : rule state = .error failure after) : final rule state = after := by
  rw [final, failed]

/-- A rule moves forward when it always ends in a state that is reached from the first one. -/
def Forward (α : Type) (rule : Rule α) : Prop :=
  ∀ state : State, state.Reaches (final rule state)

theorem Forward.of_ok {α : Type} {rule : Rule α} (forward : Forward α rule) {state after : State}
    {value : α} (read : rule state = .ok value after) : state.Reaches after := by
  have reaches := forward state
  rwa [final_of_ok read] at reaches

theorem Forward.of_error {α : Type} {rule : Rule α} (forward : Forward α rule)
    {state after : State} {failure : Diagnostic} (failed : rule state = .error failure after) :
    state.Reaches after := by
  have reaches := forward state
  rwa [final_of_error failed] at reaches

theorem forward_bind {α β : Type} {rule : Rule α} {next : α → Rule β} (first : Forward α rule)
    (rest : ∀ value, Forward β (next value)) : Forward β (rule >>= next) := by
  intro state
  rw [final, bind_apply]
  cases outcome : rule state with
  | error failure after => exact first.of_error outcome
  | ok value after => exact (first.of_ok outcome).trans (rest value after)

theorem forward_attempt {closing : Token.Kind} {rule : Rule Statement}
    (forward : Forward Statement rule) : Forward (Option Statement) (attempt closing rule) := by
  intro state
  rw [final, attempt]
  cases outcome : rule state with
  | ok first after => exact forward.of_ok outcome
  | error failure after =>
    exact (forward.of_error outcome).trans
      ((State.Reaches.record failure after).trans (State.Reaches.resynchronize _ _ _))

theorem forward_closed : Closed Forward where
  pure _ := State.Reaches.refl
  throw _ := State.Reaches.refl
  bind := forward_bind
  current := State.Reaches.refl
  lastEnd := State.Reaches.refl
  unread := State.Reaches.refl
  advance := State.Reaches.advance
  note event := State.Reaches.note event
  attempt := forward_attempt

/-- What is built from the end of the last consumed token. -/
theorem forward_spanned {α : Type} (build : Position → α) :
    Forward α (lastEnd >>= fun stop => pure (build stop)) :=
  forward_closed.bind forward_closed.lastEnd fun _ => forward_closed.pure _

/-- What follows an advance leaves fewer tokens ahead, unless the input has ended before. -/
theorem length_advance_bind_lt {β : Type} {next : Token → Rule β}
    (forward : ∀ token, Forward β (next token)) {state : State}
    (present : state.current.kind ≠ .endOfInput) :
    (final (advance >>= next) state).cursor.ahead.length < state.cursor.ahead.length := by
  have moved : final (advance >>= next) state = final (next state.current) state.advance := rfl
  rw [moved]
  exact Nat.lt_of_le_of_lt (forward state.current state.advance).length_le
    (Cursor.length_ahead_advance_lt present)

/-- A literal that is read is the current token, and it is consumed. -/
theorem literal_eq_ok {state after : State} {tree : Expression}
    (read : literal state = .ok tree after) :
    after = state.advance ∧
      ((∃ value, state.current.kind = .integer ∧
          Text.readInteger? state.current.text = some value ∧
          tree = .integer state.current value) ∨
        (state.current.kind = .identifier ∧ tree = .identifier state.current) ∨
        (state.current.kind = .trueKeyword ∧ tree = .boolean state.current true) ∨
        (state.current.kind = .falseKeyword ∧ tree = .boolean state.current false)) := by
  rw [literal_apply] at read
  split at read
  · next isInteger =>
    split at read
    · next value denoted =>
      cases read
      exact ⟨rfl, .inl ⟨value, isInteger, denoted, rfl⟩⟩
    · cases read
  · next isIdentifier =>
    cases read
    exact ⟨rfl, .inr (.inl ⟨isIdentifier, rfl⟩)⟩
  · next isTrue =>
    cases read
    exact ⟨rfl, .inr (.inr (.inl ⟨isTrue, rfl⟩))⟩
  · next isFalse =>
    cases read
    exact ⟨rfl, .inr (.inr (.inr ⟨isFalse, rfl⟩))⟩
  · cases read

end Rule

/-- The rules of a deeper level are steady when they move forward and an expression consumes a
token. -/
structure Nested.Steady (inner : Nested) : Prop where
  forward : inner.Has Rule.Forward
  consumes : ∀ {power state after tree}, inner.expression power state = .ok tree after →
    after.cursor.ahead.length < state.cursor.ahead.length

namespace Rule

section Rounds

variable {inner : Nested}

theorem length_leading_lt (forward : inner.Has Forward) {rule : LeadingRule} {state after : State}
    {tree : Expression} (present : state.current.kind ≠ .endOfInput)
    (read : leading inner rule state = .ok tree after) :
    after.cursor.ahead.length < state.cursor.ahead.length := by
  rw [← final_of_ok read]
  cases rule with
  | literal =>
    rw [final_of_ok read, (literal_eq_ok read).1]
    exact Cursor.length_ahead_advance_lt present
  | unary =>
    exact length_advance_bind_lt (fun _ => forward_closed.bind (forward.expression _)
      fun _ => forward_closed.pure _) present
  | grouping =>
    exact length_advance_bind_lt (fun _ => forward_closed.bind (forward.expression _)
      fun _ => forward_closed.bind (forward_closed.expect _) fun _ => forward_closed.pure _) present
  | conditional =>
    exact length_advance_bind_lt (fun _ => forward_closed.bind (forward_closed.expect _) fun _ =>
      forward_closed.bind (forward.expression _) fun _ =>
        forward_closed.bind (forward_closed.expect _) fun _ =>
          forward_closed.bind forward.block fun _ =>
            forward_closed.bind (forward_closed.alternative forward) fun _ =>
              forward_spanned _) present
  | function =>
    exact length_advance_bind_lt (fun _ => forward_closed.bind (forward_closed.expect _) fun _ =>
      forward_closed.bind (forward_closed.parenthesized (forward_closed.expect _)) fun _ =>
        forward_closed.bind forward.block fun _ =>
          forward_spanned _) present

theorem length_following_lt (forward : inner.Has Forward) {power : BindingPower}
    {left tree : Expression} {rule : FollowingRule} {state after : State}
    (present : state.current.kind ≠ .endOfInput)
    (read : following inner power left rule state = .ok tree after) :
    after.cursor.ahead.length < state.cursor.ahead.length := by
  rw [← final_of_ok read]
  cases rule with
  | binary =>
    exact length_advance_bind_lt (fun _ => forward_closed.bind (forward.expression _)
      fun _ => forward_closed.pure _) present
  | call =>
    exact length_advance_bind_lt (fun _ => forward_closed.bind
      (forward_closed.parenthesized (forward.expression _)) fun _ =>
        forward_spanned _) present

theorem length_opening_lt (forward : inner.Has Forward) {state after : State} {tree : Expression}
    (read : opening inner state = .ok tree after) :
    after.cursor.ahead.length < state.cursor.ahead.length := by
  rw [opening_apply] at read
  split at read
  · next rule dispatched =>
    exact length_leading_lt forward (RuleTable.kind_ne_of_rule dispatched rfl) read
  · split at read <;> cases read

theorem length_expression_lt (forward : inner.Has Forward) {power : BindingPower}
    {state after : State} {tree : Expression}
    (read : expression inner power state = .ok tree after) :
    after.cursor.ahead.length < state.cursor.ahead.length := by
  obtain ⟨left, middle, opened, rest⟩ := bind_eq_ok.1 read
  have climbed : Forward Expression (unread >>= fun rounds => climb inner power rounds left) :=
    forward_closed.bind forward_closed.unread fun rounds =>
      forward_closed.climb forward power rounds left
  exact Nat.lt_of_le_of_lt (climbed.of_ok rest).length_le (length_opening_lt forward opened)

end Rounds

end Rule

theorem Nested.steady_within (limit room : Nat) : (Nested.within limit room).Steady where
  forward := Rule.forward_closed.within limit room
  consumes := by
    intro power state after tree read
    cases room with
    | zero => cases read
    | succ room => exact Rule.length_expression_lt (Rule.forward_closed.within limit room) read

namespace Rule

section Rounds

variable {inner : Nested} (steady : inner.Steady)
include steady

omit steady in
theorem length_binding_lt (forward : inner.Has Forward) {state : State}
    (present : state.current.kind ≠ .endOfInput) :
    (final (binding inner) state).cursor.ahead.length < state.cursor.ahead.length :=
  length_advance_bind_lt (fun _ => forward_closed.bind forward_closed.current fun _ =>
    forward_closed.bind (forward_closed.expectOr _ _) fun _ =>
      forward_closed.bind (forward_closed.expect _) fun _ =>
        forward_closed.bind (forward.expression _) fun _ =>
          forward_closed.bind (forward_closed.skipOptional _) fun _ =>
            forward_spanned _) present

omit steady in
theorem length_returning_lt (forward : inner.Has Forward) {state : State}
    (present : state.current.kind ≠ .endOfInput) :
    (final (returning inner) state).cursor.ahead.length < state.cursor.ahead.length :=
  length_advance_bind_lt (fun _ => forward_closed.bind (forward_closed.returned forward) fun _ =>
    forward_closed.bind (forward_closed.skipOptional _) fun _ =>
      forward_spanned _) present

theorem length_statement_lt {state after : State} {tree : Statement}
    (present : state.current.kind ≠ .endOfInput) (read : statement inner state = .ok tree after) :
    after.cursor.ahead.length < state.cursor.ahead.length := by
  have forward := steady.forward
  rw [statement_apply] at read
  split at read
  · obtain ⟨token, same, started, continued⟩ := bind_eq_ok.1 read
    cases started
    obtain ⟨value, middle, valued, rest⟩ := bind_eq_ok.1 continued
    have ending : Forward Statement (skipOptional .semicolon >>= fun _ => pure
        (.expression state.current value ⟨state.current.span.start, value.span.stop⟩)) :=
      forward_closed.bind (forward_closed.skipOptional _) fun _ => forward_closed.pure _
    exact Nat.lt_of_le_of_lt (ending.of_ok rest).length_le (steady.consumes valued)
  · rw [← final_of_ok read]
    exact length_binding_lt forward present
  · rw [← final_of_ok read]
    exact length_returning_lt forward present

omit steady in
/-- Resynchronization consumes a token even if the failed statement consumed none. -/
theorem length_resynchronize_lt {closing : Token.Kind} {state after : State}
    (reaches : state.Reaches after) (present : state.current.kind ≠ .endOfInput) :
    (after.resynchronize state.cursor.index closing).cursor.ahead.length <
      state.cursor.ahead.length := by
  by_cases same : after.cursor.index = state.cursor.index
  · have stands : after.cursor = state.cursor := reaches.cursor_eq_of_index same
    have advanced : after.advance.cursor.ahead.length < state.cursor.ahead.length := by
      change after.cursor.advance.ahead.length < _
      rw [stands]
      exact Cursor.length_ahead_advance_lt present
    rw [State.resynchronize, if_pos same]
    split
    · exact advanced
    · exact Nat.lt_of_le_of_lt (State.Reaches.skipToBoundary _ _).length_le advanced
  · have shorter : after.cursor.ahead.length < state.cursor.ahead.length := by
      refine Nat.lt_of_le_of_ne reaches.length_le fun equal => same ?_
      obtain ⟨count, moved⟩ := reaches.cursor
      have total := state.cursor.index_add_length_advanceBy count
      rw [← moved] at total
      omega
    rw [State.resynchronize, if_neg same]
    exact Nat.lt_of_le_of_lt (State.Reaches.skipToBoundary _ _).length_le shorter

/-- Every round of the loop over statements consumes a token, whether its statement was read or
failed. -/
theorem length_attempt_lt {closing : Token.Kind} {state after : State} {tree : Option Statement}
    (present : state.current.kind ≠ .endOfInput)
    (read : attempt closing (statement inner) state = .ok tree after) :
    after.cursor.ahead.length < state.cursor.ahead.length := by
  rw [attempt] at read
  cases outcome : statement inner state with
  | ok first middle =>
    rw [outcome] at read
    cases read
    exact length_statement_lt steady present outcome
  | error failure middle =>
    rw [outcome] at read
    cases read
    have reaches := (forward_closed.statement steady.forward).of_error outcome
    exact length_resynchronize_lt (reaches.trans (State.Reaches.record failure middle)) present

omit steady in
theorem endOfInput_of_ahead_nil {state : State} (done : state.cursor.ahead = []) :
    state.current.kind = .endOfInput := by
  rw [State.current, Cursor.current_of_nil done]
  exact state.cursor.endMark_kind

omit steady in
theorem climb_of_endOfInput {power : BindingPower} {left : Expression} {state : State}
    (ended : state.current.kind = .endOfInput) (rounds : Nat) :
    climb inner power rounds left state = .ok left state := by
  cases rounds with
  | zero => rfl
  | succ rounds =>
    rw [climb_succ_apply, ended]
    rfl

/-- As many rounds as unread tokens are enough for a climb, and more of them change nothing. -/
theorem climb_eq_climb {power : BindingPower} {rounds others : Nat} {left : Expression}
    {state : State} (enough : state.cursor.ahead.length ≤ rounds)
    (enoughToo : state.cursor.ahead.length ≤ others) :
    climb inner power rounds left state = climb inner power others left state := by
  -- Every operator takes a token, so the tokens ahead bound the rounds that are played.
  induction rounds generalizing others left state with
  | zero =>
    have ended := endOfInput_of_ahead_nil (List.length_eq_zero_iff.1 (Nat.le_zero.1 enough))
    rw [climb_of_endOfInput ended, climb_of_endOfInput ended]
  | succ rounds ih =>
    cases others with
    | zero =>
      have ended := endOfInput_of_ahead_nil (List.length_eq_zero_iff.1 (Nat.le_zero.1 enoughToo))
      rw [climb_of_endOfInput ended, climb_of_endOfInput ended]
    | succ others =>
      rw [climb_succ_apply, climb_succ_apply]
      split
      · rfl
      · next strength rule dispatched =>
        split
        · rw [bind_apply, bind_apply]
          cases read : following inner strength left rule state with
          | error failure after => rfl
          | ok extended after =>
            have present : state.current.kind ≠ .endOfInput :=
              RuleTable.kind_ne_of_rule dispatched rfl
            have shorter := length_following_lt steady.forward present read
            exact ih (by omega) (by omega)
        · rfl

omit steady in
theorem separatedIn_of_ahead_nil {α : Type} {item : Rule α} (forward : Forward α item)
    {state : State} (done : state.cursor.ahead = []) (rounds : Nat) :
    separatedIn item rounds state = separatedIn item 0 state := by
  cases rounds with
  | zero => rfl
  | succ rounds =>
    rw [separatedIn, separatedIn, bind_apply, bind_apply]
    cases read : item state with
    | error failure after => rfl
    | ok first after =>
      have nothing := (forward.of_ok read).length_le
      rw [done] at nothing
      have ended := endOfInput_of_ahead_nil (List.length_eq_zero_iff.1 (Nat.le_zero.1 nothing))
      dsimp only
      rw [bind_apply, skipOptional_apply, ended]
      rfl

omit steady in
/-- Every round of a list after the first begins with a comma that is consumed. -/
theorem separatedIn_eq_separatedIn {α : Type} {item : Rule α} (forward : Forward α item)
    {rounds others : Nat} {state : State} (enough : state.cursor.ahead.length ≤ rounds)
    (enoughToo : state.cursor.ahead.length ≤ others) :
    separatedIn item rounds state = separatedIn item others state := by
  induction rounds generalizing others state with
  | zero =>
    have done := List.length_eq_zero_iff.1 (Nat.le_zero.1 enough)
    rw [separatedIn_of_ahead_nil forward done others]
  | succ rounds ih =>
    cases others with
    | zero =>
      have done := List.length_eq_zero_iff.1 (Nat.le_zero.1 enoughToo)
      rw [separatedIn_of_ahead_nil forward done]
    | succ others =>
      rw [separatedIn, separatedIn, bind_apply, bind_apply]
      cases read : item state with
      | error failure after => rfl
      | ok first after =>
        have shorter := (forward.of_ok read).length_le
        dsimp only
        rw [bind_apply, bind_apply, skipOptional_apply]
        by_cases comma : after.current.kind = .comma
        · have present : after.current.kind ≠ .endOfInput := by
            rw [comma]
            decide
          have advanced : after.advance.cursor.ahead.length < after.cursor.ahead.length :=
            Cursor.length_ahead_advance_lt present
          have same : separatedIn item rounds after.advance = separatedIn item others after.advance :=
            ih (by omega) (by omega)
          rw [if_pos comma]
          dsimp only
          rw [if_pos rfl, if_pos rfl, bind_apply, bind_apply, same]
        · rw [if_neg comma]
          rfl

omit steady in
theorem statementsIn_of_endOfInput {closing : Token.Kind} {state : State}
    (ended : state.current.kind = .endOfInput) (rounds : Nat) :
    statementsIn inner closing rounds state = .ok [] state := by
  cases rounds with
  | zero => rfl
  | succ rounds =>
    rw [statementsIn_succ, bind_apply, current_apply]
    dsimp only
    rw [if_pos (.inl ended)]
    rfl

theorem statementsIn_eq_statementsIn {closing : Token.Kind} {rounds others : Nat} {state : State}
    (enough : state.cursor.ahead.length ≤ rounds)
    (enoughToo : state.cursor.ahead.length ≤ others) :
    statementsIn inner closing rounds state = statementsIn inner closing others state := by
  induction rounds generalizing others state with
  | zero =>
    have ended := endOfInput_of_ahead_nil (List.length_eq_zero_iff.1 (Nat.le_zero.1 enough))
    rw [statementsIn_of_endOfInput ended, statementsIn_of_endOfInput ended]
  | succ rounds ih =>
    cases others with
    | zero =>
      have ended := endOfInput_of_ahead_nil (List.length_eq_zero_iff.1 (Nat.le_zero.1 enoughToo))
      rw [statementsIn_of_endOfInput ended, statementsIn_of_endOfInput ended]
    | succ others =>
      rw [statementsIn_succ, statementsIn_succ, bind_apply, bind_apply, current_apply]
      dsimp only
      split
      · rfl
      · next goesOn =>
        rw [bind_apply, bind_apply]
        cases read : attempt closing (statement inner) state with
        | error failure after => rfl
        | ok first after =>
          have shorter := length_attempt_lt steady (fun ended => goesOn (.inl ended)) read
          have same : statementsIn inner closing rounds after =
              statementsIn inner closing others after := ih (by omega) (by omega)
          dsimp only
          rw [bind_apply, bind_apply, same]

end Rounds

/-- A climb has as many rounds as it can use. -/
def climbOn (inner : Nested) (power : BindingPower) (left : Expression) : Rule Expression := do
  climb inner power (← unread) left

theorem expression_eq (inner : Nested) (power : BindingPower) :
    expression inner power = opening inner >>= climbOn inner power := rfl

/-- The climb takes the next operator if it binds tighter than the power, and goes on. -/
theorem climbOn_apply {inner : Nested} (steady : inner.Steady) (power : BindingPower)
    (left : Expression) (state : State) :
    climbOn inner power left state =
      match RuleTable.standard.following state.current.kind with
      | none => .ok left state
      | some (strength, rule) =>
        if power < strength then
          (following inner strength left rule >>= climbOn inner power) state
        else .ok left state := by
  rw [climbOn, bind_apply, unread_apply]
  dsimp only
  cases rounds : state.cursor.ahead.length with
  | zero =>
    have ended := endOfInput_of_ahead_nil (List.length_eq_zero_iff.1 rounds)
    rw [ended]
    rfl
  | succ rounds =>
    rw [climb_succ_apply]
    cases dispatched : RuleTable.standard.following state.current.kind with
    | none => rfl
    | some found =>
      obtain ⟨strength, rule⟩ := found
      dsimp only
      split
      · rw [bind_apply, bind_apply]
        cases read : following inner strength left rule state with
        | error failure after => rfl
        | ok extended after =>
          have present : state.current.kind ≠ .endOfInput :=
            RuleTable.kind_ne_of_rule dispatched rfl
          have shorter := length_following_lt steady.forward present read
          exact climb_eq_climb steady (by omega) (Nat.le_refl _)
      · rfl

/-- A list has as many rounds as it can use. -/
def separated {α : Type} (item : Rule α) : Rule (List α) := do
  separatedIn item (← unread)

theorem separated_eq {α : Type} {item : Rule α} (forward : Forward α item) :
    separated item = (do
      let first ← item
      if ← skipOptional .comma then return first :: (← separated item) else return [first]) := by
  funext state
  have more : separated item state = separatedIn item (state.cursor.ahead.length + 1) state :=
    separatedIn_eq_separatedIn forward (Nat.le_refl _) (Nat.le_succ _)
  rw [more, separatedIn, bind_apply, bind_apply]
  cases read : item state with
  | error failure after => rfl
  | ok first after =>
    have shorter := (forward.of_ok read).length_le
    dsimp only
    rw [bind_apply, bind_apply, skipOptional_apply]
    by_cases comma : after.current.kind = .comma
    · have advanced := (State.Reaches.advance after).length_le
      have enough : separatedIn item state.cursor.ahead.length after.advance =
          separatedIn item after.advance.cursor.ahead.length after.advance :=
        separatedIn_eq_separatedIn forward (by omega) (Nat.le_refl _)
      rw [if_pos comma]
      dsimp only
      rw [if_pos rfl, if_pos rfl, bind_apply, bind_apply, enough]
      rfl
    · rw [if_neg comma]
      rfl

/-- The loop over statements is one attempt after another up to its end. -/
theorem statementsUntil_step {inner : Nested} (steady : inner.Steady) (closing : Token.Kind) :
    statementsUntil inner closing = (do
      if endsStatements closing (← current).kind then return []
      else
        let first ← attempt closing (statement inner)
        return first.toList ++ (← statementsUntil inner closing)) := by
  funext state
  have more : statementsUntil inner closing state =
      statementsIn inner closing (state.cursor.ahead.length + 1) state :=
    statementsIn_eq_statementsIn steady (Nat.le_refl _) (Nat.le_succ _)
  rw [more, statementsIn_succ, bind_apply, bind_apply, current_apply]
  dsimp only
  split
  · rfl
  · next goesOn =>
    rw [bind_apply, bind_apply]
    cases read : attempt closing (statement inner) state with
    | error failure after => rfl
    | ok first after =>
      have shorter := length_attempt_lt steady (fun ended => goesOn (.inl ended)) read
      have enough : statementsIn inner closing state.cursor.ahead.length after =
          statementsIn inner closing after.cursor.ahead.length after :=
        statementsIn_eq_statementsIn steady (by omega) (Nat.le_refl _)
      dsimp only
      rw [bind_apply, bind_apply, enough]
      rfl

end Rule

end ScriptFrontend
