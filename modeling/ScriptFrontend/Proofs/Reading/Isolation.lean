/-
This file shows that no rule looks beyond the semicolon that closes its statement outside all
braces.
-/

import ScriptFrontend.Proofs.Reading.Alignment

namespace ScriptFrontend

namespace Rule

section Expressions

variable {α : Type} {rest : Cursor} {blocks : Nat} {token : Token} {inner : Nested}

/-- No rule of the language begins with a semicolon or a closing brace. -/
theorem isInner_of_rule {table : Token.Kind → Option α} {rule : α} {kind : Token.Kind}
    (dispatched : table kind = some rule) (semicolon : table .semicolon = none)
    (closeCurly : table .closeCurly = none) : kind.IsInner :=
  ⟨RuleTable.kind_ne_of_rule dispatched semicolon, RuleTable.kind_ne_of_rule dispatched closeCurly⟩

theorem isolated_separatedIn {item : Rule α} (each : Isolated rest blocks α item) (rounds : Nat) :
    Isolated rest blocks (List α) (separatedIn item rounds) := by
  induction rounds with
  | zero => exact Carries.bind each fun _ => .pure _
  | succ rounds ih =>
    apply Carries.bind each
    intro first
    apply Carries.bind (isolated_skipOptional (by decide))
    intro found
    split
    · exact Carries.bind ih fun _ => .pure _
    · exact .pure _

theorem isolated_parenthesized {item : Rule α} (forward : Forward α item)
    (each : Isolated rest blocks α item) :
    Isolated rest blocks (List α) (parenthesized item) := by
  have listed : Isolated rest blocks (List α) (listed item) := by
    apply Carries.look
    intro token
    split
    · exact (Carries.pure _).facing
    · apply Carries.facing
      apply Carries.rounds
      · intro state rounds more
        exact separatedIn_eq_separatedIn forward (Nat.le_refl _) more
      · exact isolated_separatedIn each
  apply Carries.bind listed
  intro items
  exact Carries.bind (isolated_expect (by decide)) fun _ => .pure _

theorem isolated_literal : Isolated rest blocks Expression literal := by
  apply Carries.look
  intro token
  split
  · next integer =>
    split
    · exact (carries_advance (by rw [integer]; decide)).bind fun _ => .pure _
    · exact (Carries.throw _).facing
  · next identifier => exact (carries_advance (by rw [identifier]; decide)).bind fun _ => .pure _
  · next truth => exact (carries_advance (by rw [truth]; decide)).bind fun _ => .pure _
  · next truth => exact (carries_advance (by rw [truth]; decide)).bind fun _ => .pure _
  · exact (Carries.throw _).facing

variable (forward : inner.Has Forward) (deeper : inner.Has (Isolated rest blocks))
include deeper

theorem isolated_alternative : Isolated rest blocks (Option Block) (alternative inner) := by
  apply Carries.bind (isolated_skipOptional (by decide))
  intro found
  split
  · exact Carries.bind deeper.block fun _ => .pure _
  · exact .pure none

theorem carries_unary (begins : token.kind.IsInner) :
    Carries (Facing rest blocks token) (Inside rest blocks) (Inside rest blocks) (unary inner) := by
  apply (carries_advance begins).bind
  intro operator
  exact Carries.bind (deeper.expression .unary) fun _ => .pure _

theorem carries_grouping (begins : token.kind.IsInner) :
    Carries (Facing rest blocks token) (Inside rest blocks) (Inside rest blocks)
      (grouping inner) := by
  apply (carries_advance begins).bind
  intro opening
  apply Carries.bind (deeper.expression .lowest)
  intro expression
  exact Carries.bind (isolated_expect (by decide)) fun _ => .pure _

theorem carries_conditional (begins : token.kind.IsInner) :
    Carries (Facing rest blocks token) (Inside rest blocks) (Inside rest blocks)
      (conditional inner) := by
  apply (carries_advance begins).bind
  intro keyword
  apply Carries.bind (isolated_expect (by decide))
  intro opening
  apply Carries.bind (deeper.expression .lowest)
  intro condition
  apply Carries.bind (isolated_expect (by decide))
  intro closing
  apply Carries.bind deeper.block
  intro consequence
  apply Carries.bind (isolated_alternative deeper)
  intro alternative
  exact Carries.bind isolated_lastEnd fun _ => .pure _

theorem carries_function (begins : token.kind.IsInner) :
    Carries (Facing rest blocks token) (Inside rest blocks) (Inside rest blocks)
      (function inner) := by
  have parameter : Isolated rest blocks Token (expect .identifier) := isolated_expect (by decide)
  apply (carries_advance begins).bind
  intro keyword
  apply Carries.bind (isolated_expect (by decide))
  intro opening
  apply Carries.bind (isolated_parenthesized (forward_closed.expect .identifier) parameter)
  intro parameters
  apply Carries.bind deeper.block
  intro body
  exact Carries.bind isolated_lastEnd fun _ => .pure _

theorem carries_binary (begins : token.kind.IsInner) (power : BindingPower) (left : Expression) :
    Carries (Facing rest blocks token) (Inside rest blocks) (Inside rest blocks)
      (binary inner power left) := by
  apply (carries_advance begins).bind
  intro operator
  exact Carries.bind (deeper.expression power) fun _ => .pure _

theorem isolated_opening : Isolated rest blocks Expression (opening inner) := by
  apply Carries.look
  intro token
  split
  · next rule dispatched =>
    have begins := isInner_of_rule dispatched rfl rfl
    cases rule with
    | literal => exact isolated_literal.facing
    | unary => exact carries_unary deeper begins
    | grouping => exact carries_grouping deeper begins
    | conditional => exact carries_conditional deeper begins
    | function => exact carries_function deeper begins
  · split
    · exact (Carries.throw _).facing
    · exact (Carries.throw _).facing

include forward

theorem carries_call (begins : token.kind.IsInner) (callee : Expression) :
    Carries (Facing rest blocks token) (Inside rest blocks) (Inside rest blocks)
      (call inner callee) := by
  apply (carries_advance begins).bind
  intro opening
  apply Carries.bind
    (isolated_parenthesized (forward.expression .lowest) (deeper.expression .lowest))
  intro arguments
  exact Carries.bind isolated_lastEnd fun _ => .pure _

theorem isolated_climb (power : BindingPower) (rounds : Nat) (left : Expression) :
    Isolated rest blocks Expression (climb inner power rounds left) := by
  induction rounds generalizing left with
  | zero => exact .pure left
  | succ rounds ih =>
    apply Carries.look
    intro token
    split
    · exact (Carries.pure left).facing
    · next strength rule dispatched =>
      have begins := isInner_of_rule dispatched rfl rfl
      split
      · cases rule with
        | binary => exact (carries_binary deeper begins strength left).bind ih
        | call => exact (carries_call forward deeper begins left).bind ih
      · exact (Carries.pure left).facing

end Expressions

section Statements

variable {rest : Cursor} {blocks : Nat} {token : Token} {closing : Token.Kind} {inner : Nested}
  {failed : State → State → Prop} (steady : inner.Steady)
  (deeper : inner.Has (Isolated rest blocks))

include steady deeper in
theorem isolated_expression (power : BindingPower) :
    Isolated rest blocks Expression (expression inner power) := by
  apply Carries.bind (isolated_opening deeper)
  intro left
  apply Carries.rounds
  · intro state rounds more
    exact climb_eq_climb steady (Nat.le_refl _) more
  · intro rounds
    exact isolated_climb steady.forward deeper power rounds left

include deeper

theorem carries_binding (begins : token.kind.IsInner) :
    Carries (Facing rest blocks token) (Aligned rest blocks) (Inside rest blocks)
      (binding inner) := by
  apply (carries_advance begins).bind
  intro keyword
  apply Carries.look
  intro found
  apply Carries.facing
  apply Carries.bind (isolated_expectOr (by decide))
  intro name
  apply Carries.bind (isolated_expect (by decide))
  intro assignment
  apply Carries.bind (deeper.expression .lowest)
  intro value
  apply carries_semicolon.bind
  intro ended
  exact carries_lastEnd.bind fun _ => .pure _

theorem isolated_returned : Isolated rest blocks (Option Expression) (returned inner) := by
  apply Carries.look
  intro token
  split
  · exact (Carries.pure none).facing
  · apply Carries.facing
    exact Carries.bind (deeper.expression .lowest) fun _ => .pure _

theorem carries_returning (begins : token.kind.IsInner) :
    Carries (Facing rest blocks token) (Aligned rest blocks) (Inside rest blocks)
      (returning inner) := by
  apply (carries_advance begins).bind
  intro keyword
  apply Carries.bind (isolated_returned deeper)
  intro value
  apply carries_semicolon.bind
  intro ended
  exact carries_lastEnd.bind fun _ => .pure _

theorem carries_bareExpression :
    Carries (Inside rest blocks) (Aligned rest blocks) (Inside rest blocks)
      (bareExpression inner) := by
  apply Carries.look
  intro token
  apply Carries.facing
  apply Carries.bind (deeper.expression .lowest)
  intro expression
  exact carries_semicolon.bind fun _ => .pure _

/-- Only a statement that was read may have consumed the last sealed token. -/
theorem carries_statement :
    Carries (Inside rest blocks) (Aligned rest blocks) (Inside rest blocks)
      (statement inner) := by
  apply Carries.look
  intro token
  dsimp only
  split
  · exact (carries_bareExpression deeper).facing
  · next rule dispatched =>
    have begins := isInner_of_rule dispatched rfl rfl
    apply (carries_note _).bind
    intro noted
    cases rule with
    | binding => exact carries_binding deeper begins
    | returning => exact carries_returning deeper begins

include steady

theorem carries_attempt (outside : closing = .closeCurly ∨ blocks = 0)
    (goesOn : token.kind ≠ closing) :
    Carries (Facing rest blocks token) (Aligned rest blocks) failed
      (attempt closing (statement inner)) := by
  intro short long facing
  unfold attempt
  obtain ⟨tree, shortAfter, longAfter, shortRead, longRead, aligned⟩ |
    ⟨failure, shortAfter, longAfter, shortFailed, longFailed, inside⟩ :=
    (carries_statement deeper short long facing.toInside).ok_or_error
  · rw [shortRead, longRead]
    exact ⟨rfl, aligned⟩
  · have reaches := (forward_closed.statement steady.forward).of_error shortFailed
    have errors : (longAfter.record failure).errors = (shortAfter.record failure).errors :=
      congrArg (fun found => found.push failure) inside.errors
    have recorded : Inside rest blocks (shortAfter.record failure) (longAfter.record failure) :=
      ⟨inside.toAligned.of_cursor rfl rfl errors, inside.unread⟩
    rw [shortFailed, longFailed]
    dsimp only
    rw [facing.index]
    -- A failed statement that took nothing still faces `token`, which is not the closing brace.
    refine ⟨rfl, recorded.resynchronize outside ?_⟩
    intro stands
    have same : shortAfter.cursor = short.cursor := reaches.cursor_eq_of_index stands
    have current : (shortAfter.record failure).current = token := by
      rw [← facing.faces]
      exact congrArg Cursor.current same
    rwa [current]

omit deeper in
/-- The statements of a block do not run out of sealed tokens. -/
theorem carries_statementsUntil (deeper : inner.Has (Isolated rest (blocks + 1))) :
    Carries (Inside rest (blocks + 1)) (Inside rest (blocks + 1)) failed
      (statementsUntil inner .closeCurly) := by
  rw [statementsUntil_eq]
  apply Carries.rounds
  · intro state rounds more
    exact statementsIn_eq_statementsIn steady (Nat.le_refl _) more
  · intro rounds
    induction rounds with
    | zero => exact .pure []
    | succ rounds ih =>
      rw [statementsIn_succ]
      apply Carries.look
      intro token
      split
      · exact (Carries.pure []).facing
      · next goesOn =>
        have attempted : Carries (Facing rest (blocks + 1) token) (Aligned rest (blocks + 1)) failed
            (attempt .closeCurly (statement inner)) :=
          carries_attempt steady deeper (.inl rfl) fun closes => goesOn (.inr closes)
        apply (attempted.imp fun _ _ => Aligned.inside).bind
        intro first
        exact ih.bind fun _ => .pure _

omit deeper in
/-- A block adds an open brace to those around it and takes it away again. -/
theorem isolated_block (deeper : inner.Has (Isolated rest (blocks + 1))) :
    Isolated rest blocks Block (block inner) := by
  have opening : Carries (Inside rest blocks) (Inside rest (blocks + 1)) (Inside rest blocks)
      (expect .openCurly) := by
    apply carries_expect
    · intro short long inside found
      exact inside.opens found
    · intro short long inside
      exact inside
  have closing : Carries (Inside rest (blocks + 1)) (Inside rest blocks) (Inside rest blocks)
      (expect .closeCurly) := by
    apply carries_expect
    · intro short long inside found
      exact inside.closes found
    · intro short long inside
      exact inside.outer
  apply opening.bind
  intro token
  apply (carries_statementsUntil steady deeper).bind
  intro statements
  apply closing.bind
  intro closed
  exact Carries.bind isolated_lastEnd fun _ => .pure _

end Statements

end Rule

/-- However many blocks are open, a deeper level closes those that it opens and no others. -/
theorem Nested.isolated_within (rest : Cursor) (limit room blocks : Nat) :
    (Nested.within limit room).Has (Rule.Isolated rest blocks) := by
  -- A block one level down has one more open brace around it.
  induction room generalizing blocks with
  | zero =>
    have fails : ∀ {α : Type}, Rule.Isolated rest blocks α (Rule.tooDeep limit) := by
      intro α
      apply Rule.Carries.look
      intro token
      exact (Rule.Carries.throw _).facing
    exact ⟨fun _ => fails, fails⟩
  | succ room ih =>
    have steady := Nested.steady_within limit room
    exact ⟨Rule.isolated_expression steady (ih blocks),
      Rule.isolated_block steady (ih (blocks + 1))⟩

namespace Rule

/-- The statements of the sealed tokens come first, and reading goes on behind these tokens. -/
theorem Aligned.exists_boundary (limit room : Nat) {rest : Cursor} {short long : State}
    (aligned : Aligned rest 0 short long) :
    ∃ trees shortAfter longAfter,
      statementsUntil (Nested.within limit room) .endOfInput short = .ok trees shortAfter ∧
        Aligned rest 0 shortAfter longAfter ∧ shortAfter.cursor.ahead = [] ∧
          ∀ others last,
            statementsUntil (Nested.within limit room) .endOfInput longAfter = .ok others last →
              statementsUntil (Nested.within limit room) .endOfInput long =
                .ok (trees ++ others) last := by
  have steady := Nested.steady_within limit room
  by_cases done : short.cursor.ahead = []
  · have ends : endsStatements .endOfInput short.current.kind := .inl (endOfInput_of_ahead_nil done)
    refine ⟨[], short, long, statementsUntil_of_ends steady ends, aligned, done, ?_⟩
    intro others last read
    exact read
  · -- The first statement is read in step, and the ones behind it have fewer tokens ahead.
    have inside : Inside rest 0 short long := ⟨aligned, done⟩
    have present := inside.present
    have goesOn : ¬ endsStatements .endOfInput short.current.kind :=
      fun ends => ends.elim present present
    have goesOnToo : ¬ endsStatements .endOfInput long.current.kind := by rwa [inside.current]
    have attempted : Matches (Aligned rest 0) (fun _ _ => False)
        (attempt .endOfInput (statement (Nested.within limit room)) short)
        (attempt .endOfInput (statement (Nested.within limit room)) long) :=
      carries_attempt steady (Nested.isolated_within rest limit room 0) (.inr rfl) present
        short long ⟨inside, rfl⟩
    obtain ⟨tree, shortMiddle, longMiddle, shortRead, longRead, alignedMiddle⟩ |
      ⟨failure, shortMiddle, longMiddle, shortFailed, longFailed, impossible⟩ :=
      attempted.ok_or_error
    · have shorter := length_attempt_lt steady present shortRead
      obtain ⟨trees, shortAfter, longAfter, read, alignedAfter, done, continues⟩ :=
        alignedMiddle.exists_boundary limit room
      refine ⟨tree.toList ++ trees, shortAfter, longAfter, ?_, alignedAfter, done, ?_⟩
      · exact statementsUntil_of_attempt steady goesOn shortRead read
      · intro others last readOn
        rw [List.append_assoc]
        exact statementsUntil_of_attempt steady goesOnToo longRead (continues others last readOn)
    · exact impossible.elim
termination_by short.cursor.ahead.length

end Rule

end ScriptFrontend
