/-
This file shows that a reading depends on the kinds of the tokens and on the texts of the integers
only, and that it takes everything else from the tokens by their indices.
-/

import ScriptFrontend.Proofs.Reading.Uniformity

namespace ScriptFrontend

variable {size : Nat} {marking : Marking size}

namespace Marking

variable (marking) (filling : marking.Filling)

abbrev expression (plan : Expression.Plan (size + 1)) : Expression :=
  plan.fill filling.token

abbrev statement (plan : Statement.Plan (size + 1)) : Statement :=
  plan.fill filling.token

abbrev block (plan : Block.Plan (size + 1)) : Block :=
  plan.fill filling.token

end Marking

/-- The rules of a deeper level are uniform when both of them are. -/
structure Nested.Uniform (marking : Marking size) (inner : Nested) : Prop where
  expression : ∀ power, Rule.Uniform marking.expression (inner.expression power)
  block : Rule.Uniform marking.block inner.block

namespace Rule

section Lists

variable {π α : Type} {fill : marking.Filling → π → α} {item : Rule α}

theorem uniform_separatedIn (each : Uniform fill item) (rounds : Nat) :
    Uniform (fun filling (plans : List π) => plans.map (fill filling)) (separatedIn item rounds) := by
  induction rounds with
  | zero =>
    intro progress
    apply (each progress).bind
    intro first after onward
    exact .pure [first] fun _ => rfl
  | succ rounds ih =>
    intro progress
    apply (each progress).bind
    intro first after onward
    apply UniformAt.skipOptional
    intro found later further
    split
    · apply (ih later).bind
      intro others last _
      exact .pure (first :: others) fun _ => rfl
    · exact .pure [first] fun _ => rfl

theorem uniform_listed (each : Uniform fill item) :
    Uniform (fun filling (plans : List π) => plans.map (fill filling)) (listed item) := by
  intro progress
  apply UniformAt.look
  simp only [Marking.Filling.kind_token]
  split
  · exact .pure [] fun _ => rfl
  · apply UniformAt.unread
    intro rounds
    exact uniform_separatedIn each rounds progress

theorem uniform_parenthesized (each : Uniform fill item) :
    Uniform (fun filling (plans : List π) => plans.map (fill filling)) (parenthesized item) := by
  intro progress
  apply (uniform_listed each progress).bind
  intro items after onward
  apply UniformAt.expect (by decide)
  intro closing last behind
  exact .pure items fun _ => rfl

end Lists

section Expressions

theorem uniform_name : Uniform (@Marking.Filling.token size marking) (expect .identifier) := by
  intro progress
  have named : UniformAt progress (@Marking.Filling.token size marking)
      fun _ => expect .identifier >>= pure :=
    .expect (by decide) fun token after behind => .pure token fun _ => rfl
  rwa [bind_pure] at named

theorem uniform_literal : Uniform marking.expression literal := by
  intro progress
  apply UniformAt.look
  simp only [Marking.Filling.kind_token]
  split
  · next integer =>
    have present : (marking.mark progress.index).kind ≠ .endOfInput := by
      rw [integer]
      decide
    have digits (filling : marking.Filling) := filling.text_token integer
    simp only [digits]
    split
    · next value denoted =>
      apply UniformAt.advance present
      intro after behind
      exact .pure (.integer progress.index value) fun _ => rfl
    · refine .throw ⟨.integerOutOfRange, progress.index⟩ fun filling => ?_
      rw [Diagnostic.Plan.fill, digits filling]
      rfl
  · next identifier =>
    apply UniformAt.advance (by rw [identifier]; decide)
    intro after behind
    exact .pure (.identifier progress.index) fun _ => rfl
  · next truth =>
    apply UniformAt.advance (by rw [truth]; decide)
    intro after behind
    exact .pure (.boolean progress.index true) fun _ => rfl
  · next truth =>
    apply UniformAt.advance (by rw [truth]; decide)
    intro after behind
    exact .pure (.boolean progress.index false) fun _ => rfl
  · exact .throw ⟨.cannotBeginExpression, progress.index⟩ fun _ => rfl

variable {inner : Nested} {progress : Progress size} (deeper : inner.Uniform marking)
include deeper

theorem uniformAt_unary (present : (marking.mark progress.index).kind ≠ .endOfInput) :
    UniformAt progress marking.expression fun _ => unary inner := by
  apply UniformAt.advance present
  intro after behind
  apply (deeper.expression .unary after).bind
  intro operand last onward
  refine .pure (.unary progress.index operand ⟨.start progress.index, operand.span.stop⟩) ?_
  intro filling
  rw [Expression.Plan.span_fill]
  rfl

theorem uniformAt_grouping (present : (marking.mark progress.index).kind ≠ .endOfInput) :
    UniformAt progress marking.expression fun _ => grouping inner := by
  apply UniformAt.advance present
  intro after behind
  apply (deeper.expression .lowest after).bind
  intro expression later onward
  apply UniformAt.expect (by decide)
  intro closing last behind
  exact .pure expression fun _ => rfl

theorem uniform_alternative :
    Uniform (fun filling (plan : Option (Block.Plan (size + 1))) => plan.map (marking.block filling))
      (alternative inner) := by
  intro progress
  apply UniformAt.skipOptional
  intro found after onward
  split
  · apply (deeper.block after).bind
    intro block last further
    exact .pure (some block) fun _ => rfl
  · exact .pure none fun _ => rfl

theorem uniformAt_conditional (present : (marking.mark progress.index).kind ≠ .endOfInput) :
    UniformAt progress marking.expression fun _ => conditional inner := by
  apply UniformAt.advance present
  intro after _
  apply UniformAt.expect (by decide)
  intro opening after _
  apply (deeper.expression .lowest after).bind
  intro condition after _
  apply UniformAt.expect (by decide)
  intro closing after behind
  apply (deeper.block after).bind
  intro consequence middle onward
  apply (uniform_alternative deeper middle).bind
  intro alternative last further
  apply UniformAt.lastEnd (by omega)
  intro place
  refine .pure (.conditional progress.index condition consequence alternative
    ⟨.start progress.index, place⟩) ?_
  intro filling
  simp only [Marking.expression, Expression.Plan.fill, Block.Plan.fillOptional_eq_map]
  rfl

theorem uniformAt_function (present : (marking.mark progress.index).kind ≠ .endOfInput) :
    UniformAt progress marking.expression fun _ => function inner := by
  apply UniformAt.advance present
  intro after _
  apply UniformAt.expect (by decide)
  intro opening after behind
  apply (uniform_parenthesized uniform_name after).bind
  intro parameters middle onward
  apply (deeper.block middle).bind
  intro body last further
  apply UniformAt.lastEnd (by omega)
  intro place
  exact .pure (.function progress.index parameters body ⟨.start progress.index, place⟩) fun _ => rfl

theorem uniformAt_binary (present : (marking.mark progress.index).kind ≠ .endOfInput)
    (power : BindingPower) (left : Expression.Plan (size + 1)) :
    UniformAt progress marking.expression fun filling =>
      binary inner power (marking.expression filling left) := by
  apply UniformAt.advance present
  intro after behind
  apply (deeper.expression power after).bind
  intro right last onward
  refine .pure (.binary left progress.index right ⟨left.span.start, right.span.stop⟩) ?_
  intro filling
  rw [Expression.Plan.span_fill, Expression.Plan.span_fill]
  rfl

theorem uniformAt_call (present : (marking.mark progress.index).kind ≠ .endOfInput)
    (callee : Expression.Plan (size + 1)) :
    UniformAt progress marking.expression fun filling =>
      call inner (marking.expression filling callee) := by
  apply UniformAt.advance present
  intro after behind
  apply (uniform_parenthesized (deeper.expression .lowest) after).bind
  intro arguments last onward
  apply UniformAt.lastEnd (by omega)
  intro place
  refine .pure (.call callee progress.index arguments ⟨callee.span.start, place⟩) ?_
  intro filling
  simp only [Marking.expression, Expression.Plan.fill, Expression.Plan.fillEach_eq_map,
    Expression.Plan.span_fill]
  rfl

/-- Both the rule and the failure are found by the kind of the current token. -/
theorem uniform_opening : Uniform marking.expression (opening inner) := by
  intro progress
  apply UniformAt.look
  simp only [Marking.Filling.kind_token]
  split
  · next rule dispatched =>
    have present : (marking.mark progress.index).kind ≠ .endOfInput :=
      RuleTable.kind_ne_of_rule dispatched rfl
    cases rule with
    | literal => exact uniform_literal progress
    | unary => exact uniformAt_unary deeper present
    | grouping => exact uniformAt_grouping deeper present
    | conditional => exact uniformAt_conditional deeper present
    | function => exact uniformAt_function deeper present
  · split
    · exact .throw ⟨.unrecognised, progress.index⟩ fun _ => rfl
    · exact .throw ⟨.cannotBeginExpression, progress.index⟩ fun _ => rfl

theorem uniformAt_climb (power : BindingPower) (rounds : Nat) (left : Expression.Plan (size + 1))
    (progress : Progress size) :
    UniformAt progress marking.expression fun filling =>
      climb inner power rounds (marking.expression filling left) := by
  induction rounds generalizing left progress with
  | zero => exact .pure left fun _ => rfl
  | succ rounds ih =>
    apply UniformAt.look
    simp only [Marking.Filling.kind_token]
    split
    · exact .pure left fun _ => rfl
    · next strength rule dispatched =>
      have present : (marking.mark progress.index).kind ≠ .endOfInput :=
        RuleTable.kind_ne_of_rule dispatched rfl
      split
      · have extended : UniformAt progress marking.expression fun filling =>
            following inner strength (marking.expression filling left) rule := by
          cases rule with
          | binary => exact uniformAt_binary deeper present strength left
          | call => exact uniformAt_call deeper present left
        apply extended.bind
        intro longer after onward
        exact ih longer after
      · exact .pure left fun _ => rfl

theorem uniform_expression (power : BindingPower) :
    Uniform marking.expression (expression inner power) := by
  intro progress
  apply (uniform_opening deeper progress).bind
  intro left after onward
  apply UniformAt.unread
  intro rounds
  exact uniformAt_climb deeper power rounds left after

end Expressions

section Statements

variable {inner : Nested} {progress : Progress size} (deeper : inner.Uniform marking)
include deeper

theorem uniformAt_binding (present : (marking.mark progress.index).kind ≠ .endOfInput) :
    UniformAt progress marking.statement fun _ => binding inner := by
  apply UniformAt.advance present
  intro start _
  apply UniformAt.look
  apply UniformAt.expectOr ⟨.unexpected "expected identifier", start.index⟩ (fun _ => rfl)
    (by decide)
  intro name after _
  apply UniformAt.expect (by decide)
  intro assignment after behind
  apply (deeper.expression .lowest after).bind
  intro value middle onward
  apply UniformAt.skipOptional
  intro ended last further
  apply UniformAt.lastEnd (by omega)
  intro place
  exact .pure (.binding progress.index name value ⟨.start progress.index, place⟩) fun _ => rfl

theorem uniform_returned :
    Uniform (fun filling (plan : Option (Expression.Plan (size + 1))) =>
      plan.map (marking.expression filling)) (returned inner) := by
  intro progress
  apply UniformAt.look
  simp only [Marking.Filling.kind_token]
  split
  · exact .pure none fun _ => rfl
  · apply (deeper.expression .lowest progress).bind
    intro value after onward
    exact .pure (some value) fun _ => rfl

theorem uniformAt_returning (present : (marking.mark progress.index).kind ≠ .endOfInput) :
    UniformAt progress marking.statement fun _ => returning inner := by
  apply UniformAt.advance present
  intro after behind
  apply (uniform_returned deeper after).bind
  intro value middle onward
  apply UniformAt.skipOptional
  intro ended last further
  apply UniformAt.lastEnd (by omega)
  intro place
  refine .pure (.returning progress.index value ⟨.start progress.index, place⟩) ?_
  intro filling
  simp only [Marking.statement, Statement.Plan.fill, Expression.Plan.fillOptional_eq_map]
  rfl

theorem uniform_bareExpression : Uniform marking.statement (bareExpression inner) := by
  intro progress
  apply UniformAt.look
  apply (deeper.expression .lowest progress).bind
  intro expression after onward
  apply UniformAt.skipOptional
  intro ended last further
  refine .pure (.expression progress.index expression
    ⟨.start progress.index, expression.span.stop⟩) ?_
  intro filling
  rw [Expression.Plan.span_fill]
  rfl

theorem uniform_statement : Uniform marking.statement (statement inner) := by
  intro progress
  apply UniformAt.look
  simp only [Marking.Filling.kind_token]
  split
  · exact uniform_bareExpression deeper progress
  · next rule dispatched =>
    have present : (marking.mark progress.index).kind ≠ .endOfInput :=
      RuleTable.kind_ne_of_rule dispatched rfl
    apply UniformAt.note
    cases rule with
    | binding => exact uniformAt_binding deeper present
    | returning => exact uniformAt_returning deeper present

theorem uniform_statementsIn (closing : Token.Kind) (rounds : Nat) :
    Uniform (fun filling (plans : List (Statement.Plan (size + 1))) =>
      plans.map (marking.statement filling)) (statementsIn inner closing rounds) := by
  induction rounds with
  | zero =>
    intro progress
    exact .pure [] fun _ => rfl
  | succ rounds ih =>
    intro progress
    rw [statementsIn_succ]
    apply UniformAt.look
    simp only [Marking.Filling.kind_token]
    split
    · exact .pure [] fun _ => rfl
    · apply (uniform_statement deeper progress).attempt.bind
      intro first after onward
      apply (ih after).bind
      intro others last further
      refine .pure (first.toList ++ others) fun filling => ?_
      cases first <;> simp

theorem uniform_statementsUntil (closing : Token.Kind) :
    Uniform (fun filling (plans : List (Statement.Plan (size + 1))) =>
      plans.map (marking.statement filling)) (statementsUntil inner closing) := by
  intro progress
  rw [statementsUntil_eq]
  apply UniformAt.unread
  intro rounds
  exact uniform_statementsIn deeper closing rounds progress

theorem uniform_block : Uniform marking.block (block inner) := by
  intro progress
  apply UniformAt.expect (by decide)
  intro opening after _
  apply (uniform_statementsUntil deeper .closeCurly after).bind
  intro statements middle onward
  apply UniformAt.expect (by decide)
  intro closing last behind
  apply UniformAt.lastEnd behind
  intro place
  refine .pure (.braces opening statements ⟨.start opening, place⟩) ?_
  intro filling
  simp only [Marking.block, Block.Plan.fill, Statement.Plan.fillEach_eq_map]
  rfl

end Statements

end Rule

theorem Nested.uniform_within (marking : Marking size) (limit room : Nat) :
    (Nested.within limit room).Uniform marking := by
  have tooDeep {π α : Type} {fill : marking.Filling → π → α} :
      Rule.Uniform fill (Rule.tooDeep limit) := by
    intro progress
    apply Rule.UniformAt.look
    exact .throw ⟨.nestingTooDeep limit, progress.index⟩ fun _ => rfl
  induction room with
  | zero => exact ⟨fun _ => tooDeep, tooDeep⟩
  | succ room ih => exact ⟨Rule.uniform_expression ih, Rule.uniform_block ih⟩

theorem getLast?_ofFn (tokens : Fin (size + 1) → Token) :
    (List.ofFn tokens).getLast? = some (tokens (Fin.last size)) := by
  rw [List.getLast?_eq_getElem?, List.length_ofFn, List.getElem?_ofFn, dif_pos (by omega)]
  rfl

/-- A reading starts at the first token and without failures. -/
theorem Rule.State.isAt_ofTokens (filling : marking.Filling) (file : String) :
    (Rule.State.ofTokens (List.ofFn filling.token) file).IsAt filling ⟨0, []⟩ := by
  have ended : (filling.token (Fin.last size)).kind = .endOfInput := by
    rw [filling.kind_token, marking.ended]
  have whole : withEnd (List.ofFn filling.token) file = List.ofFn filling.token := by
    rw [withEnd, getLast?_ofFn]
    exact if_pos ended
  refine ⟨?_, Cursor.index_ofTokens _ file, nofun, rfl⟩
  have stands := Cursor.standsIn_ofTokens (List.ofFn filling.token) file
  rwa [whole] at stands

/-- A marking that some tokens fill has a plan that describes the readings of all its fillings. -/
theorem Marking.exists_plan (first : marking.Filling) (limit : Nat) :
    ∃ plan : Reading.Plan (size + 1), ∀ (filling : marking.Filling) (file : String),
      plan.Describes filling.token file (readTokens (List.ofFn filling.token) file limit) := by
  obtain ⟨plan, after, -, reads⟩ | ⟨failure, after, -, fails⟩ :=
    Rule.uniform_statementsUntil (Nested.uniform_within marking limit limit) .endOfInput ⟨0, []⟩
  · refine ⟨⟨plan, after.errors, after.index⟩, ?_⟩
    intro filling file
    obtain ⟨final, read, there⟩ := reads filling _ (Rule.State.isAt_ofTokens filling file)
    dsimp only at read
    rw [Rule.statementsUntil_apply, EStateM.Result.ok.injEq] at read
    obtain ⟨statements, rfl⟩ := read
    refine ⟨statements, ?_, there.errors⟩
    exact congrArg (fun token : Token => (⟨Position.ofByte 0 file, token.span.stop⟩ : Span))
      there.current
  · -- Reading statements never fails, so nothing is left to show for the tokens themselves.
    obtain ⟨final, failed, -⟩ := fails first _ (Rule.State.isAt_ofTokens first "")
    dsimp only at failed
    rw [Rule.statementsUntil_apply] at failed
    cases failed

/-- Some tokens that end with an end mark determine a plan. Whatever other tokens have their kinds
and the texts of their integers, and in whatever file they are, the plan describes their reading. -/
theorem exists_plan_readTokens (first : Fin (size + 1) → Token)
    (ended : (first (Fin.last size)).kind = .endOfInput) (limit : Nat) :
    ∃ plan : Reading.Plan (size + 1), ∀ (tokens : Fin (size + 1) → Token) (file : String),
      (∀ index, (tokens index).mark = (first index).mark) →
        plan.Describes tokens file (readTokens (List.ofFn tokens) file limit) := by
  let marking : Marking size := ⟨fun index => (first index).mark, ended⟩
  obtain ⟨plan, describes⟩ := marking.exists_plan ⟨first, fun _ => rfl⟩ limit
  exact ⟨plan, fun tokens file agrees => describes ⟨tokens, agrees⟩ file⟩

/-- The tokens of `let x = 1; )` with any name in the place of `x`. -/
def boundScript (name file : String) : Fin 7 → Token :=
  (Token.row file [(.letKeyword, "let"), (.identifier, name), (.assignment, "="), (.integer, "1"),
    (.semicolon, ";"), (.closeParen, ")"), (.endOfInput, "EOF")]).get

/-- One plan describes the readings of two scripts with other names in other files. -/
theorem plan_boundScript : (boundScript "x" "first" (Fin.last 6)).kind = .endOfInput ∧
    (∀ index, (boundScript "total" "second" index).mark = (boundScript "x" "first" index).mark) ∧
    ∃ plan : Reading.Plan 7,
      plan.Describes (boundScript "x" "first") "first"
        (readTokens (List.ofFn (boundScript "x" "first")) "first" 8) ∧
      plan.Describes (boundScript "total" "second") "second"
        (readTokens (List.ofFn (boundScript "total" "second")) "second" 8) := by
  have agrees : ∀ index, (boundScript "total" "second" index).mark =
      (boundScript "x" "first" index).mark := by
    decide +kernel
  obtain ⟨plan, describes⟩ := exists_plan_readTokens (boundScript "x" "first") rfl 8
  exact ⟨rfl, agrees, plan, describes _ "first" fun _ => rfl, describes _ "second" agrees⟩

end ScriptFrontend
