/-
This file shows that a property of the steps passes on to every rule that is made of them.
-/

import ScriptFrontend.Reading.Statements

namespace ScriptFrontend

/-- A kind with a rule is none of the kinds without one. -/
theorem RuleTable.kind_ne_of_rule {α : Type} {table : Token.Kind → Option α} {rule : α}
    {kind other : Token.Kind} (dispatched : table kind = some rule) (absent : table other = none) :
    kind ≠ other := by
  intro same
  rw [same, absent] at dispatched
  cases dispatched

namespace Rule

theorem bind_apply {α β : Type} (rule : Rule α) (next : α → Rule β) (state : State) :
    (rule >>= next) state =
      match rule state with
      | .ok value after => next value after
      | .error failure after => .error failure after := by
  change EStateM.bind rule next state = _
  rw [EStateM.bind]
  cases rule state <;> rfl

@[simp] theorem pure_apply {α : Type} (value : α) (state : State) :
    (pure value : Rule α) state = .ok value state := rfl

@[simp] theorem throw_apply {α : Type} (failure : Diagnostic) (state : State) :
    (throw failure : Rule α) state = .error failure state := rfl

/-- A sequence reads something when its first part does and its second part does after it. -/
theorem bind_eq_ok {α β : Type} {rule : Rule α} {next : α → Rule β} {state after : State}
    {result : β} : (rule >>= next) state = .ok result after ↔
      ∃ value middle, rule state = .ok value middle ∧ next value middle = .ok result after := by
  rw [bind_apply]
  constructor
  · intro read
    cases outcome : rule state with
    | ok value middle => exact ⟨value, middle, rfl, by rwa [outcome] at read⟩
    | error failure middle =>
      rw [outcome] at read
      cases read
  · intro parts
    obtain ⟨value, middle, first, rest⟩ := parts
    rw [first]
    exact rest

theorem expect_apply (kind : Token.Kind) (state : State) :
    expect kind state =
      if state.current.kind = kind then .ok state.current state.advance
      else .error ⟨.missing kind.name state.current.text, state.current.span.start⟩ state := by
  rw [expect, bind_apply, current_apply]
  exact expectOr_apply kind _ state

theorem literal_apply (state : State) :
    literal state =
      match state.current.kind with
      | .integer =>
        match Text.readInteger? state.current.text with
        | some value => .ok (.integer state.current value) state.advance
        | none => .error ⟨.integerOutOfRange state.current.text, state.current.span.start⟩ state
      | .identifier => .ok (.identifier state.current) state.advance
      | .trueKeyword => .ok (.boolean state.current true) state.advance
      | .falseKeyword => .ok (.boolean state.current false) state.advance
      | _ => .error ⟨.cannotBeginExpression state.current.text, state.current.span.start⟩ state := by
  simp only [literal, bind_apply, current_apply]
  cases state.current.kind with
  | integer => cases Text.readInteger? state.current.text <;> rfl
  | _ => rfl

theorem opening_apply (inner : Nested) (state : State) :
    opening inner state =
      match RuleTable.standard.leading state.current.kind with
      | some rule => leading inner rule state
      | none =>
        if state.current.kind = .illegal then
          .error ⟨.unrecognised state.current.text, state.current.span.start⟩ state
        else .error ⟨.cannotBeginExpression state.current.text, state.current.span.start⟩ state := by
  simp only [opening, bind_apply, current_apply]
  cases RuleTable.standard.leading state.current.kind with
  | some rule => rfl
  | none =>
    dsimp only
    by_cases illegal : state.current.kind = .illegal
    · rw [if_pos illegal, if_pos illegal, throw_apply]
    · rw [if_neg illegal, if_neg illegal, throw_apply]

theorem climb_succ_apply (inner : Nested) (power : BindingPower) (rounds : Nat) (left : Expression)
    (state : State) :
    climb inner power (rounds + 1) left state =
      match RuleTable.standard.following state.current.kind with
      | none => .ok left state
      | some (strength, rule) =>
        if power < strength then
          (following inner strength left rule >>= climb inner power rounds) state
        else .ok left state := by
  rw [climb, bind_apply, current_apply]
  dsimp only
  cases RuleTable.standard.following state.current.kind with
  | none => rfl
  | some found =>
    obtain ⟨strength, rule⟩ := found
    dsimp only
    split <;> rfl

theorem statement_apply (inner : Nested) (state : State) :
    statement inner state =
      match RuleTable.standard.statement state.current.kind with
      | none => bareExpression inner state
      | some .binding => binding inner (state.note (.statementKeyword state.current.kind))
      | some .returning => returning inner (state.note (.statementKeyword state.current.kind)) := by
  simp only [statement, bind_apply, current_apply]
  cases RuleTable.standard.statement state.current.kind with
  | none => rfl
  | some rule => cases rule <;> rfl

/-- An attempt at a statement never fails, because a failed statement is recorded and skipped. -/
def attempt (closing : Token.Kind) (rule : Rule Statement) : Rule (Option Statement) := fun state =>
  match rule state with
  | .ok first after => .ok (some first) after
  | .error failure after =>
    .ok none ((after.record failure).resynchronize state.cursor.index closing)

/-- The loop over statements stops before the closing kind and before the end of the input. -/
def endsStatements (closing kind : Token.Kind) : Prop :=
  kind = .endOfInput ∨ kind = closing

instance (closing kind : Token.Kind) : Decidable (endsStatements closing kind) :=
  inferInstanceAs (Decidable (_ ∨ _))

/-- The loop over statements with a number of rounds is a rule that never fails. -/
def statementsIn (inner : Nested) (closing : Token.Kind) (rounds : Nat) : Rule (List Statement) :=
  modifyGet fun state => state.statementsIn inner closing rounds

/-- One round of the loop is one attempt. -/
theorem statementsIn_succ (inner : Nested) (closing : Token.Kind) (rounds : Nat) :
    statementsIn inner closing (rounds + 1) = (do
      if endsStatements closing (← current).kind then return []
      else
        let first ← attempt closing (statement inner)
        return first.toList ++ (← statementsIn inner closing rounds)) := by
  funext state
  change EStateM.Result.ok (state.statementsIn inner closing (rounds + 1)).1
    (state.statementsIn inner closing (rounds + 1)).2 = _
  simp only [bind_apply, current_apply]
  by_cases ends : state.current.kind = .endOfInput ∨ state.current.kind = closing
  · have stops : endsStatements closing state.current.kind := ends
    simp only [State.statementsIn, if_pos ends, if_pos stops]
    rfl
  · have goesOn : ¬ endsStatements closing state.current.kind := ends
    simp only [State.statementsIn, if_neg ends, if_neg goesOn, bind_apply, attempt]
    cases statement inner state <;> rfl

theorem statementsUntil_eq (inner : Nested) (closing : Token.Kind) :
    statementsUntil inner closing = (do statementsIn inner closing (← unread)) := rfl

/-- A property of rules is closed when the steps have it and it passes on to what is built from
them. -/
structure Closed (P : (α : Type) → Rule α → Prop) : Prop where
  pure : ∀ {α : Type} (value : α), P α (pure value)
  throw : ∀ {α : Type} (failure : Diagnostic), P α (throw failure)
  bind : ∀ {α β : Type} {rule : Rule α} {next : α → Rule β},
    P α rule → (∀ value, P β (next value)) → P β (rule >>= next)
  current : P Token Rule.current
  lastEnd : P Position Rule.lastEnd
  unread : P Nat Rule.unread
  advance : P Token Rule.advance
  note : ∀ event, P Unit (Rule.note event)
  attempt : ∀ {closing : Token.Kind} {rule : Rule Statement},
    P Statement rule → P (Option Statement) (Rule.attempt closing rule)

end Rule

/-- The rules of a deeper level have a property when both of them have it. -/
structure Nested.Has (P : (α : Type) → Rule α → Prop) (inner : Nested) : Prop where
  expression : ∀ power, P Expression (inner.expression power)
  block : P Block inner.block

namespace Rule.Closed

variable {P : (α : Type) → Rule α → Prop} (closed : Closed P)
include closed

theorem expectOr (kind : Token.Kind) (failure : Diagnostic) : P Token (expectOr kind failure) := by
  apply closed.bind closed.current
  intro token
  split
  · exact closed.advance
  · exact closed.throw failure

theorem expect (kind : Token.Kind) : P Token (expect kind) :=
  closed.bind closed.current fun _ => closed.expectOr kind _

theorem skipOptional (kind : Token.Kind) : P Bool (skipOptional kind) := by
  apply closed.bind closed.current
  intro token
  split
  · exact closed.bind closed.advance fun _ => closed.pure true
  · exact closed.pure false

theorem separatedIn {α : Type} {item : Rule α} (each : P α item) (rounds : Nat) :
    P (List α) (separatedIn item rounds) := by
  induction rounds with
  | zero => exact closed.bind each fun _ => closed.pure _
  | succ rounds ih =>
    apply closed.bind each
    intro first
    apply closed.bind (closed.skipOptional .comma)
    intro found
    split
    · exact closed.bind ih fun _ => closed.pure _
    · exact closed.pure _

theorem listed {α : Type} {item : Rule α} (each : P α item) : P (List α) (listed item) := by
  apply closed.bind closed.current
  intro token
  split
  · exact closed.pure []
  · exact closed.bind closed.unread fun rounds => closed.separatedIn each rounds

theorem parenthesized {α : Type} {item : Rule α} (each : P α item) :
    P (List α) (parenthesized item) :=
  closed.bind (closed.listed each) fun _ =>
    closed.bind (closed.expect .closeParen) fun _ => closed.pure _

theorem literal : P Expression literal := by
  apply closed.bind closed.current
  intro token
  split
  · split
    · exact closed.bind closed.advance fun _ => closed.pure _
    · exact closed.throw _
  · exact closed.bind closed.advance fun _ => closed.pure _
  · exact closed.bind closed.advance fun _ => closed.pure _
  · exact closed.bind closed.advance fun _ => closed.pure _
  · exact closed.throw _

variable {inner : Nested} (deeper : inner.Has P)
include deeper

theorem unary : P Expression (unary inner) :=
  closed.bind closed.advance fun _ => closed.bind (deeper.expression .unary) fun _ => closed.pure _

theorem grouping : P Expression (grouping inner) :=
  closed.bind closed.advance fun _ => closed.bind (deeper.expression .lowest) fun _ =>
    closed.bind (closed.expect .closeParen) fun _ => closed.pure _

theorem alternative : P (Option Block) (alternative inner) := by
  apply closed.bind (closed.skipOptional .elseKeyword)
  intro found
  split
  · exact closed.bind deeper.block fun _ => closed.pure _
  · exact closed.pure none

theorem conditional : P Expression (conditional inner) :=
  closed.bind closed.advance fun _ => closed.bind (closed.expect .openParen) fun _ =>
    closed.bind (deeper.expression .lowest) fun _ => closed.bind (closed.expect .closeParen) fun _ =>
      closed.bind deeper.block fun _ => closed.bind (closed.alternative deeper) fun _ =>
        closed.bind closed.lastEnd fun _ => closed.pure _

theorem function : P Expression (function inner) :=
  closed.bind closed.advance fun _ => closed.bind (closed.expect .openParen) fun _ =>
    closed.bind (closed.parenthesized (closed.expect .identifier)) fun _ =>
      closed.bind deeper.block fun _ => closed.bind closed.lastEnd fun _ => closed.pure _

theorem binary (power : BindingPower) (left : Expression) :
    P Expression (binary inner power left) :=
  closed.bind closed.advance fun _ => closed.bind (deeper.expression power) fun _ => closed.pure _

theorem call (callee : Expression) : P Expression (call inner callee) :=
  closed.bind closed.advance fun _ =>
    closed.bind (closed.parenthesized (deeper.expression .lowest)) fun _ =>
      closed.bind closed.lastEnd fun _ => closed.pure _

theorem leading (rule : LeadingRule) : P Expression (leading inner rule) := by
  cases rule with
  | literal => exact closed.literal
  | unary => exact closed.unary deeper
  | grouping => exact closed.grouping deeper
  | conditional => exact closed.conditional deeper
  | function => exact closed.function deeper

theorem following (power : BindingPower) (left : Expression) (rule : FollowingRule) :
    P Expression (following inner power left rule) := by
  cases rule with
  | binary => exact closed.binary deeper power left
  | call => exact closed.call deeper left

theorem opening : P Expression (opening inner) := by
  apply closed.bind closed.current
  intro token
  split
  · exact closed.leading deeper _
  · split
    · exact closed.throw _
    · exact closed.throw _

theorem climb (power : BindingPower) (rounds : Nat) (left : Expression) :
    P Expression (climb inner power rounds left) := by
  induction rounds generalizing left with
  | zero => exact closed.pure left
  | succ rounds ih =>
    apply closed.bind closed.current
    intro token
    split
    · exact closed.pure left
    · split
      · exact closed.bind (closed.following deeper _ left _) fun extended => ih extended
      · exact closed.pure left

theorem expression (power : BindingPower) : P Expression (expression inner power) :=
  closed.bind (closed.opening deeper) fun left =>
    closed.bind closed.unread fun rounds => closed.climb deeper power rounds left

theorem binding : P Statement (binding inner) :=
  closed.bind closed.advance fun _ => closed.bind closed.current fun _ =>
    closed.bind (closed.expectOr .identifier _) fun _ =>
      closed.bind (closed.expect .assignment) fun _ =>
        closed.bind (deeper.expression .lowest) fun _ =>
          closed.bind (closed.skipOptional .semicolon) fun _ =>
            closed.bind closed.lastEnd fun _ => closed.pure _

theorem returned : P (Option Expression) (returned inner) := by
  apply closed.bind closed.current
  intro token
  split
  · exact closed.pure none
  · exact closed.bind (deeper.expression .lowest) fun _ => closed.pure _

theorem returning : P Statement (returning inner) :=
  closed.bind closed.advance fun _ => closed.bind (closed.returned deeper) fun _ =>
    closed.bind (closed.skipOptional .semicolon) fun _ =>
      closed.bind closed.lastEnd fun _ => closed.pure _

theorem bareExpression : P Statement (bareExpression inner) :=
  closed.bind closed.current fun _ => closed.bind (deeper.expression .lowest) fun _ =>
    closed.bind (closed.skipOptional .semicolon) fun _ => closed.pure _

theorem statement : P Statement (statement inner) := by
  apply closed.bind closed.current
  intro token
  dsimp only
  split
  · exact closed.bareExpression deeper
  · apply closed.bind (closed.note _)
    intro noted
    split
    · exact closed.binding deeper
    · exact closed.returning deeper

theorem statementsIn (closing : Token.Kind) (rounds : Nat) :
    P (List Statement) (statementsIn inner closing rounds) := by
  induction rounds with
  | zero => exact closed.pure []
  | succ rounds ih =>
    rw [statementsIn_succ]
    apply closed.bind closed.current
    intro token
    split
    · exact closed.pure []
    · exact closed.bind (closed.attempt (closed.statement deeper)) fun _ =>
        closed.bind ih fun _ => closed.pure _

theorem statementsUntil (closing : Token.Kind) :
    P (List Statement) (statementsUntil inner closing) :=
  closed.bind closed.unread fun rounds => closed.statementsIn deeper closing rounds

theorem block : P Block (block inner) :=
  closed.bind (closed.expect .openCurly) fun _ =>
    closed.bind (closed.statementsUntil deeper .closeCurly) fun _ =>
      closed.bind (closed.expect .closeCurly) fun _ =>
        closed.bind closed.lastEnd fun _ => closed.pure _

omit deeper in
theorem tooDeep {α : Type} (limit : Nat) : P α (tooDeep limit) :=
  closed.bind closed.current fun _ => closed.throw _

omit deeper in
/-- A closed property holds at every depth of nesting. -/
theorem within (limit room : Nat) : (Nested.within limit room).Has P := by
  induction room with
  | zero => exact ⟨fun _ => closed.tooDeep limit, closed.tooDeep limit⟩
  | succ room ih => exact ⟨fun power => closed.expression ih power, closed.block ih⟩

end Rule.Closed

end ScriptFrontend
