/-
This file shows that a property of rules in a state passes on from the steps to every rule, where no
step consumes an end mark and only a block consumes braces.
-/

import ScriptFrontend.Proofs.Reading.Progress

namespace ScriptFrontend

/-- A token of a passable kind may be consumed anywhere, while an end mark is never consumed and a
brace only by the block that it opens or closes. -/
def Token.Kind.IsPassable (kind : Token.Kind) : Prop :=
  kind ≠ .endOfInput ∧ kind ≠ .openCurly ∧ kind ≠ .closeCurly

instance (kind : Token.Kind) : Decidable kind.IsPassable :=
  inferInstanceAs (Decidable (_ ∧ _ ∧ _))

namespace Rule

/-- No rule of the language begins with an end mark or a brace. -/
theorem isPassable_of_rule {α : Type} {table : Token.Kind → Option α} {rule : α} {kind : Token.Kind}
    (dispatched : table kind = some rule) (endOfInput : table .endOfInput = none)
    (openCurly : table .openCurly = none) (closeCurly : table .closeCurly = none) :
    kind.IsPassable :=
  ⟨RuleTable.kind_ne_of_rule dispatched endOfInput, RuleTable.kind_ne_of_rule dispatched openCurly,
    RuleTable.kind_ne_of_rule dispatched closeCurly⟩

/-- A property of rules in a state. -/
abbrev Property : Type 1 :=
  (α : Type) → State → Rule α → Prop

/-- After a failed statement of the loop the property goes on to hold. -/
def Property.Resumes (P : Property) (closing : Token.Kind) : Prop :=
  ∀ {rule : Rule Statement} {state : State}, Forward Statement rule →
    ¬ endsStatements closing state.current.kind → P Statement state rule →
      P (Option Statement) state (attempt closing rule)

/-- A property is stepwise when the steps have it, as far as they consume passable tokens only, and
it passes on to what is built from them. The number of unread tokens is only a bound of rounds. -/
structure Stepwise (P : Property) : Prop where
  pure : ∀ {α : Type} (value : α) (state : State), P α state (pure value)
  throw : ∀ {α : Type} (failure : Diagnostic) (state : State), P α state (throw failure)
  bind : ∀ {α β : Type} {rule : Rule α} {next : α → Rule β} {state : State}, P α state rule →
    (∀ value after, P β after (next value)) → P β state (rule >>= next)
  look : ∀ {α : Type} {next : Token → Rule α} {state : State}, P α state (next state.current) →
    P α state (current >>= next)
  lastEnd : ∀ state : State, P Position state lastEnd
  advance : ∀ {state : State}, state.current.kind.IsPassable → P Token state advance
  note : ∀ {α : Type} {kind : Token.Kind} {next : Unit → Rule α} {state : State},
    P α (state.note (.statementKeyword kind)) (next ()) →
      P α state (note (.statementKeyword kind) >>= next)
  rounds : ∀ {α : Type} {body : Nat → Rule α}, (∀ (state : State) (rounds : Nat),
      state.cursor.ahead.length ≤ rounds → body state.cursor.ahead.length state = body rounds state) →
    (∀ rounds state, P α state (body rounds)) → ∀ state, P α state (unread >>= body)

/-- A property is guarded when it also passes on from a statement to the statements of a block and
from these to the block. -/
structure Guarded (P : Property) : Prop extends Stepwise P where
  resumes : P.Resumes .closeCurly
  block : ∀ {inner : Nested}, (∀ state, P (List Statement) state (statementsUntil inner .closeCurly)) →
    ∀ state, P Block state (block inner)

namespace Stepwise

variable {P : Property} (stepwise : Stepwise P) {α : Type}
include stepwise

theorem expectOr {kind : Token.Kind} (passable : kind.IsPassable) (failure : Diagnostic)
    (state : State) : P Token state (expectOr kind failure) := by
  apply stepwise.look
  split
  · next found =>
    apply stepwise.advance
    rwa [found]
  · exact stepwise.throw failure state

theorem expect {kind : Token.Kind} (passable : kind.IsPassable) (state : State) :
    P Token state (expect kind) :=
  stepwise.look (stepwise.expectOr passable _ state)

theorem skipOptional {kind : Token.Kind} (passable : kind.IsPassable) (state : State) :
    P Bool state (skipOptional kind) := by
  apply stepwise.look
  split
  · next found =>
    apply stepwise.bind
    · apply stepwise.advance
      rwa [found]
    · exact fun _ => stepwise.pure true
  · exact stepwise.pure false state

theorem separatedIn {item : Rule α} (each : ∀ state, P α state item) (rounds : Nat) (state : State) :
    P (List α) state (separatedIn item rounds) := by
  induction rounds generalizing state with
  | zero => exact stepwise.bind (each state) fun _ => stepwise.pure _
  | succ rounds ih =>
    apply stepwise.bind (each state)
    intro first state
    apply stepwise.bind (stepwise.skipOptional (by decide) state)
    intro found state
    split
    · exact stepwise.bind (ih state) fun _ => stepwise.pure _
    · exact stepwise.pure _ state

theorem parenthesized {item : Rule α} (forward : Forward α item) (each : ∀ state, P α state item)
    (state : State) : P (List α) state (parenthesized item) := by
  have listed : P (List α) state (listed item) := by
    apply stepwise.look
    split
    · exact stepwise.pure [] state
    · apply stepwise.rounds
      · intro state rounds more
        exact separatedIn_eq_separatedIn forward (Nat.le_refl _) more
      · exact stepwise.separatedIn each
  apply stepwise.bind listed
  intro items state
  exact stepwise.bind (stepwise.expect (by decide) state) fun _ => stepwise.pure items

theorem literal (state : State) : P Expression state literal := by
  apply stepwise.look
  split
  · next integer =>
    split
    · exact stepwise.bind (stepwise.advance (by rw [integer]; decide)) fun _ => stepwise.pure _
    · exact stepwise.throw _ state
  · next identifier =>
    exact stepwise.bind (stepwise.advance (by rw [identifier]; decide)) fun _ => stepwise.pure _
  · next truth =>
    exact stepwise.bind (stepwise.advance (by rw [truth]; decide)) fun _ => stepwise.pure _
  · next truth =>
    exact stepwise.bind (stepwise.advance (by rw [truth]; decide)) fun _ => stepwise.pure _
  · exact stepwise.throw _ state

/-- What is built from the end of the last consumed token. -/
theorem spanned (build : Position → α) (state : State) :
    P α state (Rule.lastEnd >>= fun stop => Pure.pure (build stop)) :=
  stepwise.bind (stepwise.lastEnd state) fun _ => stepwise.pure _

section Rules

variable {inner : Nested} {state : State} (deeper : inner.Has fun α rule => ∀ state, P α state rule)
include deeper

theorem unary (begins : state.current.kind.IsPassable) : P Expression state (unary inner) := by
  apply stepwise.bind (stepwise.advance begins)
  intro operator state
  exact stepwise.bind (deeper.expression .unary state) fun _ => stepwise.pure _

theorem grouping (begins : state.current.kind.IsPassable) :
    P Expression state (grouping inner) := by
  apply stepwise.bind (stepwise.advance begins)
  intro opening state
  apply stepwise.bind (deeper.expression .lowest state)
  intro expression state
  exact stepwise.bind (stepwise.expect (by decide) state) fun _ => stepwise.pure _

theorem alternative (state : State) : P (Option Block) state (alternative inner) := by
  apply stepwise.bind (stepwise.skipOptional (by decide) state)
  intro found state
  split
  · exact stepwise.bind (deeper.block state) fun _ => stepwise.pure _
  · exact stepwise.pure none state

theorem conditional (begins : state.current.kind.IsPassable) :
    P Expression state (conditional inner) := by
  apply stepwise.bind (stepwise.advance begins)
  intro keyword state
  apply stepwise.bind (stepwise.expect (by decide) state)
  intro opening state
  apply stepwise.bind (deeper.expression .lowest state)
  intro condition state
  apply stepwise.bind (stepwise.expect (by decide) state)
  intro closing state
  apply stepwise.bind (deeper.block state)
  intro consequence state
  apply stepwise.bind (stepwise.alternative deeper state)
  intro alternative state
  exact stepwise.spanned _ state

theorem function (begins : state.current.kind.IsPassable) :
    P Expression state (function inner) := by
  have parameter : ∀ state, P Token state (Rule.expect .identifier) :=
    stepwise.expect (by decide)
  apply stepwise.bind (stepwise.advance begins)
  intro keyword state
  apply stepwise.bind (stepwise.expect (by decide) state)
  intro opening state
  apply stepwise.bind (stepwise.parenthesized (forward_closed.expect .identifier) parameter state)
  intro parameters state
  apply stepwise.bind (deeper.block state)
  intro body state
  exact stepwise.spanned _ state

theorem opening (state : State) : P Expression state (opening inner) := by
  apply stepwise.look
  split
  · next rule dispatched =>
    have begins := isPassable_of_rule dispatched rfl rfl rfl
    cases rule with
    | literal => exact stepwise.literal state
    | unary => exact stepwise.unary deeper begins
    | grouping => exact stepwise.grouping deeper begins
    | conditional => exact stepwise.conditional deeper begins
    | function => exact stepwise.function deeper begins
  · split
    · exact stepwise.throw _ state
    · exact stepwise.throw _ state

theorem returned (state : State) : P (Option Expression) state (returned inner) := by
  apply stepwise.look
  split
  · exact stepwise.pure none state
  · exact stepwise.bind (deeper.expression .lowest state) fun _ => stepwise.pure _

theorem binding (begins : state.current.kind.IsPassable) : P Statement state (binding inner) := by
  apply stepwise.bind (stepwise.advance begins)
  intro keyword state
  apply stepwise.look
  apply stepwise.bind (stepwise.expectOr (by decide) _ state)
  intro name state
  apply stepwise.bind (stepwise.expect (by decide) state)
  intro assignment state
  apply stepwise.bind (deeper.expression .lowest state)
  intro value state
  apply stepwise.bind (stepwise.skipOptional (by decide) state)
  intro ended state
  exact stepwise.spanned _ state

theorem returning (begins : state.current.kind.IsPassable) :
    P Statement state (returning inner) := by
  apply stepwise.bind (stepwise.advance begins)
  intro keyword state
  apply stepwise.bind (stepwise.returned deeper state)
  intro value state
  apply stepwise.bind (stepwise.skipOptional (by decide) state)
  intro ended state
  exact stepwise.spanned _ state

theorem bareExpression (state : State) : P Statement state (bareExpression inner) := by
  apply stepwise.look
  apply stepwise.bind (deeper.expression .lowest state)
  intro expression state
  exact stepwise.bind (stepwise.skipOptional (by decide) state) fun _ => stepwise.pure _

theorem statement (state : State) : P Statement state (statement inner) := by
  apply stepwise.look
  dsimp only
  split
  · exact stepwise.bareExpression deeper state
  · next rule dispatched =>
    have begins := isPassable_of_rule dispatched rfl rfl rfl
    apply stepwise.note
    cases rule with
    | binding => exact stepwise.binding deeper begins
    | returning => exact stepwise.returning deeper begins

variable (steady : inner.Steady)
include steady

theorem following (begins : state.current.kind.IsPassable) (power : BindingPower)
    (left : Expression) (rule : FollowingRule) :
    P Expression state (following inner power left rule) := by
  cases rule with
  | binary =>
    apply stepwise.bind (stepwise.advance begins)
    intro operator state
    exact stepwise.bind (deeper.expression power state) fun _ => stepwise.pure _
  | call =>
    apply stepwise.bind (stepwise.advance begins)
    intro opening state
    apply stepwise.bind
      (stepwise.parenthesized (steady.forward.expression .lowest) (deeper.expression .lowest) state)
    intro arguments state
    exact stepwise.spanned _ state

theorem climb (power : BindingPower) (rounds : Nat) (left : Expression) (state : State) :
    P Expression state (climb inner power rounds left) := by
  induction rounds generalizing left state with
  | zero => exact stepwise.pure left state
  | succ rounds ih =>
    apply stepwise.look
    split
    · exact stepwise.pure left state
    · next strength rule dispatched =>
      have begins := isPassable_of_rule dispatched rfl rfl rfl
      split
      · exact stepwise.bind (stepwise.following deeper steady begins strength left rule) ih
      · exact stepwise.pure left state

theorem expression (power : BindingPower) (state : State) :
    P Expression state (expression inner power) := by
  apply stepwise.bind (stepwise.opening deeper state)
  intro left state
  apply stepwise.rounds
  · intro state rounds more
    exact climb_eq_climb steady (Nat.le_refl _) more
  · intro rounds state
    exact stepwise.climb deeper steady power rounds left state

theorem statementsUntil {closing : Token.Kind} (resumes : P.Resumes closing) (state : State) :
    P (List Statement) state (statementsUntil inner closing) := by
  rw [statementsUntil_eq]
  apply stepwise.rounds
  · intro state rounds more
    exact statementsIn_eq_statementsIn steady (Nat.le_refl _) more
  · intro rounds state
    induction rounds generalizing state with
    | zero => exact stepwise.pure [] state
    | succ rounds ih =>
      rw [statementsIn_succ]
      apply stepwise.look
      split
      · exact stepwise.pure [] state
      · next goesOn =>
        apply stepwise.bind (resumes (forward_closed.statement steady.forward) goesOn
          (stepwise.statement deeper state))
        intro first state
        exact stepwise.bind (ih state) fun _ => stepwise.pure _

end Rules

/-- A stepwise property holds at every depth of nesting if it passes on from statements to blocks. -/
theorem within (limit : Nat)
    (block : ∀ room, ((Nested.within limit room).Has fun α rule => ∀ state, P α state rule) →
      ∀ state, P Block state (block (.within limit room))) (room : Nat) :
    (Nested.within limit room).Has fun α rule => ∀ state, P α state rule := by
  have tooDeep {α : Type} (state : State) : P α state (tooDeep limit) :=
    stepwise.look (stepwise.throw _ state)
  induction room with
  | zero => exact ⟨fun _ => tooDeep, tooDeep⟩
  | succ room ih => exact ⟨stepwise.expression ih (Nested.steady_within limit room), block room ih⟩

end Stepwise

/-- A guarded property holds at every depth of nesting. -/
theorem Guarded.within {P : Property} (guarded : Guarded P) (limit room : Nat) :
    (Nested.within limit room).Has fun α rule => ∀ state, P α state rule :=
  guarded.toStepwise.within limit (fun room deeper => guarded.block
    (guarded.toStepwise.statementsUntil deeper (Nested.steady_within limit room) guarded.resumes))
    room

/-- What becomes of a block shows at its opening brace and behind its statements. -/
theorem block_apply (inner : Nested) (state : State) :
    block inner state =
      if state.current.kind = .openCurly then
        let (statements, final) := state.advance.statementsUntil inner .closeCurly
        if final.current.kind = .closeCurly then
          .ok (.braces state.current statements
            ⟨state.current.span.start, final.advance.cursor.lastEnd⟩) final.advance
        else .error ⟨.missing Token.Kind.closeCurly.name final.current.text,
          final.current.span.start⟩ final
      else .error ⟨.missing Token.Kind.openCurly.name state.current.text,
        state.current.span.start⟩ state := by
  rw [block, bind_apply, expect_apply]
  by_cases opens : state.current.kind = .openCurly
  · rw [if_pos opens, if_pos opens]
    dsimp only
    rw [bind_apply, statementsUntil_apply]
    dsimp only
    rw [bind_apply, expect_apply]
    by_cases closes : (state.advance.statementsUntil inner .closeCurly).2.current.kind = .closeCurly
    · rw [if_pos closes, if_pos closes]
      rfl
    · rw [if_neg closes, if_neg closes]
  · rw [if_neg opens, if_neg opens]

/-- The relation holds between the state before a rule and the state in which the rule ends. -/
def Keeping (R : State → State → Prop) : Property := fun _ state rule =>
  R state (final rule state)

namespace Keeping

variable {R : State → State → Prop} {α : Type} {rule : Rule α} {state after : State}
  (kept : Keeping R α state rule)
include kept

theorem of_ok {value : α} (read : rule state = .ok value after) : R state after := by
  unfold Keeping at kept
  rwa [final_of_ok read] at kept

theorem of_error {failure : Diagnostic} (failed : rule state = .error failure after) :
    R state after := by
  unfold Keeping at kept
  rwa [final_of_error failed] at kept

end Keeping

/-- A relation between states is a motion when the steps keep to it and steps may be added. -/
structure Motion (R : State → State → Prop) : Prop where
  refl : ∀ state, R state state
  trans : ∀ {first second third : State}, R first second → R second third → R first third
  advance : ∀ {state : State}, state.current.kind.IsPassable → R state state.advance
  note : ∀ (kind : Token.Kind) (state : State), R state (state.note (.statementKeyword kind))

namespace Motion

variable {R : State → State → Prop} (motion : Motion R)
include motion

theorem bind {α β : Type} {rule : Rule α} {next : α → Rule β} {state : State}
    (first : Keeping R α state rule) (rest : ∀ value after, Keeping R β after (next value)) :
    Keeping R β state (rule >>= next) := by
  unfold Keeping final
  rw [bind_apply]
  cases outcome : rule state with
  | ok value after => exact motion.trans (first.of_ok outcome) (rest value after)
  | error failure after => exact first.of_error outcome

/-- What the steps keep to, everything keeps to that is made of them. -/
theorem stepwise : Stepwise (Keeping R) where
  pure _ := motion.refl
  throw _ := motion.refl
  bind := motion.bind
  look rest := rest
  lastEnd := motion.refl
  advance := motion.advance
  note rest := motion.trans (motion.note _ _) rest
  rounds _ each state := each _ state

/-- A block goes from its opening brace to the end of its statements and past its closing brace. -/
theorem block {inner : Nested}
    (read : ∀ {state : State}, state.current.kind = .openCurly →
      (state.advance.statementsUntil inner .closeCurly).2.current.kind ≠ .closeCurly →
        R state (state.advance.statementsUntil inner .closeCurly).2)
    (closed : ∀ {state : State}, state.current.kind = .openCurly →
      (state.advance.statementsUntil inner .closeCurly).2.current.kind = .closeCurly →
        R state (state.advance.statementsUntil inner .closeCurly).2.advance)
    (state : State) : Keeping R Block state (block inner) := by
  unfold Keeping final
  rw [block_apply]
  by_cases opens : state.current.kind = .openCurly
  · rw [if_pos opens]
    dsimp only
    by_cases closes : (state.advance.statementsUntil inner .closeCurly).2.current.kind = .closeCurly
    · rw [if_pos closes]
      exact closed opens closes
    · rw [if_neg closes]
      exact read opens closes
  · rw [if_neg opens]
    exact motion.refl state

end Motion

/-- Between the statements of a list a relation survives a failure. -/
def Survives (R : State → State → Prop) (closing : Token.Kind) : Prop :=
  ∀ {origin state : State} {failure : Diagnostic}, ¬ endsStatements closing origin.current.kind →
    origin.Reaches state → R origin state →
      R origin ((state.record failure).resynchronize origin.cursor.index closing)

/-- A motion is a transition when it also survives failures and passes on to whole blocks. -/
structure Transition (R : State → State → Prop) : Prop extends Motion R where
  survives : Survives R .closeCurly
  opens : ∀ {state : State}, state.current.kind = .openCurly → R state state.advance
  braces : ∀ {state last : State}, state.current.kind = .openCurly → R state.advance last →
    last.current.kind = .closeCurly → R state last.advance

namespace Transition

variable {R : State → State → Prop} (transition : Transition R)

theorem resumes {closing : Token.Kind} (survives : Survives R closing) :
    (Keeping R).Resumes closing := by
  intro rule state forward goesOn kept
  unfold Keeping final attempt
  cases outcome : rule state with
  | ok first after => exact kept.of_ok outcome
  | error failure after =>
    exact survives goesOn (forward.of_error outcome) (kept.of_error outcome)

include transition

/-- What the steps keep to, all rules keep to. -/
theorem guarded : Guarded (Keeping R) where
  toStepwise := transition.stepwise
  resumes := resumes transition.survives
  block each := transition.block
    (fun opens _ => transition.trans (transition.opens opens) (each _))
    (fun opens closes => transition.braces opens (each _) closes)

/-- A whole list of statements keeps to the relation at every depth of nesting. -/
theorem statementsUntil (limit room : Nat) {closing : Token.Kind} (survives : Survives R closing)
    (state : State) : R state (state.statementsUntil (Nested.within limit room) closing).2 :=
  transition.guarded.statementsUntil (transition.guarded.within limit room)
    (Nested.steady_within limit room) (resumes survives) state

end Transition

end Rule

end ScriptFrontend
