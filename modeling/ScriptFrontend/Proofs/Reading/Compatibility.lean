/-
This file shows that a relation between a state and what is read from it passes on from the steps to
every rule of a whole reading.
-/

import ScriptFrontend.Proofs.Reading.Closure

namespace ScriptFrontend

/-- A diagnostic blames a token when it was found where the token starts, quotes the text of the
token and is true of it. Only the lack of room does not lie in the token. -/
def Diagnostic.Blames (diagnostic : Diagnostic) (token : Token) : Prop :=
  diagnostic.position = token.span.start ∧
    match diagnostic.problem with
    | .unrecognised text => text = token.text ∧ token.kind = .illegal
    | .cannotBeginExpression text =>
      text = token.text ∧ RuleTable.standard.leading token.kind = none
    | .unexpected text _ => text = token.text ∧ token.kind ≠ .identifier
    | .missing expected found =>
      found = token.text ∧ ∃ kind : Token.Kind, expected = kind.name ∧ token.kind ≠ kind
    | .integerOutOfRange text =>
      text = token.text ∧ token.kind = .integer ∧ Text.readInteger? token.text = none
    | .nestingTooDeep _ => True

/-- The diagnostic speaks in words of its own only where it asks for an identifier. -/
def Diagnostic.Worded (diagnostic : Diagnostic) : Prop :=
  match diagnostic.problem with
  | .unexpected _ message => message = "expected identifier"
  | _ => True

/-- The diagnostic tells of a lack of room under some limit. -/
def Diagnostic.IsTooDeep (diagnostic : Diagnostic) : Prop :=
  ∃ limit, diagnostic.problem = .nestingTooDeep limit

namespace Rule

/-- The outcome of a rule is what it read or how it failed, together with the state it leaves. -/
abbrev Outcome (α : Type) : Type :=
  EStateM.Result Diagnostic State α

/-- The statements of a block are read together with the closing brace. -/
def enclosed (inner : Nested) : Rule (List Statement) := do
  let statements ← statementsUntil inner .closeCurly
  let _ ← expect .closeCurly
  return statements

theorem block_apply_of_openCurly (inner : Nested) {state : State}
    (opens : state.current.kind = .openCurly) :
    block inner state =
      (enclosed inner >>= fun statements => lastEnd >>= fun stop =>
        pure (.braces state.current statements ⟨state.current.span.start, stop⟩))
          state.advance := by
  rw [block, bind_apply, expect_apply, if_pos opens, enclosed]
  dsimp only
  rw [bind_apply, bind_apply, bind_apply]
  cases statementsUntil inner .closeCurly state.advance with
  | error failure after => rfl
  | ok statements after =>
    dsimp only
    rw [bind_apply, bind_apply]
    cases expect .closeCurly after <;> rfl

/-- A missing closing brace is the only failure behind the statements of a block. -/
theorem enclosed_apply (inner : Nested) (state : State) :
    enclosed inner state =
      let (statements, last) := state.statementsUntil inner .closeCurly
      if last.current.kind = .closeCurly then .ok statements last.advance
      else .error ⟨.missing Token.Kind.closeCurly.name last.current.text,
        last.current.span.start⟩ last := by
  rw [enclosed, bind_apply, statementsUntil_apply]
  dsimp only
  rw [bind_apply, expect_apply]
  by_cases closes : (state.statementsUntil inner .closeCurly).2.current.kind = .closeCurly
  · rw [if_pos closes, if_pos closes]
    rfl
  · rw [if_neg closes, if_neg closes]

/-- The relation holds between the state and the outcomes of two rules that differ only in the room
for deeper levels. No step consumes an end mark, every failure blames the current token, and a level
is entered behind a consumed token. -/
structure Compatible (R : Nat → (α : Type) → State → Outcome α → Outcome α → Prop) : Prop where
  ok : ∀ {room : Nat} {α : Type} (value : α) (state : State),
    R room α state (.ok value state) (.ok value state)
  blame : ∀ {room : Nat} {α : Type} {failure : Diagnostic} {state : State},
    failure.Blames state.current → failure.Worded → ¬ failure.IsTooDeep →
      R room α state (.error failure state) (.error failure state)
  bind : ∀ {room : Nat} {α β : Type} {first second : Rule α} {next other : α → Rule β}
    {state : State}, R room α state (first state) (second state) →
      (∀ value after, first state = .ok value after →
        R room β after (next value after) (other value after)) →
      R room β state ((first >>= next) state) ((second >>= other) state)
  note : ∀ {room : Nat} {α : Type} (event : Event) {state : State} {first second : Outcome α},
    R room α (state.note event) first second → R room α state first second
  take : ∀ {room : Nat} {α : Type} {state : State} {first second : Outcome α},
    state.current.kind ≠ .endOfInput → R room α state.advance first second →
      R (room + 1) α state first second
  weaken : ∀ {room : Nat} {α : Type} {state : State} {first second : Outcome α},
    R (room + 1) α state first second → R room α state first second
  enclosed : ∀ {room : Nat} {inner other : Nested},
    (∀ state : State, state.current.kind ≠ .endOfInput →
      R room Statement state (statement inner state) (statement other state)) →
    ∀ state : State, R room (List Statement) state (enclosed inner state) (enclosed other state)

end Rule

/-- Two sorts of rules of a deeper level meet a relation when it holds of their outcomes. -/
structure Nested.Meets (R : (α : Type) → Rule.State → Rule.Outcome α → Rule.Outcome α → Prop)
    (inner other : Nested) : Prop where
  expression : ∀ power state,
    R Expression state (inner.expression power state) (other.expression power state)
  block : ∀ state, R Block state (inner.block state) (other.block state)

namespace Rule.Compatible

variable {R : Nat → (α : Type) → State → Outcome α → Outcome α → Prop}
  (compatible : Compatible R) {room : Nat} {α β : Type} {state : State}
include compatible

/-- A step that consumes a token opens the way to a deeper level. -/
theorem descend {next other : Token → Rule β} (present : state.current.kind ≠ .endOfInput)
    (rest : R room β state.advance (next state.current state.advance)
      (other state.current state.advance)) :
    R (room + 1) β state ((advance >>= next) state) ((advance >>= other) state) :=
  compatible.take present rest

theorem advance {next other : Token → Rule β} (present : state.current.kind ≠ .endOfInput)
    (rest : R room β state.advance (next state.current state.advance)
      (other state.current state.advance)) :
    R room β state ((Rule.advance >>= next) state) ((Rule.advance >>= other) state) :=
  compatible.weaken (compatible.descend present rest)

omit compatible in
/-- The next steps may depend on the current token. -/
theorem look {next other : Token → Rule β}
    (rest : R room β state (next state.current state) (other state.current state)) :
    R room β state ((current >>= next) state) ((current >>= other) state) :=
  rest

/-- What is built from the end of the last consumed token consumes nothing. -/
theorem spanned (build : Position → β) (state : State) :
    R room β state ((lastEnd >>= fun stop => pure (build stop)) state)
      ((lastEnd >>= fun stop => pure (build stop)) state) :=
  compatible.ok (build state.cursor.lastEnd) state

theorem expectOr {kind : Token.Kind} {failure : Diagnostic} (some : kind ≠ .endOfInput)
    (blames : state.current.kind ≠ kind → failure.Blames state.current)
    (worded : failure.Worded) (shallow : ¬ failure.IsTooDeep) :
    R room Token state (expectOr kind failure state) (expectOr kind failure state) := by
  rw [expectOr_apply]
  split
  · next found =>
    have present : state.current.kind ≠ .endOfInput := by rwa [found]
    exact compatible.weaken (compatible.take present (compatible.ok _ _))
  · next other => exact compatible.blame (blames other) worded shallow

theorem expect {kind : Token.Kind} (some : kind ≠ .endOfInput) (state : State) :
    R room Token state (expect kind state) (expect kind state) := by
  apply look
  apply compatible.expectOr some
  · intro other
    exact ⟨rfl, rfl, kind, rfl, other⟩
  · trivial
  · nofun

theorem skipOptional {kind : Token.Kind} (some : kind ≠ .endOfInput) (state : State) :
    R room Bool state (skipOptional kind state) (skipOptional kind state) := by
  rw [skipOptional_apply]
  split
  · next found =>
    have present : state.current.kind ≠ .endOfInput := by rwa [found]
    exact compatible.weaken (compatible.take present (compatible.ok _ _))
  · exact compatible.ok false state

theorem separatedIn {item other : Rule α}
    (each : ∀ state, R room α state (item state) (other state)) (rounds : Nat) (state : State) :
    R room (List α) state (separatedIn item rounds state) (separatedIn other rounds state) := by
  induction rounds generalizing state with
  | zero => exact compatible.bind (each state) fun _ _ _ => compatible.ok _ _
  | succ rounds ih =>
    apply compatible.bind (each state)
    intro first after _
    apply compatible.bind (compatible.skipOptional (by decide) after)
    intro found middle _
    cases found with
    | true => exact compatible.bind (ih middle) fun _ _ _ => compatible.ok _ _
    | false => exact compatible.ok _ _

theorem parenthesized {item other : Rule α}
    (each : ∀ state, R room α state (item state) (other state)) (state : State) :
    R room (List α) state (parenthesized item state) (parenthesized other state) := by
  have listed : R room (List α) state (listed item state) (listed other state) := by
    apply look
    split
    · exact compatible.ok [] state
    · exact compatible.separatedIn each state.cursor.ahead.length state
  exact compatible.bind listed fun _ after _ =>
    compatible.bind (compatible.expect (by decide) after) fun _ _ _ => compatible.ok _ _

/-- A literal rule is only applied to tokens that it is meant for. -/
theorem literal (dispatched : RuleTable.standard.leading state.current.kind = some .literal) :
    R (room + 1) Expression state (literal state) (literal state) := by
  have present : state.current.kind ≠ .endOfInput := RuleTable.kind_ne_of_rule dispatched rfl
  rw [literal_apply]
  split
  · next isInteger =>
    split
    · exact compatible.take present (compatible.ok _ _)
    · next outOfRange => exact compatible.blame ⟨rfl, rfl, isInteger, outOfRange⟩ trivial nofun
  · exact compatible.take present (compatible.ok _ _)
  · exact compatible.take present (compatible.ok _ _)
  · exact compatible.take present (compatible.ok _ _)
  · next noInteger noIdentifier noTrue noFalse =>
    revert dispatched noInteger noIdentifier noTrue noFalse
    cases state.current.kind <;> simp [RuleTable.standard]

variable {inner other : Nested} (deeper : inner.Meets (R room) other)
include deeper

theorem unary (present : state.current.kind ≠ .endOfInput) :
    R (room + 1) Expression state (unary inner state) (unary other state) :=
  compatible.descend present <| compatible.bind (deeper.expression .unary _) fun _ _ _ =>
    compatible.ok _ _

theorem grouping (present : state.current.kind ≠ .endOfInput) :
    R (room + 1) Expression state (grouping inner state) (grouping other state) :=
  compatible.descend present <| compatible.bind (deeper.expression .lowest _) fun _ after _ =>
    compatible.bind (compatible.expect (by decide) after) fun _ _ _ => compatible.ok _ _

theorem alternative (state : State) :
    R room (Option Block) state (alternative inner state) (alternative other state) := by
  apply compatible.bind (compatible.skipOptional (by decide) state)
  intro found after _
  cases found with
  | true => exact compatible.bind (deeper.block after) fun _ _ _ => compatible.ok _ _
  | false => exact compatible.ok none after

theorem conditional (present : state.current.kind ≠ .endOfInput) :
    R (room + 1) Expression state (conditional inner state) (conditional other state) :=
  compatible.descend present <|
    compatible.bind (compatible.expect (by decide) _) fun _ opened _ =>
    compatible.bind (deeper.expression .lowest opened) fun _ conditioned _ =>
    compatible.bind (compatible.expect (by decide) conditioned) fun _ closed _ =>
    compatible.bind (deeper.block closed) fun _ middle _ =>
    compatible.bind (compatible.alternative deeper middle) fun _ last _ =>
    compatible.spanned _ last

theorem function (present : state.current.kind ≠ .endOfInput) :
    R (room + 1) Expression state (function inner state) (function other state) :=
  compatible.descend present <|
    compatible.bind (compatible.expect (by decide) _) fun _ opened _ =>
    compatible.bind (compatible.parenthesized (compatible.expect (by decide)) opened)
      fun _ named _ =>
    compatible.bind (deeper.block named) fun _ last _ => compatible.spanned _ last

theorem binary (power : BindingPower) (left : Expression)
    (present : state.current.kind ≠ .endOfInput) :
    R (room + 1) Expression state (binary inner power left state) (binary other power left state) :=
  compatible.descend present <| compatible.bind (deeper.expression power _) fun _ _ _ =>
    compatible.ok _ _

theorem call (callee : Expression) (present : state.current.kind ≠ .endOfInput) :
    R (room + 1) Expression state (call inner callee state) (call other callee state) :=
  compatible.descend present <|
    compatible.bind (compatible.parenthesized (deeper.expression .lowest) _) fun _ last _ =>
    compatible.spanned _ last

theorem opening (state : State) :
    R (room + 1) Expression state (opening inner state) (opening other state) := by
  rw [opening_apply, opening_apply]
  split
  · next rule dispatched =>
    have present : state.current.kind ≠ .endOfInput := RuleTable.kind_ne_of_rule dispatched rfl
    cases rule with
    | literal => exact compatible.literal dispatched
    | unary => exact compatible.unary deeper present
    | grouping => exact compatible.grouping deeper present
    | conditional => exact compatible.conditional deeper present
    | function => exact compatible.function deeper present
  · next none =>
    split
    · next illegal => exact compatible.blame ⟨rfl, rfl, illegal⟩ trivial nofun
    · exact compatible.blame ⟨rfl, rfl, none⟩ trivial nofun

theorem climb (power : BindingPower) (rounds : Nat) (left : Expression) (state : State) :
    R (room + 1) Expression state (climb inner power rounds left state)
      (climb other power rounds left state) := by
  induction rounds generalizing left state with
  | zero => exact compatible.ok left state
  | succ rounds ih =>
    rw [climb_succ_apply, climb_succ_apply]
    split
    · exact compatible.ok left state
    · next strength rule dispatched =>
      have present : state.current.kind ≠ .endOfInput := RuleTable.kind_ne_of_rule dispatched rfl
      split
      · refine compatible.bind ?_ fun extended after _ => ih extended after
        cases rule with
        | binary => exact compatible.binary deeper strength left present
        | call => exact compatible.call deeper left present
      · exact compatible.ok left state

theorem expression (power : BindingPower) (state : State) :
    R (room + 1) Expression state (expression inner power state) (expression other power state) :=
  compatible.bind (compatible.opening deeper state) fun left after _ =>
    compatible.climb deeper power after.cursor.ahead.length left after

theorem binding (present : state.current.kind ≠ .endOfInput) :
    R room Statement state (binding inner state) (binding other state) := by
  apply compatible.advance present
  apply look
  have blames (noName : state.advance.current.kind ≠ .identifier) :
      Diagnostic.Blames ⟨.unexpected state.advance.current.text "expected identifier",
        state.advance.current.span.start⟩ state.advance.current := ⟨rfl, rfl, noName⟩
  exact compatible.bind (compatible.expectOr (by decide) blames rfl nofun) fun _ named _ =>
    compatible.bind (compatible.expect (by decide) named) fun _ assigned _ =>
    compatible.bind (deeper.expression .lowest assigned) fun _ valued _ =>
    compatible.bind (compatible.skipOptional (by decide) valued) fun _ last _ =>
    compatible.spanned _ last

theorem returning (present : state.current.kind ≠ .endOfInput) :
    R room Statement state (returning inner state) (returning other state) := by
  apply compatible.advance present
  have returned : R room (Option Expression) state.advance (returned inner state.advance)
      (returned other state.advance) := by
    apply look
    split
    · exact compatible.ok none _
    · exact compatible.bind (deeper.expression .lowest _) fun _ _ _ => compatible.ok _ _
  exact compatible.bind returned fun _ valued _ =>
    compatible.bind (compatible.skipOptional (by decide) valued) fun _ last _ =>
    compatible.spanned _ last

theorem statement (state : State) :
    R room Statement state (statement inner state) (statement other state) := by
  rw [statement_apply, statement_apply]
  split
  · apply look
    exact compatible.bind (deeper.expression .lowest state) fun _ valued _ =>
      compatible.bind (compatible.skipOptional (by decide) valued) fun _ _ _ => compatible.ok _ _
  · next dispatched =>
    have present : state.current.kind ≠ .endOfInput := RuleTable.kind_ne_of_rule dispatched rfl
    exact compatible.note _ (compatible.binding deeper present)
  · next dispatched =>
    have present : state.current.kind ≠ .endOfInput := RuleTable.kind_ne_of_rule dispatched rfl
    exact compatible.note _ (compatible.returning deeper present)

theorem block (state : State) :
    R (room + 1) Block state (block inner state) (block other state) := by
  by_cases opens : state.current.kind = .openCurly
  · have present : state.current.kind ≠ .endOfInput := by
      rw [opens]
      decide
    rw [block_apply_of_openCurly inner opens, block_apply_of_openCurly other opens]
    apply compatible.take present
    refine compatible.bind (compatible.enclosed ?_ state.advance) fun _ last _ =>
      compatible.spanned _ last
    intro begun _
    exact compatible.statement deeper begun
  · have fails (nested : Nested) : Rule.block nested state =
        .error ⟨.missing Token.Kind.openCurly.name state.current.text, state.current.span.start⟩
          state := by
      rw [Rule.block, bind_apply, expect_apply, if_neg opens]
    rw [fails, fails]
    exact compatible.blame ⟨rfl, rfl, .openCurly, rfl, opens⟩ trivial nofun

omit deeper in
/-- What holds where no room is left holds at every depth of nesting. -/
theorem within {limit otherLimit extra : Nat}
    (exhausted : (Nested.within limit 0).Meets (R 0) (Nested.within otherLimit extra))
    (room : Nat) :
    (Nested.within limit room).Meets (R room) (Nested.within otherLimit (extra + room)) := by
  induction room with
  | zero => exact exhausted
  | succ room ih => exact ⟨fun power => compatible.expression ih power, compatible.block ih⟩

end Rule.Compatible

end ScriptFrontend
