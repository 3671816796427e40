/-
This file shows what every session keeps, whatever steps its caller takes.
-/

import ScriptFrontend.Proofs.Reading.Placement
import ScriptFrontend.Reading.Session

namespace ScriptFrontend

namespace Reader

/-- A reader continues another one when its state is reached and its nesting is the same. -/
structure Continues (before after : Reader) : Prop where
  state : before.state.Reaches after.state
  limit : after.limit = before.limit
  depth : after.depth = before.depth

theorem Continues.refl (reader : Reader) : reader.Continues reader :=
  ⟨.refl reader.state, rfl, rfl⟩

variable {α β : Type}

theorem perform_of_ok {reader : Reader} {rule : Nested → Rule α} {value : α} {state : Rule.State}
    (read : rule reader.inner reader.state = .ok value state) :
    reader.perform rule = (.ok value, { reader with state }) := by
  rw [perform, read]

theorem perform_of_error {reader : Reader} {rule : Nested → Rule α} {failure : Diagnostic}
    {state : Rule.State} (failed : rule reader.inner reader.state = .error failure state) :
    reader.perform rule = (.error failure, { reader with state }) := by
  rw [perform, failed]

theorem perform_snd (reader : Reader) (rule : Nested → Rule α) :
    (reader.perform rule).2 =
      { reader with state := Rule.final (rule reader.inner) reader.state } := by
  cases outcome : rule reader.inner reader.state with
  | ok value state => rw [perform_of_ok outcome, Rule.final_of_ok outcome]
  | error failure state => rw [perform_of_error outcome, Rule.final_of_error outcome]

theorem continues_perform (reader : Reader) {rule : Nested → Rule α}
    (forward : Rule.Forward α (rule reader.inner)) :
    reader.Continues (reader.perform rule).2 := by
  rw [perform_snd]
  exact ⟨forward reader.state, rfl, rfl⟩

/-- The deeper rules of a reader move forward. -/
theorem inner_has (reader : Reader) : reader.inner.Has Rule.Forward :=
  Rule.forward_closed.within reader.limit _

/-- A sequence is performed one part after the other, and every part starts at the depth at which
the one before it ended. -/
theorem perform_bind (reader : Reader) (rule : Nested → Rule α) (next : Nested → α → Rule β) :
    reader.perform (fun inner => rule inner >>= next inner) =
      match reader.perform rule with
      | (.ok value, after) => after.perform fun inner => next inner value
      | (.error failure, after) => (.error failure, after) := by
  have sequence := Rule.bind_apply (rule reader.inner) (next reader.inner) reader.state
  cases outcome : rule reader.inner reader.state with
  | ok value state =>
    rw [outcome] at sequence
    rw [perform_of_ok outcome, perform, sequence]
    rfl
  | error failure state =>
    rw [outcome] at sequence
    rw [perform_of_error outcome, perform_of_error sequence]

/-- A failure in a list of statements is recorded at the depth at which its statement ended. -/
theorem perform_attempt (reader : Reader) (closing : Token.Kind) (rule : Nested → Rule Statement) :
    reader.perform (fun inner => Rule.attempt closing (rule inner)) =
      match reader.perform rule with
      | (.ok tree, after) => (.ok (some tree), after)
      | (.error failure, after) =>
        (.ok none, { after with
          state := (after.state.record failure).resynchronize reader.state.cursor.index closing }) := by
  cases outcome : rule reader.inner reader.state with
  | ok tree state =>
    rw [perform_of_ok outcome]
    apply perform_of_ok
    rw [Rule.attempt, outcome]
  | error failure state =>
    rw [perform_of_error outcome]
    apply perform_of_ok
    rw [Rule.attempt, outcome]

/-- A level is entered before the rule, and it is left whether the rule reads something or fails. -/
def nest (reader : Reader) (rule : Nested → Rule α) : Except Diagnostic α × Reader :=
  match reader.enterNesting with
  | (.ok _, deeper) =>
    let (result, after) := deeper.perform rule
    (result, after.exitNesting)
  | (.error failure, refused) => (.error failure, refused)

/-- A rule that is the other one at the next level, and fails where no level is left, nests it. -/
theorem perform_eq_nest {reader : Reader} {rule other : Nested → Rule α}
    (exhausted : rule (Nested.within reader.limit 0) = Rule.tooDeep reader.limit)
    (deeper : ∀ room, rule (Nested.within reader.limit (room + 1)) =
      other (Nested.within reader.limit room)) :
    reader.perform rule = reader.nest other := by
  obtain room | full := Nat.lt_or_ge reader.depth reader.limit
  · have left : reader.limit - reader.depth = reader.limit - (reader.depth + 1) + 1 := by omega
    have same := congrFun (deeper (reader.limit - (reader.depth + 1))) reader.state
    rw [← left] at same
    rw [nest, enterNesting, if_pos room]
    cases outcome : other (Nested.within reader.limit (reader.limit - (reader.depth + 1)))
        reader.state with
    | ok value state =>
      rw [outcome] at same
      rw [perform_of_ok same]
      dsimp only
      rw [perform_of_ok outcome]
      rfl
    | error failure state =>
      rw [outcome] at same
      rw [perform_of_error same]
      dsimp only
      rw [perform_of_error outcome]
      rfl
  · have none : reader.limit - reader.depth = 0 := by omega
    rw [nest, enterNesting, if_neg (Nat.not_lt.2 full), perform, inner, none, exhausted]
    rfl

/-- An expression takes one level for as long as it is read. -/
theorem perform_expression (reader : Reader) (power : BindingPower) :
    reader.perform (fun inner => inner.expression power) =
      reader.nest fun inner => Rule.expression inner power :=
  perform_eq_nest rfl fun _ => rfl

/-- A block takes one level for as long as it is read. -/
theorem perform_block (reader : Reader) :
    reader.perform Nested.block = reader.nest Rule.block :=
  perform_eq_nest rfl fun _ => rfl

end Reader

namespace Session

open Rule

variable {α : Type}

theorem reader_answer (session : Session) (rule : Nested → Rule α) (form : α → Answer) :
    (session.answer rule form).2.reader = (session.reader.perform rule).2 := by
  unfold answer
  split <;> simp [*]

theorem reader_hold (session : Session) (rule : Nested → Rule Expression) :
    (session.hold rule).2.reader = (session.reader.perform rule).2 := by
  unfold hold
  split <;> simp [*]

theorem continues_answer (session : Session) {rule : Nested → Rule α} (form : α → Answer)
    (forward : Forward α (rule session.reader.inner)) :
    session.reader.Continues (session.answer rule form).2.reader := by
  rw [reader_answer]
  exact session.reader.continues_perform forward

theorem continues_hold (session : Session) {rule : Nested → Rule Expression}
    (forward : Forward Expression (rule session.reader.inner)) :
    session.reader.Continues (session.hold rule).2.reader := by
  rw [reader_hold]
  exact session.reader.continues_perform forward

theorem continues_extend (session : Session) {rule : Nested → Expression → Rule Expression}
    (forward : ∀ left, Forward Expression (rule session.reader.inner left)) :
    session.reader.Continues (session.extend rule).2.reader := by
  unfold extend
  split
  · exact .refl session.reader
  · next left held => exact session.continues_hold (forward left)

/-- Only the two operations that are made for it change the depth. -/
theorem continues_step (session : Session) {operation : Operation}
    (noEntry : operation ≠ .enterNesting) (noExit : operation ≠ .exitNesting) :
    session.reader.Continues (session.step operation).2.reader := by
  have deeper := session.reader.inner_has
  cases operation with
  | enterNesting => exact absurd rfl noEntry
  | exitNesting => exact absurd rfl noExit
  | next => exact .refl session.reader
  | messages => exact .refl session.reader
  | errors => exact .refl session.reader
  | record failure => exact ⟨.record failure _, rfl, rfl⟩
  | advance => exact session.continues_answer _ forward_closed.advance
  | expect kind => exact session.continues_answer _ (forward_closed.expect kind)
  | expectOr kind failure => exact session.continues_answer _ (forward_closed.expectOr kind failure)
  | skipOptional kind => exact session.continues_answer _ (forward_closed.skipOptional kind)
  | statementsUntil closing =>
    exact session.continues_answer _ (forward_closed.statementsUntil deeper closing)
  | statement => exact session.continues_answer _ (forward_closed.statement deeper)
  | binding => exact session.continues_answer _ (forward_closed.binding deeper)
  | returning => exact session.continues_answer _ (forward_closed.returning deeper)
  | block => exact session.continues_answer _ deeper.block
  | expression power => exact session.continues_hold (deeper.expression power)
  | literal => exact session.continues_hold forward_closed.literal
  | unary => exact session.continues_hold (forward_closed.unary deeper)
  | grouping => exact session.continues_hold (forward_closed.grouping deeper)
  | conditional => exact session.continues_hold (forward_closed.conditional deeper)
  | function => exact session.continues_hold (forward_closed.function deeper)
  | binary power => exact session.continues_extend (forward_closed.binary deeper power)
  | call => exact session.continues_extend (forward_closed.call deeper)

theorem step_enterNesting (session : Session) :
    session.step .enterNesting =
      if session.reader.depth < session.reader.limit then
        (.truth true, { session with reader.depth := session.reader.depth + 1 })
      else
        (.failed ⟨.nestingTooDeep session.reader.limit, session.reader.position⟩, session) := by
  rw [step, Reader.enterNesting]
  by_cases room : session.reader.depth < session.reader.limit
  · rw [if_pos room, if_pos room]
  · rw [if_neg room, if_neg room]

/-- Every step moves forward. -/
theorem reaches_step (session : Session) (operation : Operation) :
    session.reader.state.Reaches (session.step operation).2.reader.state := by
  by_cases entry : operation = .enterNesting
  · subst entry
    rw [step_enterNesting]
    split
    · exact .refl session.reader.state
    · exact .refl session.reader.state
  · by_cases exit : operation = .exitNesting
    · subst exit
      exact .refl session.reader.state
    · exact (session.continues_step entry exit).state

/-- A session over a buffer stands in the buffer and keeps to its limit. -/
structure StandsWithin (buffer : List Token) (limit : Nat) (session : Session) : Prop where
  stands : session.reader.state.cursor.StandsIn buffer
  sameLimit : session.reader.limit = limit
  depth : session.reader.depth ≤ limit

theorem standsWithin_ofTokens (tokens : List Token) (file : String) (limit : Nat) :
    StandsWithin (withEnd tokens file) limit (ofTokens tokens file limit) :=
  ⟨Cursor.standsIn_ofTokens tokens file, rfl, Nat.zero_le limit⟩

theorem StandsWithin.step {buffer : List Token} {limit : Nat} {session : Session}
    (within : StandsWithin buffer limit session) (operation : Operation) :
    StandsWithin buffer limit (session.step operation).2 := by
  have stands : (session.step operation).2.reader.state.cursor.StandsIn buffer :=
    (session.reaches_step operation).standsIn within.stands
  by_cases entry : operation = .enterNesting
  · subst entry
    rw [step_enterNesting]
    split
    · next room =>
      rw [within.sameLimit] at room
      exact ⟨within.stands, within.sameLimit, room⟩
    · exact within
  · by_cases exit : operation = .exitNesting
    · subst exit
      exact ⟨stands, within.sameLimit, Nat.le_trans (Nat.sub_le _ 1) within.depth⟩
    · have continued := session.continues_step entry exit
      refine ⟨stands, continued.limit.trans within.sameLimit, ?_⟩
      rw [continued.depth]
      exact within.depth

/-- The answer of a refused operation is a failure, or that nothing was skipped. -/
def Answer.refuses : Answer → Bool
  | .failed _ | .truth false => true
  | _ => false

/-- These operations are refused when they do not find what they ask for. -/
def Operation.asks : Operation → Bool
  | .expect _ | .expectOr _ _ | .skipOptional _ | .enterNesting => true
  | _ => false

theorem answer_of_ok {session : Session} {rule : Nested → Rule α} {value : α} {state : State}
    (form : α → Answer) (read : rule session.reader.inner session.reader.state = .ok value state) :
    session.answer rule form = (form value, { session with reader.state := state }) := by
  rw [answer, Reader.perform_of_ok read]

theorem answer_of_error {session : Session} {rule : Nested → Rule α} {failure : Diagnostic}
    {state : State} (form : α → Answer)
    (failed : rule session.reader.inner session.reader.state = .error failure state) :
    session.answer rule form = (.failed failure, { session with reader.state := state }) := by
  rw [answer, Reader.perform_of_error failed]

/-- An expected token is either there or nothing changes. -/
theorem answer_expectOr (session : Session) (kind : Token.Kind) (failure : Diagnostic)
    (refused : (session.answer (fun _ => Rule.expectOr kind failure) .token).1.refuses) :
    (session.answer (fun _ => Rule.expectOr kind failure) .token).2 = session := by
  have outcome := expectOr_apply kind failure session.reader.state
  by_cases found : session.reader.state.current.kind = kind
  · rw [if_pos found] at outcome
    rw [answer_of_ok .token outcome] at refused
    cases refused
  · rw [if_neg found] at outcome
    rw [answer_of_error .token outcome]

/-- What is refused changes nothing. -/
theorem step_of_refuses {session : Session} {operation : Operation} (asks : operation.asks)
    (refused : (session.step operation).1.refuses) : (session.step operation).2 = session := by
  cases operation with
  | expect kind => exact session.answer_expectOr kind _ refused
  | expectOr kind failure => exact session.answer_expectOr kind failure refused
  | skipOptional kind =>
    have outcome := skipOptional_apply kind session.reader.state
    rw [Session.step] at refused ⊢
    by_cases found : session.reader.state.current.kind = kind
    · rw [if_pos found] at outcome
      rw [answer_of_ok .truth outcome] at refused
      cases refused
    · rw [if_neg found] at outcome
      rw [answer_of_ok .truth outcome]
  | enterNesting =>
    rw [step_enterNesting] at refused ⊢
    by_cases room : session.reader.depth < session.reader.limit
    · rw [if_pos room] at refused
      cases refused
    · rw [if_neg room]
  | _ => cases asks

/-- A call is a step for which the caller hands over the expression that a following rule may
extend. -/
abbrev Call : Type :=
  Option Expression × Operation

def call (session : Session) : Call → Answer × Session
  | (handed, operation) => { session with held := handed }.step operation

/-- The session that a sequence of calls leaves. -/
def after (session : Session) : List Call → Session
  | [] => session
  | call :: others => (session.call call).2.after others

theorem reaches_after (session : Session) (calls : List Call) :
    session.reader.state.Reaches (session.after calls).reader.state := by
  induction calls generalizing session with
  | nil => exact .refl session.reader.state
  | cons call others ih =>
    exact (reaches_step { session with held := call.1 } call.2).trans (ih (session.call call).2)

theorem StandsWithin.after {buffer : List Token} {limit : Nat} {session : Session}
    (within : StandsWithin buffer limit session) (calls : List Call) :
    StandsWithin buffer limit (session.after calls) := by
  induction calls generalizing session with
  | nil => exact within
  | cons call others ih =>
    have handed : StandsWithin buffer limit { session with held := call.1 } :=
      ⟨within.stands, within.sameLimit, within.depth⟩
    exact ih (handed.step call.2)

/-- What holds between a session and a later one over the same tokens. -/
structure Disciplined (buffer : List Token) (limit : Nat) (before now : Session) : Prop where
  ended : buffer.getLast?.map Token.kind = some .endOfInput
  inside : now.reader.state.cursor.index < buffer.length ∧
    buffer[now.reader.state.cursor.index]? = some now.reader.current
  onward : before.reader.state.cursor.index ≤ now.reader.state.cursor.index
  within : now.reader.depth ≤ limit
  added : before.reader.errors <+: now.reader.errors
  /-- A rule that is called leaves the depth as it found it, whether it reads something or fails. -/
  restored : ∀ handed operation, operation ≠ .enterNesting → operation ≠ .exitNesting →
    (now.call (handed, operation)).2.reader.depth = now.reader.depth
  /-- On the way the depth passes from part to part, also where a failed statement is skipped, and
  an expression and a block take a level. -/
  sequence : ∀ {α β : Type} (rule : Nested → Rule α) (next : Nested → α → Rule β),
    now.reader.perform (fun inner => rule inner >>= next inner) =
      match now.reader.perform rule with
      | (.ok value, after) => after.perform fun inner => next inner value
      | (.error failure, after) => (.error failure, after)
  recovery : ∀ (closing : Token.Kind) (rule : Nested → Rule Statement),
    now.reader.perform (fun inner => attempt closing (rule inner)) =
      match now.reader.perform rule with
      | (.ok tree, after) => (.ok (some tree), after)
      | (.error failure, after) =>
        (.ok none, { after with
          state := (after.state.record failure).resynchronize now.reader.state.cursor.index
            closing })
  expression : ∀ power, now.reader.perform (fun inner => inner.expression power) =
    now.reader.nest fun inner => Rule.expression inner power
  block : now.reader.perform Nested.block = now.reader.nest Rule.block
  /-- What is refused changes nothing. -/
  refused : ∀ operation, operation.asks → (now.step operation).1.refuses →
    (now.step operation).2 = now

/-- The tokens of `((x` are not closed, and they nest three levels deep. -/
def openTokens : List Token :=
  [⟨.openParen, "(", Span.ofBytes 0 1 "open"⟩, ⟨.openParen, "(", Span.ofBytes 1 2 "open"⟩,
    ⟨.identifier, "x", Span.ofBytes 2 3 "open"⟩]

end Session

end ScriptFrontend
