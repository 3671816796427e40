/-
This file compares the reading of some tokens with the reading of the same tokens before others.
-/

import ScriptFrontend.Proofs.Grammar.Sealing
import ScriptFrontend.Proofs.Reading.Resumption

namespace ScriptFrontend

/-- A token of an inner kind neither ends a statement nor closes a block. -/
def Token.Kind.IsInner (kind : Token.Kind) : Prop :=
  kind ≠ .semicolon ∧ kind ≠ .closeCurly

instance (kind : Token.Kind) : Decidable kind.IsInner :=
  inferInstanceAs (Decidable (_ ∧ _))

namespace Rule

/-- The long state has the rest of a script behind the sealed tokens of the short state. -/
structure Aligned (rest : Cursor) (blocks : Nat) (short long : State) : Prop where
  index : long.cursor.index = short.cursor.index
  lastEnd : long.cursor.lastEnd = short.cursor.lastEnd
  ahead : long.cursor.ahead = short.cursor.ahead ++ rest.ahead
  endMark : long.cursor.endMark = rest.endMark
  errors : long.errors = short.errors
  sealing : Sealed blocks short.cursor.ahead

/-- Aligned states are inside the sealed tokens as long as some of these are ahead. -/
structure Inside (rest : Cursor) (blocks : Nat) (short long : State) : Prop
    extends Aligned rest blocks short long where
  unread : short.cursor.ahead ≠ []

/-- States that are inside face a token when it is the current one. -/
structure Facing (rest : Cursor) (blocks : Nat) (token : Token) (short long : State) : Prop
    extends Inside rest blocks short long where
  faces : short.current = token

/-- Only the cursors and the failures are compared. -/
theorem Aligned.of_cursor {rest : Cursor} {blocks : Nat} {short long shortToo longToo : State}
    (aligned : Aligned rest blocks short long) (same : shortToo.cursor = short.cursor)
    (sameToo : longToo.cursor = long.cursor) (errors : longToo.errors = shortToo.errors) :
    Aligned rest blocks shortToo longToo := by
  constructor
  · rw [same, sameToo, aligned.index]
  · rw [same, sameToo, aligned.lastEnd]
  · rw [same, sameToo, aligned.ahead]
  · rw [sameToo, aligned.endMark]
  · exact errors
  · rw [same]
    exact aligned.sealing

namespace Inside

variable {rest : Cursor} {blocks : Nat} {short long : State}
  (inside : Inside rest blocks short long)
include inside

theorem current : long.current = short.current := by
  obtain ⟨token, others, ahead⟩ := List.exists_cons_of_ne_nil inside.unread
  have aheadToo := inside.ahead
  rw [ahead] at aheadToo
  rw [State.current, State.current, Cursor.current_of_cons ahead, Cursor.current_of_cons aheadToo]

theorem sealing_cons : Sealed blocks (short.current :: short.advance.cursor.ahead) := by
  obtain ⟨token, others, ahead⟩ := List.exists_cons_of_ne_nil inside.unread
  have sealing := inside.sealing
  have advanced : short.advance.cursor.ahead = others := by
    change short.cursor.advance.ahead = others
    rw [Cursor.ahead_advance, ahead, List.tail_cons]
  rwa [State.current, Cursor.current_of_cons ahead, advanced, ← ahead]

theorem present : short.current.kind ≠ .endOfInput :=
  inside.sealing_cons.present _ List.mem_cons_self

theorem advance {inner : Nat} (sealing : Sealed inner short.advance.cursor.ahead) :
    Aligned rest inner short.advance long.advance := by
  obtain ⟨token, others, ahead⟩ := List.exists_cons_of_ne_nil inside.unread
  have aheadToo := inside.ahead
  rw [ahead, List.cons_append] at aheadToo
  constructor
  · simp [State.advance, Cursor.advance, ahead, aheadToo, inside.index]
  · simp [State.advance, Cursor.advance, ahead, aheadToo]
  · simp [State.advance, ahead, aheadToo]
  · simp [State.advance, inside.endMark]
  · exact inside.errors
  · exact sealing

/-- Behind a token that is no semicolon there are more sealed tokens. -/
theorem advance_inside {inner : Nat} (more : short.current.kind ≠ .semicolon)
    (sealing : Sealed inner short.advance.cursor.ahead) :
    Inside rest inner short.advance long.advance :=
  ⟨inside.advance sealing, inside.sealing_cons.others_ne_nil more⟩

theorem opens (found : short.current.kind = .openCurly) :
    Inside rest (blocks + 1) short.advance long.advance := by
  apply inside.advance_inside
  · rw [found]
    decide
  · exact inside.sealing_cons.opened found

theorem passes (inner : short.current.kind.IsInner) :
    Inside rest blocks short.advance long.advance :=
  inside.advance_inside inner.1 (inside.sealing_cons.passed inner.2)

theorem ends (found : short.current.kind = .semicolon) :
    Aligned rest blocks short.advance long.advance := by
  apply inside.advance
  apply inside.sealing_cons.passed
  rw [found]
  decide

/-- Outside all blocks a closing brace is skipped like any other token. -/
theorem skips (more : short.current.kind ≠ .semicolon)
    (closes : short.current.kind = .closeCurly → blocks = 0) :
    Inside rest blocks short.advance long.advance := by
  apply inside.advance_inside more
  by_cases found : short.current.kind = .closeCurly
  · have none := closes found
    subst none
    exact inside.sealing_cons.closed found
  · exact inside.sealing_cons.passed found

omit inside in
theorem outer (inside : Inside rest (blocks + 1) short long) : Inside rest blocks short long :=
  ⟨⟨inside.index, inside.lastEnd, inside.ahead, inside.endMark, inside.errors,
    inside.sealing.outer⟩, inside.unread⟩

omit inside in
theorem closes (inside : Inside rest (blocks + 1) short long)
    (found : short.current.kind = .closeCurly) :
    Inside rest blocks short.advance long.advance := by
  apply inside.advance_inside
  · rw [found]
    decide
  · exact inside.sealing_cons.closed found

end Inside

/-- The tokens that are skipped after a failure are sealed tokens, because a semicolon comes. -/
theorem Inside.skipWhile {rest : Cursor} {blocks : Nat} {short long : State}
    {condition : Token → Bool} (inside : Inside rest blocks short long)
    (skippable : ∀ token, condition token = true →
      token.kind ≠ .semicolon ∧ (token.kind = .closeCurly → blocks = 0)) :
    Inside rest blocks (short.skipWhile condition) (long.skipWhile condition) := by
  have same := inside.current
  have unread := inside.unread
  have unreadToo : long.cursor.ahead ≠ [] := by
    rw [inside.ahead]
    exact List.append_ne_nil_of_left_ne_nil unread _
  by_cases holds : condition short.current = true
  · have holdsToo : condition long.current = true := by rwa [same]
    -- The last sealed token is a semicolon, so another one is ahead of what is skipped here.
    obtain ⟨more, closes⟩ := skippable short.current holds
    have shorter := Cursor.length_ahead_advance_lt inside.present
    have skipped := (inside.skips more closes).skipWhile skippable
    unfold State.skipWhile
    rw [Cursor.skipWhile_of_holds unread holds, Cursor.skipWhile_of_holds unreadToo holdsToo]
    exact skipped
  · have stops : condition short.current = false := by simpa using holds
    have stopsToo : condition long.current = false := by rwa [same]
    unfold State.skipWhile
    rw [Cursor.skipWhile_of_not stops, Cursor.skipWhile_of_not stopsToo]
    exact inside
termination_by short.cursor.ahead.length

theorem Inside.skipToBoundary {rest : Cursor} {blocks : Nat} {short long : State}
    {closing : Token.Kind} (inside : Inside rest blocks short long)
    (outside : closing = .closeCurly ∨ blocks = 0) :
    Aligned rest blocks (short.skipToBoundary closing) (long.skipToBoundary closing) := by
  have found : Inside rest blocks
      (short.skipWhile fun token => !isBoundary closing token.kind)
      (long.skipWhile fun token => !isBoundary closing token.kind) := by
    apply inside.skipWhile
    intro token goesOn
    simp [isBoundary] at goesOn
    obtain ⟨⟨-, more⟩, other⟩ := goesOn
    refine ⟨more, ?_⟩
    intro closes
    obtain same | none := outside
    · exact absurd (closes.trans same.symm) other
    · exact none
  unfold State.skipToBoundary
  dsimp only
  rw [found.current]
  split
  · next semicolon =>
    have ended := found.ends semicolon
    exact ended.of_cursor rfl rfl ended.errors
  · exact found.toAligned.of_cursor rfl rfl found.errors

/-- A statement that failed at its first token did not fail at the end of its block. -/
theorem Inside.resynchronize {rest : Cursor} {blocks start : Nat} {short long : State}
    {closing : Token.Kind} (inside : Inside rest blocks short long)
    (outside : closing = .closeCurly ∨ blocks = 0)
    (goesOn : short.cursor.index = start → short.current.kind ≠ closing) :
    Aligned rest blocks (short.resynchronize start closing) (long.resynchronize start closing) := by
  unfold State.resynchronize
  rw [inside.index, inside.current]
  split
  · next stands =>
    by_cases semicolon : short.current.kind = .semicolon
    · rw [if_pos semicolon, if_pos semicolon]
      exact inside.ends semicolon
    · rw [if_neg semicolon, if_neg semicolon]
      have skipped : Inside rest blocks short.advance long.advance := by
        apply inside.skips semicolon
        intro closes
        obtain same | none := outside
        · exact absurd (closes.trans same.symm) (goesOn stands)
        · exact none
      exact skipped.skipToBoundary outside
  · exact inside.skipToBoundary outside

/-- In a block the sealed tokens do not run out. -/
theorem Aligned.inside {rest : Cursor} {blocks : Nat} {short long : State}
    (aligned : Aligned rest (blocks + 1) short long) : Inside rest (blocks + 1) short long :=
  ⟨aligned, aligned.sealing.ne_nil⟩

/-- A rule is isolated when it stays inside the sealed tokens and does the same whatever comes
behind them. -/
def Isolated (rest : Cursor) (blocks : Nat) (α : Type) (rule : Rule α) : Prop :=
  Carries (Inside rest blocks) (Inside rest blocks) (Inside rest blocks) rule

section Steps

variable {α : Type} {rest : Cursor} {blocks : Nat} {token : Token} {kind : Token.Kind}
  {after failed : State → State → Prop}

theorem Carries.facing {rule : Rule α} (carries : Carries (Inside rest blocks) after failed rule) :
    Carries (Facing rest blocks token) after failed rule := by
  intro short long facing
  exact carries short long facing.toInside

/-- The next steps may depend on the current token. -/
theorem Carries.look {next : Token → Rule α}
    (rest' : ∀ token, Carries (Facing rest blocks token) after failed (next token)) :
    Carries (Inside rest blocks) after failed (current >>= next) := by
  intro short long inside
  rw [bind_apply, bind_apply, current_apply, current_apply, inside.current]
  exact rest' short.current short long ⟨inside, rfl⟩

theorem carries_advance (inner : token.kind.IsInner) :
    Carries (Facing rest blocks token) (Inside rest blocks) failed advance := by
  intro short long facing
  refine ⟨facing.current.symm, facing.passes ?_⟩
  rwa [facing.faces]

theorem carries_note (event : Event) :
    Carries (Facing rest blocks token) (Facing rest blocks token) failed (note event) := by
  intro short long facing
  exact ⟨rfl, ⟨⟨facing.toAligned.of_cursor rfl rfl facing.errors, facing.unread⟩, facing.faces⟩⟩

theorem carries_lastEnd :
    Carries (Aligned rest blocks) (Aligned rest blocks) failed lastEnd := by
  intro short long aligned
  exact ⟨aligned.lastEnd.symm, aligned⟩

theorem isolated_lastEnd : Isolated rest blocks Position lastEnd := by
  intro short long inside
  exact ⟨inside.lastEnd.symm, inside⟩

theorem carries_expectOr {failure : Diagnostic}
    (taken : ∀ short long, Inside rest blocks short long → short.current.kind = kind →
      after short.advance long.advance)
    (missing : ∀ short long, Inside rest blocks short long → failed short long) :
    Carries (Inside rest blocks) after failed (expectOr kind failure) := by
  intro short long inside
  rw [expectOr_apply, expectOr_apply, inside.current]
  split
  · next found => exact ⟨rfl, taken short long inside found⟩
  · exact ⟨rfl, missing short long inside⟩

theorem carries_expect
    (taken : ∀ short long, Inside rest blocks short long → short.current.kind = kind →
      after short.advance long.advance)
    (missing : ∀ short long, Inside rest blocks short long → failed short long) :
    Carries (Inside rest blocks) after failed (expect kind) := by
  apply Carries.look
  intro token
  exact (carries_expectOr taken missing).facing

theorem isolated_expectOr {failure : Diagnostic} (inner : kind.IsInner) :
    Isolated rest blocks Token (expectOr kind failure) := by
  apply carries_expectOr
  · intro short long inside found
    apply inside.passes
    rwa [found]
  · intro short long inside
    exact inside

theorem isolated_expect (inner : kind.IsInner) : Isolated rest blocks Token (expect kind) := by
  apply Carries.look
  intro token
  exact Carries.facing (isolated_expectOr inner)

theorem carries_skipOptional
    (taken : ∀ short long, Inside rest blocks short long → short.current.kind = kind →
      after short.advance long.advance)
    (missing : ∀ short long, Inside rest blocks short long → after short long) :
    Carries (Inside rest blocks) after failed (skipOptional kind) := by
  intro short long inside
  rw [skipOptional_apply, skipOptional_apply, inside.current]
  split
  · next found => exact ⟨rfl, taken short long inside found⟩
  · exact ⟨rfl, missing short long inside⟩

theorem isolated_skipOptional (inner : kind.IsInner) :
    Isolated rest blocks Bool (skipOptional kind) := by
  apply carries_skipOptional
  · intro short long inside found
    apply inside.passes
    rwa [found]
  · intro short long inside
    exact inside

/-- The semicolon that ends a statement may be the last sealed token. -/
theorem carries_semicolon :
    Carries (Inside rest blocks) (Aligned rest blocks) failed (skipOptional .semicolon) := by
  apply carries_skipOptional
  · intro short long inside found
    exact inside.ends found
  · intro short long inside
    exact inside.toAligned

/-- A loop has at most as many rounds as it can use, so that the rest adds none. -/
theorem Carries.rounds {body : Nat → Rule α}
    (enough : ∀ (state : State) (rounds : Nat), state.cursor.ahead.length ≤ rounds →
      body state.cursor.ahead.length state = body rounds state)
    (each : ∀ rounds, Carries (Inside rest blocks) after failed (body rounds)) :
    Carries (Inside rest blocks) after failed (unread >>= body) := by
  intro short long inside
  have more : short.cursor.ahead.length ≤ long.cursor.ahead.length := by
    rw [inside.ahead, List.length_append]
    omega
  rw [bind_apply, bind_apply, unread_apply, unread_apply]
  dsimp only
  rw [enough short _ more]
  exact each _ short long inside

end Steps

end Rule

end ScriptFrontend
