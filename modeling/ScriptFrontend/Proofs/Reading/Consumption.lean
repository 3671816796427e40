/-
This file shows which tokens a step takes and where the last of them stops.
-/

import ScriptFrontend.Proofs.Grammar.Derivation
import ScriptFrontend.Proofs.Reading.Progress

namespace ScriptFrontend

/-- The cursor has no end mark before the first one of the tokens. -/
theorem Cursor.beforeEnd_ofTokens (tokens : List Token) (file : String) :
    beforeEnd (Cursor.ofTokens tokens file).ahead = beforeEnd tokens := by
  unfold Cursor.ofTokens
  split
  · next nothing =>
    rw [List.getLast?_eq_none_iff.1 nothing]
  · next last found =>
    split
    · next ends =>
      obtain ⟨front, split⟩ := List.getLast?_eq_some_iff.1 found
      have stops : beforeEnd [last] = [] := by simp [beforeEnd, ends]
      rw [split, List.dropLast_concat, beforeEnd, beforeEnd, List.takeWhile_append]
      split
      · next all =>
        have whole := List.takeWhile_prefix (fun token : Token => decide (token.kind ≠ .endOfInput))
          |>.eq_of_length all
        rw [whole]
        change front = front ++ beforeEnd [last]
        rw [stops, List.append_nil]
      · rfl
    · rfl

namespace Rule

/-- The balance of a state counts the failures so far and the tokens that are still ahead. -/
def State.balance (state : State) : Nat :=
  state.errors.size + state.cursor.ahead.length

theorem State.balance_advance_lt {state : State} (present : state.current.kind ≠ .endOfInput) :
    state.advance.balance < state.balance :=
  Nat.add_lt_add_left (Cursor.length_ahead_advance_lt present) state.errors.size

/-- The tokens ahead in the first state are the tokens that were taken and those that are still
ahead. The used tokens are taken in their order, and they are all of them if nothing failed in
between. Every failure in between costs a token that is taken and not used. -/
structure Reads (before : State) (used : List Token) (after : State) : Prop where
  reaches : before.Reaches after
  taken : ∃ taken, before.cursor.ahead = taken ++ after.cursor.ahead ∧ used.Sublist taken ∧
    (after.errors = before.errors → used = taken)
  balance : used.length + after.balance ≤ before.balance

/-- The last token that was consumed is the last of the used ones. -/
def EndsAt (used : List Token) (state : State) : Prop :=
  ∃ last, used.getLast? = some last ∧ state.cursor.lastEnd = last.span.stop

namespace Reads

theorem refl (state : State) : Reads state [] state :=
  ⟨.refl state, ⟨[], rfl, .refl [], fun _ => rfl⟩, Nat.le_of_eq (Nat.zero_add _)⟩

theorem trans {first second third : State} {used others : List Token}
    (start : Reads first used second) (finish : Reads second others third) :
    Reads first (used ++ others) third := by
  obtain ⟨taken, ahead, sublist, all⟩ := start.taken
  obtain ⟨takenOthers, aheadOthers, sublistOthers, allOthers⟩ := finish.taken
  refine ⟨start.reaches.trans finish.reaches, ⟨taken ++ takenOthers, ?_,
    sublist.append sublistOthers, ?_⟩, ?_⟩
  · rw [ahead, aheadOthers, List.append_assoc]
  · intro same
    obtain ⟨firstSame, secondSame⟩ := start.reaches.errors_eq finish.reaches same
    rw [all firstSame, allOthers secondSame]
  · have before := start.balance
    have after := finish.balance
    rw [List.length_append]
    omega

theorem note (event : Event) (state : State) : Reads state [] (state.note event) :=
  ⟨.note event state, ⟨[], rfl, .refl [], fun _ => rfl⟩, Nat.le_of_eq (Nat.zero_add _)⟩

theorem advance {state : State} (present : state.current.kind ≠ .endOfInput) :
    Reads state [state.current] state.advance ∧
      state.advance.cursor.lastEnd = state.current.span.stop := by
  have unread := Cursor.ahead_ne_nil_of_kind present
  obtain ⟨token, rest, ahead⟩ := List.exists_cons_of_ne_nil unread
  have current : state.current = token := Cursor.current_of_cons ahead
  have advanced : state.advance.cursor.ahead = rest := by
    change state.cursor.advance.ahead = rest
    rw [Cursor.ahead_advance, ahead, List.tail_cons]
  constructor
  · have spent := State.balance_advance_lt present
    rw [current]
    refine ⟨.advance state, ⟨[token], ?_, .refl [token], fun _ => rfl⟩, ?_⟩
    · rw [ahead, advanced]
      rfl
    · rw [List.length_singleton]
      omega
  · change state.cursor.advance.lastEnd = _
    rw [Cursor.advance, ahead, current]

/-- A token of a known kind is no end mark. -/
theorem token {state : State} {kind : Token.Kind} (found : state.current.kind = kind)
    (present : kind ≠ .endOfInput) : Reads state [state.current] state.advance :=
  (advance (by rwa [found])).1

theorem dropped {before after : State} (reaches : before.Reaches after)
    (failed : after.errors ≠ before.errors) (balance : after.balance ≤ before.balance) :
    Reads before [] after := by
  obtain ⟨taken, ahead⟩ := reaches.taken
  refine ⟨reaches, ⟨taken, ahead, List.nil_sublist taken, fun same => absurd same failed⟩, ?_⟩
  rwa [List.length_nil, Nat.zero_add]

end Reads

namespace EndsAt

theorem append {used : List Token} {state : State} (others : List Token)
    (ends : EndsAt used state) : EndsAt (others ++ used) state := by
  obtain ⟨last, found, stop⟩ := ends
  exact ⟨last, by rw [List.getLast?_append, found]; rfl, stop⟩

theorem cons {used : List Token} {state : State} (token : Token) (ends : EndsAt used state) :
    EndsAt (token :: used) state :=
  ends.append [token]

theorem lastEnd_eq {first : Token} {others : List Token} {state : State}
    (ends : EndsAt (first :: others) state) : state.cursor.lastEnd = lastStop first others := by
  obtain ⟨last, found, stop⟩ := ends
  rw [List.getLast?_cons, Option.some.injEq] at found
  rw [stop, lastStop, ← found, List.getLastD_eq_getLast?]

end EndsAt

/-- A block ends at its closing brace. -/
theorem lastEnd_of_block {adjacency : Adjacency} {tree : Block} {used : List Token} {need : Nat}
    {after : State} (derived : Derives adjacency (.block tree) used need) (ends : EndsAt used after) :
    after.cursor.lastEnd = tree.span.stop := by
  cases derived with
  | @block trees opening closing tokens need opens closes part =>
    rw [ends.lastEnd_eq, lastStop, List.getLastD_concat]
    rfl

/-- The last consumed token is the closing brace of the last block. -/
theorem lastEnd_of_alternative {adjacency : Adjacency} {consequence : Block}
    {alternative : Option Block} {tokens others : List Token} {need otherNeed : Nat} {after : State}
    (consequencePart : Derives adjacency (.block consequence) tokens need)
    (alternativePart : Derives adjacency (.alternative alternative) others otherNeed)
    (ends : EndsAt (tokens ++ others) after) :
    after.cursor.lastEnd = (alternative.getD consequence).span.stop := by
  cases alternativePart with
  | noAlternative =>
    rw [List.append_nil] at ends
    exact lastEnd_of_block consequencePart ends
  | alternative keyword part =>
    obtain ⟨last, found, stop⟩ := ends
    apply lastEnd_of_block part
    refine ⟨last, ?_, stop⟩
    cases part with
    | block opens closes part =>
      rw [List.getLast?_append, List.getLast?_cons_cons] at found
      simpa using found

section Steps

variable {state after : State} {token : Token} {kind : Token.Kind}

/-- A token that is expected and read is the current one. -/
theorem current_of_expect (read : expect kind state = .ok token after) : token = state.current := by
  rw [expect_apply] at read
  split at read <;> cases read
  rfl

theorem reads_expectOr {failure : Diagnostic} (present : kind ≠ .endOfInput)
    (read : expectOr kind failure state = .ok token after) :
    token.kind = kind ∧ Reads state [token] after ∧ after.cursor.lastEnd = token.span.stop := by
  rw [expectOr_apply] at read
  split at read
  · next found =>
    cases read
    obtain ⟨reads, lastEnd⟩ : Reads state [state.current] state.advance ∧ _ :=
      Reads.advance (by rwa [found])
    exact ⟨found, reads, lastEnd⟩
  · cases read

theorem reads_expect (present : kind ≠ .endOfInput) (read : expect kind state = .ok token after) :
    token.kind = kind ∧ Reads state [token] after ∧ after.cursor.lastEnd = token.span.stop := by
  rw [expect, bind_apply, current_apply] at read
  exact reads_expectOr present read

theorem reads_skipOptional {found : Bool} (present : kind ≠ .endOfInput)
    (read : skipOptional kind state = .ok found after) :
    (found = true ∧ ∃ token : Token, token.kind = kind ∧ Reads state [token] after ∧
      after.cursor.lastEnd = token.span.stop) ∨ (found = false ∧ after = state) := by
  rw [skipOptional_apply] at read
  split at read
  · next same =>
    cases read
    obtain ⟨reads, lastEnd⟩ : Reads state [state.current] state.advance ∧ _ :=
      Reads.advance (by rwa [same])
    exact .inl ⟨rfl, state.current, same, reads, lastEnd⟩
  · cases read
    exact .inr ⟨rfl, rfl⟩

end Steps

end Rule

end ScriptFrontend
