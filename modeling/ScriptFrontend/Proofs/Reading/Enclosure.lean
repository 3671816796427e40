/-
This file shows that a block does not read beyond the partner of its opening brace.
-/

import ScriptFrontend.Proofs.Grammar.Covering
import ScriptFrontend.Proofs.Grammar.Soundness
import ScriptFrontend.Proofs.Reading.Guarding
import ScriptFrontend.Proofs.Reading.Placement

namespace ScriptFrontend

namespace Rule

/-- Between two states no closing brace is consumed but those whose partners are. -/
def State.Spares (before after : State) : Prop :=
  ∃ taken, before.cursor.ahead = taken ++ after.cursor.ahead ∧ Covered taken

namespace State.Spares

variable {state : State}

theorem refl (state : State) : state.Spares state :=
  ⟨[], rfl, .nil⟩

theorem trans {first second third : State} (start : first.Spares second)
    (finish : second.Spares third) : first.Spares third := by
  obtain ⟨taken, ahead, covered⟩ := start
  obtain ⟨more, aheadMore, coveredMore⟩ := finish
  exact ⟨taken ++ more, by rw [ahead, aheadMore, List.append_assoc], covered.append coveredMore⟩

theorem advance (other : state.current.kind ≠ .closeCurly) : state.Spares state.advance := by
  have advanced : state.advance.cursor.ahead = state.cursor.ahead.tail :=
    state.cursor.ahead_advance
  unfold Spares
  rw [advanced]
  cases ahead : state.cursor.ahead with
  | nil => exact ⟨[], rfl, .nil⟩
  | cons token others =>
    have first : state.current = token := Cursor.current_of_cons ahead
    refine ⟨[token], rfl, .of_absent ?_⟩
    rw [List.forall_mem_singleton, ← first]
    exact other

/-- In a block the skipped tokens are no closing braces. -/
theorem skipToBoundary (state : State) : state.Spares (state.skipToBoundary .closeCurly) := by
  have found : state.Spares (state.skipWhile fun token => !isBoundary .closeCurly token.kind) := by
    refine ⟨state.cursor.ahead.takeWhile fun token => !isBoundary .closeCurly token.kind, ?_, ?_⟩
    · rw [State.skipWhile, Cursor.ahead_skipWhile, List.takeWhile_append_dropWhile]
    · apply Covered.of_absent
      intro token member closes
      have skipped := List.all_eq_true.1 List.all_takeWhile token member
      simp [isBoundary, closes] at skipped
  unfold State.skipToBoundary
  dsimp only
  split
  · next semicolon => exact found.trans (advance (by rw [semicolon]; decide))
  · exact found

theorem resynchronize {start : Nat}
    (other : state.cursor.index = start → state.current.kind ≠ .closeCurly) :
    state.Spares (state.resynchronize start .closeCurly) := by
  unfold State.resynchronize
  split
  · next stands =>
    split
    · exact advance (other stands)
    · exact (advance (other stands)).trans (skipToBoundary _)
  · exact skipToBoundary state

end State.Spares

/-- No rule of the language begins with a closing brace, and a block consumes the partner of its
opening brace. -/
theorem spares_transition : Transition State.Spares where
  refl := .refl
  trans := .trans
  advance passable := .advance passable.2.2
  note _ := .refl
  survives := by
    intro origin state failure goesOn onward spares
    have recorded : origin.Spares (state.record failure) := spares
    apply recorded.trans
    apply State.Spares.resynchronize
    intro stands
    have same : state.cursor = origin.cursor := onward.cursor_eq_of_index stands
    change state.cursor.current.kind ≠ _
    rw [same]
    exact fun closes => goesOn (.inr closes)
  opens opens := .advance (by rw [opens]; decide)
  braces := by
    intro state last opens inside closes
    obtain ⟨opening, others, ahead⟩ := List.exists_cons_of_ne_nil
      (Cursor.ahead_ne_nil_of_kind (show state.current.kind ≠ .endOfInput by rw [opens]; decide))
    obtain ⟨closing, rest, aheadLast⟩ := List.exists_cons_of_ne_nil
      (Cursor.ahead_ne_nil_of_kind (show last.current.kind ≠ .endOfInput by rw [closes]; decide))
    have first : state.current = opening := Cursor.current_of_cons ahead
    obtain ⟨taken, aheadTaken, covered⟩ := inside
    rw [State.advance, Cursor.ahead_advance, ahead, List.tail_cons] at aheadTaken
    refine ⟨opening :: (taken ++ [closing]), ?_, covered.braces (by rw [← first, opens])⟩
    rw [ahead, aheadTaken, State.advance, Cursor.ahead_advance, aheadLast]
    simp

end Rule

section Blocks

variable {limit room : Nat} {state : Rule.State} {opening closing last : Token}
  {inside rest before behind : List Token}

/-- The statements in front of a closing brace without a partner end at this brace or at one before
it. -/
theorem Rule.exists_last_of_balances (ahead : state.cursor.ahead = inside ++ closing :: rest)
    (closes : closing.kind = .closeCurly) (balances : Balances 0 inside)
    (present : ∀ token ∈ inside, token.kind ≠ .endOfInput) :
    let final := (state.statementsUntil (Nested.within limit room) .closeCurly).2
    ∃ before last behind, inside ++ [closing] = before ++ last :: behind ∧
      last.kind = .closeCurly ∧ final.cursor.ahead = last :: (behind ++ rest) := by
  intro final
  have steady := Nested.steady_within limit room
  obtain ⟨before, split, covered⟩ : state.Spares final :=
    spares_transition.statementsUntil limit room spares_transition.survives state
  have ends : endsStatements .closeCurly final.current.kind :=
    (rounds_statementsUntil steady .closeCurly state).ends
  rw [ahead] at split
  obtain ⟨left, rfl, aheadLeft⟩ := covered.exists_left balances closes split
  obtain ⟨last, behind, same⟩ : ∃ last behind, left ++ [closing] = last :: behind :=
    List.exists_cons_of_ne_nil (List.append_ne_nil_of_right_ne_nil left (List.cons_ne_nil _ _))
  have aheadLast : final.cursor.ahead = last :: (behind ++ rest) := by
    rw [aheadLeft, ← List.cons_append, ← same, List.append_assoc]
    rfl
  have current : final.current = last := Cursor.current_of_cons aheadLast
  refine ⟨before, last, behind, by rw [List.append_assoc, same], ?_, aheadLast⟩
  rw [← current]
  refine ends.resolve_left fun ended => ?_
  have member : last ∈ left ++ [closing] := by
    rw [same]
    exact List.mem_cons_self
  rw [current] at ended
  obtain within | partner := List.mem_append.1 member
  · exact present last (List.mem_append_right before within) ended
  · rw [List.mem_singleton.1 partner, closes] at ended
    cases ended

/-- A block without failures is derived, so that the brackets in it match. -/
theorem Rule.exists_bracketed_of_block {inner : Nested} {tree : Block} {after : State}
    (sound : inner.Sound .free) (read : inner.block state = .ok tree after)
    (accepted : after.errors = state.errors) :
    ∃ taken, state.cursor.ahead = taken ++ after.cursor.ahead ∧ Bracketed taken := by
  obtain ⟨used, derived⟩ := sound.block .free read
  obtain ⟨taken, ahead, -, all⟩ := derived.reads.taken
  obtain ⟨need, derivation⟩ := derived.derives
  refine ⟨taken, ahead, ?_⟩
  rw [← all accepted]
  exact derivation.bracketed

/-- Where there is room for a block and its opening brace has a partner, the block is read, whatever
failures occur in it. It ends at a closing brace that does not come behind the partner, and without
failures it ends at the partner itself. -/
theorem Nested.block_of_balances
    (ahead : state.cursor.ahead = opening :: (inside ++ closing :: rest))
    (opens : opening.kind = .openCurly) (closes : closing.kind = .closeCurly)
    (balances : Balances 0 inside) (present : ∀ token ∈ inside, token.kind ≠ .endOfInput) :
    ∃ tree after before last behind,
      (Nested.within limit (room + 1)).block state = .ok tree after ∧
      inside ++ [closing] = before ++ last :: behind ∧ last.kind = .closeCurly ∧
      after.cursor.ahead = behind ++ rest ∧ (after.errors = state.errors → behind = []) := by
  have steady := Nested.steady_within limit room
  have first : state.current = opening := Cursor.current_of_cons ahead
  have advanced : state.advance.cursor.ahead = inside ++ closing :: rest := by
    rw [Rule.State.advance, Cursor.ahead_advance, ahead, List.tail_cons]
  obtain ⟨before, last, behind, split, closesLast, aheadLast⟩ :=
    @Rule.exists_last_of_balances limit room _ _ _ _ advanced closes balances present
  have read := Rule.block_apply (Nested.within limit room) state
  rw [if_pos (by rw [first, opens])] at read
  generalize state.advance.statementsUntil (Nested.within limit room) .closeCurly = looped
    at read aheadLast
  obtain ⟨statements, final⟩ := looped
  dsimp only at read aheadLast
  rw [if_pos (by rw [Rule.State.current, Cursor.current_of_cons aheadLast, closesLast])] at read
  have after : final.advance.cursor.ahead = behind ++ rest := by
    rw [Rule.State.advance, Cursor.ahead_advance, aheadLast, List.tail_cons]
  refine ⟨_, final.advance, before, last, behind, read, split, closesLast, after, ?_⟩
  intro accepted
  obtain ⟨taken, aheadTaken, bracketed⟩ :=
    Rule.exists_bracketed_of_block (Nested.sound_within .free limit (room + 1)) read accepted
  have whole : inside ++ closing :: rest = before ++ [last] ++ (behind ++ rest) := by
    rw [← List.singleton_append, ← List.append_assoc, split]
    simp
  have joined : taken ++ (behind ++ rest) = opening :: (before ++ [last]) ++ (behind ++ rest) := by
    rw [← after, ← aheadTaken, ahead, whole, after]
    rfl
  have consumed : taken = opening :: (before ++ [last]) := List.append_cancel_right joined
  rw [consumed] at bracketed
  exact balances.behind_eq_nil split opens closesLast bracketed

/-- A failed statement is skipped up to the first closing brace, which may be that of a block inside
of it. The rest of the body is left behind the block here. -/
example :
    let tokens := tokenize "\x7b (\x7b x \x7d); y \x7d" defaultFile
    (Rule.final (Nested.within 64 64).block (.ofTokens tokens defaultFile)).cursor.ahead.map
      Token.kind = [.closeParen, .semicolon, .identifier, .closeCurly] := by
  decide +kernel

end Blocks

end ScriptFrontend
