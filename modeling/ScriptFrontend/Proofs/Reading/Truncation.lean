/-
This file shows that a reading depends only on the tokens up to the first end mark.
-/

import ScriptFrontend.Proofs.Reading.Cutoff
import ScriptFrontend.Proofs.Reading.Logging
import ScriptFrontend.Proofs.Reading.Rounds

namespace ScriptFrontend

/-- The first end mark among the tokens, and another one if there is none. -/
def firstEndOr (other : Token) (tokens : List Token) : Token :=
  (tokens.find? fun token => token.kind = .endOfInput).getD other

theorem firstEndOr_kind {other : Token} (ends : other.kind = .endOfInput) (tokens : List Token) :
    (firstEndOr other tokens).kind = .endOfInput := by
  unfold firstEndOr
  cases found : tokens.find? fun token => token.kind = .endOfInput with
  | none => exact ends
  | some ending => simpa using List.find?_some found

/-- The first end mark of a buffer. Where there is none, it stands where the last token stops. -/
def firstEnd (tokens : List Token) (file : String) : Token :=
  let stop := (tokens.getLast?.map fun last => last.span.stop).getD (Position.ofByte 0 file)
  firstEndOr (Token.endAt stop) tokens

theorem firstEnd_kind (tokens : List Token) (file : String) :
    (firstEnd tokens file).kind = .endOfInput :=
  firstEndOr_kind rfl tokens

/-- The tokens of a buffer up to the first end mark. -/
def throughEnd (tokens : List Token) (file : String) : List Token :=
  beforeEnd tokens ++ [firstEnd tokens file]

namespace Cursor

/-- The first end mark that the cursor has ahead. -/
def ending (cursor : Cursor) : Token :=
  firstEndOr cursor.endMark cursor.ahead

/-- The same cursor over the tokens up to the first end mark. -/
def cut (cursor : Cursor) : Cursor :=
  { cursor with
    ahead := beforeEnd cursor.ahead
    endMark := cursor.ending
    endMark_kind := firstEndOr_kind cursor.endMark_kind cursor.ahead }

theorem ahead_cut_cons {cursor : Cursor} {token : Token} {rest : List Token}
    (ahead : cursor.ahead = token :: rest) (present : token.kind ≠ .endOfInput) :
    cursor.cut.ahead = token :: beforeEnd rest := by
  change beforeEnd cursor.ahead = _
  rw [ahead, beforeEnd, List.takeWhile_cons_of_pos (by simpa using present), beforeEnd]

theorem current_cut (cursor : Cursor) : cursor.cut.current = cursor.current := by
  cases ahead : cursor.ahead with
  | nil => simp [current, cut, ending, firstEndOr, beforeEnd, ahead]
  | cons token rest =>
    by_cases ended : token.kind = .endOfInput
    · simp [current, cut, ending, firstEndOr, beforeEnd, ahead, ended]
    · rw [current_of_cons (ahead_cut_cons ahead ended), current_of_cons ahead]

theorem advance_cut {cursor : Cursor} (present : cursor.current.kind ≠ .endOfInput) :
    cursor.cut.advance = cursor.advance.cut := by
  obtain ⟨token, rest, ahead⟩ := List.exists_cons_of_ne_nil (ahead_ne_nil_of_kind present)
  rw [current_of_cons ahead] at present
  have sameEnd : firstEndOr cursor.endMark rest = cursor.ending := by
    rw [ending, ahead, firstEndOr, firstEndOr, List.find?_cons_of_neg (by simpa using present)]
  unfold advance
  rw [ahead_cut_cons ahead present, ahead]
  simp only [cut, ending, sameEnd]

theorem length_ahead_cut_le (cursor : Cursor) :
    cursor.cut.ahead.length ≤ cursor.ahead.length :=
  (List.takeWhile_prefix _).length_le

/-- What is skipped is before the end of the input. -/
theorem skipWhile_cut {cursor : Cursor} {condition : Token → Bool}
    (stops : ∀ token, condition token = true → token.kind ≠ .endOfInput) :
    cursor.cut.skipWhile condition = (cursor.skipWhile condition).cut := by
  generalize length : cursor.ahead.length = count
  induction count generalizing cursor with
  | zero =>
    have done := List.length_eq_zero_iff.1 length
    have doneToo : cursor.cut.ahead = [] := by simp [cut, beforeEnd, done]
    rw [skipWhile, skipWhile, done, doneToo]
    rfl
  | succ count ih =>
    by_cases holds : condition cursor.current = true
    · have present := stops _ holds
      have shorter : cursor.advance.ahead.length = count := by
        rw [ahead_advance, List.length_tail, length, Nat.add_sub_cancel]
      have holdsToo : condition cursor.cut.current = true := by rwa [current_cut]
      have presentToo : cursor.cut.current.kind ≠ .endOfInput := stops _ holdsToo
      rw [skipWhile_of_holds (ahead_ne_nil_of_kind presentToo) holdsToo,
        skipWhile_of_holds (ahead_ne_nil_of_kind present) holds, advance_cut present, ih shorter]
    · have other : condition cursor.current = false := by simpa using holds
      have otherToo : condition cursor.cut.current = false := by rwa [current_cut]
      rw [skipWhile_of_not otherToo, skipWhile_of_not other]

end Cursor

namespace Rule

/-- The same state over the tokens up to the first end mark. -/
def State.cut (state : State) : State :=
  { state with cursor := state.cursor.cut }

namespace State

theorem current_cut (state : State) : state.cut.current = state.current :=
  state.cursor.current_cut

theorem advance_cut {state : State} (present : state.current.kind ≠ .endOfInput) :
    state.cut.advance = state.advance.cut := by
  rw [advance, cut, Cursor.advance_cut present]
  rfl

theorem skipToBoundary_cut (closing : Token.Kind) (state : State) :
    state.cut.skipToBoundary closing = (state.skipToBoundary closing).cut := by
  have found : (state.cut.skipWhile fun token => !isBoundary closing token.kind) =
      (state.skipWhile fun token => !isBoundary closing token.kind).cut := by
    rw [skipWhile, cut, Cursor.skipWhile_cut present_of_not_isBoundary]
    rfl
  unfold skipToBoundary
  dsimp only
  rw [found, current_cut]
  split
  · next semicolon =>
    have present : (state.skipWhile fun token => !isBoundary closing token.kind).current.kind ≠
        .endOfInput := by
      rw [semicolon]
      decide
    rw [advance_cut present, current_cut]
    rfl
  · rw [current_cut]
    rfl

/-- A failure at the first token of a statement is a failure before the end of the input. -/
theorem resynchronize_cut {start : Nat} (closing : Token.Kind) {state : State}
    (present : state.cursor.index = start → state.current.kind ≠ .endOfInput) :
    state.cut.resynchronize start closing = (state.resynchronize start closing).cut := by
  have same : state.cut.cursor.index = state.cursor.index := rfl
  unfold resynchronize
  rw [same, current_cut]
  split
  · next stands =>
    rw [advance_cut (present stands)]
    split
    · rfl
    · exact skipToBoundary_cut closing state.advance
  · exact skipToBoundary_cut closing state

end State

/-- The same outcome over the tokens up to the first end mark. -/
def cutOutcome {α : Type} : Outcome α → Outcome α
  | .ok value after => .ok value after.cut
  | .error failure after => .error failure after.cut

/-- A rule looks no further than the first end mark when cutting the tokens there changes nothing. -/
def Shortsighted : Property := fun _ state rule =>
  rule state.cut = cutOutcome (rule state)

theorem shortsighted_bind {α β : Type} {rule : Rule α} {next : α → Rule β} {state : State}
    (first : Shortsighted α state rule) (rest : ∀ value after, Shortsighted β after (next value)) :
    Shortsighted β state (rule >>= next) := by
  unfold Shortsighted at first
  rw [Shortsighted, bind_apply, bind_apply, first]
  cases rule state with
  | ok value after => exact rest value after
  | error failure after => rfl

theorem shortsighted_expect {kind : Token.Kind} (some : kind ≠ .endOfInput) (state : State) :
    Shortsighted Token state (expect kind) := by
  rw [Shortsighted, expect_apply, expect_apply, State.current_cut]
  split
  · next found =>
    rw [State.advance_cut (by rwa [found])]
    rfl
  · rfl

theorem shortsighted_resumes (closing : Token.Kind) : Property.Resumes Shortsighted closing := by
  intro rule state forward goesOn first
  unfold Shortsighted at first
  rw [Shortsighted, attempt, attempt, first]
  cases outcome : rule state with
  | ok tree after => rfl
  | error failure after =>
    have present : (after.record failure).cursor.index = state.cursor.index →
        (after.record failure).current.kind ≠ .endOfInput := by
      intro stands
      have same : after.cursor = state.cursor :=
        (forward.of_error outcome).cursor_eq_of_index stands
      change after.cursor.current.kind ≠ _
      rw [same]
      exact fun ended => goesOn (.inl ended)
    exact congrArg (EStateM.Result.ok none) (State.resynchronize_cut closing present)

theorem shortsighted_guarded : Guarded Shortsighted where
  pure _ _ := rfl
  throw _ _ := rfl
  bind := shortsighted_bind
  look := by
    intro α next state rest
    unfold Shortsighted at rest ⊢
    rw [bind_apply, bind_apply, current_apply, current_apply, State.current_cut]
    exact rest
  lastEnd _ := rfl
  advance := by
    intro state passable
    rw [Shortsighted, advance_apply, advance_apply, State.current_cut,
      State.advance_cut passable.1]
    rfl
  note rest := rest
  rounds := by
    intro α body enough each state
    have fewer := state.cursor.length_ahead_cut_le
    rw [Shortsighted, bind_apply, bind_apply, unread_apply, unread_apply]
    dsimp only
    rw [enough state.cut _ fewer]
    exact each _ state
  resumes := shortsighted_resumes .closeCurly
  block := by
    intro inner each state
    apply shortsighted_bind (shortsighted_expect (by decide) state)
    intro opening state
    apply shortsighted_bind (each state)
    intro statements state
    apply shortsighted_bind (shortsighted_expect (by decide) state)
    exact fun _ _ => rfl

theorem State.statementsUntil_cut (limit room : Nat) (closing : Token.Kind) (state : State) :
    state.cut.statementsUntil (Nested.within limit room) closing =
      ((state.statementsUntil (Nested.within limit room) closing).1,
        (state.statementsUntil (Nested.within limit room) closing).2.cut) := by
  have same := shortsighted_guarded.statementsUntil (shortsighted_guarded.within limit room)
    (Nested.steady_within limit room) (shortsighted_resumes closing) state
  obtain ⟨statements, final⟩ := EStateM.Result.ok.inj same
  exact Prod.ext statements final

end Rule

theorem Cursor.ending_ofTokens (tokens : List Token) (file : String) :
    (ofTokens tokens file).ending = firstEnd tokens file := by
  unfold ofTokens firstEnd
  cases found : tokens.getLast? with
  | none =>
    rw [List.getLast?_eq_none_iff.1 found]
    rfl
  | some last =>
    dsimp only
    by_cases ends : last.kind = .endOfInput
    · obtain ⟨front, rfl⟩ := List.getLast?_eq_some_iff.1 found
      rw [dif_pos ends, ending, firstEndOr, firstEndOr, List.dropLast_concat, List.find?_append,
        List.find?_cons_of_pos (by simpa using ends)]
      cases front.find? fun token => token.kind = .endOfInput <;> rfl
    · rw [dif_neg ends]
      rfl

/-- Cutting the tokens of a buffer and making a cursor over them go together. -/
theorem Cursor.cut_ofTokens (tokens : List Token) (file : String) :
    (ofTokens tokens file).cut = ofTokens (throughEnd tokens file) file := by
  rw [throughEnd, ofTokens_concat _ file (firstEnd_kind tokens file)]
  simp only [cut, index_ofTokens, lastEnd_ofTokens, beforeEnd_ofTokens, ending_ofTokens]

theorem Rule.State.cut_ofTokens (tokens : List Token) (file : String) :
    (ofTokens tokens file).cut = ofTokens (throughEnd tokens file) file := by
  rw [ofTokens, cut, Cursor.cut_ofTokens]
  rfl

theorem Rule.State.statementsUntil_throughEnd (tokens : List Token) (file : String)
    (limit room : Nat) (closing : Token.Kind) :
    (ofTokens (throughEnd tokens file) file).statementsUntil (.within limit room) closing =
      (((ofTokens tokens file).statementsUntil (.within limit room) closing).1,
        ((ofTokens tokens file).statementsUntil (.within limit room) closing).2.cut) := by
  rw [← cut_ofTokens, statementsUntil_cut]

/-- At the end of the input the cut cursor has nothing ahead. -/
theorem Cursor.current_of_endOfInput {cursor : Cursor} (ended : cursor.current.kind = .endOfInput) :
    cursor.current = cursor.cut.endMark := by
  have done : cursor.cut.ahead = [] := by
    cases ahead : cursor.cut.ahead with
    | nil => rfl
    | cons token rest =>
      have present := List.all_eq_true.1 (List.all_takeWhile (l := cursor.ahead)) token
        (show token ∈ cursor.cut.ahead by rw [ahead]; exact List.mem_cons_self)
      rw [← current_cut, current_of_cons ahead] at ended
      simp [ended] at present
  rw [← current_cut, current_of_nil done]

/-- A reading ends at the first end mark. -/
theorem current_statementsUntil (tokens : List Token) (file : String) (limit room : Nat) :
    ((Rule.State.ofTokens tokens file).statementsUntil (.within limit room) .endOfInput).2.current =
      firstEnd tokens file := by
  let begun := Rule.State.ofTokens (throughEnd tokens file) file
  let final := ((Rule.State.ofTokens tokens file).statementsUntil (.within limit room)
    .endOfInput).2
  have ended : final.current.kind = .endOfInput :=
    (Rule.rounds_statementsUntil (Nested.steady_within limit room) _ _).ends.elim id id
  have reaches : begun.Reaches final.cut := by
    have onward : begun.Reaches (begun.statementsUntil (.within limit room) .endOfInput).2 :=
      Rule.forward_closed.statementsUntil (Rule.forward_closed.within limit room) .endOfInput begun
    rwa [Rule.State.statementsUntil_throughEnd] at onward
  obtain ⟨count, moved⟩ := reaches.cursor
  change final.cursor.current = _
  rw [Cursor.current_of_endOfInput ended]
  change final.cut.cursor.endMark = _
  rw [moved, Cursor.endMark_advanceBy]
  change (Cursor.ofTokens (throughEnd tokens file) file).endMark = _
  rw [throughEnd, Cursor.ofTokens_concat _ file (firstEnd_kind tokens file)]

/-- What it means that a reading goes no further than the first end mark of its tokens. -/
structure EndsAtFirstEnd (tokens : List Token) (file : String) (limit : Nat)
    (reading : Reading) (final : Rule.State) : Prop where
  program : reading.program = (readTokens (throughEnd tokens file) file limit).program
  errors : reading.errors = (readTokens (throughEnd tokens file) file limit).errors
  current : final.current = firstEnd tokens file
  index : final.cursor.index = (beforeEnd tokens).length
  /-- No state from which the reading comes to its end is behind the first end mark. -/
  onward : ∀ state : Rule.State, state.Reaches final → state.cursor.index ≤ (beforeEnd tokens).length
  /-- After a failure the reading goes on at a token before the first end mark or at this mark. -/
  logged : ∀ index token, Event.resynchronized index token ∈ reading.events →
    (throughEnd tokens file)[index]? = some token
  stop : reading.program.span.stop = (firstEnd tokens file).span.stop

/-- Tokens behind the first end mark change nothing, because no reading passes this mark. -/
theorem readTokens_endsAtFirstEnd (tokens : List Token) (file : String) (limit : Nat) :
    EndsAtFirstEnd tokens file limit (readTokens tokens file limit)
      ((Rule.State.ofTokens tokens file).statementsUntil (.within limit limit) .endOfInput).2 := by
  let begun := Rule.State.ofTokens (throughEnd tokens file) file
  let final := ((Rule.State.ofTokens tokens file).statementsUntil (.within limit limit)
    .endOfInput).2
  have same := Rule.State.statementsUntil_throughEnd tokens file limit limit .endOfInput
  have current : final.current = firstEnd tokens file :=
    current_statementsUntil tokens file limit limit
  have index : final.cursor.index = (beforeEnd tokens).length := by
    have sameEnd : final.cursor.endIndex = (beforeEnd tokens).length :=
      (Rule.endIndex_invariant _).statementsUntil limit limit .endOfInput
        (Cursor.endIndex_ofTokens tokens file)
    have there : ¬ final.cursor.index < final.cursor.endIndex := fun before =>
      Cursor.index_lt_endIndex.1 before (by
        change final.current.kind = _
        rw [current, firstEnd_kind])
    have bound := final.cursor.index_le_endIndex
    omega
  have logs : final.cut.LogsIn (throughEnd tokens file) := by
    have fresh : begun.LogsIn (throughEnd tokens file) := by
      refine ⟨?_, nofun⟩
      change (Cursor.ofTokens (throughEnd tokens file) file).StandsIn _
      rw [throughEnd, Cursor.ofTokens_concat _ file (firstEnd_kind tokens file)]
      rfl
    have ended := fresh.statementsUntil limit limit .endOfInput
    rwa [same] at ended
  constructor
  · simp only [readTokens, same, Rule.State.current_cut]
  · simp only [readTokens, same]
    rfl
  · exact current
  · exact index
  · intro state reaches
    rw [← index]
    exact reaches.index_le
  · intro place token member
    have noted : Event.resynchronized place token ∈ final.events := by
      simpa [readTokens] using member
    exact logs.logged place token (Array.mem_toList_iff.2 noted)
  · exact congrArg (fun token => token.span.stop) current

end ScriptFrontend
