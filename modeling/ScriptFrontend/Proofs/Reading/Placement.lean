/-
This file places a cursor in the tokens it was made from.
-/

import ScriptFrontend.Proofs.Reading.Consumption

namespace ScriptFrontend

/-- The tokens end with an end mark. Where they have none, one is added where the last token
stops. -/
def withEnd (tokens : List Token) (file : String) : List Token :=
  match tokens.getLast? with
  | none => [Token.endAt (Position.ofByte 0 file)]
  | some last =>
    if last.kind = .endOfInput then tokens else tokens ++ [Token.endAt last.span.stop]

namespace Cursor

/-- A cursor stands in a buffer when it has the rest of the buffer ahead from its index on. -/
def StandsIn (buffer : List Token) (cursor : Cursor) : Prop :=
  cursor.ahead ++ [cursor.endMark] = buffer.drop cursor.index

namespace StandsIn

variable {buffer : List Token} {cursor : Cursor}

theorem getElem?_index (stands : cursor.StandsIn buffer) :
    buffer[cursor.index]? = some cursor.current := by
  rw [← List.head?_drop, ← stands, current]
  cases cursor.ahead <;> rfl

theorem index_lt (stands : cursor.StandsIn buffer) : cursor.index < buffer.length :=
  (List.getElem?_eq_some_iff.1 stands.getElem?_index).1

theorem getLast? (stands : cursor.StandsIn buffer) : buffer.getLast? = some cursor.endMark := by
  have last : (buffer.drop cursor.index).getLast? = some cursor.endMark := by
    rw [← stands, List.getLast?_concat]
  rwa [List.getLast?_drop, if_neg (by have := stands.index_lt; omega)] at last

theorem advance (stands : cursor.StandsIn buffer) : cursor.advance.StandsIn buffer := by
  unfold StandsIn at stands ⊢
  unfold Cursor.advance
  split
  · exact stands
  · next token rest unread =>
    rw [unread] at stands
    dsimp only
    rw [← List.tail_drop, ← stands]
    rfl

theorem advanceBy (stands : cursor.StandsIn buffer) (count : Nat) :
    (cursor.advanceBy count).StandsIn buffer := by
  induction count generalizing cursor with
  | zero => exact stands
  | succ count ih => exact ih stands.advance

end StandsIn

theorem standsIn_ofTokens (tokens : List Token) (file : String) :
    (ofTokens tokens file).StandsIn (withEnd tokens file) := by
  unfold ofTokens withEnd
  cases found : tokens.getLast? with
  | none => rfl
  | some last =>
    dsimp only
    by_cases ends : last.kind = .endOfInput
    · rw [dif_pos ends, if_pos ends]
      obtain ⟨front, split⟩ := List.getLast?_eq_some_iff.1 found
      unfold StandsIn
      rw [split, List.dropLast_concat]
      rfl
    · rw [dif_neg ends, if_neg ends]
      rfl

/-- The index of the first end mark, where the reading has to end. -/
def endIndex (cursor : Cursor) : Nat :=
  cursor.index + (beforeEnd cursor.ahead).length

theorem endIndex_ofTokens (tokens : List Token) (file : String) :
    (ofTokens tokens file).endIndex = (beforeEnd tokens).length := by
  rw [endIndex, index_ofTokens, beforeEnd_ofTokens, Nat.zero_add]

theorem index_le_endIndex (cursor : Cursor) : cursor.index ≤ cursor.endIndex :=
  Nat.le_add_right _ _

/-- A token that is present is before the first end mark. -/
theorem index_lt_endIndex {cursor : Cursor} :
    cursor.index < cursor.endIndex ↔ cursor.current.kind ≠ .endOfInput := by
  unfold endIndex
  cases ahead : cursor.ahead with
  | nil =>
    rw [current_of_nil ahead]
    simp [beforeEnd, cursor.endMark_kind]
  | cons token rest =>
    rw [current_of_cons ahead]
    by_cases ends : token.kind = .endOfInput
    · simp [beforeEnd, ends]
    · simp [beforeEnd, ends]

theorem index_advance {cursor : Cursor} (unread : cursor.ahead ≠ []) :
    cursor.advance.index = cursor.index + 1 := by
  unfold advance
  split
  · next done => exact absurd done unread
  · rfl

theorem endIndex_advance {cursor : Cursor} (present : cursor.current.kind ≠ .endOfInput) :
    cursor.advance.endIndex = cursor.endIndex := by
  have unread := ahead_ne_nil_of_kind present
  obtain ⟨token, rest, ahead⟩ := List.exists_cons_of_ne_nil unread
  rw [current_of_cons ahead] at present
  rw [endIndex, endIndex, index_advance unread, ahead_advance, ahead, List.tail_cons, beforeEnd,
    beforeEnd, List.takeWhile_cons_of_pos (by simpa using present), List.length_cons]
  omega

/-- What is skipped up to an end mark at the latest leaves the first end mark where it is. -/
theorem endIndex_skipWhile {cursor : Cursor} {condition : Token → Bool}
    (stops : ∀ token, condition token = true → token.kind ≠ .endOfInput) :
    (cursor.skipWhile condition).endIndex = cursor.endIndex := by
  generalize length : cursor.ahead.length = count
  induction count generalizing cursor with
  | zero =>
    rw [skipWhile, List.length_eq_zero_iff.1 length]
    rfl
  | succ count ih =>
    by_cases holds : condition cursor.current = true
    · have unread : cursor.ahead ≠ [] := List.ne_nil_of_length_eq_add_one length
      have shorter : cursor.advance.ahead.length = count := by
        rw [ahead_advance, List.length_tail, length, Nat.add_sub_cancel]
      rw [skipWhile_of_holds unread holds, ih shorter, endIndex_advance (stops _ holds)]
    · rw [skipWhile_of_not (by simpa using holds)]

theorem index_le_skipWhile (cursor : Cursor) (condition : Token → Bool) :
    cursor.index ≤ (cursor.skipWhile condition).index := by
  have total := cursor.index_add_length_advanceBy (cursor.ahead.takeWhile condition).length
  rw [ahead_advanceBy, List.length_drop] at total
  rw [skipWhile]
  omega

/-- What is skipped up to an end mark at the latest ends before a token without the condition. -/
theorem current_skipWhile {cursor : Cursor} {condition : Token → Bool}
    (stops : ∀ token, condition token = true → token.kind ≠ .endOfInput) :
    condition (cursor.skipWhile condition).current = false := by
  have ahead := cursor.ahead_skipWhile condition
  cases holds : condition (cursor.skipWhile condition).current with
  | false => rfl
  | true =>
    obtain ⟨token, rest, unread⟩ :=
      List.exists_cons_of_ne_nil (ahead_ne_nil_of_kind (stops _ holds))
    have first := List.head?_dropWhile_not condition cursor.ahead
    rw [← ahead, unread] at first
    rw [current_of_cons unread] at holds
    simp [holds] at first

end Cursor

namespace Rule.State

theorem Reaches.index_le {before after : State} (reaches : before.Reaches after) :
    before.cursor.index ≤ after.cursor.index := by
  have shorter := reaches.length_le
  obtain ⟨count, moved⟩ := reaches.cursor
  have total := before.cursor.index_add_length_advanceBy count
  rw [← moved] at total
  omega

theorem Reaches.standsIn {buffer : List Token} {before after : State} (reaches : before.Reaches after)
    (stands : before.cursor.StandsIn buffer) : after.cursor.StandsIn buffer := by
  obtain ⟨count, moved⟩ := reaches.cursor
  rw [moved]
  exact stands.advanceBy count

theorem errors_skipToBoundary (closing : Token.Kind) (state : State) :
    (state.skipToBoundary closing).errors = state.errors := by
  unfold skipToBoundary
  dsimp only
  split <;> rfl

theorem errors_resynchronize (start : Nat) (closing : Token.Kind) (state : State) :
    (state.resynchronize start closing).errors = state.errors := by
  unfold resynchronize
  split
  · split
    · rfl
    · exact errors_skipToBoundary closing state.advance
  · exact errors_skipToBoundary closing state

theorem events_skipToBoundary (closing : Token.Kind) (state : State) :
    (state.skipToBoundary closing).events =
      state.events.push (.resynchronized (state.skipToBoundary closing).cursor.index
        (state.skipToBoundary closing).current) := by
  unfold skipToBoundary
  dsimp only
  split <;> rfl

/-- Only a semicolon on which nothing was consumed is dropped without a word. -/
theorem events_resynchronize (start : Nat) (closing : Token.Kind) (state : State) :
    (state.resynchronize start closing).events =
      if state.cursor.index = start ∧ state.current.kind = .semicolon then state.events
      else state.events.push (.resynchronized (state.resynchronize start closing).cursor.index
        (state.resynchronize start closing).current) := by
  unfold resynchronize
  by_cases stands : state.cursor.index = start
  · by_cases semicolon : state.current.kind = .semicolon
    · rw [if_pos stands, if_pos semicolon, if_pos ⟨stands, semicolon⟩]
      rfl
    · rw [if_pos stands, if_neg semicolon, if_neg fun both => semicolon both.2,
        events_skipToBoundary]
      rfl
  · rw [if_neg stands, if_neg fun both => stands both.1, events_skipToBoundary]

/-- The skipped tokens are before the end of the input. -/
theorem present_of_not_isBoundary {closing : Token.Kind} (token : Token)
    (inner : (!isBoundary closing token.kind) = true) : token.kind ≠ .endOfInput := by
  intro ended
  simp [isBoundary, ended] at inner

/-- Only a semicolon is a boundary that does not end the statements. -/
theorem endsStatements_of_isBoundary {closing kind : Token.Kind}
    (boundary : isBoundary closing kind = true) (other : kind ≠ .semicolon) :
    endsStatements closing kind := by
  simp only [isBoundary, Bool.or_eq_true, decide_eq_true_eq] at boundary
  obtain (ended | semicolon) | closes := boundary
  · exact .inl ended
  · exact absurd semicolon other
  · exact .inr closes

theorem endIndex_skipToBoundary (closing : Token.Kind) (state : State) :
    (state.skipToBoundary closing).cursor.endIndex = state.cursor.endIndex := by
  have found : (state.skipWhile fun token => !isBoundary closing token.kind).cursor.endIndex =
      state.cursor.endIndex := Cursor.endIndex_skipWhile present_of_not_isBoundary
  unfold skipToBoundary
  dsimp only
  split
  · next semicolon =>
    rw [← found]
    apply Cursor.endIndex_advance
    exact fun ended => Token.Kind.noConfusion (semicolon.symm.trans ended)
  · exact found

/-- What is skipped to a boundary that does not end the statements is at least one token. -/
theorem index_lt_skipToBoundary {closing : Token.Kind} {state : State}
    (goesOn : ¬ endsStatements closing (state.skipToBoundary closing).current.kind) :
    state.cursor.index < (state.skipToBoundary closing).cursor.index := by
  have onward := state.cursor.index_le_skipWhile fun token => !isBoundary closing token.kind
  have boundary : isBoundary closing
      (state.skipWhile fun token => !isBoundary closing token.kind).current.kind = true :=
    Bool.not_inj (Cursor.current_skipWhile present_of_not_isBoundary)
  revert goesOn
  unfold skipToBoundary
  dsimp only
  split
  · next semicolon =>
    intro goesOn
    have present : (state.skipWhile fun token => !isBoundary closing token.kind).current.kind ≠
        .endOfInput := by
      rw [semicolon]
      decide
    refine Nat.lt_of_le_of_lt onward (Nat.lt_of_lt_of_eq (Nat.lt_succ_self _) ?_)
    exact (Cursor.index_advance (Cursor.ahead_ne_nil_of_kind present)).symm
  · next other =>
    intro goesOn
    exact absurd (endsStatements_of_isBoundary boundary other) goesOn

section Resynchronized

variable {origin state : State} (present : origin.current.kind ≠ .endOfInput)
  (sameEnd : state.cursor.endIndex = origin.cursor.endIndex)
include present sameEnd

/-- A statement that failed at its first token failed at a token that is present. -/
theorem present_of_index_eq (same : state.cursor.index = origin.cursor.index) :
    state.current.kind ≠ .endOfInput := by
  apply Cursor.index_lt_endIndex.1
  rw [same, sameEnd]
  exact Cursor.index_lt_endIndex.2 present

theorem endIndex_resynchronize (closing : Token.Kind) :
    (state.resynchronize origin.cursor.index closing).cursor.endIndex =
      state.cursor.endIndex := by
  unfold resynchronize
  split
  · next same =>
    have advanced : state.advance.cursor.endIndex = state.cursor.endIndex :=
      Cursor.endIndex_advance (present_of_index_eq present sameEnd same)
    split
    · exact advanced
    · rw [endIndex_skipToBoundary, advanced]
  · exact endIndex_skipToBoundary closing state

/-- The token that a failure blames is left behind before the next statement begins. -/
theorem index_lt_resynchronize {closing : Token.Kind}
    (goesOn : ¬ endsStatements closing
      (state.resynchronize origin.cursor.index closing).current.kind) :
    state.cursor.index < (state.resynchronize origin.cursor.index closing).cursor.index := by
  revert goesOn
  unfold resynchronize
  split
  · next same =>
    have unread := Cursor.ahead_ne_nil_of_kind (present_of_index_eq present sameEnd same)
    have advanced : state.advance.cursor.index = state.cursor.index + 1 :=
      Cursor.index_advance unread
    split
    · intro goesOn
      rw [advanced]
      exact Nat.lt_succ_self _
    · intro goesOn
      have onward := index_lt_skipToBoundary goesOn
      omega
  · exact index_lt_skipToBoundary

end Resynchronized

end Rule.State

end ScriptFrontend
