/-
This file compares readings of all the scripts whose tokens have the same kinds.
-/

import ScriptFrontend.Proofs.Reading.Placement
import ScriptFrontend.Proofs.Tree.Plan

namespace ScriptFrontend

/-- The mark of a token is what the rules may look at, and only an integer shows them its text. -/
structure Token.Mark where
  kind : Token.Kind
  digits : String
  deriving DecidableEq

def Token.mark (token : Token) : Token.Mark :=
  ⟨token.kind, if token.kind = .integer then token.text else ""⟩

/-- A marking gives every token its mark, and an end mark is the last one. -/
structure Marking (size : Nat) where
  mark : Fin (size + 1) → Token.Mark
  ended : (mark (Fin.last size)).kind = .endOfInput

/-- The tokens that fill a marking have its marks. -/
structure Marking.Filling {size : Nat} (marking : Marking size) where
  token : Fin (size + 1) → Token
  agrees : ∀ index, (token index).mark = marking.mark index

/-- What all fillings have in common while they are read. -/
structure Progress (size : Nat) where
  index : Fin (size + 1)
  errors : List (Diagnostic.Plan (size + 1))

variable {size : Nat} {marking : Marking size}

namespace Marking

@[simp] theorem Filling.kind_token (filling : marking.Filling) (index : Fin (size + 1)) :
    (filling.token index).kind = (marking.mark index).kind :=
  congrArg Token.Mark.kind (filling.agrees index)

theorem Filling.text_token (filling : marking.Filling) {index : Fin (size + 1)}
    (integer : (marking.mark index).kind = .integer) :
    (filling.token index).text = (marking.mark index).digits := by
  rw [← filling.agrees index, Token.mark]
  exact (if_pos (by rw [filling.kind_token, integer])).symm

/-- An index with any other mark than the end mark is not the last one. -/
theorem index_lt (marking : Marking size) {index : Fin (size + 1)}
    (present : (marking.mark index).kind ≠ .endOfInput) : index.val < size := by
  refine Nat.lt_of_le_of_ne (Nat.le_of_lt_succ index.isLt) fun last => present ?_
  have same : index = Fin.last size := Fin.ext last
  rw [same]
  exact marking.ended

/-- The marks before the last one, from an index on. -/
def ahead (marking : Marking size) (index : Fin (size + 1)) : List Token.Mark :=
  ((List.ofFn marking.mark).drop index).dropLast

end Marking

namespace Progress

def record (failure : Diagnostic.Plan (size + 1)) (progress : Progress size) : Progress size :=
  { progress with errors := progress.errors ++ [failure] }

/-- The end mark is not left behind. -/
def advance (progress : Progress size) : Progress size :=
  if more : progress.index.val < size then
    { progress with index := ⟨progress.index.val + 1, Nat.succ_lt_succ more⟩ }
  else progress

def advanceBy : Nat → Progress size → Progress size
  | 0, progress => progress
  | count + 1, progress => progress.advance.advanceBy count

theorem index_advance {progress : Progress size} (more : progress.index.val < size) :
    progress.advance.index.val = progress.index.val + 1 := by
  rw [advance, dif_pos more]

theorem index_le_advance (progress : Progress size) : progress.index ≤ progress.advance.index := by
  by_cases more : progress.index.val < size
  · rw [Fin.le_def, index_advance more]
    exact Nat.le_succ _
  · have stays : progress.advance = progress := dif_neg more
    exact Fin.le_of_eq (congrArg Progress.index stays.symm)

theorem index_le_advanceBy (count : Nat) (progress : Progress size) :
    progress.index ≤ (progress.advanceBy count).index := by
  induction count generalizing progress with
  | zero => exact Fin.le_refl _
  | succ count ih => exact Fin.le_trans progress.index_le_advance (ih progress.advance)

end Progress

namespace Rule

/-- A state is at a progress of some tokens when it reads them there. Where the last token stops is
known as soon as one is consumed. -/
structure State.IsAt (state : State) (filling : marking.Filling) (progress : Progress size) :
    Prop where
  stands : state.cursor.StandsIn (List.ofFn filling.token)
  index : state.cursor.index = progress.index
  lastEnd : ∀ last : Fin (size + 1), last.val + 1 = progress.index →
    state.cursor.lastEnd = (filling.token last).span.stop
  errors : state.errors.toList = progress.errors.map fun part => part.fill filling.token

namespace State.IsAt

variable {state : State} {filling : marking.Filling} {progress : Progress size}
  (here : state.IsAt filling progress)
include here

theorem current : state.current = filling.token progress.index := by
  have found := here.stands.getElem?_index
  rw [here.index, List.getElem?_ofFn, dif_pos progress.index.isLt] at found
  exact (Option.some.inj found).symm

theorem length_ahead : state.cursor.ahead.length = size - progress.index := by
  have length := congrArg List.length here.stands
  rw [List.length_append, List.length_drop, List.length_ofFn, List.length_singleton,
    here.index] at length
  omega

theorem map_mark_ahead : state.cursor.ahead.map Token.mark = marking.ahead progress.index := by
  have marks : (List.ofFn filling.token).map Token.mark = List.ofFn marking.mark := by
    rw [List.map_ofFn]
    exact congrArg List.ofFn (funext filling.agrees)
  have whole := congrArg (List.map Token.mark) here.stands
  rw [List.map_drop, marks, here.index, List.map_append] at whole
  rw [Marking.ahead, ← whole]
  exact List.dropLast_concat.symm

theorem advance : state.advance.IsAt filling progress.advance := by
  have length := here.length_ahead
  by_cases more : progress.index.val < size
  · have unread : state.cursor.ahead ≠ [] := List.ne_nil_of_length_pos (by omega)
    have next := Progress.index_advance more
    obtain ⟨token, rest, ahead⟩ := List.exists_cons_of_ne_nil unread
    refine ⟨here.stands.advance, ?_, ?_, ?_⟩
    · rw [next, ← here.index]
      exact Cursor.index_advance unread
    · intro last before
      have same : last = progress.index := Fin.ext (by omega)
      have first : token = filling.token progress.index := by
        rw [← here.current, State.current, Cursor.current_of_cons ahead]
      rw [same, ← first]
      simp [State.advance, Cursor.advance, ahead]
    · rw [Progress.advance, dif_pos more]
      exact here.errors
  · have done : state.cursor.ahead = [] := List.length_eq_zero_iff.1 (by omega)
    have stays : state.advance = state := by simp [State.advance, Cursor.advance, done]
    rwa [stays, Progress.advance, dif_neg more]

omit here in
theorem of_cursor {other : State} (here : state.IsAt filling progress)
    (cursor : other.cursor = state.cursor) (errors : other.errors = state.errors) :
    other.IsAt filling progress := by
  refine ⟨?_, ?_, ?_, ?_⟩
  · rw [cursor]
    exact here.stands
  · rw [cursor, here.index]
  · rw [cursor]
    exact here.lastEnd
  · rw [errors, here.errors]

theorem note (event : Event) : (state.note event).IsAt filling progress :=
  here.of_cursor rfl rfl

theorem record (failure : Diagnostic.Plan (size + 1)) :
    (state.record (failure.fill filling.token)).IsAt filling (progress.record failure) := by
  refine ⟨here.stands, here.index, here.lastEnd, ?_⟩
  change (state.errors.push _).toList = _
  rw [Array.toList_push, here.errors, Progress.record, List.map_append, List.map_singleton]

theorem skip (count : Nat) :
    State.IsAt { state with cursor := state.cursor.advanceBy count } filling
      (progress.advanceBy count) := by
  induction count generalizing state progress with
  | zero => exact here
  | succ count ih => exact ih here.advance

end State.IsAt

section Recovery

variable (marking) (progress : Progress size)

/-- Tokens with the same kinds are skipped up to the same index. -/
theorem exists_skipWhile (condition : Token.Kind → Bool) : ∃ after, progress.index ≤ after.index ∧
    ∀ {state : State} {filling : marking.Filling}, state.IsAt filling progress →
      (state.skipWhile fun token => condition token.kind).IsAt filling after := by
  let count := ((marking.ahead progress.index).takeWhile fun mark => condition mark.kind).length
  refine ⟨progress.advanceBy count, progress.index_le_advanceBy count, ?_⟩
  intro state filling here
  have same : (state.cursor.ahead.takeWhile fun token => condition token.kind).length = count := by
    simp only [count, ← here.map_mark_ahead, List.takeWhile_map, List.length_map]
    rfl
  rw [State.skipWhile, Cursor.skipWhile, same]
  exact here.skip count

theorem exists_skipToBoundary (closing : Token.Kind) : ∃ after, progress.index ≤ after.index ∧
    ∀ {state : State} {filling : marking.Filling}, state.IsAt filling progress →
      (state.skipToBoundary closing).IsAt filling after := by
  obtain ⟨found, onward, reaches⟩ :=
    exists_skipWhile marking progress fun kind => !isBoundary closing kind
  by_cases semicolon : (marking.mark found.index).kind = .semicolon
  · refine ⟨found.advance, Fin.le_trans onward found.index_le_advance, ?_⟩
    intro state filling here
    have there := reaches here
    unfold State.skipToBoundary
    dsimp only
    rw [there.current, filling.kind_token, if_pos semicolon]
    exact there.advance.note _
  · refine ⟨found, onward, ?_⟩
    intro state filling here
    have there := reaches here
    unfold State.skipToBoundary
    dsimp only
    rw [there.current, filling.kind_token, if_neg semicolon]
    exact there.note _

theorem exists_resynchronize (start : Nat) (closing : Token.Kind) :
    ∃ after, progress.index ≤ after.index ∧
      ∀ {state : State} {filling : marking.Filling}, state.IsAt filling progress →
        (state.resynchronize start closing).IsAt filling after := by
  by_cases stands : progress.index.val = start
  · by_cases semicolon : (marking.mark progress.index).kind = .semicolon
    · refine ⟨progress.advance, progress.index_le_advance, ?_⟩
      intro state filling here
      rw [State.resynchronize, here.index, here.current, filling.kind_token, if_pos stands,
        if_pos semicolon]
      exact here.advance
    · obtain ⟨after, onward, reaches⟩ := exists_skipToBoundary marking progress.advance closing
      refine ⟨after, Fin.le_trans progress.index_le_advance onward, ?_⟩
      intro state filling here
      rw [State.resynchronize, here.index, here.current, filling.kind_token, if_pos stands,
        if_neg semicolon]
      exact reaches here.advance
  · obtain ⟨after, onward, reaches⟩ := exists_skipToBoundary marking progress closing
    refine ⟨after, onward, ?_⟩
    intro state filling here
    rw [State.resynchronize, here.index, if_neg stands]
    exact reaches here

end Recovery

/-- Rules, one for each filling, are uniform at a progress when they all read what one plan describes
or all fail as one plan describes, and come to one progress. -/
def UniformAt {π α : Type} (progress : Progress size) (fill : marking.Filling → π → α)
    (rule : marking.Filling → Rule α) : Prop :=
  (∃ plan after, progress.index ≤ after.index ∧
    ∀ (filling : marking.Filling) (state : State), state.IsAt filling progress →
      ∃ final, rule filling state = .ok (fill filling plan) final ∧ final.IsAt filling after) ∨
  ∃ failure after, progress.index ≤ after.index ∧
    ∀ (filling : marking.Filling) (state : State), state.IsAt filling progress →
      ∃ final, rule filling state = .error (Diagnostic.Plan.fill filling.token failure) final ∧
        final.IsAt filling after

namespace UniformAt

variable {π ρ α β : Type} {progress : Progress size} {fill : marking.Filling → π → α}
  {fillNext : marking.Filling → ρ → β}

/-- Rules that go on like uniform rules from another progress are uniform. -/
theorem of_step {rule next : marking.Filling → Rule α} {middle : Progress size}
    (onward : progress.index ≤ middle.index)
    (step : ∀ (filling : marking.Filling) (state : State), state.IsAt filling progress →
      ∃ between, between.IsAt filling middle ∧ rule filling state = next filling between)
    (uniform : UniformAt middle fill next) : UniformAt progress fill rule := by
  obtain ⟨plan, after, further, reads⟩ | ⟨failure, after, further, fails⟩ := uniform
  · refine .inl ⟨plan, after, Fin.le_trans onward further, ?_⟩
    intro filling state here
    obtain ⟨between, there, same⟩ := step filling state here
    rw [same]
    exact reads filling between there
  · refine .inr ⟨failure, after, Fin.le_trans onward further, ?_⟩
    intro filling state here
    obtain ⟨between, there, same⟩ := step filling state here
    rw [same]
    exact fails filling between there

theorem pure {value : marking.Filling → α} (plan : π)
    (same : ∀ filling, value filling = fill filling plan) :
    UniformAt progress fill fun filling => pure (value filling) := by
  refine .inl ⟨plan, progress, Fin.le_refl _, ?_⟩
  intro filling state here
  exact ⟨state, congrArg (EStateM.Result.ok · state) (same filling), here⟩

theorem throw {thrown : marking.Filling → Diagnostic} (failure : Diagnostic.Plan (size + 1))
    (same : ∀ filling, thrown filling = failure.fill filling.token) :
    UniformAt progress fill fun filling => throw (thrown filling) := by
  refine .inr ⟨failure, progress, Fin.le_refl _, ?_⟩
  intro filling state here
  exact ⟨state, congrArg (EStateM.Result.error · state) (same filling), here⟩

/-- What comes second starts where what comes first ends. -/
theorem bind {rule : marking.Filling → Rule α} {next : marking.Filling → α → Rule β}
    (first : UniformAt progress fill rule)
    (rest : ∀ plan (after : Progress size), progress.index ≤ after.index →
      UniformAt after fillNext fun filling => next filling (fill filling plan)) :
    UniformAt progress fillNext fun filling => rule filling >>= next filling := by
  obtain ⟨plan, middle, onward, reads⟩ | ⟨failure, after, onward, fails⟩ := first
  · apply of_step onward _ (rest plan middle onward)
    intro filling state here
    obtain ⟨between, read, there⟩ := reads filling state here
    refine ⟨between, there, ?_⟩
    rw [bind_apply, read]
  · refine .inr ⟨failure, after, onward, ?_⟩
    intro filling state here
    obtain ⟨final, failed, arrived⟩ := fails filling state here
    refine ⟨final, ?_, arrived⟩
    change (rule filling >>= next filling) state = _
    rw [bind_apply, failed]

/-- The current token is the one at the index of the progress. -/
theorem look {next : marking.Filling → Token → Rule α}
    (rest : UniformAt progress fill fun filling => next filling (filling.token progress.index)) :
    UniformAt progress fill fun filling => current >>= next filling := by
  apply of_step (Fin.le_refl _) _ rest
  intro filling state here
  refine ⟨state, here, ?_⟩
  change next filling state.current state = _
  rw [here.current]

/-- The index behind a token that is consumed is not the first one. -/
theorem advance {next : marking.Filling → Token → Rule α}
    (present : (marking.mark progress.index).kind ≠ .endOfInput)
    (rest : ∀ after : Progress size, 0 < after.index.val →
      UniformAt after fill fun filling => next filling (filling.token progress.index)) :
    UniformAt progress fill fun filling => Rule.advance >>= next filling := by
  have moved := Progress.index_advance (marking.index_lt present)
  apply of_step progress.index_le_advance _ (rest progress.advance (by omega))
  intro filling state here
  refine ⟨state.advance, here.advance, ?_⟩
  change next filling state.current state.advance = _
  rw [here.current]

theorem note {event : Event} {next : marking.Filling → Unit → Rule α}
    (rest : UniformAt progress fill fun filling => next filling ()) :
    UniformAt progress fill fun filling => Rule.note event >>= next filling := by
  apply of_step (Fin.le_refl _) _ rest
  intro filling state here
  exact ⟨state.note event, here.note event, rfl⟩

/-- The place where the last token stops is known behind the first index. -/
theorem lastEnd {next : marking.Filling → Position → Rule α} (behind : 0 < progress.index.val)
    (rest : ∀ place : Place (size + 1),
      UniformAt progress fill fun filling => next filling (place.fill filling.token)) :
    UniformAt progress fill fun filling => Rule.lastEnd >>= next filling := by
  let last : Fin (size + 1) := ⟨progress.index.val - 1, by omega⟩
  apply of_step (Fin.le_refl _) _ (rest (.stop last))
  intro filling state here
  refine ⟨state, here, ?_⟩
  have stop := here.lastEnd last (Nat.sub_add_cancel behind)
  change next filling state.cursor.lastEnd state = _
  rw [stop, Place.fill]

/-- The number of unread tokens is the same for all fillings. -/
theorem unread {next : marking.Filling → Nat → Rule α}
    (rest : ∀ rounds, UniformAt progress fill fun filling => next filling rounds) :
    UniformAt progress fill fun filling => Rule.unread >>= next filling := by
  apply of_step (Fin.le_refl _) _ (rest (size - progress.index))
  intro filling state here
  refine ⟨state, here, ?_⟩
  change next filling state.cursor.ahead.length state = _
  rw [here.length_ahead]

/-- A token of any other kind than the expected one is blamed. -/
theorem expectOr {kind : Token.Kind} {thrown : marking.Filling → Diagnostic}
    {next : marking.Filling → Token → Rule α} (failure : Diagnostic.Plan (size + 1))
    (same : ∀ filling, thrown filling = failure.fill filling.token)
    (present : kind ≠ .endOfInput)
    (rest : ∀ token (after : Progress size), 0 < after.index.val →
      UniformAt after fill fun filling => next filling (filling.token token)) :
    UniformAt progress fill fun filling => expectOr kind (thrown filling) >>= next filling := by
  by_cases found : (marking.mark progress.index).kind = kind
  · have taken : UniformAt progress fill fun filling => Rule.advance >>= next filling := by
      apply advance
      · rwa [found]
      · intro after behind
        exact rest progress.index after behind
    apply of_step (Fin.le_refl _) _ taken
    intro filling state here
    refine ⟨state, here, ?_⟩
    rw [bind_apply, bind_apply, expectOr_apply, here.current, filling.kind_token, if_pos found,
      advance_apply, here.current]
  · refine .inr ⟨failure, progress, Fin.le_refl _, ?_⟩
    intro filling state here
    refine ⟨state, ?_, here⟩
    change (Rule.expectOr kind (thrown filling) >>= next filling) state = _
    rw [bind_apply, expectOr_apply, here.current, filling.kind_token, if_neg found, same]

theorem expect {kind : Token.Kind} {next : marking.Filling → Token → Rule α}
    (present : kind ≠ .endOfInput)
    (rest : ∀ token (after : Progress size), 0 < after.index.val →
      UniformAt after fill fun filling => next filling (filling.token token)) :
    UniformAt progress fill fun filling => expect kind >>= next filling := by
  have looked : UniformAt progress fill fun filling => Rule.current >>= fun found =>
      Rule.expectOr kind ⟨.missing kind.name found.text, found.span.start⟩ >>= next filling :=
    look (expectOr ⟨.missing kind.name, progress.index⟩ (fun _ => rfl) present rest)
  exact looked

theorem skipOptional {kind : Token.Kind} {next : marking.Filling → Bool → Rule α}
    (rest : ∀ found (after : Progress size), progress.index ≤ after.index →
      UniformAt after fill fun filling => next filling found) :
    UniformAt progress fill fun filling => skipOptional kind >>= next filling := by
  by_cases found : (marking.mark progress.index).kind = kind
  · apply of_step progress.index_le_advance _ (rest true _ progress.index_le_advance)
    intro filling state here
    refine ⟨state.advance, here.advance, ?_⟩
    rw [bind_apply, skipOptional_apply, here.current, filling.kind_token, if_pos found]
  · apply of_step (Fin.le_refl _) _ (rest false progress (Fin.le_refl _))
    intro filling state here
    refine ⟨state, here, ?_⟩
    rw [bind_apply, skipOptional_apply, here.current, filling.kind_token, if_neg found]

theorem attempt {closing : Token.Kind} {fill : marking.Filling → π → Statement}
    {rule : marking.Filling → Rule Statement} (uniform : UniformAt progress fill rule) :
    UniformAt progress (fun filling (plan : Option π) => plan.map (fill filling)) fun filling =>
      attempt closing (rule filling) := by
  obtain ⟨plan, after, onward, reads⟩ | ⟨failure, failed, onward, fails⟩ := uniform
  · refine .inl ⟨some plan, after, onward, ?_⟩
    intro filling state here
    obtain ⟨final, read, arrived⟩ := reads filling state here
    exact ⟨final, by simp only [Rule.attempt, read, Option.map_some], arrived⟩
  · obtain ⟨after, further, resumes⟩ := exists_resynchronize marking (failed.record failure)
      progress.index.val closing
    refine .inl ⟨none, after, Fin.le_trans onward further, ?_⟩
    intro filling state here
    obtain ⟨middle, thrown, there⟩ := fails filling state here
    refine ⟨_, ?_, resumes (there.record failure)⟩
    simp only [Rule.attempt, thrown, here.index, Option.map_none]

end UniformAt

/-- Rules are uniform when they are at every progress. -/
def Uniform {π α : Type} (fill : marking.Filling → π → α) (rule : Rule α) : Prop :=
  ∀ progress : Progress size, UniformAt progress fill fun _ => rule

end Rule

end ScriptFrontend
