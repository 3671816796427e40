/-
This file describes rules that read given tokens if there is enough room for their nesting, and
that report the lack of room otherwise.
-/

import ScriptFrontend.Proofs.Reading.Consumption

namespace ScriptFrontend

/-- The last token that is passed says where the last consumed token stops. -/
theorem Cursor.lastEnd_advanceBy {cursor : Cursor} {tokens rest : List Token} {last : Token}
    (ahead : cursor.ahead = tokens ++ rest) (found : tokens.getLast? = some last) :
    (cursor.advanceBy tokens.length).lastEnd = last.span.stop := by
  induction tokens generalizing cursor with
  | nil => cases found
  | cons token others ih =>
    have advanced : cursor.advance.ahead = others ++ rest := by
      rw [ahead_advance, ahead]
      rfl
    rw [List.length_cons, advanceBy]
    cases others with
    | nil =>
      obtain rfl : token = last := Option.some.inj found
      simp [advanceBy, advance, ahead]
    | cons other others =>
      apply ih advanced
      rw [← found, List.getLast?_cons_cons]

namespace Rule

/-- A state faces tokens when they are ahead of it and a token of the given kind comes after
them. -/
def State.Faces (state : State) (tokens : List Token) (kind : Token.Kind) : Prop :=
  ∃ rest, state.cursor.ahead = tokens ++ rest ∧ (rest.headD state.cursor.endMark).kind = kind

/-- A reading passes exactly these tokens, and nothing fails on the way. -/
structure Passes (before : State) (tokens : List Token) (after : State) : Prop where
  cursor : after.cursor = before.cursor.advanceBy tokens.length
  ahead : before.cursor.ahead = tokens ++ after.cursor.ahead
  errors : after.errors = before.errors

namespace State.Faces

variable {state : State} {tokens others : List Token} {token : Token} {kind : Token.Kind}

theorem current (faces : state.Faces (token :: others) kind) : state.current = token := by
  obtain ⟨rest, ahead, -⟩ := faces
  exact Cursor.current_of_cons ahead

theorem current_kind (faces : state.Faces [] kind) : state.current.kind = kind := by
  obtain ⟨rest, ahead, next⟩ := faces
  rw [State.current, Cursor.current, ahead]
  exact next

theorem take (faces : state.Faces (tokens ++ token :: others) kind) :
    state.Faces tokens token.kind := by
  obtain ⟨rest, ahead, -⟩ := faces
  refine ⟨token :: (others ++ rest), ?_, rfl⟩
  rw [ahead]
  simp

theorem exists_take (faces : state.Faces (tokens ++ others) kind) :
    ∃ next, state.Faces tokens next := by
  cases others with
  | nil =>
    rw [List.append_nil] at faces
    exact ⟨kind, faces⟩
  | cons other others => exact ⟨other.kind, faces.take⟩

theorem advance (faces : state.Faces (token :: others) kind) : state.advance.Faces others kind := by
  obtain ⟨rest, ahead, next⟩ := faces
  refine ⟨rest, ?_, ?_⟩
  · change state.cursor.advance.ahead = _
    rw [Cursor.ahead_advance, ahead]
    rfl
  · change (rest.headD state.cursor.advance.endMark).kind = kind
    rwa [Cursor.endMark_advance]

end State.Faces

namespace Passes

variable {before middle after state : State} {tokens others : List Token} {kind : Token.Kind}

theorem refl (state : State) : Passes state [] state :=
  ⟨rfl, rfl, rfl⟩

theorem trans (start : Passes before tokens middle) (finish : Passes middle others after) :
    Passes before (tokens ++ others) after := by
  refine ⟨?_, ?_, finish.errors.trans start.errors⟩
  · rw [List.length_append, Cursor.advanceBy_add, ← start.cursor, finish.cursor]
  · rw [start.ahead, finish.ahead, List.append_assoc]

theorem note (event : Event) (state : State) : Passes state [] (state.note event) :=
  ⟨rfl, rfl, rfl⟩

theorem advance {token : Token} (faces : state.Faces (token :: others) kind) :
    Passes state [token] state.advance := by
  obtain ⟨rest, ahead, -⟩ := faces
  refine ⟨rfl, ?_, rfl⟩
  change state.cursor.ahead = [token] ++ state.cursor.advance.ahead
  rw [Cursor.ahead_advance, ahead]
  rfl

theorem faces (passes : Passes before tokens after)
    (ahead : before.Faces (tokens ++ others) kind) : after.Faces others kind := by
  obtain ⟨rest, split, next⟩ := ahead
  have endMark : after.cursor.endMark = before.cursor.endMark := by
    rw [passes.cursor, Cursor.endMark_advanceBy]
  refine ⟨rest, ?_, by rwa [endMark]⟩
  rw [passes.ahead, List.append_assoc] at split
  exact List.append_cancel_left split

theorem current_kind (passes : Passes before tokens after) (ahead : before.Faces tokens kind) :
    after.current.kind = kind := by
  apply State.Faces.current_kind
  apply passes.faces
  rwa [List.append_nil]

theorem endsAt (passes : Passes before tokens after) (present : tokens ≠ []) :
    EndsAt tokens after := by
  have found := List.getLast?_eq_some_getLast present
  refine ⟨_, found, ?_⟩
  rw [passes.cursor]
  exact Cursor.lastEnd_advanceBy passes.ahead found

end Passes

/-- A recorded failure says that the limit leaves no room. -/
def State.TooDeep (limit : Nat) (state : State) : Prop :=
  ∃ failure ∈ state.errors.toList, failure.problem = .nestingTooDeep limit

/-- A rule overflows when it fails for lack of room or has recorded such a failure. -/
def Overflows {α : Type} (limit : Nat) : EStateM.Result Diagnostic State α → Prop
  | .ok _ after => after.TooDeep limit
  | .error failure after => failure.problem = .nestingTooDeep limit ∨ after.TooDeep limit

theorem State.TooDeep.mono {limit : Nat} {before after : State} (deep : before.TooDeep limit)
    (reaches : before.Reaches after) : after.TooDeep limit := by
  obtain ⟨failure, member, problem⟩ := deep
  exact ⟨failure, reaches.errors.subset member, problem⟩

theorem overflows_tooDeep {α : Type} (limit : Nat) (state : State) :
    Overflows limit ((tooDeep limit : Rule α) state) :=
  .inl rfl

/-- What follows does not take an overflow back. -/
theorem Overflows.bind {α β : Type} {limit : Nat} {rule : Rule α} {next : α → Rule β}
    {state : State} (overflows : Overflows limit (rule state))
    (forward : ∀ value, Forward β (next value)) : Overflows limit ((rule >>= next) state) := by
  rw [bind_apply]
  cases outcome : rule state with
  | error failure after =>
    rw [outcome] at overflows
    exact overflows
  | ok value after =>
    rw [outcome] at overflows
    have deep : State.TooDeep limit after := overflows
    dsimp only
    cases finished : next value after with
    | ok result last => exact deep.mono ((forward value).of_ok finished)
    | error failure last => exact .inr (deep.mono ((forward value).of_error finished))

/-- A failure for lack of room is recorded. -/
theorem Overflows.attempt {limit : Nat} {closing : Token.Kind} {rule : Rule Statement}
    {state : State} (overflows : Overflows limit (rule state)) :
    Overflows limit (attempt closing rule state) := by
  rw [Rule.attempt]
  cases outcome : rule state with
  | ok value after =>
    rw [outcome] at overflows
    exact overflows
  | error failure after =>
    rw [outcome] at overflows
    have recorded : (after.record failure).TooDeep limit := by
      obtain problem | deep := overflows
      · exact ⟨failure, by simp [State.record], problem⟩
      · exact State.TooDeep.mono deep (State.Reaches.record failure after)
    exact recorded.mono (State.Reaches.resynchronize _ _ _)

/-- A rule settles when it reads the tokens as the value if the room covers the need, and overflows
if the room does not. -/
structure Settles {α : Type} (limit need room : Nat) (rule : Rule α) (state : State)
    (tokens : List Token) (value : α) : Prop where
  reads : need ≤ room → ∃ after, Passes state tokens after ∧ rule state = .ok value after
  overflows : room < need → Overflows limit (rule state)

namespace Settles

variable {α β : Type} {limit need otherNeed room : Nat} {rule : Rule α} {next : α → Rule β}
  {state middle : State} {tokens others : List Token} {value : α} {result : β}

theorem of_reads {after : State} (passes : Passes state tokens after)
    (read : rule state = .ok value after) : Settles limit 0 room rule state tokens value :=
  ⟨fun _ => ⟨after, passes, read⟩, fun less => absurd less (Nat.not_lt_zero room)⟩

theorem pure (value : α) (state : State) :
    Settles limit 0 room (Pure.pure value : Rule α) state [] value :=
  of_reads (.refl state) rfl

theorem cast (settles : Settles limit need room rule state tokens value)
    (same : need = otherNeed) : Settles limit otherNeed room rule state tokens value := by
  rwa [← same]

/-- One level deeper there is one level less of room. -/
theorem succ (settles : Settles limit need room rule state tokens value) :
    Settles limit (need + 1) (room + 1) rule state tokens value :=
  ⟨fun enough => settles.reads (Nat.le_of_succ_le_succ enough),
    fun less => settles.overflows (Nat.lt_of_succ_lt_succ less)⟩

theorem of_eq {other : Rule α} (same : rule state = other middle) (passes : Passes state [] middle)
    (settles : Settles limit need room other middle tokens value) :
    Settles limit need room rule state tokens value := by
  constructor
  · intro enough
    obtain ⟨after, passesOn, read⟩ := settles.reads enough
    exact ⟨after, passes.trans passesOn, same.trans read⟩
  · intro less
    rw [same]
    exact settles.overflows less

/-- A sequence needs as much room as the part of it that needs more. -/
theorem bind (first : Settles limit need room rule state tokens value)
    (forward : ∀ value, Forward β (next value))
    (rest : ∀ after, Passes state tokens after →
      Settles limit otherNeed room (next value) after others result) :
    Settles limit (max need otherNeed) room (rule >>= next) state (tokens ++ others) result := by
  constructor
  · intro enough
    obtain ⟨middle, passes, read⟩ := first.reads (by omega)
    obtain ⟨after, passesOn, readOn⟩ := (rest middle passes).reads (by omega)
    refine ⟨after, passes.trans passesOn, ?_⟩
    rw [bind_apply, read]
    exact readOn
  · intro less
    by_cases enough : need ≤ room
    · obtain ⟨middle, passes, read⟩ := first.reads enough
      rw [bind_apply, read]
      exact (rest middle passes).overflows (by omega)
    · exact (first.overflows (by omega)).bind forward

theorem last (first : Settles limit need room rule state tokens value)
    (forward : ∀ value, Forward β (next value))
    (rest : ∀ after, Passes state tokens after →
      Settles limit 0 room (next value) after [] result) :
    Settles limit need room (rule >>= next) state tokens result := by
  have all := first.bind forward rest
  rwa [List.append_nil, Nat.max_zero] at all

/-- A step that always succeeds needs no room. -/
theorem step (read : rule state = .ok value middle) (passes : Passes state tokens middle)
    (rest : Settles limit need room (next value) middle others result) :
    Settles limit need room (rule >>= next) state (tokens ++ others) result := by
  constructor
  · intro enough
    obtain ⟨after, passesOn, readOn⟩ := rest.reads enough
    refine ⟨after, passes.trans passesOn, ?_⟩
    rw [bind_apply, read]
    exact readOn
  · intro less
    rw [bind_apply, read]
    exact rest.overflows less

/-- A step may look at the state without a change. -/
theorem look (read : rule state = .ok value state)
    (rest : Settles limit need room (next value) state tokens result) :
    Settles limit need room (rule >>= next) state tokens result :=
  step read (.refl state) rest

/-- What is built from the end of the last consumed token consumes nothing. -/
theorem spanned {build : Position → β} {position : Position}
    (stop : state.cursor.lastEnd = position) :
    Settles limit 0 room (Rule.lastEnd >>= fun stop => Pure.pure (build stop)) state []
      (build position) := by
  rw [← stop]
  exact look (lastEnd_apply state) (pure _ state)

theorem advance {next : Token → Rule β} {token : Token} {kind : Token.Kind}
    (faces : state.Faces (token :: others) kind)
    (rest : Settles limit need room (next token) state.advance others result) :
    Settles limit need room (Rule.advance >>= next) state (token :: others) result := by
  have read : Rule.advance state = .ok token state.advance := by
    rw [advance_apply, faces.current]
  exact step read (.advance faces) rest

theorem expectOr {next : Token → Rule β} {token : Token} {expected kind : Token.Kind}
    {failure : Diagnostic} (faces : state.Faces (token :: others) kind)
    (same : token.kind = expected)
    (rest : Settles limit need room (next token) state.advance others result) :
    Settles limit need room (Rule.expectOr expected failure >>= next) state (token :: others)
      result := by
  have read : Rule.expectOr expected failure state = .ok token state.advance := by
    rw [expectOr_apply, faces.current, if_pos same]
  exact step read (.advance faces) rest

theorem expect {next : Token → Rule β} {token : Token} {expected kind : Token.Kind}
    (faces : state.Faces (token :: others) kind) (same : token.kind = expected)
    (rest : Settles limit need room (next token) state.advance others result) :
    Settles limit need room (Rule.expect expected >>= next) state (token :: others) result := by
  have read : Rule.expect expected state = .ok token state.advance := by
    rw [expect_apply, faces.current, if_pos same]
  exact step read (.advance faces) rest

theorem skipOptional {next : Bool → Rule β} {token : Token} {wanted kind : Token.Kind}
    (faces : state.Faces (token :: others) kind) (same : token.kind = wanted)
    (rest : Settles limit need room (next true) state.advance others result) :
    Settles limit need room (Rule.skipOptional wanted >>= next) state (token :: others) result := by
  have read : Rule.skipOptional wanted state = .ok true state.advance := by
    rw [skipOptional_apply, faces.current, if_pos same]
  exact step read (.advance faces) rest

theorem skipNothing {next : Bool → Rule β} {wanted : Token.Kind}
    (other : state.current.kind ≠ wanted)
    (rest : Settles limit need room (next false) state others result) :
    Settles limit need room (Rule.skipOptional wanted >>= next) state others result := by
  have read : Rule.skipOptional wanted state = .ok false state := by
    rw [skipOptional_apply, if_neg other]
  exact look read rest

end Settles

end Rule

end ScriptFrontend
