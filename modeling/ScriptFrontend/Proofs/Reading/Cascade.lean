/-
This file shows that failures do not lead to further failures before the next delimiter.
-/

import ScriptFrontend.Proofs.Reading.Attribution
import ScriptFrontend.Proofs.Reading.Economy
import ScriptFrontend.Proofs.Reading.Truncation

namespace ScriptFrontend

/-- Semicolons and braces delimit statements. -/
def Token.Kind.isDelimiter : Token.Kind → Bool
  | .semicolon | .openCurly | .closeCurly => true
  | _ => false

/-- Semicolons cut the tokens into segments, and the number of a segment counts those in front. -/
def segment (buffer : List Token) (index : Nat) : Nat :=
  (buffer.take index).countP fun token => token.kind = .semicolon

theorem segment_le {buffer : List Token} {index other : Nat} (before : index ≤ other) :
    segment buffer index ≤ segment buffer other :=
  (List.take_prefix_take_left before).sublist.countP_le

namespace Rule

section Remaining

variable (kinds : Token.Kind → Bool) {closing : Token.Kind}

/-- The number of tokens ahead that are of one of the kinds. -/
def State.remaining (state : State) : Nat :=
  state.cursor.ahead.countP fun token => kinds token.kind

theorem State.Reaches.remaining_le {before after : State} (reaches : before.Reaches after) :
    after.remaining kinds ≤ before.remaining kinds := by
  obtain ⟨tokens, split⟩ := reaches.taken
  rw [remaining, remaining, split, List.countP_append]
  omega

variable {kinds}

theorem State.remaining_advance_lt {state : State} (present : state.current.kind ≠ .endOfInput)
    (counted : kinds state.current.kind = true) :
    state.advance.remaining kinds < state.remaining kinds := by
  obtain ⟨token, rest, ahead⟩ := List.exists_cons_of_ne_nil (Cursor.ahead_ne_nil_of_kind present)
  have current : state.current = token := Cursor.current_of_cons ahead
  have advanced : state.advance.cursor.ahead = rest := by
    rw [advance, Cursor.ahead_advance, ahead, List.tail_cons]
  rw [current] at counted
  rw [remaining, remaining, advanced, ahead, List.countP_cons, if_pos counted]
  exact Nat.lt_succ_self _

variable (semicolon : kinds .semicolon = true)
include semicolon

theorem State.remaining_semicolon_lt {state : State} (here : state.current.kind = .semicolon) :
    state.advance.remaining kinds < state.remaining kinds := by
  apply remaining_advance_lt
  · rw [here]
    decide
  · rwa [here]

/-- What is skipped to a boundary has a semicolon at its end, or the statements end there. -/
theorem State.remaining_skipToBoundary_lt {state : State}
    (goesOn : ¬ endsStatements closing (state.skipToBoundary closing).current.kind) :
    (state.skipToBoundary closing).remaining kinds < state.remaining kinds := by
  have found : state.Reaches (state.skipWhile fun token => !isBoundary closing token.kind) :=
    ⟨⟨_, rfl⟩, List.prefix_refl _⟩
  have boundary : isBoundary closing
      (state.skipWhile fun token => !isBoundary closing token.kind).current.kind = true :=
    Bool.not_inj (Cursor.current_skipWhile present_of_not_isBoundary)
  revert goesOn
  unfold skipToBoundary
  dsimp only
  split
  · next here =>
    intro goesOn
    exact Nat.lt_of_lt_of_le (remaining_semicolon_lt semicolon here) (found.remaining_le kinds)
  · next other =>
    intro goesOn
    exact absurd (endsStatements_of_isBoundary boundary other) goesOn

/-- A failed statement goes on behind a semicolon, or the statements end. -/
theorem State.remaining_resynchronize_lt {start : Nat} {state : State}
    (goesOn : ¬ endsStatements closing (state.resynchronize start closing).current.kind) :
    (state.resynchronize start closing).remaining kinds < state.remaining kinds := by
  revert goesOn
  unfold resynchronize
  split
  · split
    · next here => exact fun _ => remaining_semicolon_lt semicolon here
    · intro goesOn
      exact Nat.lt_of_lt_of_le (remaining_skipToBoundary_lt semicolon goesOn)
        ((Reaches.advance state).remaining_le kinds)
  · exact remaining_skipToBoundary_lt semicolon

end Remaining

/-- The charge of a state counts the failures so far and the delimiters that are still ahead. -/
def State.charge (state : State) : Nat :=
  state.errors.size + state.remaining Token.Kind.isDelimiter

/-- Every failure in between is paid for with a delimiter. -/
def State.Pays (before after : State) : Prop :=
  after.charge ≤ before.charge

theorem State.pays_advance (state : State) : state.Pays state.advance :=
  Nat.add_le_add_left ((Reaches.advance state).remaining_le _) state.errors.size

theorem State.charge_advance_lt {state : State} (delimiter : state.current.kind.isDelimiter = true) :
    state.advance.charge < state.charge := by
  apply Nat.add_lt_add_left (remaining_advance_lt _ delimiter)
  intro ended
  rw [ended] at delimiter
  cases delimiter

theorem State.pays_motion : Motion State.Pays where
  refl _ := Nat.le_refl _
  trans start finish := Nat.le_trans finish start
  advance _ := pays_advance _
  note _ _ := Nat.le_refl _

/-- A failure is paid for with the semicolon behind which the next statement begins. The last failure
of a list may stay unpaid. -/
theorem State.Pays.charge_resynchronize_le {before middle : State} (pays : before.Pays middle)
    (failure : Diagnostic) (closing : Token.Kind) :
    let after := (middle.record failure).resynchronize before.cursor.index closing
    after.charge ≤ before.charge + 1 ∧
      (¬ endsStatements closing after.current.kind → after.charge ≤ before.charge) := by
  intro after
  have size : after.errors.size = middle.errors.size + 1 := size_errors_resynchronize _ _ _ _
  have onward : after.remaining _ ≤ middle.remaining Token.Kind.isDelimiter :=
    (Reaches.resynchronize before.cursor.index closing (middle.record failure)).remaining_le _
  rw [Pays, charge] at pays
  refine ⟨by rw [charge]; omega, fun goesOn => ?_⟩
  have paid : after.remaining _ < middle.remaining Token.Kind.isDelimiter :=
    remaining_resynchronize_lt rfl goesOn
  rw [charge]
  omega

section Statements

variable {inner : Nested} (each : ∀ state, Keeping State.Pays Statement state (statement inner))
include each

/-- All failures of a list are paid for, except for the one after which it ends. -/
theorem Rounds.charge_le {closing : Token.Kind} {state final : State} {statements : List Statement}
    (rounds : Rounds inner closing state statements final) : final.charge ≤ state.charge + 1 := by
  induction rounds with
  | done => exact Nat.le_succ _
  | @read state after _ _ _ _ outcome _ _ ih =>
    have pays : state.Pays after := (each state).of_ok outcome
    exact Nat.le_trans ih (Nat.add_le_add_right pays 1)
  | @failed state middle _ failure _ _ outcome _ rest ih =>
    have pays : state.Pays middle := (each state).of_error outcome
    obtain ⟨unpaid, paid⟩ := pays.charge_resynchronize_le failure closing
    cases rest with
    | done => exact unpaid
    | read goesOn => exact Nat.le_trans ih (Nat.add_le_add_right (paid goesOn) 1)
    | failed goesOn => exact Nat.le_trans ih (Nat.add_le_add_right (paid goesOn) 1)

/-- The opening brace of a block pays for the failure after which its statements end. -/
theorem pays_block (steady : inner.Steady) (state : State) :
    Keeping State.Pays Block state (block inner) := by
  have read {state : State} (opens : state.current.kind = .openCurly) :
      state.Pays (state.advance.statementsUntil inner .closeCurly).2 := by
    have charge := Rounds.charge_le each (rounds_statementsUntil steady .closeCurly state.advance)
    exact Nat.le_trans charge (State.charge_advance_lt (by rw [opens]; rfl))
  exact State.pays_motion.block (fun opens _ => read opens)
    (fun opens _ => State.pays_motion.trans (read opens) (State.pays_advance _)) state

end Statements

theorem pays_statement (limit room : Nat) (state : State) :
    Keeping State.Pays Statement state (statement (.within limit room)) := by
  have deeper := State.pays_motion.stepwise.within limit
    (fun room deeper => pays_block (State.pays_motion.stepwise.statement deeper)
      (Nested.steady_within limit room)) room
  exact State.pays_motion.stepwise.statement deeper state

/-- No block can begin ahead. -/
def State.Braceless (state : State) : Prop :=
  state.remaining (· = .openCurly) = 0

theorem State.Reaches.braceless {before after : State} (reaches : before.Reaches after)
    (braceless : before.Braceless) : after.Braceless :=
  Nat.le_zero.1 (braceless ▸ reaches.remaining_le _)

theorem State.Braceless.current_ne {state : State} (braceless : state.Braceless) :
    state.current.kind ≠ .openCurly := by
  intro opens
  have fewer : state.advance.remaining (· = .openCurly) < state.remaining (· = .openCurly) :=
    remaining_advance_lt (by rw [opens]; decide) (by simpa using opens)
  rw [braceless] at fewer
  exact Nat.not_lt_zero _ fewer

/-- Only a block records failures, hence nothing is recorded where none can begin. -/
def State.Quiet (before after : State) : Prop :=
  before.Braceless → after.Braceless ∧ after.errors = before.errors

theorem State.quiet_motion : Motion State.Quiet where
  refl _ braceless := ⟨braceless, rfl⟩
  trans := by
    intro first second third start finish braceless
    obtain ⟨middle, errors⟩ := start braceless
    obtain ⟨last, others⟩ := finish middle
    exact ⟨last, others.trans errors⟩
  advance _ braceless := ⟨(Reaches.advance _).braceless braceless, rfl⟩
  note _ _ braceless := ⟨braceless, rfl⟩

theorem quiet_statement (limit room : Nat) (state : State) :
    Keeping State.Quiet Statement state (statement (.within limit room)) := by
  have absent {state last : State} (opens : state.current.kind = .openCurly) :
      state.Quiet last := fun braceless => absurd opens braceless.current_ne
  have deeper := State.quiet_motion.stepwise.within limit
    (fun _ _ => State.quiet_motion.block (fun opens _ => absent opens) fun opens _ => absent opens)
    room
  exact State.quiet_motion.stepwise.statement deeper state

theorem segment_add_remaining {buffer : List Token} {state : State}
    (stands : state.cursor.StandsIn buffer) :
    segment buffer state.cursor.index + state.remaining (· = .semicolon) =
      buffer.countP fun token => token.kind = .semicolon := by
  have ending : [state.cursor.endMark].countP (fun token => token.kind = .semicolon) = 0 := by
    simp [state.cursor.endMark_kind]
  conv_rhs => rw [← List.take_append_drop state.cursor.index buffer, ← stands]
  rw [List.countP_append, List.countP_append, ending, Nat.add_zero]
  rfl

/-- What is skipped after a failed statement is the rest of its segment, unless the statements end. -/
theorem segment_lt_resynchronize {buffer : List Token} {state : State} {start : Nat}
    {closing : Token.Kind} (stands : state.cursor.StandsIn buffer)
    (goesOn : ¬ endsStatements closing (state.resynchronize start closing).current.kind) :
    segment buffer state.cursor.index <
      segment buffer (state.resynchronize start closing).cursor.index := by
  have fewer : (state.resynchronize start closing).remaining (· = .semicolon) <
      state.remaining (· = .semicolon) := State.remaining_resynchronize_lt rfl goesOn
  have total := segment_add_remaining stands
  have totalAfter := segment_add_remaining
    ((State.Reaches.resynchronize start closing state).standsIn stands)
  omega

/-- The failures of a state are attributed to tokens in different segments, and none of them is in the
segment where the next statement begins. -/
structure Segmented (buffer : List Token) (state : State) (indices : List Nat) : Prop where
  stands : state.cursor.StandsIn buffer
  attribution : Attribution buffer (buffer.length - 1) state.errors.toList indices
  apart : indices.Pairwise fun earlier later => segment buffer earlier < segment buffer later
  passed : state.current.kind ≠ .endOfInput →
    ∀ index ∈ indices, segment buffer index < segment buffer state.cursor.index

namespace Segmented

variable {buffer : List Token} {state middle : State} {indices : List Nat}
  (segmented : Segmented buffer state indices) (present : state.current.kind ≠ .endOfInput)
  (reaches : state.Reaches middle) (same : middle.errors = state.errors)
include segmented present reaches

theorem behind : ∀ index ∈ indices, segment buffer index < segment buffer middle.cursor.index :=
  fun index member =>
    Nat.lt_of_lt_of_le (segmented.passed present index member) (segment_le reaches.index_le)

include same

theorem moved : Segmented buffer middle indices where
  stands := reaches.standsIn segmented.stands
  attribution := by
    rw [same]
    exact segmented.attribution
  apart := segmented.apart
  passed _ := segmented.behind present reaches

/-- A failure belongs to a new segment, and the next statement begins behind this one. -/
theorem failed {failure : Diagnostic} (blames : failure.Blames middle.current) :
    Segmented buffer ((middle.record failure).resynchronize state.cursor.index .endOfInput)
      (indices ++ [middle.cursor.index]) := by
  have stands := reaches.standsIn segmented.stands
  have behind := segmented.behind present reaches
  have recorded : (middle.record failure).cursor.StandsIn buffer := stands
  have inside := stands.index_lt
  constructor
  · exact (State.Reaches.resynchronize _ _ _).standsIn recorded
  · have errors : (middle.record failure).errors.toList = state.errors.toList ++ [failure] := by
      rw [State.record, Array.toList_push, same]
    rw [State.errors_resynchronize, errors]
    apply segmented.attribution.concat stands.getElem?_index blames
    · intro earlier member
      have apart : earlier < middle.cursor.index :=
        Nat.lt_of_not_le fun beyond => Nat.not_lt_of_le (segment_le beyond) (behind earlier member)
      exact ⟨Nat.le_of_lt apart, fun _ => apart⟩
    · omega
  · rw [List.pairwise_append]
    refine ⟨segmented.apart, List.pairwise_singleton _ _, fun earlier member later here => ?_⟩
    rw [List.mem_singleton.1 here]
    exact behind earlier member
  · intro goesOn index member
    have further := segment_lt_resynchronize recorded fun ends => goesOn (ends.elim id id)
    obtain earlier | last := List.mem_append.1 member
    · exact Nat.lt_trans (behind index earlier) further
    · rwa [List.mem_singleton.1 last]

end Segmented

/-- Without blocks every round adds at most one failure, and this in a segment of its own. -/
theorem Rounds.exists_segmented {limit room : Nat} {buffer : List Token} {state final : State}
    {statements : List Statement} {indices : List Nat}
    (rounds : Rounds (.within limit room) .endOfInput state statements final)
    (segmented : Segmented buffer state indices) (braceless : state.Braceless) :
    ∃ indices, Segmented buffer final indices := by
  induction rounds generalizing indices with
  | done => exact ⟨indices, segmented⟩
  | @read state after _ _ _ goesOn outcome passes _ ih =>
    have quiet : state.Quiet after := (quiet_statement limit room state).of_ok outcome
    obtain ⟨stillBraceless, same⟩ := quiet braceless
    exact ih (segmented.moved (fun ended => goesOn (.inl ended)) passes.reaches same) stillBraceless
  | @failed state middle _ failure _ goesOn outcome passes _ ih =>
    have quiet : state.Quiet middle := (quiet_statement limit room state).of_error outcome
    have reaches : state.Reaches middle :=
      (forward_closed.statement (forward_closed.within limit room)).of_error outcome
    exact ih (segmented.failed (fun ended => goesOn (.inl ended)) reaches (quiet braceless).2
      (blames_of_statement outcome)) (passes.reaches.braceless braceless)

end Rule

section Tokens

variable (tokens : List Token) (file : String) (limit : Nat)

/-- A reading of the tokens through the first end mark. -/
theorem exists_rounds_throughEnd :
    ∃ begun final statements, begun = Rule.State.ofTokens (throughEnd tokens file) file ∧
      begun.cursor.ahead = beforeEnd tokens ∧
      (readTokens tokens file limit).errors = final.errors.toList ∧
      Rule.Rounds (.within limit limit) .endOfInput begun statements final := by
  refine ⟨_, _, _, rfl, ?_, ?_,
    Rule.rounds_statementsUntil (Nested.steady_within limit limit) .endOfInput _⟩
  · change (Cursor.ofTokens (throughEnd tokens file) file).ahead = _
    rw [throughEnd, Cursor.ofTokens_concat _ file (firstEnd_kind tokens file)]
  · rw [Rule.State.statementsUntil_throughEnd]
    rfl

/-- There is at most one failure more than there are delimiters. -/
theorem errors_le_delimiters :
    (readTokens tokens file limit).errors.length ≤
      1 + (beforeEnd tokens).countP fun token => token.kind.isDelimiter := by
  obtain ⟨begun, final, statements, rfl, ahead, errors, rounds⟩ :=
    exists_rounds_throughEnd tokens file limit
  have charge := rounds.charge_le (Rule.pays_statement limit limit)
  have fresh : (Rule.State.ofTokens (throughEnd tokens file) file).errors.size = 0 := rfl
  rw [Rule.State.charge, Rule.State.charge, Rule.State.remaining, Rule.State.remaining, ahead,
    fresh] at charge
  rw [errors, Array.length_toList]
  omega

/-- Without opening braces no two failures blame tokens of the same segment. -/
theorem exists_segments (braceless : ∀ token ∈ beforeEnd tokens, token.kind ≠ .openCurly) :
    ∃ indices, Attribution (throughEnd tokens file) (beforeEnd tokens).length
        (readTokens tokens file limit).errors indices ∧
      indices.Pairwise fun earlier later =>
        segment (throughEnd tokens file) earlier < segment (throughEnd tokens file) later := by
  obtain ⟨begun, final, statements, rfl, ahead, errors, rounds⟩ :=
    exists_rounds_throughEnd tokens file limit
  have stands : (Cursor.ofTokens (throughEnd tokens file) file).StandsIn (throughEnd tokens file) := by
    rw [throughEnd, Cursor.ofTokens_concat _ file (firstEnd_kind tokens file)]
    rfl
  have noneAhead : (Rule.State.ofTokens (throughEnd tokens file) file).Braceless := by
    rw [Rule.State.Braceless, Rule.State.remaining, ahead, List.countP_eq_zero]
    intro token member
    simpa using braceless token member
  obtain ⟨indices, segmented⟩ :=
    rounds.exists_segmented ⟨stands, .nil, .nil, fun _ => List.forall_mem_nil _⟩ noneAhead
  have length : (throughEnd tokens file).length - 1 = (beforeEnd tokens).length := by
    rw [throughEnd, List.length_append, List.length_singleton, Nat.add_sub_cancel]
  refine ⟨indices, ?_, segmented.apart⟩
  rw [errors, ← length]
  exact segmented.attribution

end Tokens

/-- Failures do not cascade. There is at most one failure more than there are delimiters, and where no
brace opens a block, every failure blames a token of another segment. -/
theorem errors_delimited :
    (∀ (tokens : List Token) (file : String) (limit : Nat),
      (readTokens tokens file limit).errors.length ≤
        1 + (beforeEnd tokens).countP fun token => token.kind.isDelimiter) ∧
    ∀ (tokens : List Token) (file : String) (limit : Nat),
      (∀ token ∈ beforeEnd tokens, token.kind ≠ .openCurly) →
        ∃ indices, Attribution (throughEnd tokens file) (beforeEnd tokens).length
            (readTokens tokens file limit).errors indices ∧
          indices.Pairwise fun earlier later =>
            segment (throughEnd tokens file) earlier < segment (throughEnd tokens file) later :=
  ⟨errors_le_delimiters, exists_segments⟩

/-- Three of the four segments have a failure, and the first has several reasons for one. -/
def segmentedScript : List Token :=
  tokenize "let = ) @; 2 +; x; let y" "segments"

theorem errors_segmentedScript :
    (∀ token ∈ beforeEnd segmentedScript, token.kind ≠ .openCurly) ∧
      (readTokens segmentedScript "segments" 8).errors.length = 3 ∧
        ∃ indices, Attribution (throughEnd segmentedScript "segments")
            (beforeEnd segmentedScript).length
            (readTokens segmentedScript "segments" 8).errors indices ∧
          indices.Pairwise fun earlier later =>
            segment (throughEnd segmentedScript "segments") earlier <
              segment (throughEnd segmentedScript "segments") later := by
  have braceless : ∀ token ∈ beforeEnd segmentedScript, token.kind ≠ .openCurly := by
    decide +kernel
  exact ⟨braceless, by decide +kernel, errors_delimited.2 segmentedScript "segments" 8 braceless⟩

end ScriptFrontend
