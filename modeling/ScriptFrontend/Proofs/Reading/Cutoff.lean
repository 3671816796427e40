/-
This file compares readings under different limits of nesting.
-/

import Mathlib.Data.Nat.Find
import ScriptFrontend.Proofs.Reading.Invariance
import ScriptFrontend.Proofs.Reading.Passage
import ScriptFrontend.Proofs.Reading.Placement
import ScriptFrontend.Script

namespace ScriptFrontend

namespace Rule

/-- The state that is left with an outcome. -/
def left {α : Type} : Outcome α → State
  | .ok _ after => after
  | .error _ after => after

theorem Overflows.of_left {α : Type} {limit : Nat} {outcome : Outcome α}
    (deep : (left outcome).TooDeep limit) : Overflows limit outcome := by
  cases outcome with
  | ok value after => exact deep
  | error failure after => exact .inr deep

/-- The second outcome is that of a higher limit. Either it is the same and no lack of room came up,
or the first one overflowed behind as many tokens as there was room for. -/
inductive Cut (limit room : Nat) (α : Type) (state : State) : Outcome α → Outcome α → Prop where
  | same {outcome : Outcome α} (reaches : state.Reaches (left outcome))
      (kept : ∀ bound, Overflows bound outcome → state.TooDeep bound) :
      Cut limit room α state outcome outcome
  | deep {first second : Outcome α} (reaches : state.Reaches (left first))
      (overflows : Overflows limit first)
      (far : state.cursor.index + room ≤ (left first).cursor.index) :
      Cut limit room α state first second

namespace Cut

variable {limit room : Nat} {α β : Type} {state after : State} {first second : Outcome α}

theorem reaches (cut : Cut limit room α state first second) : state.Reaches (left first) := by
  cases cut with
  | same reaches => exact reaches
  | deep reaches => exact reaches

theorem same_or_deep (cut : Cut limit room α state first second) :
    (first = second ∧ ∀ bound, Overflows bound first → state.TooDeep bound) ∨
      (Overflows limit first ∧ state.cursor.index + room ≤ (left first).cursor.index) := by
  cases cut with
  | same _ kept => exact .inl ⟨rfl, kept⟩
  | deep _ overflows far => exact .inr ⟨overflows, far⟩

/-- What was done before without lack of room is added in front. -/
theorem behind (onward : state.Reaches after)
    (kept : ∀ bound, after.TooDeep bound → state.TooDeep bound)
    (cut : Cut limit room α after first second) : Cut limit room α state first second := by
  cases cut with
  | same reaches keptAfter =>
    exact .same (onward.trans reaches) fun bound overflows => kept bound (keptAfter bound overflows)
  | deep reaches overflows far =>
    have moved := onward.index_le
    exact .deep (onward.trans reaches) overflows (by omega)

theorem ok (value : α) (onward : state.Reaches after) (errors : after.errors = state.errors) :
    Cut limit room α state (.ok value after) (.ok value after) := by
  apply Cut.same onward
  intro bound overflows
  have deep : after.TooDeep bound := overflows
  rwa [State.TooDeep, errors] at deep

theorem blame {failure : Diagnostic} (shallow : ¬ failure.IsTooDeep) :
    Cut limit room α state (.error failure state) (.error failure state) := by
  apply Cut.same (.refl state)
  intro bound overflows
  obtain problem | deep := overflows
  · exact absurd ⟨bound, problem⟩ shallow
  · exact deep

theorem bind {rule other : Rule α} {next otherNext : α → Rule β}
    (start : Cut limit room α state (rule state) (other state))
    (rest : ∀ value middle, rule state = .ok value middle →
      Cut limit room β middle (next value middle) (otherNext value middle)) :
    Cut limit room β state ((rule >>= next) state) ((other >>= otherNext) state) := by
  rw [bind_apply, bind_apply]
  generalize started : rule state = outcome at start rest
  generalize other state = otherOutcome at start
  cases start with
  | same reaches kept =>
    cases outcome with
    | error failure after => exact .same reaches kept
    | ok value middle => exact (rest value middle rfl).behind reaches kept
  | deep reaches overflows far =>
    cases outcome with
    | error failure after => exact .deep reaches overflows far
    | ok value middle =>
      -- The two readings may have parted, so only the end of the first one is known.
      have onward := (rest value middle rfl).reaches
      have deep : State.TooDeep limit middle := overflows
      exact .deep (State.Reaches.trans reaches onward) (.of_left (deep.mono onward))
        (Nat.le_trans far onward.index_le)

theorem attempt {rule other : Rule Statement} (closing : Token.Kind)
    (cut : Cut limit room Statement state (rule state) (other state)) :
    Cut limit room (Option Statement) state (attempt closing rule state)
      (attempt closing other state) := by
  have recorded := @Overflows.attempt limit closing rule state
  revert recorded
  unfold Rule.attempt
  generalize rule state = outcome at cut
  generalize other state = otherOutcome at cut
  intro recorded
  have skipped (failure : Diagnostic) (failed : State) : failed.Reaches
      ((failed.record failure).resynchronize state.cursor.index closing) :=
    (State.Reaches.record failure failed).trans (.resynchronize _ _ _)
  cases cut with
  | same reaches kept =>
    cases outcome with
    | ok tree after => exact .same reaches kept
    | error failure after =>
      refine .same (State.Reaches.trans reaches (skipped failure after)) ?_
      intro bound deep
      apply kept bound
      obtain ⟨found, member, problem⟩ := deep
      rw [State.errors_resynchronize] at member
      simp only [State.record, Array.toList_push, List.mem_append, List.mem_singleton] at member
      obtain before | rfl := member
      · exact .inr ⟨found, before, problem⟩
      · exact .inl problem
  | deep reaches overflows far =>
    refine .deep ?_ (recorded overflows) ?_
    · cases outcome with
      | ok tree after => exact reaches
      | error failure after => exact State.Reaches.trans reaches (skipped failure after)
    · cases outcome with
      | ok tree after => exact far
      | error failure after => exact Nat.le_trans far (skipped failure after).index_le

variable {inner other : Nested}
  (each : ∀ begun : State, begun.current.kind ≠ .endOfInput →
    Cut limit room Statement begun (statement inner begun) (statement other begun))
include each

theorem statementsIn (closing : Token.Kind) (rounds : Nat) (state : State) :
    Cut limit room (List Statement) state (statementsIn inner closing rounds state)
      (statementsIn other closing rounds state) := by
  induction rounds generalizing state with
  | zero => exact ok [] (.refl state) rfl
  | succ rounds ih =>
    rw [statementsIn_succ, statementsIn_succ, bind_apply, bind_apply, current_apply]
    dsimp only
    split
    · exact ok [] (.refl state) rfl
    · next goesOn =>
      have attempted := (each state fun ended => goesOn (.inl ended)).attempt closing
      exact bind attempted fun _ middle _ => bind (ih middle) fun _ after _ =>
        ok _ (.refl after) rfl

theorem statementsUntil (closing : Token.Kind) (state : State) :
    Cut limit room (List Statement) state (statementsUntil inner closing state)
      (statementsUntil other closing state) :=
  statementsIn each closing state.cursor.ahead.length state

theorem enclosed (state : State) :
    Cut limit room (List Statement) state (enclosed inner state) (enclosed other state) := by
  apply bind (statementsUntil each .closeCurly state)
  intro trees last _
  rw [bind_apply, expect_apply]
  by_cases closes : last.current.kind = .closeCurly
  · rw [if_pos closes]
    exact ok trees (.advance last) rfl
  · rw [if_neg closes]
    exact blame nofun

end Cut

theorem cut_compatible (limit : Nat) : Compatible (Cut limit) where
  ok value state := Cut.ok value (.refl state) rfl
  blame _ _ shallow := Cut.blame shallow
  bind := Cut.bind
  note event _ _ _ cut := cut.behind (.note event _) fun _ deep => deep
  take := by
    intro room α state first second present cut
    have moved : state.advance.cursor.index = state.cursor.index + 1 :=
      Cursor.index_advance (Cursor.ahead_ne_nil_of_kind present)
    cases cut with
    | same reaches kept => exact .same ((State.Reaches.advance state).trans reaches) kept
    | deep reaches overflows far =>
      exact .deep ((State.Reaches.advance state).trans reaches) overflows (by omega)
  weaken := by
    intro room α state first second cut
    cases cut with
    | same reaches kept => exact .same reaches kept
    | deep reaches overflows far => exact .deep reaches overflows (by omega)
  enclosed := Cut.enclosed

/-- A higher limit reads the same statements unless the lower one cuts them off behind at least as
many tokens as it allows levels. -/
theorem cut_statementsUntil (limit extra : Nat) (closing : Token.Kind) (state : State) :
    Cut limit limit (List Statement) state
      (statementsUntil (Nested.within limit limit) closing state)
      (statementsUntil (Nested.within (extra + limit) (extra + limit)) closing state) := by
  have exhausted : (Nested.within limit 0).Meets (Cut limit 0)
      (Nested.within (extra + limit) extra) :=
    ⟨fun _ begun => .deep (.refl begun) (overflows_tooDeep limit begun) (Nat.le_refl _),
      fun begun => .deep (.refl begun) (overflows_tooDeep limit begun) (Nat.le_refl _)⟩
  have deeper := (cut_compatible limit).within exhausted limit
  exact Cut.statementsUntil (fun begun _ => (cut_compatible limit).statement deeper begun) closing
    state

/-- The first end mark stays where it is, because no rule consumes it. -/
theorem endIndex_invariant (index : Nat) :
    Invariant (fun state => state.cursor.endIndex = index)
      fun _ state => state.cursor.endIndex = index where
  note _ here := here
  take here present := (Cursor.endIndex_advance present).trans here
  pause _ here := here
  resume here _ := here
  fail := by
    intro origin state failure closing begun goesOn here _ _
    have present : origin.current.kind ≠ .endOfInput := fun ended => goesOn (.inl ended)
    have sameEnd : (state.record failure).cursor.endIndex = origin.cursor.endIndex :=
      here.trans begun.symm
    rw [State.endIndex_resynchronize present sameEnd]
    exact here
  close := by
    intro state here closes
    rw [← here]
    apply Cursor.endIndex_advance
    change state.current.kind ≠ .endOfInput
    rw [closes]
    decide

end Rule

theorem readTokens_congr {tokens : List Token} {file : String} {limit other : Nat}
    (same : Rule.statementsUntil (.within limit limit) .endOfInput (.ofTokens tokens file) =
      Rule.statementsUntil (.within other other) .endOfInput (.ofTokens tokens file)) :
    readTokens tokens file limit = readTokens tokens file other := by
  obtain ⟨statements, final⟩ := EStateM.Result.ok.inj same
  have equal : (Rule.State.ofTokens tokens file).statementsUntil (.within limit limit) .endOfInput =
      (Rule.State.ofTokens tokens file).statementsUntil (.within other other) .endOfInput :=
    Prod.ext statements final
  unfold readTokens
  dsimp only
  rw [equal]

/-- A limit suffices for tokens when no failure tells of a lack of room under it. -/
def LimitSuffices (tokens : List Token) (file : String) (limit : Nat) : Prop :=
  ∀ failure ∈ (readTokens tokens file limit).errors, ¬ failure.IsTooDeep

/-- Where the limit is too low, tokens before the first end mark took all of its levels, and
otherwise no higher limit changes anything. -/
theorem readTokens_cut (tokens : List Token) (file : String) (limit : Nat) :
    ((∀ higher ≥ limit, readTokens tokens file higher = readTokens tokens file limit) ∧
        LimitSuffices tokens file limit) ∨
      (limit ≤ (beforeEnd tokens).length ∧
        ∃ failure ∈ (readTokens tokens file limit).errors,
          failure.problem = .nestingTooDeep limit) := by
  let begun := Rule.State.ofTokens tokens file
  let last := (begun.statementsUntil (.within limit limit) .endOfInput).2
  have fresh (bound : Nat) : ¬ begun.TooDeep bound := nofun
  have cut (extra : Nat) :=
    (Rule.cut_statementsUntil limit extra .endOfInput begun).same_or_deep
  by_cases deep : last.TooDeep limit
  · refine .inr ⟨?_, deep⟩
    have ended : last.cursor.endIndex = (beforeEnd tokens).length :=
      (Rule.endIndex_invariant _).statementsUntil limit limit .endOfInput
        (Cursor.endIndex_ofTokens tokens file)
    -- A reading compared with itself shows how far it went before it overflowed.
    obtain ⟨-, kept⟩ | ⟨-, far⟩ := cut 0
    · exact absurd (kept limit deep) (fresh limit)
    · have begins : begun.cursor.index = 0 := Cursor.index_ofTokens tokens file
      rw [begins, Nat.zero_add] at far
      rw [← ended]
      exact Nat.le_trans far last.cursor.index_le_endIndex
  · refine .inl ⟨?_, ?_⟩
    · intro higher above
      obtain ⟨extra, rfl⟩ := Nat.exists_eq_add_of_le' above
      obtain ⟨same, -⟩ | ⟨overflows, -⟩ := cut extra
      · exact (readTokens_congr same).symm
      · exact absurd overflows deep
    · intro failure member tooDeep
      obtain ⟨bound, problem⟩ := tooDeep
      obtain ⟨-, kept⟩ | ⟨overflows, -⟩ := cut 0
      · exact fresh bound (kept bound ⟨failure, member, problem⟩)
      · exact deep overflows

theorem limitSuffices_succ_length (tokens : List Token) (file : String) :
    LimitSuffices tokens file ((beforeEnd tokens).length + 1) := by
  obtain ⟨-, shallow⟩ | ⟨low, -⟩ := readTokens_cut tokens file ((beforeEnd tokens).length + 1)
  · exact shallow
  · omega

/-- There is a least limit under which all statements are read as under any higher one, and it is at
most one more than the number of tokens. Every lower limit is reported as too low. -/
theorem exists_limit_readTokens_eq (tokens : List Token) (file : String) :
    ∃ least ≤ (beforeEnd tokens).length + 1, ∃ reading,
      (∀ limit ≥ least, readTokens tokens file limit = reading) ∧
        (∀ failure ∈ reading.errors, ¬ failure.IsTooDeep) ∧
          ∀ limit < least, ∃ failure ∈ (readTokens tokens file limit).errors,
            failure.problem = .nestingTooDeep limit := by
  classical
  have enough := limitSuffices_succ_length tokens file
  have some : ∃ limit, LimitSuffices tokens file limit := ⟨_, enough⟩
  refine ⟨Nat.find some, Nat.find_min' some enough, readTokens tokens file (Nat.find some), ?_,
    Nat.find_spec some, ?_⟩
  · obtain ⟨same, -⟩ | ⟨-, failure, member, problem⟩ :=
      readTokens_cut tokens file (Nat.find some)
    · exact same
    · exact absurd ⟨_, problem⟩ (Nat.find_spec some failure member)
  · intro limit below
    obtain ⟨-, shallow⟩ | ⟨-, deep⟩ := readTokens_cut tokens file limit
    · exact absurd shallow (Nat.find_min some below)
    · exact deep

end ScriptFrontend
