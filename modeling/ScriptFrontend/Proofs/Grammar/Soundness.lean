/-
This file shows that every tree that is read has a derivation from tokens of the script.
-/

import ScriptFrontend.Proofs.Grammar.Operators
import ScriptFrontend.Proofs.Reading.Economy
import ScriptFrontend.Script

namespace ScriptFrontend

/-- Where nothing has failed, the statements next to each other are apart. After a failure this is
not known, because what failed may have stood between them. -/
inductive Adjacency.Known : Adjacency → Rule.State → Prop where
  | free {state : Rule.State} : Known .free state
  | apart {state : Rule.State} (accepted : state.errors = #[]) : Known .apart state

theorem Adjacency.Known.before {adjacency : Adjacency} {before after : Rule.State}
    (known : adjacency.Known after) (reaches : before.Reaches after) : adjacency.Known before := by
  cases known with
  | free => exact .free
  | apart accepted =>
    have earlier := reaches.errors
    rw [accepted] at earlier
    exact .apart (Array.toList_inj.1 (List.prefix_nil.1 earlier))

namespace Rule

/-- A tree that was read is derived from the used tokens. The first of them was the current token,
and the last of them was consumed last. -/
structure Derived (adjacency : Adjacency) (phrase : Phrase) (before : State) (used : List Token)
    (after : State) : Prop where
  derives : ∃ need, Derives adjacency phrase used need
  reads : Reads before used after
  ends : EndsAt used after
  begins : used.head? = some before.current

theorem reads_semicolon {state after : State} {found : Bool}
    (read : skipOptional .semicolon state = .ok found after) :
    ∃ ending, Ending found ending ∧ Reads state ending after ∧
      (∀ {used}, EndsAt used state → EndsAt (used ++ ending) after) ∧
      (found = false → after = state) := by
  obtain ⟨rfl, token, kind, reads, lastEnd⟩ | ⟨rfl, rfl⟩ := reads_skipOptional (by decide) read
  · exact ⟨[token], .present kind, reads, fun _ => .append _ ⟨token, rfl, lastEnd⟩, nofun⟩
  · refine ⟨[], .absent, .refl _, fun ends => ?_, fun _ => rfl⟩
    rwa [List.append_nil]

end Rule

/-- The rules of a deeper level are sound when what they read is derived, and an expression ends
where no operator binds tighter than its power. -/
structure Nested.Sound (adjacency : Adjacency) (inner : Nested) : Prop where
  expression : ∀ {power state after tree}, adjacency.Known after →
    inner.expression power state = .ok tree after →
    ∃ used, Rule.Derived adjacency (.expression power.operand tree) state used after ∧
      ¬ power < after.current.kind.strength
  block : ∀ {state after tree}, adjacency.Known after → inner.block state = .ok tree after →
    ∃ used, Rule.Derived adjacency (.block tree) state used after

namespace Rule

-- A rule is taken apart from its last step on, because what is known at its end is known before.
section Expressions

variable {adjacency : Adjacency} {inner : Nested} (sound : inner.Sound adjacency)
  {state after : State} {tree : Expression}
include sound

omit sound in
theorem derived_literal (read : literal state = .ok tree after) :
    ∃ used, Derived adjacency (.expression .atom tree) state used after := by
  obtain ⟨rfl, shape⟩ := literal_eq_ok read
  have present : state.current.kind ≠ .endOfInput := by
    rcases shape with ⟨_, kind, -⟩ | ⟨kind, -⟩ | ⟨kind, -⟩ | ⟨kind, -⟩ <;> rw [kind] <;> decide
  obtain ⟨reads, lastEnd⟩ := Reads.advance present
  refine ⟨[state.current], ⟨1, ?_⟩, reads, ⟨state.current, rfl, lastEnd⟩, rfl⟩
  rcases shape with ⟨value, kind, denoted, rfl⟩ | ⟨kind, rfl⟩ | ⟨kind, rfl⟩ | ⟨kind, rfl⟩
  · exact .integer kind denoted
  · exact .identifier kind
  · exact .truth kind
  · exact .truth kind

theorem derived_unary (known : adjacency.Known after)
    (operation : state.current.kind = .not ∨ state.current.kind = .dash)
    (read : unary inner state = .ok tree after) :
    ∃ used, Derived adjacency (.expression .unary tree) state used after ∧
      ¬ .unary < after.current.kind.strength := by
  obtain ⟨operator, started, advanced, rest⟩ := bind_eq_ok.1 read
  obtain ⟨operand, middle, valued, finished⟩ := bind_eq_ok.1 rest
  cases advanced
  cases finished
  obtain ⟨used, ⟨⟨need, derived⟩, reads, ends, -⟩, stops⟩ := sound.expression known valued
  have present : state.current.kind ≠ .endOfInput := by
    rcases operation with kind | kind <;> rw [kind] <;> decide
  exact ⟨state.current :: used, ⟨⟨_, .unary operation derived⟩,
    (Reads.advance present).1.trans reads, ends.cons _, rfl⟩, stops⟩

theorem derived_grouping (known : adjacency.Known after)
    (opens : state.current.kind = .openParen) (read : grouping inner state = .ok tree after) :
    ∃ used, Derived adjacency (.expression .atom tree) state used after := by
  obtain ⟨opening, started, advanced, rest⟩ := bind_eq_ok.1 read
  obtain ⟨expression, middle, valued, rest⟩ := bind_eq_ok.1 rest
  obtain ⟨closing, last, closed, finished⟩ := bind_eq_ok.1 rest
  cases advanced
  cases finished
  obtain ⟨closes, readsClosing, lastEnd⟩ := reads_expect (by decide) closed
  obtain ⟨used, ⟨⟨need, derived⟩, reads, -, -⟩, -⟩ :=
    sound.expression (known.before readsClosing.reaches) valued
  have readsFirst := Reads.token opens (by decide)
  refine ⟨state.current :: (used ++ [closing]), ⟨_, .grouping opens closes derived⟩,
    readsFirst.trans (reads.trans readsClosing), ?_, rfl⟩
  exact .cons _ (.append used ⟨closing, rfl, lastEnd⟩)

theorem derived_alternative {tree : Option Block} (known : adjacency.Known after)
    (read : alternative inner state = .ok tree after) :
    ∃ others need, Derives adjacency (.alternative tree) others need ∧ Reads state others after ∧
      ∀ {used}, EndsAt used state → EndsAt (used ++ others) after := by
  obtain ⟨found, started, skipped, rest⟩ := bind_eq_ok.1 read
  obtain ⟨rfl, token, keyword, reads, -⟩ | ⟨rfl, rfl⟩ := reads_skipOptional (by decide) skipped
  · obtain ⟨block, middle, blocked, finished⟩ := bind_eq_ok.1 rest
    cases finished
    obtain ⟨others, ⟨need, derived⟩, readsOthers, ends, -⟩ := sound.block known blocked
    exact ⟨token :: others, _, .alternative keyword derived, reads.trans readsOthers,
      fun _ => .append _ (ends.cons _)⟩
  · cases rest
    refine ⟨[], _, .noAlternative, .refl _, fun ends => ?_⟩
    rwa [List.append_nil]

theorem derived_conditional (known : adjacency.Known after)
    (keyword : state.current.kind = .ifKeyword) (read : conditional inner state = .ok tree after) :
    ∃ used, Derived adjacency (.expression .atom tree) state used after := by
  obtain ⟨token, started, advanced, rest⟩ := bind_eq_ok.1 read
  obtain ⟨opening, opened, openingRead, rest⟩ := bind_eq_ok.1 rest
  obtain ⟨condition, conditioned, conditionRead, rest⟩ := bind_eq_ok.1 rest
  obtain ⟨closing, closed, closingRead, rest⟩ := bind_eq_ok.1 rest
  obtain ⟨consequence, middle, consequenceRead, rest⟩ := bind_eq_ok.1 rest
  obtain ⟨alternative, last, alternativeRead, rest⟩ := bind_eq_ok.1 rest
  obtain ⟨stop, final, stopRead, finished⟩ := bind_eq_ok.1 rest
  cases advanced
  cases stopRead
  cases finished
  obtain ⟨otherTokens, _, otherPart, readsOther, endsOther⟩ :=
    derived_alternative sound known alternativeRead
  have blockKnown := known.before readsOther.reaches
  obtain ⟨blockTokens, ⟨_, blockPart⟩, readsBlock, endsBlock, -⟩ :=
    sound.block blockKnown consequenceRead
  obtain ⟨closes, readsClosing, -⟩ := reads_expect (by decide) closingRead
  obtain ⟨conditionTokens, ⟨⟨_, conditionPart⟩, readsCondition, -, -⟩, -⟩ :=
    sound.expression ((blockKnown.before readsBlock.reaches).before readsClosing.reaches) conditionRead
  obtain ⟨opens, readsOpening, -⟩ := reads_expect (by decide) openingRead
  have readsFirst := Reads.token keyword (by decide)
  have ends := endsOther endsBlock
  rw [lastEnd_of_alternative blockPart otherPart ends]
  refine ⟨_, ⟨_, .conditional keyword opens closes conditionPart blockPart otherPart⟩, ?_, ?_, rfl⟩
  · exact readsFirst.trans (readsOpening.trans (readsCondition.trans
      (readsClosing.trans (readsBlock.trans readsOther))))
  · exact .cons _ (.cons _ (.append _ (ends.cons _)))

/-- What holds of lists of items and their tokens, where any two items have a comma between them. -/
structure Joins {α : Type} (one : α → List Token → Prop) (many : List α → List Token → Prop) :
    Prop where
  nothing : many [] []
  last : ∀ {value used}, one value used → many [value] used
  more : ∀ {value others used otherTokens} {comma : Token}, comma.kind = .comma → others ≠ [] →
    one value used → many others otherTokens → many (value :: others) (used ++ comma :: otherTokens)

omit sound in
theorem reads_separatedIn {α : Type} {item : Rule α} {one : α → List Token → Prop}
    {many : List α → List Token → Prop} (joins : Joins one many)
    (each : ∀ {state after value}, adjacency.Known after → item state = .ok value after →
      ∃ used, one value used ∧ Reads state used after)
    {rounds : Nat} {state after : State} {values : List α} (known : adjacency.Known after)
    (read : separatedIn item rounds state = .ok values after) :
    values ≠ [] ∧ ∃ used, many values used ∧ Reads state used after := by
  induction rounds generalizing state values with
  | zero =>
    obtain ⟨value, middle, valued, finished⟩ := bind_eq_ok.1 read
    cases finished
    obtain ⟨used, holds, reads⟩ := each known valued
    exact ⟨by simp, used, joins.last holds, reads⟩
  | succ rounds ih =>
    obtain ⟨value, middle, valued, rest⟩ := bind_eq_ok.1 read
    obtain ⟨found, next, skipped, continued⟩ := bind_eq_ok.1 rest
    obtain ⟨rfl, comma, kind, readsComma, -⟩ | ⟨rfl, rfl⟩ :=
      reads_skipOptional (by decide) skipped
    · obtain ⟨others, final, othersRead, finished⟩ := bind_eq_ok.1 continued
      cases finished
      obtain ⟨present, otherTokens, holdsOthers, readsOthers⟩ := ih othersRead
      have middleKnown := (known.before readsOthers.reaches).before readsComma.reaches
      obtain ⟨used, holds, reads⟩ := each middleKnown valued
      exact ⟨by simp, _, joins.more kind present holds holdsOthers,
        reads.trans (readsComma.trans readsOthers)⟩
    · cases continued
      obtain ⟨used, holds, reads⟩ := each known valued
      exact ⟨by simp, used, joins.last holds, reads⟩

omit sound in
theorem reads_parenthesized {α : Type} {item : Rule α} {one : α → List Token → Prop}
    {many : List α → List Token → Prop} (joins : Joins one many)
    (each : ∀ {state after value}, adjacency.Known after → item state = .ok value after →
      ∃ used, one value used ∧ Reads state used after)
    {state after : State} {values : List α} (known : adjacency.Known after)
    (read : parenthesized item state = .ok values after) :
    ∃ (used : List Token) (closing : Token), many values used ∧ closing.kind = .closeParen ∧
      Reads state (used ++ [closing]) after ∧ after.cursor.lastEnd = closing.span.stop := by
  obtain ⟨items, middle, listRead, rest⟩ := bind_eq_ok.1 read
  obtain ⟨closing, final, closingRead, finished⟩ := bind_eq_ok.1 rest
  cases finished
  obtain ⟨closes, readsClosing, lastEnd⟩ := reads_expect (by decide) closingRead
  rw [listed, bind_apply, current_apply] at listRead
  dsimp only at listRead
  split at listRead
  · cases listRead
    exact ⟨[], closing, joins.nothing, closes, readsClosing, lastEnd⟩
  · obtain ⟨-, used, holds, reads⟩ :=
      reads_separatedIn joins each (known.before readsClosing.reaches) listRead
    exact ⟨used, closing, holds, closes, reads.trans readsClosing, lastEnd⟩

omit sound in
theorem joins_parameters :
    Joins (fun (name : Token) used => name.kind = .identifier ∧ used = [name])
      fun names used => Derives adjacency (.parameters names) used 0 where
  nothing := .noParameters
  last name := by
    obtain ⟨kind, rfl⟩ := name
    exact .lastParameter kind
  more separator present name others := by
    obtain ⟨kind, rfl⟩ := name
    exact .moreParameters kind separator present others

omit sound in
theorem joins_arguments :
    Joins (fun argument used => ∃ need, Derives adjacency (.expression .equality argument) used need)
      fun arguments used => ∃ need, Derives adjacency (.arguments arguments) used need where
  nothing := ⟨_, .noArguments⟩
  last argument := by
    obtain ⟨_, part⟩ := argument
    exact ⟨_, .lastArgument part⟩
  more separator present argument others := by
    obtain ⟨_, part⟩ := argument
    obtain ⟨_, otherParts⟩ := others
    exact ⟨_, .moreArguments separator present part otherParts⟩

theorem derived_function (known : adjacency.Known after)
    (keyword : state.current.kind = .functionKeyword) (read : function inner state = .ok tree after) :
    ∃ used, Derived adjacency (.expression .atom tree) state used after := by
  obtain ⟨token, started, advanced, rest⟩ := bind_eq_ok.1 read
  obtain ⟨opening, opened, openingRead, rest⟩ := bind_eq_ok.1 rest
  obtain ⟨names, named, namesRead, rest⟩ := bind_eq_ok.1 rest
  obtain ⟨body, middle, bodyRead, rest⟩ := bind_eq_ok.1 rest
  obtain ⟨stop, final, stopRead, finished⟩ := bind_eq_ok.1 rest
  cases advanced
  cases stopRead
  cases finished
  obtain ⟨bodyTokens, ⟨_, bodyPart⟩, readsBody, endsBody, -⟩ := sound.block known bodyRead
  obtain ⟨nameTokens, closing, namesPart, closes, readsNames, -⟩ :=
    reads_parenthesized joins_parameters (fun _ nameRead => by
      obtain ⟨kind, reads, -⟩ := reads_expect (by decide) nameRead
      exact ⟨_, ⟨kind, rfl⟩, reads⟩) (known.before readsBody.reaches) namesRead
  obtain ⟨opens, readsOpening, -⟩ := reads_expect (by decide) openingRead
  have readsFirst := Reads.token keyword (by decide)
  rw [lastEnd_of_block bodyPart endsBody]
  refine ⟨_, ⟨_, .function keyword opens closes namesPart bodyPart⟩, ?_, ?_, rfl⟩
  · have reads := readsFirst.trans (readsOpening.trans (readsNames.trans readsBody))
    simpa using reads
  · exact .cons _ (.cons _ (.append _ (endsBody.cons _)))

/-- An expression that has just been opened can be extended by every operator that may follow it. -/
theorem derived_opening (known : adjacency.Known after)
    (read : opening inner state = .ok tree after) :
    ∃ stratum used, Derived adjacency (.expression stratum tree) state used after ∧
      Stratum.unary.rank ≤ stratum.rank ∧ after.current.kind.strength.rank ≤ stratum.rank := by
  have atom {used : List Token}
      (derived : Derived adjacency (.expression .atom tree) state used after) :
      ∃ stratum used, Derived adjacency (.expression stratum tree) state used after ∧
        Stratum.unary.rank ≤ stratum.rank ∧ after.current.kind.strength.rank ≤ stratum.rank :=
    ⟨.atom, used, derived, by decide,
      Nat.le_trans (BindingPower.rank_le_call _) (by decide)⟩
  rw [opening_apply] at read
  split at read
  · next rule dispatched =>
    have kind := RuleTable.leading_eq_some_iff.1 dispatched
    cases rule with
    | literal =>
      obtain ⟨used, derived⟩ := derived_literal read
      exact atom derived
    | unary =>
      have operation : state.current.kind = .not ∨ state.current.kind = .dash := by
        simpa [LeadingRule.kinds] using kind
      obtain ⟨used, derived, stops⟩ := derived_unary sound known operation read
      exact ⟨.unary, used, derived, Nat.le_refl _, Nat.le_of_not_lt stops⟩
    | grouping =>
      obtain ⟨used, derived⟩ := derived_grouping sound known (List.mem_singleton.1 kind) read
      exact atom derived
    | conditional =>
      obtain ⟨used, derived⟩ := derived_conditional sound known (List.mem_singleton.1 kind) read
      exact atom derived
    | function =>
      obtain ⟨used, derived⟩ := derived_function sound known (List.mem_singleton.1 kind) read
      exact atom derived
  · split at read <;> cases read

theorem derived_binary {origin : State} {left : Expression} {stratum : Stratum}
    {used : List Token} {strength : BindingPower} (known : adjacency.Known after)
    (dispatched : RuleTable.standard.following state.current.kind = some (strength, .binary))
    (leftRead : Derived adjacency (.expression stratum left) origin used state)
    (weak : strength.rank ≤ stratum.rank)
    (read : binary inner strength left state = .ok tree after) :
    ∃ level all, Derived adjacency (.expression level tree) origin all after ∧
      level.rank = strength.rank ∧ after.current.kind.strength.rank ≤ level.rank := by
  obtain ⟨operator, started, advanced, rest⟩ := bind_eq_ok.1 read
  obtain ⟨right, middle, rightRead, finished⟩ := bind_eq_ok.1 rest
  cases advanced
  cases finished
  obtain ⟨⟨_, leftPart⟩, readsLeft, -, begins⟩ := leftRead
  obtain ⟨others, ⟨⟨_, rightPart⟩, readsRight, endsRight, -⟩, stops⟩ :=
    sound.expression known rightRead
  obtain ⟨level, operation, rank, next⟩ := RuleTable.operator_of_following dispatched
  have present : state.current.kind ≠ .endOfInput := RuleTable.kind_ne_of_rule dispatched rfl
  have leftFits : Derives adjacency (.expression level left) used _ := leftPart.loosen (by omega)
  have weaker : after.current.kind.strength.rank ≤ strength.rank := Nat.le_of_not_lt stops
  exact ⟨level, _, ⟨⟨_, .binary next operation leftFits rightPart⟩,
    readsLeft.trans ((Reads.advance present).1.trans readsRight),
    .append _ (endsRight.cons _), by rw [List.head?_append, begins]; rfl⟩, rank, by omega⟩

theorem derived_call {origin : State} {callee : Expression} {stratum : Stratum}
    {used : List Token} (known : adjacency.Known after) (opens : state.current.kind = .openParen)
    (calleeRead : Derived adjacency (.expression stratum callee) origin used state)
    (weak : BindingPower.call.rank ≤ stratum.rank)
    (read : call inner callee state = .ok tree after) :
    ∃ all, Derived adjacency (.expression .call tree) origin all after := by
  obtain ⟨opening, started, advanced, rest⟩ := bind_eq_ok.1 read
  obtain ⟨arguments, middle, argumentsRead, rest⟩ := bind_eq_ok.1 rest
  obtain ⟨stop, final, stopRead, finished⟩ := bind_eq_ok.1 rest
  cases advanced
  cases stopRead
  cases finished
  obtain ⟨⟨_, calleePart⟩, readsCallee, -, begins⟩ := calleeRead
  obtain ⟨argumentTokens, closing, ⟨_, argumentsPart⟩, closes, readsArguments, lastEnd⟩ :=
    reads_parenthesized joins_arguments (fun argumentKnown argumentRead => by
      obtain ⟨used, ⟨derived, reads, -, -⟩, -⟩ := sound.expression argumentKnown argumentRead
      exact ⟨used, derived, reads⟩) known argumentsRead
  have readsFirst := Reads.token opens (by decide)
  have calleeFits : Derives adjacency (.expression .call callee) used _ := calleePart.loosen weak
  rw [lastEnd]
  exact ⟨_, ⟨_, .call opens closes calleeFits argumentsPart⟩,
    readsCallee.trans (readsFirst.trans readsArguments),
    .append _ (.cons _ (.append _ ⟨closing, rfl, lastEnd⟩)), by rw [List.head?_append, begins]; rfl⟩

theorem derived_following {origin : State} {left : Expression} {stratum : Stratum}
    {used : List Token} {strength : BindingPower} {rule : FollowingRule}
    (known : adjacency.Known after)
    (dispatched : RuleTable.standard.following state.current.kind = some (strength, rule))
    (leftRead : Derived adjacency (.expression stratum left) origin used state)
    (weak : strength.rank ≤ stratum.rank)
    (read : following inner strength left rule state = .ok tree after) :
    ∃ level all, Derived adjacency (.expression level tree) origin all after ∧
      level.rank = strength.rank ∧ after.current.kind.strength.rank ≤ level.rank := by
  cases rule with
  | binary => exact derived_binary sound known dispatched leftRead weak read
  | call =>
    obtain ⟨opens, rfl⟩ := RuleTable.openParen_of_following dispatched
    obtain ⟨all, derived⟩ := derived_call sound known opens leftRead weak read
    exact ⟨.call, all, derived, rfl, BindingPower.rank_le_call _⟩

/-- The left operand always belongs to a stratum whose operators bind at least as tight as the next
one. Hence each operator that is taken finds its left operand in its own stratum. -/
theorem derived_climb (steady : inner.Steady) (known : adjacency.Known after)
    {power : BindingPower} {rounds : Nat} {origin : State} {left : Expression}
    {stratum : Stratum} {used : List Token}
    (enough : state.cursor.ahead.length ≤ rounds)
    (leftRead : Derived adjacency (.expression stratum left) origin used state)
    (fits : power.operand.rank ≤ stratum.rank)
    (weak : state.current.kind.strength.rank ≤ stratum.rank)
    (read : climb inner power rounds left state = .ok tree after) :
    ∃ all, Derived adjacency (.expression power.operand tree) origin all after ∧
      ¬ power < after.current.kind.strength := by
  -- The operand read so far fits the level asked for: the climb may stop after any round.
  have stopped {state : State} {left : Expression} {stratum : Stratum} {used : List Token}
      (leftRead : Derived adjacency (.expression stratum left) origin used state)
      (fits : power.operand.rank ≤ stratum.rank) (stops : ¬ power < state.current.kind.strength) :
      ∃ all, Derived adjacency (.expression power.operand left) origin all state ∧
        ¬ power < state.current.kind.strength := by
    obtain ⟨⟨_, leftPart⟩, reads, ends, begins⟩ := leftRead
    exact ⟨used, ⟨⟨_, leftPart.loosen fits⟩, reads, ends, begins⟩, stops⟩
  induction rounds generalizing left state stratum used with
  | zero =>
    cases read
    have ended := endOfInput_of_ahead_nil (List.length_eq_zero_iff.1 (Nat.le_zero.1 enough))
    apply stopped leftRead fits
    rw [ended]
    exact BindingPower.not_lt_lowest power
  | succ rounds ih =>
    rw [climb_succ_apply] at read
    split at read
    · next nothing =>
      cases read
      apply stopped leftRead fits
      rw [RuleTable.strength_of_following_none nothing]
      exact BindingPower.not_lt_lowest power
    · next strength rule dispatched =>
      have strong := RuleTable.strength_of_following dispatched
      split at read
      · next tight =>
        obtain ⟨extended, middle, extendedRead, rest⟩ := bind_eq_ok.1 read
        have shorter := length_following_lt steady.forward
          (RuleTable.kind_ne_of_rule dispatched rfl) extendedRead
        have onward := (forward_closed.climb steady.forward power rounds extended).of_ok rest
        obtain ⟨level, all, derived, rank, weaker⟩ :=
          derived_following sound (known.before onward) dispatched leftRead (by rwa [strong] at weak)
            extendedRead
        have looser := power.rank_operand_le_succ
        have tighter : power.rank < strength.rank := tight
        exact ih (by omega) derived (by omega) weaker rest
      · next loose =>
        cases read
        apply stopped leftRead fits
        rwa [strong]

theorem derived_expression (steady : inner.Steady) {power : BindingPower}
    (known : adjacency.Known after) (read : expression inner power state = .ok tree after) :
    ∃ used, Derived adjacency (.expression power.operand tree) state used after ∧
      ¬ power < after.current.kind.strength := by
  obtain ⟨left, middle, opened, rest⟩ := bind_eq_ok.1 read
  have onward : middle.Reaches after := (forward_closed.climb steady.forward power _ left).of_ok rest
  obtain ⟨stratum, used, leftRead, tight, weak⟩ :=
    derived_opening sound (known.before onward) opened
  have fits := Nat.le_trans power.rank_operand_le tight
  exact derived_climb sound steady known (Nat.le_refl _) leftRead fits weak rest

end Expressions

/-- A statement without its semicolon stops in front of a token that cannot continue it. -/
def Stops (tree : Statement) (ended : Bool) (next : Token.Kind) : Prop :=
  ended = false → next.strength = .lowest ∧ (tree.isBareReturn → endsReturn next)

theorem stops_of_value {tree : Statement} {ended : Bool} {middle after : State}
    (valued : tree.isBareReturn = false) (weak : ¬ .lowest < middle.current.kind.strength)
    (same : ended = false → after = middle) : Stops tree ended after.current.kind := by
  intro absent
  rw [same absent, valued]
  exact ⟨BindingPower.eq_lowest_of_not_lt weak, nofun⟩

/-- The statement that stops in front of the first token of others is apart from them. -/
theorem Stops.apart {tree : Statement} {ended : Bool} {next : Token.Kind} {trees : List Statement}
    {used : List Token} {need : Nat} (stops : Stops tree ended next)
    (derived : Derives .apart (.statements trees) used need)
    (head : ∀ token ∈ used.head?, token.kind = next) : Adjacency.apart tree ended used := by
  intro absent
  obtain ⟨weak, bare⟩ := stops absent
  constructor
  · intro token first
    rw [head token first]
    constructor
    · rintro rfl
      cases weak
    · rintro rfl
      cases weak
  · intro nothing
    obtain rfl | ⟨token, others, rfl, begins⟩ := derived.exists_head
    · rfl
    · have ends := bare nothing
      rw [← head token rfl] at ends
      rcases begins with keyword | keyword | ⟨rule, dispatched⟩
      · rw [keyword] at ends
        cases ends
      · rw [keyword] at ends
        cases ends
      · rw [endsReturn_of_leading dispatched] at ends
        cases ends

section Statements

variable {adjacency : Adjacency} {inner : Nested} (sound : inner.Sound adjacency)
  {state after : State}
include sound

theorem derived_binding {tree : Statement} (known : adjacency.Known after)
    (keyword : state.current.kind = .letKeyword) (read : binding inner state = .ok tree after) :
    ∃ ended used, Derived adjacency (.statement tree ended) state used after ∧
      Stops tree ended after.current.kind := by
  obtain ⟨token, started, advanced, rest⟩ := bind_eq_ok.1 read
  obtain ⟨found, seen, foundRead, rest⟩ := bind_eq_ok.1 rest
  obtain ⟨name, named, nameRead, rest⟩ := bind_eq_ok.1 rest
  obtain ⟨equals, assigned, equalsRead, rest⟩ := bind_eq_ok.1 rest
  obtain ⟨value, middle, valueRead, rest⟩ := bind_eq_ok.1 rest
  obtain ⟨ended, last, endRead, rest⟩ := bind_eq_ok.1 rest
  obtain ⟨stop, final, stopRead, finished⟩ := bind_eq_ok.1 rest
  cases advanced
  cases foundRead
  cases stopRead
  cases finished
  obtain ⟨ending, ends, readsEnd, endsAll, same⟩ := reads_semicolon endRead
  obtain ⟨used, ⟨⟨_, part⟩, readsValue, endsValue, -⟩, weak⟩ :=
    sound.expression (known.before readsEnd.reaches) valueRead
  obtain ⟨assigns, readsEquals, -⟩ := reads_expect (by decide) equalsRead
  obtain ⟨kind, readsName, -⟩ := reads_expectOr (by decide) nameRead
  have readsFirst := Reads.token keyword (by decide)
  have endsStatement := (endsAll endsValue).cons equals
  rw [endsStatement.lastEnd_eq]
  exact ⟨ended, _, ⟨⟨_, .binding keyword kind assigns ends part⟩,
    readsFirst.trans (readsName.trans (readsEquals.trans (readsValue.trans readsEnd))),
    .cons _ (.cons _ endsStatement), rfl⟩, stops_of_value rfl weak same⟩

theorem derived_returning {tree : Statement} (known : adjacency.Known after)
    (keyword : state.current.kind = .returnKeyword) (read : returning inner state = .ok tree after) :
    ∃ ended used, Derived adjacency (.statement tree ended) state used after ∧
      Stops tree ended after.current.kind := by
  obtain ⟨token, started, advanced, rest⟩ := bind_eq_ok.1 read
  obtain ⟨value, middle, valueRead, rest⟩ := bind_eq_ok.1 rest
  obtain ⟨ended, last, endRead, rest⟩ := bind_eq_ok.1 rest
  obtain ⟨stop, final, stopRead, finished⟩ := bind_eq_ok.1 rest
  cases advanced
  cases stopRead
  cases finished
  obtain ⟨ending, ends, readsEnd, endsAll, same⟩ := reads_semicolon endRead
  have present : state.current.kind ≠ .endOfInput := by
    rw [keyword]
    decide
  obtain ⟨readsToken, lastEnd⟩ := Reads.advance present
  rw [returned, bind_apply, current_apply] at valueRead
  dsimp only at valueRead
  split at valueRead
  · next bare =>
    cases valueRead
    have endsToken : EndsAt [state.current] state.advance := ⟨state.current, rfl, lastEnd⟩
    have endsStatement := endsAll endsToken
    rw [EndsAt.lastEnd_eq endsStatement]
    refine ⟨ended, _, ⟨⟨_, .bareReturn keyword ends⟩, readsToken.trans readsEnd, endsStatement, rfl⟩,
      fun absent => ?_⟩
    rw [same absent]
    refine ⟨?_, fun _ => bare⟩
    revert bare
    cases state.advance.current.kind <;> decide
  · obtain ⟨expression, valued, expressionRead, finished⟩ := bind_eq_ok.1 valueRead
    cases finished
    obtain ⟨used, ⟨⟨_, part⟩, readsValue, endsValue, -⟩, weak⟩ :=
      sound.expression (known.before readsEnd.reaches) expressionRead
    have endsStatement := (endsAll endsValue).cons state.current
    rw [endsStatement.lastEnd_eq]
    exact ⟨ended, _, ⟨⟨_, .returning keyword ends part⟩,
      readsToken.trans (readsValue.trans readsEnd), endsStatement, rfl⟩,
      stops_of_value rfl weak same⟩

theorem derived_bareExpression {tree : Statement} (known : adjacency.Known after)
    (read : bareExpression inner state = .ok tree after) :
    ∃ ended used, Derived adjacency (.statement tree ended) state used after ∧
      Stops tree ended after.current.kind := by
  obtain ⟨token, seen, currentRead, rest⟩ := bind_eq_ok.1 read
  obtain ⟨expression, middle, valueRead, rest⟩ := bind_eq_ok.1 rest
  obtain ⟨ended, last, endRead, finished⟩ := bind_eq_ok.1 rest
  cases currentRead
  cases finished
  obtain ⟨ending, ends, readsEnd, endsAll, same⟩ := reads_semicolon endRead
  obtain ⟨used, ⟨⟨_, part⟩, readsValue, endsValue, begins⟩, weak⟩ :=
    sound.expression (known.before readsEnd.reaches) valueRead
  cases used with
  | nil => cases begins
  | cons first others =>
    obtain rfl : first = state.current := Option.some.inj begins
    exact ⟨ended, _, ⟨⟨_, .bareExpression ends part⟩, readsValue.trans readsEnd,
      endsAll endsValue, rfl⟩, stops_of_value rfl weak same⟩

theorem derived_statement {tree : Statement} (known : adjacency.Known after)
    (read : statement inner state = .ok tree after) :
    ∃ ended used, Derived adjacency (.statement tree ended) state used after ∧
      Stops tree ended after.current.kind := by
  have noted {event : Event} {tree : Statement} {ended : Bool} {used : List Token}
      (derived : Derived adjacency (.statement tree ended) (state.note event) used after) :
      Derived adjacency (.statement tree ended) state used after :=
    { derived with reads := (Reads.note event state).trans derived.reads }
  rw [statement_apply] at read
  split at read
  · exact derived_bareExpression sound known read
  · next dispatched =>
    have keyword : (state.note (.statementKeyword state.current.kind)).current.kind =
        .letKeyword := RuleTable.keyword_of_statement dispatched
    obtain ⟨ended, used, derived, stops⟩ := derived_binding sound known keyword read
    exact ⟨ended, used, noted derived, stops⟩
  · next dispatched =>
    have keyword : (state.note (.statementKeyword state.current.kind)).current.kind =
        .returnKeyword := RuleTable.keyword_of_statement dispatched
    obtain ⟨ended, used, derived, stops⟩ := derived_returning sound known keyword read
    exact ⟨ended, used, noted derived, stops⟩

/-- A failed statement uses no token, and its failure is recorded. Without failures the statements
begin at the current token. -/
theorem derived_rounds (steady : inner.Steady)
    (saves : ∀ state, Keeping State.Saves Statement state (statement inner))
    {closing : Token.Kind} {trees : List Statement} (known : adjacency.Known after)
    (rounds : Rounds inner closing state trees after) :
    ∃ used need, Derives adjacency (.statements trees) used need ∧ Reads state used after ∧
      (after.errors = #[] → ∀ token ∈ used.head?, token = state.current) := by
  induction rounds with
  | done => exact ⟨[], _, .noStatements, .refl _, fun _ => nofun⟩
  | @read _ _ _ first _ _ outcome _ _ ih =>
    obtain ⟨used, need, derived, reads, head⟩ := ih known
    obtain ⟨ended, firstUsed, ⟨⟨_, part⟩, readsFirst, -, begins⟩, stops⟩ :=
      derived_statement sound (known.before reads.reaches) outcome
    have adjacent : adjacency first ended used := by
      cases known with
      | free => trivial
      | apart accepted =>
        exact stops.apart derived fun token found => by rw [head accepted token found]
    refine ⟨_, _, .moreStatements adjacent part derived, readsFirst.trans reads, ?_⟩
    rintro - token found
    rw [List.head?_append, begins] at found
    exact (Option.some.inj found).symm
  | @failed state middle final failure _ _ outcome passes _ ih =>
    obtain ⟨used, need, derived, reads, -⟩ := ih known
    have saved : state.Saves middle := (saves state).of_error outcome
    have before := ((forward_closed.statement steady.forward).of_error outcome).size_le
    have later := State.size_errors_resynchronize failure state.cursor.index closing middle
    have dropped : Reads state []
        ((middle.record failure).resynchronize state.cursor.index closing) := by
      refine .dropped passes.reaches ?_ (saved.balance_resynchronize_le passes.length_lt)
      intro same
      rw [same] at later
      omega
    refine ⟨used, need, derived, dropped.trans reads, fun accepted => ?_⟩
    have last := reads.reaches.size_le
    rw [accepted, Array.size_empty] at last
    omega

theorem derived_block {tree : Block} (steady : inner.Steady)
    (saves : ∀ state, Keeping State.Saves Statement state (statement inner))
    (known : adjacency.Known after) (read : block inner state = .ok tree after) :
    ∃ used, Derived adjacency (.block tree) state used after := by
  obtain ⟨opening, opened, openingRead, rest⟩ := bind_eq_ok.1 read
  obtain ⟨trees, middle, treesRead, rest⟩ := bind_eq_ok.1 rest
  obtain ⟨closing, closed, closingRead, rest⟩ := bind_eq_ok.1 rest
  obtain ⟨stop, final, stopRead, finished⟩ := bind_eq_ok.1 rest
  cases stopRead
  cases finished
  obtain ⟨closes, readsClosing, lastEnd⟩ := reads_expect (by decide) closingRead
  obtain ⟨used, need, part, reads, -⟩ :=
    derived_rounds sound steady saves (known.before readsClosing.reaches)
      (rounds_of_statementsUntil steady treesRead)
  obtain ⟨opens, readsOpening, -⟩ := reads_expect (by decide) openingRead
  rw [lastEnd]
  refine ⟨_, ⟨_, .block opens closes part⟩,
    readsOpening.trans (reads.trans readsClosing),
    .cons _ (.append _ ⟨closing, rfl, lastEnd⟩), ?_⟩
  rw [current_of_expect openingRead]
  rfl

end Statements

end Rule

/-- Everything that is read at any depth of nesting has a derivation. -/
theorem Nested.sound_within (adjacency : Adjacency) (limit room : Nat) :
    (Nested.within limit room).Sound adjacency := by
  induction room with
  | zero =>
    constructor
    · intro power state after tree _ read
      cases read
    · intro state after tree _ read
      cases read
  | succ room ih =>
    constructor
    · exact Rule.derived_expression ih (Nested.steady_within limit room)
    · exact Rule.derived_block ih (Nested.steady_within limit room) (Rule.saves_statement limit room)

theorem Cursor.ahead_ofTokens_sublist (tokens : List Token) (file : String) :
    (Cursor.ofTokens tokens file).ahead.Sublist tokens := by
  unfold Cursor.ofTokens
  split
  · exact List.nil_sublist tokens
  · split
    · exact List.dropLast_sublist tokens
    · exact .refl tokens

/-- The statements that were read are derived from a part of the tokens, and without failures from
all of them. -/
theorem exists_derivation_of_known {adjacency : Adjacency} (tokens : List Token) (file : String)
    (limit : Nat)
    (known : adjacency = .free ∨ adjacency = .apart ∧ (readTokens tokens file limit).errors = []) :
    ∃ used need,
      Derives adjacency (.statements (readTokens tokens file limit).program.statements) used need ∧
      used.Sublist tokens ∧ ((readTokens tokens file limit).errors = [] → used = beforeEnd tokens) := by
  obtain ⟨final, read, errors⟩ : ∃ final,
      Rule.statementsUntil (.within limit limit) .endOfInput (.ofTokens tokens file) =
        .ok (readTokens tokens file limit).program.statements final ∧
      (readTokens tokens file limit).errors = final.errors.toList := ⟨_, rfl, rfl⟩
  have atEnd : adjacency.Known final := by
    obtain rfl | ⟨rfl, accepted⟩ := known
    · exact .free
    · rw [errors] at accepted
      exact .apart (Array.toList_inj.1 accepted)
  have steady := Nested.steady_within limit limit
  have rounds := Rule.rounds_of_statementsUntil steady read
  obtain ⟨used, need, derived, reads, -⟩ :=
    Rule.derived_rounds (Nested.sound_within adjacency limit limit) steady
      (Rule.saves_statement limit limit) atEnd rounds
  obtain ⟨taken, ahead, sublist, all⟩ := reads.taken
  have inTokens : taken.Sublist tokens := by
    have inAhead : taken.Sublist (Cursor.ofTokens tokens file).ahead := by
      change taken.Sublist (Rule.State.ofTokens tokens file).cursor.ahead
      rw [ahead]
      exact List.sublist_append_left taken _
    exact inAhead.trans (Cursor.ahead_ofTokens_sublist tokens file)
  refine ⟨used, need, derived, sublist.trans inTokens, ?_⟩
  intro accepted
  have same : used = taken := by
    apply all
    apply Array.toList_inj.1
    rw [← errors, accepted]
    rfl
  have present : ∀ token ∈ taken, token.kind ≠ .endOfInput := by
    intro token member
    rw [← same] at member
    exact (derived.admitted token member).present
  -- Reading ends in front of an end mark only, hence nothing before the first one is left.
  have ended : ∀ token ∈ final.cursor.ahead.head?, token.kind = .endOfInput := by
    intro token head
    have ends : final.current.kind = .endOfInput := rounds.ends.elim id id
    have current : final.current = token := by
      rw [Rule.State.current, Cursor.current, List.headD_eq_head?_getD, Option.mem_def.1 head]
      rfl
    rwa [current] at ends
  rw [same, ← Cursor.beforeEnd_ofTokens tokens file]
  change taken = beforeEnd (Rule.State.ofTokens tokens file).cursor.ahead
  rw [ahead, beforeEnd_append present ended]

/-- Whether failures occurred or not, the statements that were read have a derivation. -/
theorem exists_derivation (tokens : List Token) (file : String) (limit : Nat) :
    ∃ used need,
      Derives .free (.statements (readTokens tokens file limit).program.statements) used need ∧
      used.Sublist tokens ∧ ((readTokens tokens file limit).errors = [] → used = beforeEnd tokens) :=
  exists_derivation_of_known tokens file limit (.inl rfl)

/-- Without failures, the statements that are next to each other are apart. -/
theorem exists_derivation_apart {tokens : List Token} {file : String} {limit : Nat}
    (accepted : (readTokens tokens file limit).errors = []) :
    ∃ need, Derives .apart (.statements (readTokens tokens file limit).program.statements)
      (beforeEnd tokens) need := by
  obtain ⟨used, need, derived, -, all⟩ :=
    exists_derivation_of_known tokens file limit (.inr ⟨rfl, accepted⟩)
  rw [all accepted] at derived
  exact ⟨need, derived⟩

/-- A script that is read without failures is derived in the grammar, and the tree has exactly the
nodes of the derivation. Hence its tokens are admitted and its brackets match. -/
theorem derives_of_errors_eq_nil (tokens : List Token) (file : String) (limit : Nat)
    (accepted : (readTokens tokens file limit).errors = []) :
    (∃ need, Derives .free (.statements (readTokens tokens file limit).program.statements)
      (beforeEnd tokens) need) ∧
      (∀ token ∈ beforeEnd tokens, token.Admitted) ∧ Bracketed (beforeEnd tokens) := by
  obtain ⟨used, need, derived, -, all⟩ := exists_derivation tokens file limit
  rw [all accepted] at derived
  exact ⟨⟨need, derived⟩, derived.admitted, derived.bracketed⟩

/-- The tokens of `let x = -a * f(b, 1) < c; if (true) { return }` mix the strata and the
statements. -/
def mixedScript : List Token :=
  Token.row "mixed" [(.letKeyword, "let"), (.identifier, "x"), (.assignment, "="), (.dash, "-"),
    (.identifier, "a"), (.star, "*"), (.identifier, "f"), (.openParen, "("), (.identifier, "b"),
    (.comma, ","), (.integer, "1"), (.closeParen, ")"), (.less, "<"), (.identifier, "c"),
    (.semicolon, ";"), (.ifKeyword, "if"), (.openParen, "("), (.trueKeyword, "true"),
    (.closeParen, ")"), (.openCurly, "\x7b"), (.returnKeyword, "return"), (.closeCurly, "\x7d"),
    (.endOfInput, "EOF"), (.comma, ",")]

/-- The tokens behind the end mark are no part of the derivation. -/
theorem derives_mixedScript : (readTokens mixedScript "mixed" 8).errors = [] ∧
    (∃ need, Derives .free (.statements (readTokens mixedScript "mixed" 8).program.statements)
      (beforeEnd mixedScript) need) ∧
      (∀ token ∈ beforeEnd mixedScript, token.Admitted) ∧ Bracketed (beforeEnd mixedScript) := by
  have accepted : (readTokens mixedScript "mixed" 8).errors = [] := by decide +kernel
  exact ⟨accepted, derives_of_errors_eq_nil mixedScript "mixed" 8 accepted⟩

end ScriptFrontend
