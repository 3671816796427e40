/-
This file says when the rules accept the tokens of a phrase, and shows it for every expression.
-/

import ScriptFrontend.Proofs.Grammar.Growth

namespace ScriptFrontend

/-- A kind of token that no statement without its semicolon takes in. -/
structure Token.Kind.Delimits (kind : Token.Kind) : Prop where
  weak : kind.strength = .lowest
  notElse : kind ≠ .elseKeyword
  notSemicolon : kind ≠ .semicolon

open Rule in
/-- The rules read the tokens of the phrase wherever they are followed by a token that the phrase
cannot take in. -/
def Phrase.Accepted (limit : Nat) : Phrase → List Token → Nat → Prop
  | .expression stratum tree, tokens, need => ∀ {room power state kind},
      State.Faces state tokens kind → kind ≠ .elseKeyword → kind.strength.rank ≤ stratum.rank →
      power.operand.rank ≤ stratum.rank → power ≠ .call →
      GrowsInto limit need room power state tokens tree
  | .arguments trees, tokens, need => ∀ {room},
      Lists limit need (room + 1) ((Nested.within limit room).expression .lowest) tokens trees
  | .parameters names, tokens, need => ∀ {room}, Lists limit need room (expect .identifier) tokens
      names
  | .alternative tree, tokens, need => ∀ {room state kind}, State.Faces state tokens kind →
      kind ≠ .elseKeyword →
      Settles limit need (room + 1) (Rule.alternative (Nested.within limit room)) state tokens tree
  | .block tree, tokens, need => ∀ {room state kind}, State.Faces state tokens kind →
      Settles limit need room (Nested.within limit room).block state tokens tree
  | .statement tree ended, tokens, need => ∀ {room state kind}, State.Faces state tokens kind →
      (ended = false → kind.Delimits ∧ (tree.isBareReturn → endsReturn kind)) →
      Settles limit need room (Rule.statement (Nested.within limit room)) state tokens tree
  | .statements trees, tokens, need => ∀ {room state closing}, State.Faces state tokens closing →
      closing ∈ [.closeCurly, .endOfInput] →
      Settles limit need room (statementsUntil (Nested.within limit room) closing) state tokens trees

namespace Rule

section Expressions

variable {limit room need : Nat} {power : BindingPower} {state : State} {tokens : List Token}
  {tree : Expression} {kind : Token.Kind}

/-- A deeper expression ends before a token that is no stronger than its power. -/
theorem settles_expression
    (accepted : Phrase.Accepted limit (.expression power.operand tree) tokens need)
    (notCall : power ≠ .call) (faces : state.Faces tokens kind) (notElse : kind ≠ .elseKeyword)
    (weak : kind.strength.rank ≤ power.rank) :
    Settles limit need room ((Nested.within limit room).expression power) state tokens tree := by
  have fits := power.rank_le_operand notCall
  have grown : GrowsInto limit need room power state tokens tree :=
    accepted faces notElse (by omega) (Nat.le_refl _) notCall
  apply grown.stop
  intro after passes stronger
  rw [passes.current_kind faces] at stronger
  have strict : power.rank < kind.strength.rank := stronger
  omega

/-- The next token has no power as an operator. -/
theorem settles_lowest (accepted : Phrase.Accepted limit (.expression .equality tree) tokens need)
    (faces : state.Faces tokens kind) (weak : kind.strength = .lowest)
    (notElse : kind ≠ .elseKeyword) :
    Settles limit need room ((Nested.within limit room).expression .lowest) state tokens tree :=
  settles_expression accepted (by decide) faces notElse
    (Nat.le_of_eq (congrArg BindingPower.rank weak))

theorem grows_literal {token : Token} (faces : state.Faces [token] kind)
    (literal : token.kind ∈ LeadingRule.literal.kinds)
    (read : Rule.literal state = .ok tree state.advance) :
    GrowsInto limit 1 room power state [token] tree :=
  .of_leading Nat.one_pos faces literal fun _ => (Settles.of_reads (.advance faces) read).succ

theorem grows_unary {operand : Expression} {operator : Token}
    (operation : operator.kind = .not ∨ operator.kind = .dash)
    (accepted : Phrase.Accepted limit (.expression .unary operand) tokens need)
    (faces : state.Faces (operator :: tokens) kind) (notElse : kind ≠ .elseKeyword)
    (weak : kind.strength.rank ≤ Stratum.unary.rank) :
    GrowsInto limit (need + 1) room power state (operator :: tokens)
      (.unary operator operand ⟨operator.span.start, operand.span.stop⟩) := by
  have leads : operator.kind ∈ LeadingRule.unary.kinds := by
    simpa [LeadingRule.kinds] using operation
  apply GrowsInto.of_leading (Nat.succ_pos need) faces leads
  intro deeper
  apply Settles.advance faces
  apply Settles.succ
  have inside : Settles limit need deeper ((Nested.within limit deeper).expression .unary) _ tokens
      operand := settles_expression accepted (by decide) faces.advance notElse weak
  exact inside.last (fun _ => forward_closed.pure _) fun _ _ => .pure _ _

theorem grows_grouping {opening closing : Token} (opens : opening.kind = .openParen)
    (closes : closing.kind = .closeParen)
    (accepted : Phrase.Accepted limit (.expression .equality tree) tokens need)
    (faces : state.Faces (opening :: (tokens ++ [closing])) kind) :
    GrowsInto limit (need + 1) room power state (opening :: (tokens ++ [closing])) tree := by
  have leads : opening.kind ∈ LeadingRule.grouping.kinds := by simp [LeadingRule.kinds, opens]
  apply GrowsInto.of_leading (Nat.succ_pos need) faces leads
  intro deeper
  apply Settles.advance faces
  apply Settles.succ
  have ahead := faces.advance.take
  rw [closes] at ahead
  have inside : Settles limit need deeper ((Nested.within limit deeper).expression .lowest) _ tokens
      tree := settles_lowest accepted ahead (by decide) (by decide)
  apply Settles.cast _ (Nat.max_zero need)
  apply inside.bind
  · intro _
    exact forward_closed.bind (forward_closed.expect _) fun _ => forward_closed.pure _
  · intro after passes
    exact .expect (passes.faces faces.advance) closes (.pure tree _)

theorem settles_alternative {block : Block} {token : Token}
    (keyword : token.kind = .elseKeyword) (accepted : Phrase.Accepted limit (.block block) tokens need)
    (faces : state.Faces (token :: tokens) kind) :
    Settles limit (need + 1) (room + 1) (alternative (Nested.within limit room)) state
      (token :: tokens) (some block) := by
  apply Settles.skipOptional faces keyword
  have inside : Settles limit need room (Nested.within limit room).block _ tokens block :=
    accepted faces.advance
  exact inside.succ.last (fun _ => forward_closed.pure _) fun _ _ => .pure _ _

theorem grows_conditional {adjacency : Adjacency} {condition : Expression} {consequence : Block}
    {alternative : Option Block} {token opening closing : Token}
    {conditionTokens consequenceTokens alternativeTokens : List Token}
    {conditionNeed consequenceNeed alternativeNeed : Nat}
    (keyword : token.kind = .ifKeyword) (opens : opening.kind = .openParen)
    (closes : closing.kind = .closeParen)
    (consequencePart : Derives adjacency (.block consequence) consequenceTokens consequenceNeed)
    (alternativePart : Derives adjacency (.alternative alternative) alternativeTokens
      alternativeNeed)
    (conditionAccepted : Phrase.Accepted limit (.expression .equality condition) conditionTokens
      conditionNeed)
    (consequenceAccepted : Phrase.Accepted limit (.block consequence) consequenceTokens
      consequenceNeed)
    (alternativeAccepted : Phrase.Accepted limit (.alternative alternative) alternativeTokens
      alternativeNeed)
    (faces : state.Faces (token :: opening ::
      (conditionTokens ++ closing :: (consequenceTokens ++ alternativeTokens))) kind)
    (notElse : kind ≠ .elseKeyword) :
    GrowsInto limit (max (conditionNeed + 1) (max (consequenceNeed + 1) alternativeNeed)) room power
      state (token :: opening ::
        (conditionTokens ++ closing :: (consequenceTokens ++ alternativeTokens)))
      (.conditional token condition consequence alternative
        ⟨token.span.start, (alternative.getD consequence).span.stop⟩) := by
  have leads : token.kind ∈ LeadingRule.conditional.kinds := by simp [LeadingRule.kinds, keyword]
  apply GrowsInto.of_leading (by omega) faces leads
  intro deeper
  have forward := forward_closed.within limit deeper
  have inside := faces.advance.advance
  have ahead := inside.take
  rw [closes] at ahead
  have first : Settles limit conditionNeed deeper ((Nested.within limit deeper).expression .lowest)
      _ conditionTokens condition :=
    settles_lowest conditionAccepted ahead (by decide) (by decide)
  apply Settles.advance faces
  apply Settles.expect faces.advance opens
  apply first.succ.bind
  · intro _
    exact forward_closed.bind (forward_closed.expect _) fun _ => forward_closed.bind forward.block
      fun _ => forward_closed.bind (forward_closed.alternative forward) fun _ => forward_spanned _
  intro conditioned passes
  have closed := passes.faces inside
  obtain ⟨next, before⟩ := closed.advance.exists_take
  have second : Settles limit consequenceNeed deeper (Nested.within limit deeper).block _
      consequenceTokens consequence := consequenceAccepted before
  apply Settles.expect closed closes
  apply second.succ.bind
  · intro _
    exact forward_closed.bind (forward_closed.alternative forward) fun _ => forward_spanned _
  intro middle passesBlock
  have third : Settles limit alternativeNeed (deeper + 1)
      (Rule.alternative (Nested.within limit deeper)) middle alternativeTokens alternative :=
    alternativeAccepted (passesBlock.faces closed.advance) notElse
  apply third.last
  · intro _
    exact forward_spanned _
  intro last passesOther
  have ends := (passesBlock.trans passesOther).endsAt (by cases consequencePart; simp)
  exact .spanned (lastEnd_of_alternative consequencePart alternativePart ends)

theorem grows_function {adjacency : Adjacency} {names nameTokens bodyTokens : List Token}
    {body : Block} {token opening closing : Token} {bodyNeed : Nat}
    (keyword : token.kind = .functionKeyword) (opens : opening.kind = .openParen)
    (closes : closing.kind = .closeParen)
    (bodyPart : Derives adjacency (.block body) bodyTokens bodyNeed)
    (namesAccepted : Phrase.Accepted limit (.parameters names) nameTokens 0)
    (bodyAccepted : Phrase.Accepted limit (.block body) bodyTokens bodyNeed)
    (faces : state.Faces (token :: opening :: (nameTokens ++ closing :: bodyTokens)) kind) :
    GrowsInto limit (bodyNeed + 1) room power state
      (token :: opening :: (nameTokens ++ closing :: bodyTokens))
      (.function token names body ⟨token.span.start, body.span.stop⟩) := by
  have leads : token.kind ∈ LeadingRule.function.kinds := by simp [LeadingRule.kinds, keyword]
  apply GrowsInto.of_leading (Nat.succ_pos bodyNeed) faces leads
  intro deeper
  have forward := forward_closed.within limit deeper
  have inside := faces.advance.advance
  have grouped : nameTokens ++ closing :: bodyTokens =
      (nameTokens ++ [closing]) ++ bodyTokens := by simp
  rw [grouped] at inside
  obtain ⟨next, before⟩ := inside.exists_take
  have first : Settles limit 0 (deeper + 1) (parenthesized (expect .identifier)) _
      (nameTokens ++ [closing]) names := Lists.parenthesized namesAccepted before closes
  apply Settles.advance faces
  apply Settles.expect faces.advance opens
  rw [grouped]
  apply Settles.cast _ (Nat.zero_max _)
  apply first.bind
  · intro _
    exact forward_closed.bind forward.block fun _ => forward_spanned _
  intro middle passes
  have second : Settles limit bodyNeed deeper (Nested.within limit deeper).block middle bodyTokens
      body := bodyAccepted (passes.faces inside)
  apply second.succ.last
  · intro _
    exact forward_spanned _
  intro last passesBody
  have ends := passesBody.endsAt (by cases bodyPart; simp)
  exact .spanned (lastEnd_of_block bodyPart ends)

theorem grows_binary {stratum tighter : Stratum} {left right : Expression} {operator : Token}
    {leftTokens rightTokens : List Token} {leftNeed rightNeed : Nat}
    (next : stratum.tighter? = some tighter) (operation : operator.kind ∈ stratum.operators)
    (leftAccepted : Phrase.Accepted limit (.expression stratum left) leftTokens leftNeed)
    (rightAccepted : Phrase.Accepted limit (.expression tighter right) rightTokens rightNeed)
    (faces : state.Faces (leftTokens ++ operator :: rightTokens) kind) (notElse : kind ≠ .elseKeyword)
    (weak : kind.strength.rank ≤ stratum.rank) (fits : power.operand.rank ≤ stratum.rank)
    (notCall : power ≠ .call) :
    GrowsInto limit (max leftNeed (rightNeed + 1)) room power state
      (leftTokens ++ operator :: rightTokens)
      (.binary left operator right ⟨left.span.start, right.span.stop⟩) := by
  obtain ⟨strength, dispatched, rank, rfl, binds⟩ :=
    RuleTable.following_of_operator next operation
  have own := RuleTable.strength_of_following dispatched
  have tight : power < strength := by
    rw [BindingPower.lt_iff_rank, rank]
    have below := Stratum.rank_tighter next
    have least := strength.rank_operand_le
    exact BindingPower.rank_lt_of_operand fits (by omega)
  have operatorWeak : operator.kind.strength.rank ≤ stratum.rank := by
    rw [own]
    exact Nat.le_of_eq rank
  have grown : GrowsInto limit leftNeed room power state leftTokens left :=
    leftAccepted faces.take (RuleTable.kind_ne_of_rule dispatched rfl) operatorWeak fits notCall
  have follows (after : State) (passes : Passes state leftTokens after) :
      RuleTable.standard.following after.current.kind = some (strength, .binary) := by
    rw [(passes.faces faces).current, dispatched]
  apply grown.extend follows tight
  intro deeper after passes
  have ahead := passes.faces faces
  have inside : Settles limit rightNeed deeper ((Nested.within limit deeper).expression strength) _
      rightTokens right :=
    settles_expression rightAccepted binds ahead.advance notElse (by omega)
  exact .advance ahead (inside.succ.last (fun _ => forward_closed.pure _) fun _ _ => .pure _ _)

theorem grows_call {callee : Expression} {arguments : List Expression} {opening closing : Token}
    {calleeTokens argumentTokens : List Token} {calleeNeed argumentNeed : Nat}
    (opens : opening.kind = .openParen) (closes : closing.kind = .closeParen)
    (calleeAccepted : Phrase.Accepted limit (.expression .call callee) calleeTokens calleeNeed)
    (argumentsAccepted : Phrase.Accepted limit (.arguments arguments) argumentTokens argumentNeed)
    (faces : state.Faces (calleeTokens ++ opening :: (argumentTokens ++ [closing])) kind)
    (notCall : power ≠ .call) :
    GrowsInto limit (max calleeNeed argumentNeed) room power state
      (calleeTokens ++ opening :: (argumentTokens ++ [closing]))
      (.call callee opening arguments ⟨callee.span.start, closing.span.stop⟩) := by
  have follows (after : State) (passes : Passes state calleeTokens after) :
      RuleTable.standard.following after.current.kind = some (.call, .call) := by
    rw [(passes.faces faces).current, opens]
    rfl
  have tight : power < .call := by
    cases power <;> first | decide | exact absurd rfl notCall
  have before := faces.take
  rw [opens] at before
  have grown : GrowsInto limit calleeNeed room power state calleeTokens callee :=
    calleeAccepted before (by decide) (by decide)
      (Nat.le_trans power.rank_operand_le (by decide)) notCall
  apply grown.extend follows tight
  intro deeper after passes
  have ahead := passes.faces faces
  have inside : Settles limit argumentNeed (deeper + 1)
      (parenthesized ((Nested.within limit deeper).expression .lowest)) _
      (argumentTokens ++ [closing]) arguments :=
    Lists.parenthesized argumentsAccepted ahead.advance closes
  apply Settles.advance ahead
  apply inside.last
  · intro _
    exact forward_spanned _
  · intro last passesOn
    obtain ⟨final, found, stop⟩ := passesOn.endsAt (by simp)
    rw [List.getLast?_concat, Option.some.injEq] at found
    rw [found]
    exact .spanned stop

theorem lists_last {adjacency : Adjacency}
    (part : Derives adjacency (.expression .equality tree) tokens need)
    (accepted : Phrase.Accepted limit (.expression .equality tree) tokens need) :
    Lists limit (need + 1) (room + 1) ((Nested.within limit room).expression .lowest) tokens
      [tree] := by
  obtain ⟨token, rest, rule, rfl, dispatched⟩ := part.exists_leading
  apply Lists.last ((forward_closed.within limit room).expression .lowest)
    (RuleTable.kind_ne_of_rule dispatched rfl)
  intro state faces
  apply Settles.succ
  exact settles_lowest accepted faces (by decide) (by decide)

theorem lists_more {adjacency : Adjacency} {others : List Expression} {comma : Token}
    {otherTokens : List Token} {otherNeed : Nat} (separator : comma.kind = .comma)
    (present : others ≠ []) (part : Derives adjacency (.expression .equality tree) tokens need)
    (accepted : Phrase.Accepted limit (.expression .equality tree) tokens need)
    (othersAccepted : Phrase.Accepted limit (.arguments others) otherTokens otherNeed) :
    Lists limit (max (need + 1) otherNeed) (room + 1) ((Nested.within limit room).expression .lowest)
      (tokens ++ comma :: otherTokens) (tree :: others) := by
  obtain ⟨token, rest, rule, rfl, dispatched⟩ := part.exists_leading
  apply Lists.more ((forward_closed.within limit room).expression .lowest)
    (RuleTable.kind_ne_of_rule dispatched rfl) separator present _ othersAccepted
  intro state faces
  apply Settles.succ
  exact settles_lowest accepted faces (by decide) (by decide)

theorem settles_name {name : Token} (identifier : name.kind = .identifier)
    (faces : state.Faces [name] kind) :
    Settles limit 0 room (expect .identifier) state [name] name := by
  apply Settles.of_reads (.advance faces)
  rw [expect_apply, faces.current, if_pos identifier]

end Expressions

end Rule

end ScriptFrontend
