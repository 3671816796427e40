/-
This file shows that the canonical form of every derived tree is read again as the same outline.
-/

import ScriptFrontend.Proofs.Grammar.Operators
import ScriptFrontend.Proofs.Lexeme.Rereading
import ScriptFrontend.Proofs.Tree.Depth

namespace ScriptFrontend

open Lexeme

/-- The canonical form of an expression is read again with the same outline as something that may
be called, and its derivation nests exactly as deep as the depth of the tree says. -/
structure Expression.Rereadable (tree : Expression) : Prop where
  reads : Rereads Apart tree.render fun tokens => ∃ again,
    again.outline = tree.outline ∧ Derives .apart (.expression .call again) tokens tree.depth
  noSign : NoSign tree.render.toList

/-- The canonical form of a statement is read again with a semicolon behind it and without one. -/
structure Statement.Rereadable (tree : Statement) : Prop where
  closed : Rereads Anything (tree.render ++ if tree.isExpression then ";" else "") fun tokens =>
    ∃ again, again.outline = tree.outline ∧
      Derives .apart (.statement again true) tokens tree.depth
  reads : Rereads Apart tree.render fun tokens => ∃ again ended,
    again.outline = tree.outline ∧ Derives .apart (.statement again ended) tokens tree.depth

/-- What it means for each sort of phrase that its canonical form is read again. -/
def Phrase.Rereadable : Phrase → Prop
  | .expression _ tree => tree.Rereadable
  | .arguments trees => Rereads Apart (commaJoined (Expression.renderEach trees)) fun tokens =>
      ∃ again, Expression.outlineEach again = Expression.outlineEach trees ∧
        Derives .apart (.arguments again) tokens (Expression.depthEach trees)
  | .parameters names => Rereads Apart (commaJoined (names.map Token.text)) fun tokens =>
      ∃ again, again.map Token.outline = names.map Token.outline ∧
        Derives .apart (.parameters again) tokens 0
  | .alternative tree => Rereads Anything (Block.renderAlternative tree) fun tokens =>
      ∃ again, Block.outlineOptional again = Block.outlineOptional tree ∧
        Derives .apart (.alternative again) tokens (Block.depthOptional tree)
  | .block tree => Rereads Anything tree.render fun tokens =>
      ∃ again, again.outline = tree.outline ∧ Derives .apart (.block again) tokens tree.depth
  | .statement tree _ => tree.Rereadable
  | .statements trees => ∀ tree ∈ trees, tree.Rereadable

theorem noSign_of_spelled {token : Token} (spelled : token.Spelled)
    (other : token.kind ∉ [.assignment, .equals]) : NoSign token.text.toList := by
  obtain ⟨kind, text, span⟩ := token
  have spells : Spells kind text.toList := spelled
  dsimp only at other ⊢
  generalize text.toList = letters at spells
  intro c here equals
  subst equals
  cases spells with
  | word start parts =>
    obtain rfl := Option.some.inj here
    cases start
  | number start digits =>
    obtain rfl := Option.some.inj here
    cases start
  | mark listed =>
    obtain rfl := Option.some.inj here
    simp only [patterns, List.mem_cons, List.not_mem_nil, or_false, Pattern.mark.injEq, reduceCtorEq,
      false_or, Char.reduceEq, false_and, and_false, true_and] at listed
    simp only [List.mem_cons, List.not_mem_nil, or_false, not_or] at other
    rcases listed with ⟨equals, -⟩ | ⟨assigns, -⟩
    · exact other.2 equals
    · exact other.1 assigns

theorem Token.kind_of_outline {token : Token} {kind : Token.Kind} {text : String}
    (same : token.outline = ⟨kind, text, .unknown⟩) : token.kind = kind :=
  congrArg Token.kind same

theorem Derives.callable {tree : Expression} {tokens : List Token} {need : Nat}
    (derived : Derives .apart (.expression .atom tree) tokens need) :
    Derives .apart (.expression .call tree) tokens need :=
  .tighter rfl derived

/-- Parentheses make something that may be called of every expression. -/
theorem Derives.grouped {stratum : Stratum} {tree : Expression} {opening closing : Token}
    {tokens : List Token} {need : Nat} (opens : opening.outline = ⟨.openParen, "(", .unknown⟩)
    (closes : closing.outline = ⟨.closeParen, ")", .unknown⟩)
    (derived : Derives .apart (.expression stratum tree) tokens need) :
    Derives .apart (.expression .call tree) (opening :: (tokens ++ [closing])) (need + 1) :=
  .callable (.grouping (Token.kind_of_outline opens) (Token.kind_of_outline closes)
    (derived.loosen stratum.rank_equality_le))

section Expressions

variable {token operator opening closing : Token} {tree operand left right : Expression}
  {span : Span}

theorem Expression.rereadable_identifier (kind : token.kind = .identifier)
    (spelled : token.Spelled) : (Expression.identifier token).Rereadable where
  reads := by
    apply (Rereads.spelled spelled).imp
    intro tokens read
    obtain ⟨again, rfl, same⟩ := read
    have sameKind := Token.kind_eq_of_outline same
    refine ⟨.identifier again, ?_, .callable (.identifier (sameKind.trans kind))⟩
    simp only [Expression.outline, same]
  noSign := noSign_of_spelled spelled (by rw [kind]; decide)

theorem Expression.rereadable_integer {value : Int64} (kind : token.kind = .integer)
    (denoted : Text.readInteger? token.text = some value) (spelled : token.Spelled) :
    (Expression.integer token value).Rereadable where
  reads := by
    apply (Rereads.spelled spelled).imp
    intro tokens read
    obtain ⟨again, rfl, same⟩ := read
    have sameKind := Token.kind_eq_of_outline same
    have sameText := Token.text_eq_of_outline same
    refine ⟨.integer again value, ?_, .callable (.integer (sameKind.trans kind) ?_)⟩
    · simp only [Expression.outline, same]
    · rw [sameText, denoted]
  noSign := noSign_of_spelled spelled (by rw [kind]; decide)

theorem Expression.rereadable_boolean {value : Bool}
    (kind : token.kind = if value then .trueKeyword else .falseKeyword) (spelled : token.Spelled) :
    (Expression.boolean token value).Rereadable where
  reads := by
    apply (Rereads.truth value).imp
    intro tokens read
    obtain ⟨again, rfl, same⟩ := read
    rw [← Token.outline_of_truth spelled kind] at same
    have sameKind := Token.kind_eq_of_outline same
    refine ⟨.boolean again value, ?_, .callable (.truth (sameKind.trans kind))⟩
    simp only [Expression.outline, same]
  noSign := by
    cases value <;> simp [NoSign, Expression.render]

theorem Expression.rereadable_unary (operation : operator.kind = .not ∨ operator.kind = .dash)
    (spelled : operator.Spelled) (inside : operand.Rereadable) :
    (Expression.unary operator operand span).Rereadable where
  reads := by
    have started := Rereads.openParen.append (Rereads.operator spelled operation)
      fun _ _ => trivial
    have operated := started.append inside.reads fun rest apart =>
      inside.noSign.append apart.noSign
    have whole := operated.append Rereads.closeParen fun rest _ => apart_cons rest rfl (by decide)
    apply whole.before.imp
    intro all read
    obtain ⟨_, _, rfl, operatedRead, closing, rfl, closes⟩ := read
    obtain ⟨_, tokens, rfl, startedRead, tree, sameOperand, part⟩ := operatedRead
    obtain ⟨_, _, rfl, ⟨opening, rfl, opens⟩, again, rfl, same⟩ := startedRead
    have sameKind := Token.kind_eq_of_outline same
    have derived : Derives .apart (.expression .unary _) (again :: tokens) _ :=
      .unary (by rwa [sameKind]) (part.loosen (by decide))
    refine ⟨_, ?_, derived.grouped opens closes⟩
    simp only [Expression.outline, same, sameOperand]
  noSign := by simp [NoSign, Expression.render]

theorem Expression.rereadable_binary {stratum tighter : Stratum}
    (next : stratum.tighter? = some tighter) (operation : operator.kind ∈ stratum.operators)
    (spelled : operator.Spelled) (leftInside : left.Rereadable) (rightInside : right.Rereadable) :
    (Expression.binary left operator right span).Rereadable where
  reads := by
    have started := Rereads.openParen.append leftInside.reads fun _ _ => trivial
    have operated := started.thenSpace.append (Rereads.spelled spelled) fun _ _ => trivial
    have joined := operated.thenSpace.append rightInside.reads fun _ _ => trivial
    have whole := joined.append Rereads.closeParen fun rest _ => apart_cons rest rfl (by decide)
    apply whole.before.imp
    intro all read
    -- The parts are taken off from the right, in the order in which they were put together.
    obtain ⟨_, _, rfl, joinedRead, closing, rfl, closes⟩ := read
    obtain ⟨_, rightTokens, rfl, operatedRead, rightTree, sameRight, rightPart⟩ := joinedRead
    obtain ⟨_, _, rfl, startedRead, again, rfl, same⟩ := operatedRead
    obtain ⟨_, leftTokens, rfl, ⟨opening, rfl, opens⟩, leftTree, sameLeft, leftPart⟩ :=
      startedRead
    have sameKind := Token.kind_eq_of_outline same
    have level := Stratum.rank_lt_unary operation
    have below := Stratum.rank_tighter next
    have unary : Stratum.unary.rank < Stratum.call.rank := by decide
    have derived := Derives.binary next (by rwa [sameKind]) (leftPart.loosen (by omega))
      (rightPart.loosen (by omega))
    refine ⟨_, ?_, by simpa [Expression.depth] using derived.grouped opens closes⟩
    simp only [Expression.outline, same, sameLeft, sameRight]
  noSign := by simp [NoSign, Expression.render]

theorem NoSign.text_append {text : String} (first : NoSign text.toList) {rest : String}
    (second : NoSign rest.toList) : NoSign (text ++ rest).toList := by
  rw [String.toList_append]
  exact first.append second

theorem Expression.rereadable_conditional {condition : Expression} {consequence : Block}
    {alternative : Option Block} (keyword : token.kind = .ifKeyword) (spelled : token.Spelled)
    (conditionInside : condition.Rereadable)
    (consequenceInside : Phrase.Rereadable (.block consequence))
    (alternativeInside : Phrase.Rereadable (.alternative alternative)) :
    (Expression.conditional token condition consequence alternative span).Rereadable where
  reads := by
    have started := (Rereads.spelled spelled).append Rereads.spacedOpenParen
      fun rest _ => apart_cons _ rfl (by decide)
    have conditioned := started.append conditionInside.reads fun _ _ => trivial
    have closed := conditioned.append Rereads.closeParenSpaced
      fun rest _ => apart_cons _ rfl (by decide)
    have branched := closed.append consequenceInside fun _ _ => trivial
    have whole := branched.append alternativeInside fun _ _ => trivial
    apply whole.before.imp
    intro all read
    obtain ⟨_, _, rfl, branchedRead, other, sameOther, otherPart⟩ := read
    obtain ⟨_, _, rfl, closedRead, block, sameBlock, blockPart⟩ := branchedRead
    obtain ⟨_, _, rfl, conditionedRead, closing, rfl, closes⟩ := closedRead
    obtain ⟨_, _, rfl, startedRead, tree, sameCondition, conditionPart⟩ := conditionedRead
    obtain ⟨_, _, rfl, ⟨again, rfl, same⟩, opening, rfl, opens⟩ := startedRead
    have sameKind := Token.kind_eq_of_outline same
    have derived := Derives.conditional (sameKind.trans keyword) (Token.kind_of_outline opens)
      (Token.kind_of_outline closes) (conditionPart.loosen (by decide)) blockPart otherPart
    refine ⟨_, ?_, by simpa [Expression.depth] using derived.callable⟩
    simp only [Expression.outline, same, sameCondition, sameBlock, sameOther]
  noSign := by
    have first := noSign_of_spelled spelled (by rw [keyword]; decide)
    simp only [Expression.render, String.append_assoc]
    exact first.text_append (by simp [NoSign])

theorem Expression.rereadable_function {names : List Token} {body : Block}
    (keyword : token.kind = .functionKeyword) (spelled : token.Spelled)
    (namesInside : Phrase.Rereadable (.parameters names))
    (bodyInside : Phrase.Rereadable (.block body)) :
    (Expression.function token names body span).Rereadable where
  reads := by
    have started := (Rereads.spelled spelled).append Rereads.openParen
      fun rest _ => apart_cons rest rfl (by decide)
    have named := started.append namesInside fun _ _ => trivial
    have closed := named.append Rereads.closeParenSpaced fun rest _ => apart_cons _ rfl (by decide)
    have whole := closed.append bodyInside fun _ _ => trivial
    apply whole.before.imp
    intro all read
    obtain ⟨_, _, rfl, closedRead, block, sameBlock, blockPart⟩ := read
    obtain ⟨_, _, rfl, namedRead, closing, rfl, closes⟩ := closedRead
    obtain ⟨_, _, rfl, startedRead, others, sameNames, namesPart⟩ := namedRead
    obtain ⟨_, _, rfl, ⟨again, rfl, same⟩, opening, rfl, opens⟩ := startedRead
    have sameKind := Token.kind_eq_of_outline same
    have derived := Derives.function (sameKind.trans keyword) (Token.kind_of_outline opens)
      (Token.kind_of_outline closes) namesPart blockPart
    refine ⟨_, ?_, by simpa [Expression.depth] using derived.callable⟩
    simp only [Expression.outline, same, sameNames, sameBlock]
  noSign := by
    have first := noSign_of_spelled spelled (by rw [keyword]; decide)
    simp only [Expression.render, String.append_assoc]
    exact first.text_append (by simp [NoSign])

theorem Expression.rereadable_call {callee : Expression} {arguments : List Expression}
    (opens : opening.kind = .openParen) (spelled : opening.Spelled)
    (calleeInside : callee.Rereadable)
    (argumentsInside : Phrase.Rereadable (.arguments arguments)) :
    (Expression.call callee opening arguments span).Rereadable where
  reads := by
    have started := calleeInside.reads.append Rereads.openParen
      fun rest _ => apart_cons rest rfl (by decide)
    have filled := started.append argumentsInside fun _ _ => trivial
    have whole := filled.append Rereads.closeParen fun rest _ => apart_cons rest rfl (by decide)
    apply whole.before.imp
    intro all read
    obtain ⟨_, _, rfl, filledRead, closing, rfl, closes⟩ := read
    obtain ⟨_, _, rfl, startedRead, trees, sameArguments, argumentsPart⟩ := filledRead
    obtain ⟨_, _, rfl, ⟨tree, sameCallee, calleePart⟩, again, rfl, same⟩ := startedRead
    have derived := Derives.call (Token.kind_of_outline same) (Token.kind_of_outline closes)
      calleePart argumentsPart
    refine ⟨_, ?_, by simpa [Expression.depth] using derived⟩
    simp only [Expression.outline, sameCallee, sameArguments, same,
      Token.outline_of_spelling spelled opens rfl]
  noSign := by
    simp only [Expression.render, String.append_assoc]
    exact calleeInside.noSign.text_append (by simp [NoSign])

end Expressions

section Lists

variable {token : Token} {names : List Token} {tree : Expression} {trees : List Expression}

theorem Phrase.rereadable_noArguments : Phrase.Rereadable (.arguments []) := by
  apply Rereads.empty.before.imp
  intro tokens nothing
  subst nothing
  exact ⟨[], rfl, .noArguments⟩

theorem Phrase.rereadable_noParameters : Phrase.Rereadable (.parameters []) := by
  apply Rereads.empty.before.imp
  intro tokens nothing
  subst nothing
  exact ⟨[], rfl, .noParameters⟩

theorem Phrase.rereadable_lastArgument (inside : tree.Rereadable) :
    Phrase.Rereadable (.arguments [tree]) := by
  apply inside.reads.imp
  intro tokens read
  obtain ⟨again, same, part⟩ := read
  have derived := Derives.lastArgument (part.loosen (by decide))
  refine ⟨[again], ?_, by simpa [Expression.depthEach] using derived⟩
  simp only [Expression.outlineEach, same]

theorem Phrase.rereadable_moreArguments (present : trees ≠ []) (inside : tree.Rereadable)
    (others : Phrase.Rereadable (.arguments trees)) :
    Phrase.Rereadable (.arguments (tree :: trees)) := by
  obtain ⟨next, rest, rfl⟩ := List.exists_cons_of_ne_nil present
  have started := inside.reads.append Rereads.commaSpaced
    fun rest _ => apart_cons _ rfl (by decide)
  apply (started.append others fun _ _ => trivial).imp
  intro all read
  obtain ⟨_, _, rfl, startedRead, more, sameMore, moreParts⟩ := read
  obtain ⟨_, _, rfl, ⟨again, same, part⟩, comma, rfl, separator⟩ := startedRead
  have nonempty : more ≠ [] := by
    intro nothing
    simp [nothing, Expression.outlineEach] at sameMore
  have derived := Derives.moreArguments (Token.kind_of_outline separator) nonempty
    (part.loosen (by decide)) moreParts
  refine ⟨again :: more, ?_, by simpa [Expression.depthEach] using derived⟩
  rw [Expression.outlineEach, sameMore, same]
  rfl

theorem Phrase.rereadable_lastParameter (kind : token.kind = .identifier)
    (spelled : token.Spelled) : Phrase.Rereadable (.parameters [token]) := by
  apply (Rereads.spelled spelled).imp
  intro tokens read
  obtain ⟨again, rfl, same⟩ := read
  have sameKind := Token.kind_eq_of_outline same
  exact ⟨[again], by simp [same], .lastParameter (sameKind.trans kind)⟩

theorem Phrase.rereadable_moreParameters (present : names ≠ []) (kind : token.kind = .identifier)
    (spelled : token.Spelled) (others : Phrase.Rereadable (.parameters names)) :
    Phrase.Rereadable (.parameters (token :: names)) := by
  obtain ⟨next, rest, rfl⟩ := List.exists_cons_of_ne_nil present
  have started := (Rereads.spelled spelled).append Rereads.commaSpaced
    fun rest _ => apart_cons _ rfl (by decide)
  apply (started.append others fun _ _ => trivial).imp
  intro all read
  obtain ⟨_, _, rfl, startedRead, more, sameMore, moreParts⟩ := read
  obtain ⟨_, _, rfl, ⟨again, rfl, same⟩, comma, rfl, separator⟩ := startedRead
  have nonempty : more ≠ [] := by
    intro nothing
    simp [nothing] at sameMore
  have sameKind := Token.kind_eq_of_outline same
  have derived := Derives.moreParameters (sameKind.trans kind) (Token.kind_of_outline separator)
    nonempty moreParts
  refine ⟨again :: more, ?_, by simpa using derived⟩
  rw [List.map_cons, List.map_cons, sameMore, same]

end Lists

section Statements

variable {token name opening : Token} {tree : Expression} {block : Block}
  {statements : List Statement} {span : Span}

theorem Phrase.rereadable_noAlternative : Phrase.Rereadable (.alternative none) := by
  apply Rereads.empty.imp
  intro tokens nothing
  subst nothing
  exact ⟨none, rfl, .noAlternative⟩

theorem Phrase.rereadable_alternative (inside : Phrase.Rereadable (.block block)) :
    Phrase.Rereadable (.alternative (some block)) := by
  apply (Rereads.spacedElse.append inside fun _ _ => trivial).imp
  intro all read
  obtain ⟨_, _, rfl, ⟨keyword, rfl, same⟩, again, sameBlock, part⟩ := read
  refine ⟨some again, ?_, .alternative (Token.kind_of_outline same) part⟩
  simp only [Block.outlineOptional, sameBlock]

/-- Every statement in a block ends with a semicolon. -/
theorem Statement.rereads_body (inside : ∀ statement ∈ statements, statement.Rereadable) :
    Rereads Anything (Statement.renderBody statements) fun tokens => ∃ again,
      Statement.outlineEach again = Statement.outlineEach statements ∧
        Derives .apart (.statements again) tokens (Statement.depthEach statements) := by
  induction statements with
  | nil =>
    apply Rereads.empty.imp
    intro tokens nothing
    subst nothing
    exact ⟨[], rfl, .noStatements⟩
  | cons statement others ih =>
    have first := (inside statement List.mem_cons_self).closed
    have rest := ih fun other member => inside other (List.mem_cons_of_mem _ member)
    have whole := first.before.thenSpace.append rest fun _ _ => trivial
    have shape : Statement.renderBody (statement :: others) =
        statement.render ++ (if statement.isExpression then ";" else "") ++ " " ++
          Statement.renderBody others := by
      rw [Statement.renderBody]
      cases statement.isExpression <;> simp [String.append_assoc]
    rw [shape]
    apply whole.imp
    intro all read
    obtain ⟨_, _, rfl, ⟨again, same, part⟩, more, sameMore, moreParts⟩ := read
    refine ⟨again :: more, ?_, .moreStatements (Adjacency.apart_of_ended _ _) part moreParts⟩
    rw [Statement.outlineEach, Statement.outlineEach, same, sameMore]

theorem Phrase.rereadable_block (opens : opening.kind = .openCurly) (spelled : opening.Spelled)
    (inside : Phrase.Rereadable (.statements statements)) :
    Phrase.Rereadable (.block (.braces opening statements span)) := by
  have filled := Rereads.openCurlySpaced.append (Statement.rereads_body inside) fun _ _ => trivial
  have whole := filled.append Rereads.closeCurly fun _ _ => trivial
  apply whole.imp
  intro all read
  obtain ⟨_, _, rfl, filledRead, closing, rfl, closes⟩ := read
  obtain ⟨_, _, rfl, ⟨again, rfl, same⟩, others, sameOthers, parts⟩ := filledRead
  have derived := Derives.block (Token.kind_of_outline same) (Token.kind_of_outline closes) parts
  refine ⟨_, ?_, by simpa [Block.depth] using derived⟩
  simp only [Block.outline, sameOthers, same, Token.outline_of_spelling spelled opens rfl]

/-- A statement that is not an expression ends with a semicolon of its own. -/
theorem Statement.Rereadable.of_closed {statement : Statement}
    (own : statement.isExpression = false)
    (closed : Rereads Anything statement.render fun tokens => ∃ again,
      again.outline = statement.outline ∧
        Derives .apart (.statement again true) tokens statement.depth) :
    statement.Rereadable where
  closed := by
    rw [own]
    simpa using closed
  reads := closed.before.imp fun _ ⟨again, same, part⟩ => ⟨again, true, same, part⟩

theorem Statement.rereadable_binding (keyword : token.kind = .letKeyword)
    (kind : name.kind = .identifier) (spelled : token.Spelled) (nameSpelled : name.Spelled)
    (inside : tree.Rereadable) : (Statement.binding token name tree span).Rereadable := by
  have started := (Rereads.spelled spelled).thenSpace.append (Rereads.spelled nameSpelled)
    fun _ _ => trivial
  have assigned := started.append Rereads.spacedAssignment fun rest _ => apart_cons _ rfl (by decide)
  have valued := assigned.append inside.reads fun _ _ => trivial
  have whole := valued.append Rereads.semicolon fun rest _ => apart_cons rest rfl (by decide)
  apply Statement.Rereadable.of_closed rfl
  apply whole.imp
  intro all read
  obtain ⟨_, _, rfl, valuedRead, semicolon, rfl, ends⟩ := read
  obtain ⟨_, _, rfl, assignedRead, value, sameValue, part⟩ := valuedRead
  obtain ⟨_, _, rfl, startedRead, equals, rfl, assigns⟩ := assignedRead
  obtain ⟨_, _, rfl, ⟨again, rfl, same⟩, other, rfl, sameName⟩ := startedRead
  have sameKind := Token.kind_eq_of_outline same
  have sameNameKind := Token.kind_eq_of_outline sameName
  have derived := Derives.binding (sameKind.trans keyword) (sameNameKind.trans kind)
    (Token.kind_of_outline assigns) (.present (Token.kind_of_outline ends))
    (part.loosen (by decide))
  refine ⟨_, ?_, by simpa [Statement.depth] using derived⟩
  simp only [Statement.outline, same, sameName, sameValue]

theorem Statement.rereadable_bareReturn (keyword : token.kind = .returnKeyword)
    (spelled : token.Spelled) : (Statement.returning token none span).Rereadable := by
  have started := (Rereads.spelled spelled).thenSpace.append Rereads.empty fun _ _ => trivial
  have whole := started.append Rereads.semicolon fun _ _ => trivial
  apply Statement.Rereadable.of_closed rfl
  apply whole.imp
  intro all read
  obtain ⟨_, _, rfl, ⟨_, _, rfl, ⟨again, rfl, same⟩, rfl⟩, semicolon, rfl, ends⟩ := read
  have sameKind := Token.kind_eq_of_outline same
  have derived := @Derives.bareReturn .apart again true _ (sameKind.trans keyword)
    (.present (Token.kind_of_outline ends))
  refine ⟨_, ?_, derived⟩
  simp only [Statement.outline, same]

theorem Statement.rereadable_returning (keyword : token.kind = .returnKeyword)
    (spelled : token.Spelled) (inside : tree.Rereadable) :
    (Statement.returning token (some tree) span).Rereadable := by
  have started := (Rereads.spelled spelled).thenSpace.append inside.reads fun _ _ => trivial
  have whole := started.append Rereads.semicolon fun rest _ => apart_cons rest rfl (by decide)
  apply Statement.Rereadable.of_closed rfl
  apply whole.imp
  intro all read
  obtain ⟨_, _, rfl, startedRead, semicolon, rfl, ends⟩ := read
  obtain ⟨_, _, rfl, ⟨again, rfl, same⟩, value, sameValue, part⟩ := startedRead
  have sameKind := Token.kind_eq_of_outline same
  have derived := Derives.returning (sameKind.trans keyword)
    (.present (Token.kind_of_outline ends)) (part.loosen (by decide))
  refine ⟨_, ?_, by simpa [Statement.depth, Expression.depthOptional] using derived⟩
  simp only [Statement.outline, Expression.outlineOptional, same, sameValue]

/-- A bare expression is a statement with or without its semicolon. -/
theorem Derives.bare {value : Expression} {ended : Bool} {tokens ending : List Token} {need : Nat}
    (part : Derives .apart (.expression .call value) tokens need) (ends : Ending ended ending) :
    ∃ first, Derives .apart (.statement (.expression first value
      ⟨first.span.start, value.span.stop⟩) ended) (tokens ++ ending) need := by
  obtain ⟨first, others, rule, rfl, -⟩ := part.exists_leading
  exact ⟨first, .bareExpression ends (part.loosen (by decide))⟩

theorem Statement.rereadable_expression (inside : tree.Rereadable) :
    (Statement.expression token tree span).Rereadable where
  closed := by
    have whole := inside.reads.append Rereads.semicolon fun rest _ => apart_cons rest rfl (by decide)
    apply whole.imp
    intro all read
    obtain ⟨_, _, rfl, ⟨value, same, part⟩, semicolon, rfl, ends⟩ := read
    obtain ⟨first, derived⟩ := part.bare (.present (Token.kind_of_outline ends))
    refine ⟨_, ?_, derived⟩
    simp only [Statement.outline, same]
  reads := by
    apply inside.reads.imp
    intro tokens read
    obtain ⟨value, same, part⟩ := read
    obtain ⟨first, derived⟩ := part.bare .absent
    rw [List.append_nil] at derived
    refine ⟨_, false, ?_, derived⟩
    simp only [Statement.outline, same]

end Statements

/-- The canonical form of everything that is derived from tokens of a text is read again. -/
theorem Derives.rereadable {phrase : Phrase} {tokens : List Token} {need : Nat}
    (derived : Derives .free phrase tokens need) (spelled : ∀ token ∈ tokens, token.Spelled) :
    phrase.Rereadable := by
  induction derived with
  | binary next operation _ _ left right =>
    simp only [List.mem_append, List.mem_cons] at spelled
    exact Expression.rereadable_binary next operation (spelled _ (.inr (.inl rfl)))
      (left fun token member => spelled token (.inl member))
      (right fun token member => spelled token (.inr (.inr member)))
  | tighter _ _ part => exact part spelled
  | unary operation _ part =>
    rw [List.forall_mem_cons] at spelled
    exact Expression.rereadable_unary operation spelled.1 (part spelled.2)
  | call opens _ _ _ callee arguments =>
    simp only [List.mem_append, List.mem_cons] at spelled
    exact Expression.rereadable_call opens (spelled _ (.inr (.inl rfl)))
      (callee fun token member => spelled token (.inl member))
      (arguments fun token member => spelled token (.inr (.inr (.inl member))))
  | integer kind denoted =>
    exact Expression.rereadable_integer kind denoted (spelled _ (List.mem_singleton_self _))
  | identifier kind =>
    exact Expression.rereadable_identifier kind (spelled _ (List.mem_singleton_self _))
  | truth kind => exact Expression.rereadable_boolean kind (spelled _ (List.mem_singleton_self _))
  | grouping _ _ _ part =>
    simp only [List.mem_append, List.mem_cons] at spelled
    exact part fun token member => spelled token (.inr (.inl member))
  | conditional keyword _ _ _ _ _ condition consequence alternative =>
    simp only [List.mem_append, List.mem_cons] at spelled
    exact Expression.rereadable_conditional keyword (spelled _ (.inl rfl))
      (condition fun token member => spelled token (.inr (.inr (.inl member))))
      (consequence fun token member => spelled token (.inr (.inr (.inr (.inr (.inl member))))))
      (alternative fun token member => spelled token (.inr (.inr (.inr (.inr (.inr member))))))
  | function keyword _ _ _ _ names body =>
    simp only [List.mem_append, List.mem_cons] at spelled
    exact Expression.rereadable_function keyword (spelled _ (.inl rfl))
      (names fun token member => spelled token (.inr (.inr (.inl member))))
      (body fun token member => spelled token (.inr (.inr (.inr (.inr member)))))
  | noArguments => exact Phrase.rereadable_noArguments
  | lastArgument _ part => exact Phrase.rereadable_lastArgument (part spelled)
  | moreArguments _ present _ _ part others =>
    simp only [List.mem_append, List.mem_cons] at spelled
    exact Phrase.rereadable_moreArguments present
      (part fun token member => spelled token (.inl member))
      (others fun token member => spelled token (.inr (.inr member)))
  | noParameters => exact Phrase.rereadable_noParameters
  | lastParameter kind =>
    exact Phrase.rereadable_lastParameter kind (spelled _ (List.mem_singleton_self _))
  | moreParameters kind _ present _ others =>
    rw [List.forall_mem_cons, List.forall_mem_cons] at spelled
    exact Phrase.rereadable_moreParameters present kind spelled.1 (others spelled.2.2)
  | noAlternative => exact Phrase.rereadable_noAlternative
  | alternative _ _ part =>
    rw [List.forall_mem_cons] at spelled
    exact Phrase.rereadable_alternative (part spelled.2)
  | block opens _ _ part =>
    simp only [List.mem_append, List.mem_cons] at spelled
    exact Phrase.rereadable_block opens (spelled _ (.inl rfl))
      (part fun token member => spelled token (.inr (.inl member)))
  | binding keyword kind _ _ _ part =>
    simp only [List.mem_append, List.mem_cons] at spelled
    exact Statement.rereadable_binding keyword kind (spelled _ (.inl rfl))
      (spelled _ (.inr (.inl rfl)))
      (part fun token member => spelled token (.inr (.inr (.inr (.inl member)))))
  | bareReturn keyword _ =>
    exact Statement.rereadable_bareReturn keyword (spelled _ List.mem_cons_self)
  | returning keyword _ _ part =>
    simp only [List.mem_append, List.mem_cons] at spelled
    exact Statement.rereadable_returning keyword (spelled _ (.inl rfl))
      (part fun token member => spelled token (.inr (.inl member)))
  | bareExpression _ _ part =>
    rw [← List.cons_append] at spelled
    exact Statement.rereadable_expression
      (part fun token member => spelled token (List.mem_append_left _ member))
  | noStatements =>
    intro tree member
    cases member
  | moreStatements _ _ _ part others =>
    rw [List.forall_mem_append] at spelled
    exact List.forall_mem_cons.2 ⟨part spelled.1, others spelled.2⟩

end ScriptFrontend
