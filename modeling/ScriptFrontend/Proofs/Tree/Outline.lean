/-
This file defines the outline of a tree, which keeps all but the places of its tokens.
-/

import ScriptFrontend.Tree.Render

namespace ScriptFrontend

/-- An outline has this span wherever the tree has a span of its own. -/
def Span.unknown : Span :=
  ⟨.unknown, .unknown⟩

/-- The outline of a token keeps its kind and its text. -/
def Token.outline (token : Token) : Token :=
  { token with span := .unknown }

@[simp] theorem Token.outline_kind (token : Token) : token.outline.kind = token.kind := rfl

@[simp] theorem Token.outline_text (token : Token) : token.outline.text = token.text := rfl

theorem Token.kind_eq_of_outline {first second : Token} (same : first.outline = second.outline) :
    first.kind = second.kind := by
  rw [← outline_kind, same, outline_kind]

theorem Token.text_eq_of_outline {first second : Token} (same : first.outline = second.outline) :
    first.text = second.text := by
  rw [← outline_text, same, outline_text]

mutual

/-- The outline of an expression has the same nodes and unknown places. -/
def Expression.outline : Expression → Expression
  | .identifier token => .identifier token.outline
  | .integer token value => .integer token.outline value
  | .boolean token value => .boolean token.outline value
  | .unary operator operand _ => .unary operator.outline operand.outline .unknown
  | .binary left operator right _ =>
    .binary left.outline operator.outline right.outline .unknown
  | .conditional token condition consequence alternative _ =>
    .conditional token.outline condition.outline consequence.outline
      (Block.outlineOptional alternative) .unknown
  | .function token parameters body _ =>
    .function token.outline (parameters.map Token.outline) body.outline .unknown
  | .call callee token arguments _ =>
    .call callee.outline token.outline (Expression.outlineEach arguments) .unknown

def Expression.outlineEach : List Expression → List Expression
  | [] => []
  | expression :: others => expression.outline :: Expression.outlineEach others

def Expression.outlineOptional : Option Expression → Option Expression
  | none => none
  | some expression => some expression.outline

/-- The introducing token of an expression statement is left out, because parentheses around the
expression change it. -/
def Statement.outline : Statement → Statement
  | .binding token name value _ => .binding token.outline name.outline value.outline .unknown
  | .returning token value _ => .returning token.outline (Expression.outlineOptional value) .unknown
  | .expression _ expression _ =>
    .expression ⟨.illegal, "", .unknown⟩ expression.outline .unknown

def Statement.outlineEach : List Statement → List Statement
  | [] => []
  | statement :: others => statement.outline :: Statement.outlineEach others

def Block.outline : Block → Block
  | .braces token statements _ => .braces token.outline (Statement.outlineEach statements) .unknown

def Block.outlineOptional : Option Block → Option Block
  | none => none
  | some block => some block.outline

end

@[simp] theorem Statement.isExpression_outline (statement : Statement) :
    statement.outline.isExpression = statement.isExpression := by
  cases statement <;> simp [outline, isExpression]

theorem Token.text_comp_outline : Token.text ∘ Token.outline = Token.text := rfl

mutual

/-- The canonical form shows nothing that an outline leaves out. -/
theorem Expression.render_outline (expression : Expression) :
    expression.outline.render = expression.render := by
  cases expression with
  | identifier token => simp [Expression.outline, Expression.render]
  | integer token value => simp [Expression.outline, Expression.render]
  | boolean token value => simp [Expression.outline, Expression.render]
  | unary operator operand span =>
    simp [Expression.outline, Expression.render, operand.render_outline]
  | binary left operator right span =>
    simp [Expression.outline, Expression.render, left.render_outline, right.render_outline]
  | conditional token condition consequence alternative span =>
    simp [Expression.outline, Expression.render, condition.render_outline,
      consequence.render_outline, Block.renderAlternative_outlineOptional alternative]
  | function token parameters body span =>
    simp [Expression.outline, Expression.render, Token.text_comp_outline, body.render_outline]
  | call callee token arguments span =>
    simp [Expression.outline, Expression.render, callee.render_outline,
      Expression.renderEach_outlineEach arguments]

theorem Expression.renderEach_outlineEach (expressions : List Expression) :
    Expression.renderEach (Expression.outlineEach expressions) =
      Expression.renderEach expressions := by
  cases expressions with
  | nil => simp [Expression.outlineEach]
  | cons expression others =>
    simp [Expression.outlineEach, Expression.renderEach, expression.render_outline,
      Expression.renderEach_outlineEach others]

theorem Expression.renderOptional_outlineOptional (value : Option Expression) :
    Expression.renderOptional (Expression.outlineOptional value) =
      Expression.renderOptional value := by
  cases value with
  | none => simp [Expression.outlineOptional]
  | some expression =>
    simp [Expression.outlineOptional, Expression.renderOptional, expression.render_outline]

theorem Statement.render_outline (statement : Statement) :
    statement.outline.render = statement.render := by
  cases statement with
  | binding token name value span =>
    simp [Statement.outline, Statement.render, value.render_outline]
  | returning token value span =>
    simp [Statement.outline, Statement.render, Expression.renderOptional_outlineOptional value]
  | expression token expression span =>
    simp [Statement.outline, Statement.render, expression.render_outline]

theorem Statement.renderBody_outlineEach (statements : List Statement) :
    Statement.renderBody (Statement.outlineEach statements) = Statement.renderBody statements := by
  cases statements with
  | nil => simp [Statement.outlineEach]
  | cons statement others =>
    simp [Statement.outlineEach, Statement.renderBody, statement.render_outline,
      Statement.renderBody_outlineEach others]

theorem Block.render_outline (block : Block) : block.outline.render = block.render := by
  cases block with
  | braces token statements span =>
    simp [Block.outline, Block.render, Statement.renderBody_outlineEach statements]

theorem Block.renderAlternative_outlineOptional (alternative : Option Block) :
    Block.renderAlternative (Block.outlineOptional alternative) =
      Block.renderAlternative alternative := by
  cases alternative with
  | none => simp [Block.outlineOptional]
  | some block => simp [Block.outlineOptional, Block.renderAlternative, block.render_outline]

end

/-- Programs with the same outline have the same canonical form. -/
theorem Program.renderStatements_outline (statements : List Statement) :
    Program.renderStatements (statements.map Statement.outline) =
      Program.renderStatements statements := by
  induction statements with
  | nil => rfl
  | cons statement others ih =>
    cases others with
    | nil => simp [renderStatements, Statement.render_outline]
    | cons next others =>
      simp only [List.map_cons] at ih ⊢
      simp [renderStatements, Statement.render_outline, ih]

theorem Program.render_eq_of_outline {first second : Program}
    (same : first.statements.map Statement.outline = second.statements.map Statement.outline) :
    first.render = second.render := by
  rw [Program.render, ← renderStatements_outline, same, renderStatements_outline, Program.render]

end ScriptFrontend
