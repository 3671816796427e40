/-
This file shows that the layout of a script changes nothing in its reading but the places.
-/

import Mathlib.Data.List.OfFn
import ScriptFrontend.Proofs.Lexeme.Layout
import ScriptFrontend.Proofs.Reading.Naturality

namespace ScriptFrontend

@[simp] theorem Token.outline_outline (token : Token) : token.outline.outline = token.outline := rfl

section Fill

variable {size : Nat} (tokens : Fin size → Token)

/-- The tokens without their places. -/
abbrev outlined (index : Fin size) : Token :=
  (tokens index).outline

mutual

/-- A plan leads to the same outline when the tokens lose their places before it is filled. -/
theorem Expression.Plan.outline_fill (plan : Expression.Plan size) :
    (plan.fill (outlined tokens)).outline = (plan.fill tokens).outline := by
  cases plan with
  | identifier token | integer token value | boolean token value =>
    simp only [Expression.Plan.fill, Expression.outline, Token.outline_outline]
  | unary operator operand span =>
    simp only [Expression.Plan.fill, Expression.outline, Token.outline_outline,
      operand.outline_fill]
  | binary left operator right span =>
    simp only [Expression.Plan.fill, Expression.outline, Token.outline_outline,
      left.outline_fill, right.outline_fill]
  | conditional token condition consequence alternative span =>
    simp only [Expression.Plan.fill, Expression.outline, Token.outline_outline,
      condition.outline_fill, consequence.outline_fill,
      Block.Plan.outlineOptional_fillOptional alternative]
  | function token parameters body span =>
    simp only [Expression.Plan.fill, Expression.outline, Token.outline_outline,
      body.outline_fill, List.map_map, Function.comp_def]
  | call callee token arguments span =>
    simp only [Expression.Plan.fill, Expression.outline, Token.outline_outline,
      callee.outline_fill, Expression.Plan.outlineEach_fillEach arguments]

theorem Expression.Plan.outlineEach_fillEach (plans : List (Expression.Plan size)) :
    Expression.outlineEach (Expression.Plan.fillEach (outlined tokens) plans) =
      Expression.outlineEach (Expression.Plan.fillEach tokens plans) := by
  cases plans with
  | nil => rfl
  | cons plan others =>
    simp only [Expression.Plan.fillEach, Expression.outlineEach, plan.outline_fill,
      Expression.Plan.outlineEach_fillEach others]

theorem Expression.Plan.outlineOptional_fillOptional (plan : Option (Expression.Plan size)) :
    Expression.outlineOptional (Expression.Plan.fillOptional (outlined tokens) plan) =
      Expression.outlineOptional (Expression.Plan.fillOptional tokens plan) := by
  cases plan with
  | none => rfl
  | some plan =>
    simp only [Expression.Plan.fillOptional, Expression.outlineOptional, plan.outline_fill]

theorem Statement.Plan.outline_fill (plan : Statement.Plan size) :
    (plan.fill (outlined tokens)).outline = (plan.fill tokens).outline := by
  cases plan with
  | binding token name value span =>
    simp only [Statement.Plan.fill, Statement.outline, Token.outline_outline, value.outline_fill]
  | returning token value span =>
    simp only [Statement.Plan.fill, Statement.outline, Token.outline_outline,
      Expression.Plan.outlineOptional_fillOptional value]
  | expression token expression span =>
    simp only [Statement.Plan.fill, Statement.outline, expression.outline_fill]

theorem Statement.Plan.outlineEach_fillEach (plans : List (Statement.Plan size)) :
    Statement.outlineEach (Statement.Plan.fillEach (outlined tokens) plans) =
      Statement.outlineEach (Statement.Plan.fillEach tokens plans) := by
  cases plans with
  | nil => rfl
  | cons plan others =>
    simp only [Statement.Plan.fillEach, Statement.outlineEach, plan.outline_fill,
      Statement.Plan.outlineEach_fillEach others]

theorem Block.Plan.outline_fill (plan : Block.Plan size) :
    (plan.fill (outlined tokens)).outline = (plan.fill tokens).outline := by
  cases plan with
  | braces token statements span =>
    simp only [Block.Plan.fill, Block.outline, Token.outline_outline,
      Statement.Plan.outlineEach_fillEach statements]

theorem Block.Plan.outlineOptional_fillOptional (plan : Option (Block.Plan size)) :
    Block.outlineOptional (Block.Plan.fillOptional (outlined tokens) plan) =
      Block.outlineOptional (Block.Plan.fillOptional tokens plan) := by
  cases plan with
  | none => rfl
  | some plan => simp only [Block.Plan.fillOptional, Block.outlineOptional, plan.outline_fill]

end

theorem Diagnostic.Plan.problem_fill (plan : Diagnostic.Plan size) :
    (plan.fill (outlined tokens)).problem = (plan.fill tokens).problem := rfl

/-- The outlines of the tokens determine the outlines of the statements and the problems. -/
theorem Reading.Plan.Describes.outline {plan : Reading.Plan size} {file : String}
    {reading : Reading} (describes : plan.Describes tokens file reading) :
    reading.program.statements.map Statement.outline =
        plan.statements.map (fun part => (part.fill (outlined tokens)).outline) ∧
      reading.errors.map Diagnostic.problem =
        plan.errors.map fun part => (part.fill (outlined tokens)).problem := by
  rw [describes.statements, describes.errors, List.map_map, List.map_map]
  constructor
  · exact List.map_congr_left fun part _ => (part.outline_fill tokens).symm
  · exact List.map_congr_left fun part _ => (part.problem_fill tokens).symm

end Fill

/-- Where the tokens of two scripts have the same outlines, so have the statements, and the problems
are the same. -/
theorem readTokens_outline {first second : List Token} (file other : String) (limit : Nat)
    (same : second.map Token.outline = first.map Token.outline)
    (ended : first.getLast?.map Token.kind = some .endOfInput) :
    (readTokens second other limit).program.statements.map Statement.outline =
        (readTokens first file limit).program.statements.map Statement.outline ∧
      (readTokens second other limit).errors.map Diagnostic.problem =
        (readTokens first file limit).errors.map Diagnostic.problem := by
  obtain ⟨size, tokens, rfl⟩ : ∃ size, ∃ tokens : Fin size → Token, first = List.ofFn tokens :=
    ⟨_, first.get, (List.ofFn_get first).symm⟩
  obtain ⟨sizeToo, others, rfl⟩ : ∃ size, ∃ tokens : Fin size → Token, second = List.ofFn tokens :=
    ⟨_, second.get, (List.ofFn_get second).symm⟩
  rw [List.map_ofFn, List.map_ofFn] at same
  obtain rfl : sizeToo = size := by simpa using congrArg List.length same
  have outlines : outlined others = outlined tokens := List.ofFn_injective same
  cases sizeToo with
  | zero => cases ended
  | succ size =>
    rw [getLast?_ofFn] at ended
    let marking : Marking size := ⟨fun index => (tokens index).mark, Option.some.inj ended⟩
    have agrees (index : Fin (size + 1)) : (others index).mark = (tokens index).mark := by
      have kept := congrArg Token.mark (congrFun outlines index)
      exact kept
    let filling : marking.Filling := ⟨tokens, fun _ => rfl⟩
    let refilling : marking.Filling := ⟨others, agrees⟩
    obtain ⟨plan, describes⟩ := marking.exists_plan filling limit
    obtain ⟨statements, problems⟩ := (describes filling file).outline
    obtain ⟨statementsToo, problemsToo⟩ := (describes refilling other).outline
    constructor
    · rw [statementsToo, statements, outlines]
    · rw [problemsToo, problems, outlines]

/-- The words of a script may be laid out in any way, in any file. The tokens have the same kinds and
texts, and the reading has the same canonical form and the same failures but for their places. -/
theorem readScript_write (source file other : String) (limit : Nat) (layout : Layout) :
    let again := layout.write ((beforeEnd (tokenize source file)).map Token.text)
    (tokenize again other).map Token.outline = (tokenize source file).map Token.outline ∧
      (readScript again other limit).program.render =
        (readScript source file limit).program.render ∧
      (readScript again other limit).errors.map (fun failure => (failure.name, failure.message)) =
        (readScript source file limit).errors.map fun failure =>
          (failure.name, failure.message) := by
  intro again
  have same := map_outline_tokenize_write source file other layout
  have ended : (tokenize source file).getLast?.map Token.kind = some .endOfInput := by
    rw [tokenize, List.getLast?_concat]
    rfl
  obtain ⟨statements, problems⟩ := readTokens_outline file other limit same ended
  refine ⟨same, Program.render_eq_of_outline statements, ?_⟩
  have told := congrArg (List.map fun problem => (problem.name, problem.message)) problems
  rw [List.map_map, List.map_map] at told
  exact told

end ScriptFrontend
