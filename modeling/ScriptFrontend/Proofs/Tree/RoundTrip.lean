/-
This file shows that the canonical form of a program is read as a program with the same outline.
-/

import ScriptFrontend.Proofs.Grammar.Completeness
import ScriptFrontend.Proofs.Grammar.Soundness
import ScriptFrontend.Proofs.Lexeme.Tokenization
import ScriptFrontend.Proofs.Tree.Rereadable

namespace ScriptFrontend

open Lexeme

/-- At the top of a script the last expression stands without a semicolon. -/
theorem Program.rereads_statements {statements : List Statement}
    (inside : ∀ statement ∈ statements, statement.Rereadable) :
    Rereads Apart (Program.renderStatements statements) fun tokens => ∃ again,
      again.map Statement.outline = statements.map Statement.outline ∧
        Derives .apart (.statements again) tokens (Statement.depthEach statements) := by
  induction statements with
  | nil =>
    apply Rereads.empty.before.imp
    intro tokens nothing
    subst nothing
    exact ⟨[], rfl, .noStatements⟩
  | cons statement others ih =>
    cases others with
    | nil =>
      apply (inside statement List.mem_cons_self).reads.imp
      intro tokens read
      obtain ⟨again, ended, same, part⟩ := read
      refine ⟨[again], by simp [same], ?_⟩
      rw [← List.append_nil tokens]
      exact .moreStatements (Adjacency.apart_nil _ _) part .noStatements
    | cons next others =>
      have first := (inside statement List.mem_cons_self).closed
      have rest := ih fun other member => inside other (List.mem_cons_of_mem _ member)
      have gap : Rereads Anything (if statement.isExpression then " " else "") fun tokens =>
          tokens = [] := by
        split
        · exact Rereads.space
        · exact Rereads.empty
      have whole := (first.append gap fun _ _ => trivial).append rest fun _ _ => trivial
      have shape : Program.renderStatements (statement :: next :: others) =
          statement.render ++ (if statement.isExpression then ";" else "") ++
            (if statement.isExpression then " " else "") ++
              Program.renderStatements (next :: others) := by
        rw [Program.renderStatements]
        cases statement.isExpression <;> simp [String.append_assoc]
      rw [shape]
      apply whole.imp
      intro tokens read
      obtain ⟨_, _, rfl, firstRead, more, sameMore, moreParts⟩ := read
      obtain ⟨_, _, rfl, ⟨again, same, part⟩, rfl⟩ := firstRead
      rw [List.append_nil]
      refine ⟨again :: more, ?_, .moreStatements (Adjacency.apart_of_ended _ _) part moreParts⟩
      rw [List.map_cons, List.map_cons, same, sameMore]

/-- The statements of a script are derived from tokens that spell their kinds. -/
theorem exists_spelled_derivation (source name file : String) (limit : Nat) :
    let reading := readTokens (tokenize source name) file limit
    ∃ used need, Derives .free (.statements reading.program.statements) used need ∧
      (∀ token ∈ used, token.Spelled) ∧ used.Sublist (tokenize source name) ∧
        (reading.errors = [] → used = beforeEnd (tokenize source name)) := by
  intro reading
  obtain ⟨used, need, derived, sublist, all⟩ := exists_derivation (tokenize source name) file limit
  refine ⟨used, need, derived, ?_, sublist, all⟩
  intro token member
  exact spelled_of_mem_tokenize (sublist.subset member) (derived.admitted token member)

/-- The canonical form of a derived program is derived as statements with the same outline, and the
derivation nests as deep as the depth of the program says. -/
theorem Program.exists_rederived_at_depth {program : Program} {used : List Token} {need : Nat}
    (derived : Derives .free (.statements program.statements) used need)
    (spelled : ∀ token ∈ used, token.Spelled) (name : String) :
    ∃ again, again.map Statement.outline = program.statements.map Statement.outline ∧
      Derives .apart (.statements again) (beforeEnd (tokenize program.render name))
        program.depth := by
  obtain ⟨marks, cuts, all⟩ := Program.rereads_statements (derived.rereadable spelled)
  apply all
  have cut := cuts [] apart_nil
  rw [List.append_nil, outlines_nil, List.append_nil] at cut
  rw [map_outline_beforeEnd]
  exact cut

theorem Program.exists_rederived {program : Program} {used : List Token} {need : Nat}
    (derived : Derives .free (.statements program.statements) used need)
    (spelled : ∀ token ∈ used, token.Spelled) (name : String) :
    ∃ again againNeed, again.map Statement.outline = program.statements.map Statement.outline ∧
      Derives .apart (.statements again) (beforeEnd (tokenize program.render name)) againNeed := by
  obtain ⟨again, outline, rederived⟩ := Program.exists_rederived_at_depth derived spelled name
  exact ⟨again, program.depth, outline, rederived⟩

/-- The canonical form of a program, whether failures occurred or not, is read without failures as
a program with the same outline, wherever there is enough room. Hence its canonical form is the
same. -/
theorem exists_bound_reread (source name file : String) (limit : Nat) (newName newFile : String) :
    let program := (readTokens (tokenize source name) file limit).program
    ∃ bound, ∀ room, bound ≤ room →
      let again := readTokens (tokenize program.render newName) newFile room
      again.errors = [] ∧
        again.program.statements.map Statement.outline =
          program.statements.map Statement.outline ∧
        again.program.render = program.render := by
  intro program
  obtain ⟨used, _, derived, spelled, -⟩ := exists_spelled_derivation source name file limit
  obtain ⟨trees, need, outline, rederived⟩ : ∃ trees need,
      trees.map Statement.outline = program.statements.map Statement.outline ∧
        Derives .apart (.statements trees) (beforeEnd (tokenize program.render newName)) need :=
    Program.exists_rederived derived spelled newName
  refine ⟨need, ?_⟩
  intro room enough
  obtain ⟨read, accepted⟩ := rederived.readTokens_eq newFile enough
  refine ⟨accepted, ?_, ?_⟩
  · rw [read]
    exact outline
  · rw [Program.render, read, ← Program.renderStatements_outline, outline,
      Program.renderStatements_outline]
    rfl

/-- The canonical form of what was read, as a script of its own. -/
def Reading.reread (reading : Reading) (file : String) (limit : Nat) : Reading :=
  readScript reading.program.render file limit

/-- A reading is reproduced when its canonical form is read without failures and has the same
canonical form. -/
structure Reading.Reproduced (reading : Reading) (file : String) (limit : Nat) : Prop where
  accepted : (reading.reread file limit).errors = []
  render : (reading.reread file limit).program.render = reading.program.render

/-- The reading of a script, whether failures occurred or not, is reproduced where the limit covers
the depth of the program. Elsewhere the lack of room is reported. -/
theorem reproduced_within_depth (source file newFile : String) (limit room : Nat) :
    ((readScript source file limit).program.depth ≤ room →
      (readScript source file limit).Reproduced newFile room) ∧
    (room < (readScript source file limit).program.depth →
      ∃ failure ∈ ((readScript source file limit).reread newFile room).errors,
        failure.problem = .nestingTooDeep room) := by
  obtain ⟨used, _, derived, spelled, -⟩ := exists_spelled_derivation source file file limit
  obtain ⟨trees, outline, rederived⟩ :=
    Program.exists_rederived_at_depth derived spelled newFile
  refine ⟨?_, (rederived.settles newFile room).overflows⟩
  intro enough
  obtain ⟨read, accepted⟩ := rederived.readTokens_eq newFile enough
  refine ⟨accepted, Program.render_eq_of_outline ?_⟩
  rw [← read] at outline
  exact outline

/-- These negations nest less than the default limit allows. Their canonical form nests twice as
deep, because every negation has parentheses of its own there. -/
def negatedScript : String :=
  "!!!!!!!!!!!!!!!!!!!!!!!!!!!!!!!!x"

/-- The default limit does not cover the canonical form of every script that it covers. -/
theorem not_reproduced_negatedScript : ¬ ∀ source file : String,
    (readScript source file Reader.defaultLimit).errors = [] →
      (readScript source file Reader.defaultLimit).Reproduced file Reader.defaultLimit := by
  intro every
  have accepted : (readScript negatedScript defaultFile Reader.defaultLimit).errors = [] := by
    decide +kernel
  have refused : ((readScript negatedScript defaultFile Reader.defaultLimit).reread defaultFile
      Reader.defaultLimit).errors ≠ [] := by
    decide +kernel
  exact refused (every negatedScript defaultFile accepted).accepted

end ScriptFrontend
