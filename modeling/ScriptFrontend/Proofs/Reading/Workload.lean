/-
This file bounds the work of a reading by the number of its tokens.
-/

import ScriptFrontend.Proofs.Tree.Counting
import ScriptFrontend.Proofs.Tree.WellFormed

namespace ScriptFrontend

/-- The failures of a reading and the statements of its program have different tokens. -/
theorem errors_add_statements_le (tokens : List Token) (file : String) (limit : Nat) :
    (readTokens tokens file limit).errors.length +
        (readTokens tokens file limit).program.nodes.countP Node.isStatement ≤
      (beforeEnd tokens).length := by
  obtain ⟨used, need, derived, -, bound⟩ := exists_derivation_beforeEnd tokens file limit
  have counted : Node.statementTotal
      ((readTokens tokens file limit).program.statements.map Node.statement) ≤ used.length :=
    derived.statementTotal_le
  rw [Program.countP_nodes]
  omega

/-- Reading takes linear work. Wherever it begins, a list of statements has rounds that consume at
least one token each, and it is done only in front of the closing kind or of an end mark. The list of
a block is such a list with one level of room less. In a whole reading every failure and every
statement of the tree has a token for itself among those before the first end mark. -/
theorem statements_progress :
    (∀ (limit room : Nat) (closing : Token.Kind) (state : Rule.State),
      let (statements, final) := state.statementsUntil (.within limit room) closing
      Rule.Rounds (.within limit room) closing state statements final ∧
        (final.current.kind = .endOfInput ∨ final.current.kind = closing)) ∧
    ∀ (tokens : List Token) (file : String) (limit : Nat),
      (readTokens tokens file limit).errors.length +
          (readTokens tokens file limit).program.nodes.countP Node.isStatement ≤
        (beforeEnd tokens).length := by
  refine ⟨fun limit room closing state => ?_, errors_add_statements_le⟩
  have rounds := Rule.rounds_statementsUntil (Nested.steady_within limit room) closing state
  exact ⟨rounds, rounds.ends⟩

/-- No token is left over where a statement consists of a single one. -/
example : let reading := readScript "a b @" "single" 1
    reading.errors.length = 1 ∧ reading.program.nodes.countP Node.isStatement = 2 ∧
      (beforeEnd (tokenize "a b @" "single")).length = 3 := by
  decide +kernel

end ScriptFrontend
