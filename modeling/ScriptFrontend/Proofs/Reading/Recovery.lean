/-
This file shows that a mistake has no effect behind a semicolon outside all braces.
-/

import ScriptFrontend.Proofs.Grammar.Derivation
import ScriptFrontend.Proofs.Reading.Isolation
import ScriptFrontend.Script

namespace ScriptFrontend

/-- Tokens that end with the same tokens end in the same way. -/
theorem Cursor.ofTokens_append (tokens : List Token) {others : List Token} (more : others ≠ [])
    (file : String) :
    Cursor.ofTokens (tokens ++ others) file =
      { Cursor.ofTokens others file with
        ahead := tokens ++ (Cursor.ofTokens others file).ahead } := by
  obtain ⟨last, found⟩ : ∃ last, others.getLast? = some last :=
    ⟨_, List.getLast?_eq_some_getLast more⟩
  have foundToo : (tokens ++ others).getLast? = some last := by
    rw [List.getLast?_append, found]
    rfl
  unfold Cursor.ofTokens
  rw [foundToo, found]
  dsimp only
  split
  · rw [List.dropLast_append_of_ne_nil more]
  · rfl

theorem Cursor.ahead_ofTokens_of_present {tokens : List Token} (file : String)
    (present : ∀ token ∈ tokens, token.kind ≠ .endOfInput) :
    (Cursor.ofTokens tokens file).ahead = tokens := by
  unfold Cursor.ofTokens
  split
  · next nothing => exact (List.getLast?_eq_none_iff.1 nothing).symm
  · next last found =>
    rw [dif_neg (present last (List.mem_of_getLast? found))]

/-- A script begins in alignment with its sealed tokens. -/
theorem Rule.State.aligned_ofTokens {tokens others : List Token} (sealing : Sealed 0 tokens)
    (more : others ≠ []) (file : String) :
    Rule.Aligned (Cursor.ofTokens others file) 0 (.ofTokens tokens file)
      (.ofTokens (tokens ++ others) file) := by
  have ahead : (Cursor.ofTokens tokens file).ahead = tokens :=
    Cursor.ahead_ofTokens_of_present file sealing.present
  have longer := Cursor.ofTokens_append tokens more file
  constructor
  · change (Cursor.ofTokens _ file).index = (Cursor.ofTokens _ file).index
    rw [Cursor.index_ofTokens, Cursor.index_ofTokens]
  · change (Cursor.ofTokens _ file).lastEnd = (Cursor.ofTokens _ file).lastEnd
    rw [Cursor.lastEnd_ofTokens, Cursor.lastEnd_ofTokens]
  · change (Cursor.ofTokens _ file).ahead = (Cursor.ofTokens _ file).ahead ++ _
    rw [longer, ahead]
  · change (Cursor.ofTokens _ file).endMark = _
    rw [longer]
  · rfl
  · change Sealed 0 (Cursor.ofTokens _ file).ahead
    rwa [ahead]

theorem readTokens_of_statementsUntil {tokens : List Token} {file : String} {limit : Nat}
    {trees : List Statement} {after : Rule.State}
    (read : Rule.statementsUntil (.within limit limit) .endOfInput (.ofTokens tokens file) =
      .ok trees after) :
    (readTokens tokens file limit).program.statements = trees ∧
      (readTokens tokens file limit).errors = after.errors.toList := by
  rw [Rule.statementsUntil_apply, EStateM.Result.ok.injEq] at read
  obtain ⟨same, final⟩ := read
  exact ⟨same, congrArg (fun state => state.errors.toList) final⟩

/-- What follows a semicolon outside all braces is read as if nothing came before it, and its
failures come after those before the semicolon. -/
theorem readTokens_append {tokens : List Token}
    (present : ∀ token ∈ tokens, token.kind ≠ .endOfInput)
    (ended : tokens.getLast?.map Token.kind = some .semicolon) (balances : Balances 0 tokens)
    (others : List Token) (file : String) (limit : Nat) :
    (readTokens (tokens ++ others) file limit).program.statements =
        (readTokens tokens file limit).program.statements ++
          (readTokens others file limit).program.statements ∧
      (readTokens (tokens ++ others) file limit).errors =
        (readTokens tokens file limit).errors ++ (readTokens others file limit).errors := by
  by_cases more : others = []
  · subst more
    obtain ⟨statements, errors⟩ : (readTokens [] file limit).program.statements = [] ∧
        (readTokens [] file limit).errors = [] := ⟨rfl, rfl⟩
    rw [statements, errors]
    simp
  · have sealing : Sealed 0 tokens := by
      apply Sealed.of_balances balances present
      intro last found
      rw [found] at ended
      exact Option.some.inj ended
    have aligned := Rule.State.aligned_ofTokens sealing more file
    obtain ⟨trees, shortAfter, longAfter, read, boundary, done, continues⟩ :=
      aligned.exists_boundary limit limit
    -- The other tokens alone start with no failures and at another index than behind the boundary.
    obtain ⟨otherTrees, after, readOthers⟩ : ∃ otherTrees after,
        Rule.statementsUntil (.within limit limit) .endOfInput (.ofTokens others file) =
          .ok otherTrees after := ⟨_, _, rfl⟩
    have standing : longAfter.cursor.ahead = (Cursor.ofTokens others file).ahead := by
      rw [boundary.ahead, done, List.nil_append]
    have begins : (Cursor.ofTokens others file).index ≤ longAfter.cursor.index := by
      rw [Cursor.index_ofTokens]
      omega
    obtain ⟨last, readLast, errors⟩ := Rule.statementsUntil_resumed begins standing
      boundary.endMark (Array.append_empty).symm readOthers
    obtain ⟨statements, failures⟩ := readTokens_of_statementsUntil read
    obtain ⟨statementsOthers, failuresOthers⟩ := readTokens_of_statementsUntil readOthers
    obtain ⟨statementsAll, failuresAll⟩ :=
      readTokens_of_statementsUntil (continues otherTrees last readLast)
    rw [statementsAll, statements, statementsOthers, failuresAll, failures, failuresOthers, errors,
      boundary.errors, Array.toList_append]
    exact ⟨rfl, rfl⟩

/-- The tokens of `fn() { let = ; x }; if ({ ((x)) };` have a mistake inside a block and one that
skips a block. -/
def brokenScript : List Token :=
  Token.row "broken" [(.functionKeyword, "fn"), (.openParen, "("), (.closeParen, ")"),
    (.openCurly, "\x7b"), (.letKeyword, "let"), (.assignment, "="), (.semicolon, ";"),
    (.identifier, "x"), (.closeCurly, "\x7d"), (.semicolon, ";"), (.ifKeyword, "if"),
    (.openParen, "("), (.openCurly, "\x7b"), (.openParen, "("), (.openParen, "("),
    (.identifier, "x"), (.closeParen, ")"), (.closeParen, ")"), (.closeCurly, "\x7d"),
    (.semicolon, ";")]

/-- The tokens of `} x; let` begin with a brace that was never opened. -/
def strayScript : List Token :=
  Token.row "broken" [(.closeCurly, "\x7d"), (.identifier, "x"), (.semicolon, ";"),
    (.letKeyword, "let")]

/-- The stray brace closes nothing in the script before it. -/
theorem readTokens_brokenScript : (∀ token ∈ brokenScript, token.kind ≠ .endOfInput) ∧
    brokenScript.getLast?.map Token.kind = some .semicolon ∧ Balances 0 brokenScript ∧
    (readTokens (brokenScript ++ strayScript) "broken" 3).program.statements =
        (readTokens brokenScript "broken" 3).program.statements ++
          (readTokens strayScript "broken" 3).program.statements ∧
      (readTokens (brokenScript ++ strayScript) "broken" 3).errors =
        (readTokens brokenScript "broken" 3).errors ++ (readTokens strayScript "broken" 3).errors := by
  have present : ∀ token ∈ brokenScript, token.kind ≠ .endOfInput := by decide
  have ended : brokenScript.getLast?.map Token.kind = some .semicolon := by decide
  have balances : Balances 0 brokenScript := by decide
  exact ⟨present, ended, balances, readTokens_append present ended balances strayScript "broken" 3⟩

end ScriptFrontend
