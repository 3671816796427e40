/-
This file characterizes the scripts that are read without failures by the grammar.
-/

import ScriptFrontend.Proofs.Grammar.Completeness
import ScriptFrontend.Proofs.Grammar.Soundness

namespace ScriptFrontend

section Derivations

variable {trees others : List Statement} {tokens : List Token} {need otherNeed : Nat}

/-- With any less room than a derivation needs, failures occur. -/
theorem Derives.need_le_of_accepted
    (derived : Derives .apart (.statements trees) (beforeEnd tokens) need) {file : String} {limit : Nat}
    (accepted : (readTokens tokens file limit).errors = []) : need ≤ limit := by
  refine Nat.le_of_not_lt fun short => ?_
  obtain ⟨failure, (recorded : failure ∈ (readTokens tokens file limit).errors), -⟩ :=
    (derived.settles file limit).overflows short
  rw [accepted] at recorded
  cases recorded

/-- The grammar is unambiguous where statements next to each other are apart. The trees are those
that are read with enough room, and the need is the least room for which no failures occur. -/
theorem Derives.unique (derived : Derives .apart (.statements trees) (beforeEnd tokens) need)
    (other : Derives .apart (.statements others) (beforeEnd tokens) otherNeed) :
    trees = others ∧ need = otherNeed := by
  obtain ⟨read, accepted⟩ := derived.readTokens_eq defaultFile (Nat.le_max_left need otherNeed)
  obtain ⟨readOther, -⟩ := other.readTokens_eq defaultFile (Nat.le_max_right need otherNeed)
  obtain ⟨-, acceptedExactly⟩ := derived.readTokens_eq defaultFile (Nat.le_refl need)
  obtain ⟨-, acceptedOther⟩ := other.readTokens_eq defaultFile (Nat.le_refl otherNeed)
  constructor
  · rw [← read, readOther]
  · exact Nat.le_antisymm (derived.need_le_of_accepted acceptedOther)
      (other.need_le_of_accepted acceptedExactly)

end Derivations

/-- Reading decides the language of the grammar: no failures occur exactly for the scripts with a
derivation in which statements next to each other are apart and that the limit has room for. -/
theorem errors_eq_nil_iff (tokens : List Token) (file : String) (limit : Nat) :
    (readTokens tokens file limit).errors = [] ↔
      ∃ trees need, Derives .apart (.statements trees) (beforeEnd tokens) need ∧ need ≤ limit := by
  constructor
  · intro accepted
    obtain ⟨need, derived⟩ := exists_derivation_apart accepted
    exact ⟨_, need, derived, derived.need_le_of_accepted accepted⟩
  · rintro ⟨trees, need, derived, enough⟩
    exact (derived.readTokens_eq file enough).2

/-- Each script without failures needs one amount of room, and the same tree is read with any more. -/
theorem exists_need {tokens : List Token} {file : String} {limit : Nat}
    (accepted : (readTokens tokens file limit).errors = []) :
    ∃ need, need ≤ limit ∧ ∀ other room,
      ((readTokens tokens other room).errors = [] ↔ need ≤ room) ∧
      (need ≤ room → (readTokens tokens other room).program.statements =
        (readTokens tokens file limit).program.statements) := by
  obtain ⟨need, derived⟩ := exists_derivation_apart accepted
  refine ⟨need, derived.need_le_of_accepted accepted, fun other room => ⟨?_, fun enough => ?_⟩⟩
  · exact ⟨derived.need_le_of_accepted, fun enough => (derived.readTokens_eq other enough).2⟩
  · exact (derived.readTokens_eq other enough).1

end ScriptFrontend
