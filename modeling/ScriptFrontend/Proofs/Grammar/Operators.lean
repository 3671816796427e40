/-
This file relates the rule table to the strata of the grammar and to the first tokens of phrases.
-/

import ScriptFrontend.Proofs.Grammar.Derivation
import ScriptFrontend.Reading.Statements

namespace ScriptFrontend

/-- An expression that is read with some power belongs to this stratum. The operand of a unary
operator may be a unary operation itself. -/
def BindingPower.operand : BindingPower → Stratum
  | .lowest => .equality
  | .equality => .comparison
  | .comparison => .sum
  | .sum => .product
  | .product | .unary | .call => .unary

namespace BindingPower

theorem rank_operand_le (power : BindingPower) : power.operand.rank ≤ Stratum.unary.rank := by
  cases power <;> decide

theorem rank_operand_le_succ (power : BindingPower) : power.operand.rank ≤ power.rank + 1 := by
  cases power <;> decide

theorem rank_le_operand {power : BindingPower} (notCall : power ≠ .call) :
    power.rank ≤ power.operand.rank := by
  cases power <;> first | decide | exact absurd rfl notCall

/-- The operators of a stratum of binary operations bind tighter than every power whose operands
include them. -/
theorem rank_lt_of_operand {power : BindingPower} {rank : Nat} (fits : power.operand.rank ≤ rank)
    (small : rank < Stratum.unary.rank) : power.rank < rank := by
  cases power <;> simp only [operand, Stratum.rank, BindingPower.rank] at * <;> omega

theorem rank_le_call (power : BindingPower) : power.rank ≤ Stratum.call.rank := by
  cases power <;> decide

theorem eq_lowest_of_not_lt {power : BindingPower} (weak : ¬ lowest < power) : power = lowest := by
  cases power <;> first | rfl | exact absurd (by decide) weak

end BindingPower

/-- A leading rule begins at these kinds of tokens. -/
def LeadingRule.kinds : LeadingRule → List Token.Kind
  | literal => [.integer, .identifier, .trueKeyword, .falseKeyword]
  | unary => [.not, .dash]
  | grouping => [.openParen]
  | conditional => [.ifKeyword]
  | function => [.functionKeyword]

/-- The keyword of a statement. -/
def StatementRule.keyword : StatementRule → Token.Kind
  | binding => .letKeyword
  | returning => .returnKeyword

/-- The power of a kind of token as an operator behind an expression. -/
def Token.Kind.strength (kind : Token.Kind) : BindingPower :=
  RuleTable.standard.power kind

namespace RuleTable

theorem leading_eq_some_iff {kind : Token.Kind} {rule : LeadingRule} :
    standard.leading kind = some rule ↔ kind ∈ rule.kinds := by
  cases rule <;> cases kind <;> decide

theorem keyword_of_statement {kind : Token.Kind} {rule : StatementRule}
    (dispatched : standard.statement kind = some rule) : kind = rule.keyword := by
  cases kind <;> cases rule <;> first | rfl | cases dispatched

theorem strength_of_following {kind : Token.Kind} {strength : BindingPower} {rule : FollowingRule}
    (dispatched : standard.following kind = some (strength, rule)) : kind.strength = strength := by
  rw [Token.Kind.strength, power, dispatched]
  rfl

theorem strength_of_following_none {kind : Token.Kind} (nothing : standard.following kind = none) :
    kind.strength = .lowest := by
  rw [Token.Kind.strength, power, nothing]
  rfl

/-- A binary rule belongs to an operator of a stratum, and its right operand is read in the next
tighter stratum. -/
theorem operator_of_following {kind : Token.Kind} {strength : BindingPower}
    (dispatched : standard.following kind = some (strength, .binary)) :
    ∃ stratum : Stratum, kind ∈ stratum.operators ∧ stratum.rank = strength.rank ∧
      stratum.tighter? = some strength.operand := by
  cases kind <;> simp only [standard, reduceCtorEq, Option.some.injEq, Prod.mk.injEq,
    and_true, and_false] at dispatched
  all_goals subst dispatched
  · exact ⟨.equality, by decide, rfl, rfl⟩
  · exact ⟨.equality, by decide, rfl, rfl⟩
  · exact ⟨.comparison, by decide, rfl, rfl⟩
  · exact ⟨.comparison, by decide, rfl, rfl⟩
  · exact ⟨.sum, by decide, rfl, rfl⟩
  · exact ⟨.sum, by decide, rfl, rfl⟩
  · exact ⟨.product, by decide, rfl, rfl⟩
  · exact ⟨.product, by decide, rfl, rfl⟩

/-- An operator of a stratum has a binary rule, and its power is that of the stratum. -/
theorem following_of_operator {stratum tighter : Stratum} {kind : Token.Kind}
    (next : stratum.tighter? = some tighter) (operation : kind ∈ stratum.operators) :
    ∃ strength, standard.following kind = some (strength, .binary) ∧
      strength.rank = stratum.rank ∧ strength.operand = tighter ∧ strength ≠ .call := by
  cases stratum <;> cases next
  all_goals simp only [Stratum.operators, List.mem_cons, List.not_mem_nil, or_false] at operation
  all_goals rcases operation with rfl | rfl
  all_goals exact ⟨_, rfl, rfl, rfl, by decide⟩

theorem openParen_of_following {kind : Token.Kind} {strength : BindingPower}
    (dispatched : standard.following kind = some (strength, .call)) :
    kind = .openParen ∧ strength = .call := by
  cases kind <;> simp only [standard, reduceCtorEq, Option.some.injEq, Prod.mk.injEq,
    and_true, and_false] at dispatched
  exact ⟨rfl, dispatched.symm⟩

/-- No rule but the unary one and the one for parentheses begins an expression with a token that
can also follow one. -/
theorem strength_of_leading {kind : Token.Kind} {rule : LeadingRule}
    (dispatched : standard.leading kind = some rule) (noDash : kind ≠ .dash)
    (noParen : kind ≠ .openParen) : kind.strength = .lowest := by
  cases kind <;> first | contradiction | rfl

end RuleTable

/-- What ends a return begins no expression. -/
theorem Rule.endsReturn_of_leading {kind : Token.Kind} {rule : LeadingRule}
    (dispatched : RuleTable.standard.leading kind = some rule) : endsReturn kind = false := by
  cases kind <;> first | rfl | cases dispatched

/-- An expression begins with a token that has a leading rule. -/
theorem Derives.exists_leading_of_eq {adjacency : Adjacency} {phrase : Phrase} {tokens : List Token}
    {need : Nat} (derived : Derives adjacency phrase tokens need) {stratum : Stratum}
    {tree : Expression} (same : phrase = .expression stratum tree) :
    ∃ token others rule, tokens = token :: others ∧
      RuleTable.standard.leading token.kind = some rule := by
  have leads {token : Token} {others : List Token} {rule : LeadingRule}
      (kind : token.kind ∈ rule.kinds) : ∃ first rest rule, token :: others = first :: rest ∧
        RuleTable.standard.leading first.kind = some rule :=
    ⟨token, others, rule, rfl, RuleTable.leading_eq_some_iff.2 kind⟩
  induction derived generalizing stratum tree with
  | binary _ _ _ _ left _ =>
    obtain ⟨token, others, rule, rfl, dispatched⟩ := left rfl
    exact ⟨token, _, rule, rfl, dispatched⟩
  | tighter _ _ part => exact part rfl
  | unary operation _ _ => exact @leads _ _ .unary (by simpa [LeadingRule.kinds] using operation)
  | call _ _ _ _ callee _ =>
    obtain ⟨token, others, rule, rfl, dispatched⟩ := callee rfl
    exact ⟨token, _, rule, rfl, dispatched⟩
  | integer kind _ => exact @leads _ _ .literal (by simp [LeadingRule.kinds, kind])
  | identifier kind => exact @leads _ _ .literal (by simp [LeadingRule.kinds, kind])
  | @truth token value kind =>
    apply @leads _ _ .literal
    cases value <;> simp [LeadingRule.kinds, kind]
  | grouping opens _ _ _ => exact @leads _ _ .grouping (by simp [LeadingRule.kinds, opens])
  | conditional keyword _ _ _ _ _ _ _ _ =>
    exact @leads _ _ .conditional (by simp [LeadingRule.kinds, keyword])
  | function keyword _ _ _ _ _ _ =>
    exact @leads _ _ .function (by simp [LeadingRule.kinds, keyword])
  | _ => cases same

namespace Derives

variable {adjacency : Adjacency} {tokens : List Token} {need : Nat}

theorem exists_leading {stratum : Stratum} {tree : Expression}
    (derived : Derives adjacency (.expression stratum tree) tokens need) :
    ∃ token others rule, tokens = token :: others ∧
      RuleTable.standard.leading token.kind = some rule :=
  derived.exists_leading_of_eq rfl

/-- A statement begins with its keyword or as an expression does. -/
theorem exists_beginning {tree : Statement} {ended : Bool}
    (derived : Derives adjacency (.statement tree ended) tokens need) :
    ∃ token others, tokens = token :: others ∧ (token.kind = .letKeyword ∨
      token.kind = .returnKeyword ∨ ∃ rule, RuleTable.standard.leading token.kind = some rule) := by
  cases derived with
  | binding keyword _ _ _ _ => exact ⟨_, _, rfl, .inl keyword⟩
  | bareReturn keyword _ => exact ⟨_, _, rfl, .inr (.inl keyword)⟩
  | returning keyword _ _ => exact ⟨_, _, rfl, .inr (.inl keyword)⟩
  | bareExpression _ part =>
    obtain ⟨token, others, rule, same, dispatched⟩ := part.exists_leading
    obtain ⟨rfl, rfl⟩ := List.cons_eq_cons.1 same
    exact ⟨_, _, rfl, .inr (.inr ⟨rule, dispatched⟩)⟩

theorem exists_head {trees : List Statement}
    (derived : Derives adjacency (.statements trees) tokens need) :
    tokens = [] ∨ ∃ token others, tokens = token :: others ∧ (token.kind = .letKeyword ∨
      token.kind = .returnKeyword ∨ ∃ rule, RuleTable.standard.leading token.kind = some rule) := by
  cases derived with
  | noStatements => exact .inl rfl
  | moreStatements _ part _ =>
    obtain ⟨token, others, rfl, begins⟩ := part.exists_beginning
    exact .inr ⟨token, _, rfl, begins⟩

end Derives

end ScriptFrontend
