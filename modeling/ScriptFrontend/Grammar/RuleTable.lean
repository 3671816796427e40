/-
This file says which rule of the grammar belongs to which kind of token.
-/

import ScriptFrontend.Grammar.BindingPower
import ScriptFrontend.Token

namespace ScriptFrontend

/-- A statement rule reads a statement from the keyword that begins it. -/
inductive StatementRule where
  | binding
  | returning
  deriving DecidableEq

/-- A leading rule reads an expression from its first token. -/
inductive LeadingRule where
  | literal
  | unary
  | grouping
  | conditional
  | function
  deriving DecidableEq

/-- A following rule extends an expression by the token that follows it. -/
inductive FollowingRule where
  | binary
  | call
  deriving DecidableEq

/-- A table has at most one rule of each sort for a kind of token, and a following rule has a
binding power. -/
structure RuleTable where
  statement : Token.Kind → Option StatementRule
  leading : Token.Kind → Option LeadingRule
  following : Token.Kind → Option (BindingPower × FollowingRule)

namespace RuleTable

def empty : RuleTable :=
  ⟨fun _ => none, fun _ => none, fun _ => none⟩

/-- A new rule replaces the rule of the same sort for its kind. -/
def addStatement (table : RuleTable) (kind : Token.Kind) (rule : StatementRule) : RuleTable :=
  { table with statement := fun other => if other = kind then some rule else table.statement other }

def addLeading (table : RuleTable) (kind : Token.Kind) (rule : LeadingRule) : RuleTable :=
  { table with leading := fun other => if other = kind then some rule else table.leading other }

def addFollowing (table : RuleTable) (kind : Token.Kind) (power : BindingPower)
    (rule : FollowingRule) : RuleTable :=
  { table with
    following := fun other => if other = kind then some (power, rule) else table.following other }

/-- A kind without a following rule has the lowest power and so ends every expression. -/
def power (table : RuleTable) (kind : Token.Kind) : BindingPower :=
  ((table.following kind).map Prod.fst).getD .lowest

/-- The language has these rules. -/
def standard : RuleTable where
  statement
    | .letKeyword => some .binding
    | .returnKeyword => some .returning
    | _ => none
  leading
    | .integer | .identifier | .trueKeyword | .falseKeyword => some .literal
    | .not | .dash => some .unary
    | .openParen => some .grouping
    | .ifKeyword => some .conditional
    | .functionKeyword => some .function
    | _ => none
  following
    | .equals | .notEquals => some (.equality, .binary)
    | .less | .greater => some (.comparison, .binary)
    | .plus | .dash => some (.sum, .binary)
    | .star | .slash => some (.product, .binary)
    | .openParen => some (.call, .call)
    | _ => none

theorem power_addFollowing (table : RuleTable) (kind : Token.Kind) (power : BindingPower)
    (rule : FollowingRule) : (table.addFollowing kind power rule).power kind = power := by
  simp [RuleTable.power, addFollowing]

/-- In the language every following rule binds tighter than the lowest power. -/
theorem lowest_lt_power_standard {kind : Token.Kind} {power : BindingPower} {rule : FollowingRule}
    (present : standard.following kind = some (power, rule)) : BindingPower.lowest < power := by
  cases kind <;> simp [standard] at present <;> obtain ⟨rfl, -⟩ := present <;> decide

end RuleTable

end ScriptFrontend
