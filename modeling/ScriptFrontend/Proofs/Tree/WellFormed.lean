/-
This file shows what can be relied on at every node of a tree, and that the tree has its tokens from
the script in their order.
-/

import Mathlib.Data.List.NodupEquivFin
import ScriptFrontend.Proofs.Grammar.Soundness
import ScriptFrontend.Proofs.Reading.Cutoff
import ScriptFrontend.Proofs.Tree.Nodes

namespace ScriptFrontend

namespace Text

/-- A text denotes an integer when it consists of digits of that value behind at most one sign. -/
inductive Denotes : List Char → Int → Prop where
  | unsigned {digits : List Char} (some : digits ≠ []) (all : ∀ c ∈ digits, c.isDigit = true) :
      Denotes digits (digitsValue digits)
  | positive {digits : List Char} (some : digits ≠ []) (all : ∀ c ∈ digits, c.isDigit = true) :
      Denotes ('+' :: digits) (digitsValue digits)
  | negative {digits : List Char} (some : digits ≠ []) (all : ∀ c ∈ digits, c.isDigit = true) :
      Denotes ('-' :: digits) (-digitsValue digits)

theorem digits_of_magnitude? {digits : List Char} {magnitude : Nat}
    (read : magnitude? digits = some magnitude) :
    digits ≠ [] ∧ (∀ c ∈ digits, c.isDigit = true) ∧ magnitude = digitsValue digits := by
  unfold magnitude? at read
  split at read
  · next numeral =>
    simp only [Bool.and_eq_true, Bool.not_eq_true', List.isEmpty_eq_false_iff,
      List.all_eq_true] at numeral
    exact ⟨numeral.1, numeral.2, (Option.some.inj read).symm⟩
  · cases read

theorem denotes_of_numeral? {text : List Char} {value : Int} (read : numeral? text = some value) :
    Denotes text value := by
  unfold numeral? at read
  split at read
  · obtain ⟨_, counted, rfl⟩ := Option.map_eq_some_iff.1 read
    obtain ⟨magnitude, found, same⟩ := Option.bind_eq_some_iff.1 counted
    cases same
    obtain ⟨some, all, rfl⟩ := digits_of_magnitude? found
    exact .negative some all
  · obtain ⟨_, counted, rfl⟩ := Option.map_eq_some_iff.1 read
    obtain ⟨magnitude, found, same⟩ := Option.bind_eq_some_iff.1 counted
    cases same
    obtain ⟨some, all, rfl⟩ := digits_of_magnitude? found
    exact .positive some all
  · obtain ⟨_, counted, rfl⟩ := Option.map_eq_some_iff.1 read
    obtain ⟨magnitude, found, same⟩ := Option.bind_eq_some_iff.1 counted
    cases same
    obtain ⟨some, all, rfl⟩ := digits_of_magnitude? found
    exact .unsigned some all

/-- The word that is read from a text has exactly the value that the text denotes. -/
theorem denotes_of_readInteger? {text : String} {word : Int64}
    (read : readInteger? text = some word) : Denotes text.toList word.toInt := by
  obtain ⟨value, numeral, fits⟩ := Option.bind_eq_some_iff.1 read
  rw [toInt_of_int64? fits]
  exact denotes_of_numeral? numeral

end Text

/-- The kinds of the binary operators. -/
def Token.Kind.binaryOperators : List Token.Kind :=
  [.equals, .notEquals, .less, .greater, .plus, .dash, .star, .slash]

/-- What an evaluator relies on at a node. The value of an identifier is the text of its token, and
the names of bindings and functions are identifiers among the children. -/
def Node.WellFormed : Node → Prop
  | statement (.binding token _ _ _) => token.kind = .letKeyword
  | statement (.returning token _ _) => token.kind = .returnKeyword
  | statement (.expression _ _ _) => True
  | block (.braces token _ _) => token.kind = .openCurly
  | expression (.identifier token) => token.kind = .identifier
  | expression (.integer token value) =>
    token.kind = .integer ∧ Text.Denotes token.text.toList value.toInt
  | expression (.boolean token value) =>
    (value = true ↔ token.kind = .trueKeyword) ∧ (value = false ↔ token.kind = .falseKeyword)
  | expression (.unary operator _ _) => operator.kind = .not ∨ operator.kind = .dash
  | expression (.binary _ operator _ _) => operator.kind ∈ Token.Kind.binaryOperators
  | expression (.conditional token _ _ _ _) => token.kind = .ifKeyword
  | expression (.function token _ _ _) => token.kind = .functionKeyword
  | expression (.call _ token _ _) => token.kind = .openParen

mutual

/-- The tokens of a tree in the order of its text. The token that introduces an expression statement
is left out, because it is a copy of one of the others or a parenthesis. -/
def Expression.tokens : Expression → List Token
  | .identifier token | .integer token _ | .boolean token _ => [token]
  | .unary operator operand _ => operator :: operand.tokens
  | .binary left operator right _ => left.tokens ++ operator :: right.tokens
  | .conditional token condition consequence alternative _ =>
    token :: (condition.tokens ++ (consequence.tokens ++ Block.tokensOptional alternative))
  | .function token parameters body _ => token :: (parameters ++ body.tokens)
  | .call callee token arguments _ => callee.tokens ++ token :: Expression.tokensAll arguments

def Expression.tokensAll : List Expression → List Token
  | [] => []
  | expression :: others => expression.tokens ++ Expression.tokensAll others

def Expression.tokensOptional : Option Expression → List Token
  | none => []
  | some expression => expression.tokens

def Statement.tokens : Statement → List Token
  | .binding token name value _ => token :: name :: value.tokens
  | .returning token value _ => token :: Expression.tokensOptional value
  | .expression _ expression _ => expression.tokens

def Statement.tokensAll : List Statement → List Token
  | [] => []
  | statement :: others => statement.tokens ++ Statement.tokensAll others

def Block.tokens : Block → List Token
  | .braces token statements _ => token :: Statement.tokensAll statements

def Block.tokensOptional : Option Block → List Token
  | none => []
  | some block => block.tokens

end

def Phrase.tokens : Phrase → List Token
  | .expression _ tree => tree.tokens
  | .arguments trees => Expression.tokensAll trees
  | .parameters names => names
  | .alternative tree => Block.tokensOptional tree
  | .block tree => tree.tokens
  | .statement tree _ => tree.tokens
  | .statements trees => Statement.tokensAll trees

namespace Derives

variable {adjacency : Adjacency} {phrase : Phrase} {used : List Token} {need : Nat}

/-- The tokens of a tree are among those that it is derived from, in their order. -/
theorem tokens_sublist (derived : Derives adjacency phrase used need) :
    phrase.tokens.Sublist used := by
  induction derived with
  | binary _ _ _ _ left right => exact left.append (right.cons_cons _)
  | tighter _ _ part => exact part
  | unary _ _ part => exact part.cons_cons _
  | call _ _ _ _ callee arguments =>
    exact callee.append ((arguments.trans (List.sublist_append_left _ _)).cons_cons _)
  | integer | identifier | truth => exact .refl _
  | grouping _ _ _ part => exact (part.trans (List.sublist_append_left _ _)).cons _
  | conditional _ _ _ _ _ _ condition consequence alternative =>
    exact ((condition.append ((consequence.append alternative).cons _)).cons _).cons_cons _
  | function _ _ _ _ _ names body => exact ((names.append (body.cons _)).cons _).cons_cons _
  | noArguments | noParameters | noAlternative | noStatements => exact .slnil
  | lastArgument _ part => simpa [Phrase.tokens, Expression.tokensAll] using part
  | moreArguments _ _ _ _ part others => exact part.append (others.cons _)
  | lastParameter => exact .refl _
  | moreParameters _ _ _ _ others => exact (others.cons _).cons_cons _
  | alternative _ _ part => exact part.cons _
  | block _ _ _ part => exact (part.trans (List.sublist_append_left _ _)).cons_cons _
  | binding _ _ _ _ _ part =>
    exact (((part.trans (List.sublist_append_left _ _)).cons _).cons_cons _).cons_cons _
  | bareReturn => exact (List.nil_sublist _).cons_cons _
  | returning _ _ _ part => exact (part.trans (List.sublist_append_left _ _)).cons_cons _
  | bareExpression _ _ part => exact part.trans (List.sublist_append_left (_ :: _) _)
  | moreStatements _ _ _ part others => exact part.append others

/-- Every node of a derived tree is well-formed, and what all the used tokens have in common holds of
its token. -/
theorem everywhere_wellFormed (derived : Derives adjacency phrase used need) {common : Token → Prop}
    (all : ∀ token ∈ used, common token) :
    ∀ root ∈ phrase.roots,
      root.Everywhere fun node => node.WellFormed ∧ common node.token := by
  induction derived with
  | binary _ operation _ _ left right =>
    simp only [List.forall_mem_append, List.forall_mem_cons] at all
    refine .alone ⟨Stratum.kind_of_mem_operators operation, all.2.1⟩ ?_
    exact List.forall_mem_append.2 ⟨left all.1, right all.2.2⟩
  | tighter _ _ part => exact part all
  | unary operation _ part =>
    rw [List.forall_mem_cons] at all
    exact .alone ⟨operation, all.1⟩ (part all.2)
  | call opens _ _ _ callee arguments =>
    simp only [List.forall_mem_append, List.forall_mem_cons] at all
    refine .alone ⟨opens, all.2.1⟩ ?_
    rw [Node.parts_call]
    exact List.forall_mem_append.2 ⟨callee all.1, arguments all.2.2.1⟩
  | integer kind denoted =>
    refine .alone ⟨⟨kind, Text.denotes_of_readInteger? denoted⟩, ?_⟩ (List.forall_mem_nil _)
    exact List.forall_mem_singleton.1 all
  | identifier kind =>
    exact .alone ⟨kind, List.forall_mem_singleton.1 all⟩ (List.forall_mem_nil _)
  | @truth token value kind =>
    refine .alone ⟨?_, List.forall_mem_singleton.1 all⟩ (List.forall_mem_nil _)
    cases value <;> simp [Node.WellFormed, kind]
  | grouping _ _ _ part =>
    simp only [List.forall_mem_append, List.forall_mem_cons] at all
    exact part all.2.1
  | conditional keyword _ _ _ _ _ condition consequence alternative =>
    simp only [List.forall_mem_append, List.forall_mem_cons] at all
    obtain ⟨here, _, conditionAll, _, consequenceAll, alternativeAll⟩ := all
    refine .alone ⟨keyword, here⟩ ?_
    rw [Node.parts_conditional]
    exact List.forall_mem_append.2 ⟨condition conditionAll,
      List.forall_mem_append.2 ⟨consequence consequenceAll, alternative alternativeAll⟩⟩
  | function keyword _ _ _ _ names body =>
    simp only [List.forall_mem_append, List.forall_mem_cons] at all
    obtain ⟨here, _, namesAll, _, bodyAll⟩ := all
    refine .alone ⟨keyword, here⟩ ?_
    rw [Node.parts_function]
    exact List.forall_mem_append.2 ⟨names namesAll, body bodyAll⟩
  | noArguments | noParameters | noAlternative | noStatements => exact List.forall_mem_nil _
  | lastArgument _ part => exact part all
  | moreArguments _ _ _ _ part others =>
    simp only [List.forall_mem_append, List.forall_mem_cons] at all
    exact List.forall_mem_append.2 ⟨part all.1, others all.2.2⟩
  | lastParameter kind =>
    exact .alone ⟨kind, List.forall_mem_singleton.1 all⟩ (List.forall_mem_nil _)
  | moreParameters kind _ _ _ others =>
    simp only [List.forall_mem_cons] at all
    exact List.forall_mem_cons.2
      ⟨.intro ⟨kind, all.1⟩ (List.forall_mem_nil _), others all.2.2⟩
  | alternative _ _ part =>
    rw [List.forall_mem_cons] at all
    exact part all.2
  | block opens _ _ part =>
    simp only [List.forall_mem_append, List.forall_mem_cons] at all
    refine .alone ⟨opens, all.1⟩ ?_
    rw [Node.parts_block]
    exact part all.2.1
  | binding keyword kind _ _ _ part =>
    simp only [List.forall_mem_append, List.forall_mem_cons] at all
    obtain ⟨here, named, _, partAll, _⟩ := all
    refine .alone ⟨keyword, here⟩ ?_
    exact List.forall_mem_cons.2 ⟨.intro ⟨kind, named⟩ (List.forall_mem_nil _), part partAll⟩
  | bareReturn keyword _ =>
    rw [List.forall_mem_cons] at all
    exact .alone ⟨keyword, all.1⟩ (List.forall_mem_nil _)
  | returning keyword _ _ part =>
    simp only [List.forall_mem_append, List.forall_mem_cons] at all
    exact .alone ⟨keyword, all.1⟩ (part all.2.1)
  | bareExpression _ _ part =>
    rw [← List.cons_append, List.forall_mem_append] at all
    exact .alone ⟨trivial, all.1 _ List.mem_cons_self⟩ (part all.1)
  | moreStatements _ _ _ part others =>
    rw [List.forall_mem_append] at all
    exact List.forall_mem_append.2 ⟨part all.1, others all.2⟩

end Derives

/-- The statements that were read are derived from tokens before the first end mark, whether failures
occurred or not. Every failure leaves one of these tokens unused. -/
theorem exists_derivation_beforeEnd (tokens : List Token) (file : String) (limit : Nat) :
    ∃ used need,
      Derives .free (.statements (readTokens tokens file limit).program.statements) used need ∧
        used.Sublist (beforeEnd tokens) ∧
        used.length + (readTokens tokens file limit).errors.length ≤ (beforeEnd tokens).length := by
  let begun := Rule.State.ofTokens tokens file
  obtain ⟨final, read, errors⟩ : ∃ final,
      Rule.statementsUntil (.within limit limit) .endOfInput begun =
        .ok (readTokens tokens file limit).program.statements final ∧
      (readTokens tokens file limit).errors.length = final.errors.size := ⟨_, rfl, rfl⟩
  have steady := Nested.steady_within limit limit
  obtain ⟨used, need, derived, reads, -⟩ :=
    Rule.derived_rounds (Nested.sound_within .free limit limit) steady
      (Rule.saves_statement limit limit) .free (Rule.rounds_of_statementsUntil steady read)
  obtain ⟨taken, ahead, sublist, -⟩ := reads.taken
  have begins : begun.cursor.index = 0 := Cursor.index_ofTokens tokens file
  have same : beforeEnd begun.cursor.ahead = beforeEnd tokens :=
    Cursor.beforeEnd_ofTokens tokens file
  -- No rule consumes an end mark, so the last index is still that of the first one.
  have bound : final.cursor.endIndex = (beforeEnd begun.cursor.ahead).length := by
    obtain ⟨-, last⟩ := EStateM.Result.ok.inj read
    rw [← last, same]
    exact (Rule.endIndex_invariant _).statementsUntil limit limit .endOfInput
      (Cursor.endIndex_ofTokens tokens file)
  have length : taken.length ≤ (beforeEnd begun.cursor.ahead).length := by
    obtain ⟨count, moved⟩ := reads.reaches.cursor
    have total := begun.cursor.index_add_length_advanceBy count
    have inside := final.cursor.index_le_endIndex
    rw [← moved, ahead, List.length_append] at total
    omega
  have whole : taken <+: beforeEnd begun.cursor.ahead := by
    apply List.prefix_of_prefix_length_le _ (List.takeWhile_prefix _) length
    rw [ahead]
    exact List.prefix_append taken _
  refine ⟨used, need, derived, sublist.trans (same ▸ whole).sublist, ?_⟩
  have balance : used.length + (final.errors.size + final.cursor.ahead.length) ≤
      0 + begun.cursor.ahead.length := reads.balance
  rw [ahead, List.length_append] at balance
  rw [errors, ← same]
  omega

end ScriptFrontend
