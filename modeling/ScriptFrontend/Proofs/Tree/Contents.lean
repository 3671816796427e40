/-
This file shows that the canonical form of a script has the contents of the script in their order.
-/

import ScriptFrontend.Proofs.Tree.RoundTrip

namespace ScriptFrontend

/-- The canonical form places its own parentheses and semicolons. -/
def Token.Kind.isPlaced : Token.Kind → Bool
  | openParen | closeParen | semicolon | endOfInput => true
  | _ => false

/-- The kind and the text of a token are what a script says with it. -/
def Token.entry (token : Token) : Token.Kind × String :=
  (token.kind, token.text)

/-- The contents of tokens leave out the tokens of placed kinds. -/
def contents (tokens : List Token) : List (Token.Kind × String) :=
  (tokens.filter fun token => !token.kind.isPlaced).map Token.entry

@[simp] theorem contents_nil : contents [] = [] := rfl

@[simp] theorem contents_append (first second : List Token) :
    contents (first ++ second) = contents first ++ contents second := by
  simp [contents]

theorem contents_cons (token : Token) (others : List Token) :
    contents (token :: others) =
      if token.kind.isPlaced then contents others else token.entry :: contents others := by
  cases placed : token.kind.isPlaced <;> simp [contents, placed]

theorem contents_sublist {first second : List Token} (sublist : first.Sublist second) :
    (contents first).Sublist (contents second) :=
  (sublist.filter _).map _

theorem Token.entry_of_spelling {token : Token} {kind : Token.Kind} {text : String}
    (spelled : token.Spelled) (same : token.kind = kind) (fixed : kind.spelling? = some text) :
    token.entry = (kind, text) := by
  subst same
  rw [entry, ← spelled.eq_spelling fixed, String.ofList_toList]

theorem contents_ending {ended : Bool} {ending : List Token} (ends : Ending ended ending) :
    contents ending = [] := by
  cases ends with
  | absent => rfl
  | present semicolon => simp [contents_cons, semicolon, Token.Kind.isPlaced]

theorem Stratum.isPlaced_of_mem_operators {stratum : Stratum} {kind : Token.Kind}
    (operation : kind ∈ stratum.operators) : kind.isPlaced = false := by
  have listed := kind_of_mem_operators operation
  revert listed
  cases kind <;> decide

/-- A comma comes between two items of a list. -/
def commaBetween (items : List (List (Token.Kind × String))) : List (Token.Kind × String) :=
  [(.comma, ",")].intercalate items

mutual

/-- The contents of a tree are those of the tokens that it is derived from. -/
def Expression.contents : Expression → List (Token.Kind × String)
  | .identifier token | .integer token _ | .boolean token _ => [token.entry]
  | .unary operator operand _ => operator.entry :: operand.contents
  | .binary left operator right _ => left.contents ++ operator.entry :: right.contents
  | .conditional token condition consequence alternative _ =>
    token.entry :: (condition.contents ++ (consequence.contents ++
      Block.contentsOptional alternative))
  | .function token parameters body _ =>
    token.entry :: (commaBetween (parameters.map fun name => [name.entry]) ++ body.contents)
  | .call callee _ arguments _ =>
    callee.contents ++ commaBetween (Expression.contentsEach arguments)

def Expression.contentsEach : List Expression → List (List (Token.Kind × String))
  | [] => []
  | expression :: others => expression.contents :: Expression.contentsEach others

def Expression.contentsOptional : Option Expression → List (Token.Kind × String)
  | none => []
  | some expression => expression.contents

def Statement.contents : Statement → List (Token.Kind × String)
  | .binding token name value _ =>
    token.entry :: name.entry :: (.assignment, "=") :: value.contents
  | .returning token value _ => token.entry :: Expression.contentsOptional value
  | .expression _ expression _ => expression.contents

def Statement.contentsAll : List Statement → List (Token.Kind × String)
  | [] => []
  | statement :: others => statement.contents ++ Statement.contentsAll others

def Block.contents : Block → List (Token.Kind × String)
  | .braces token statements _ =>
    token.entry :: (Statement.contentsAll statements ++ [(.closeCurly, "\x7d")])

def Block.contentsOptional : Option Block → List (Token.Kind × String)
  | none => []
  | some block => (.elseKeyword, "else") :: block.contents

end

def Phrase.contents : Phrase → List (Token.Kind × String)
  | .expression _ tree => tree.contents
  | .arguments trees => commaBetween (Expression.contentsEach trees)
  | .parameters names => commaBetween (names.map fun name => [name.entry])
  | .alternative tree => Block.contentsOptional tree
  | .block tree => tree.contents
  | .statement tree _ => tree.contents
  | .statements trees => Statement.contentsAll trees

@[simp] theorem Token.entry_outline (token : Token) : token.outline.entry = token.entry := rfl

theorem Token.entry_comp_outline :
    (fun name : Token => [name.entry]) ∘ Token.outline = fun name => [name.entry] := rfl

mutual

/-- The contents of a tree are in its outline. -/
theorem Expression.contents_outline (expression : Expression) :
    expression.outline.contents = expression.contents := by
  cases expression with
  | identifier token => simp [Expression.outline, Expression.contents]
  | integer token value => simp [Expression.outline, Expression.contents]
  | boolean token value => simp [Expression.outline, Expression.contents]
  | unary operator operand span =>
    simp [Expression.outline, Expression.contents, operand.contents_outline]
  | binary left operator right span =>
    simp [Expression.outline, Expression.contents, left.contents_outline, right.contents_outline]
  | conditional token condition consequence alternative span =>
    simp [Expression.outline, Expression.contents, condition.contents_outline,
      consequence.contents_outline, Block.contentsOptional_outlineOptional alternative]
  | function token parameters body span =>
    simp [Expression.outline, Expression.contents, Token.entry_comp_outline, body.contents_outline]
  | call callee token arguments span =>
    simp [Expression.outline, Expression.contents, callee.contents_outline,
      Expression.contentsEach_outlineEach arguments]

theorem Expression.contentsEach_outlineEach (expressions : List Expression) :
    Expression.contentsEach (Expression.outlineEach expressions) =
      Expression.contentsEach expressions := by
  cases expressions with
  | nil => simp [Expression.outlineEach]
  | cons expression others =>
    simp [Expression.outlineEach, Expression.contentsEach, expression.contents_outline,
      Expression.contentsEach_outlineEach others]

theorem Expression.contentsOptional_outlineOptional (value : Option Expression) :
    Expression.contentsOptional (Expression.outlineOptional value) =
      Expression.contentsOptional value := by
  cases value with
  | none => simp [Expression.outlineOptional]
  | some expression =>
    simp [Expression.outlineOptional, Expression.contentsOptional, expression.contents_outline]

theorem Statement.contents_outline (statement : Statement) :
    statement.outline.contents = statement.contents := by
  cases statement with
  | binding token name value span =>
    simp [Statement.outline, Statement.contents, value.contents_outline]
  | returning token value span =>
    simp [Statement.outline, Statement.contents, Expression.contentsOptional_outlineOptional value]
  | expression token expression span =>
    simp [Statement.outline, Statement.contents, expression.contents_outline]

theorem Statement.contentsAll_outlineEach (statements : List Statement) :
    Statement.contentsAll (Statement.outlineEach statements) =
      Statement.contentsAll statements := by
  cases statements with
  | nil => simp [Statement.outlineEach]
  | cons statement others =>
    simp [Statement.outlineEach, Statement.contentsAll, statement.contents_outline,
      Statement.contentsAll_outlineEach others]

theorem Block.contents_outline (block : Block) : block.outline.contents = block.contents := by
  cases block with
  | braces token statements span =>
    simp [Block.outline, Block.contents, Statement.contentsAll_outlineEach statements]

theorem Block.contentsOptional_outlineOptional (alternative : Option Block) :
    Block.contentsOptional (Block.outlineOptional alternative) =
      Block.contentsOptional alternative := by
  cases alternative with
  | none => simp [Block.outlineOptional]
  | some block => simp [Block.outlineOptional, Block.contentsOptional, block.contents_outline]

end

theorem Statement.contentsAll_map_outline (statements : List Statement) :
    Statement.contentsAll (statements.map Statement.outline) =
      Statement.contentsAll statements := by
  induction statements with
  | nil => rfl
  | cons statement others ih =>
    rw [List.map_cons, contentsAll, contentsAll, statement.contents_outline, ih]

theorem commaBetween_cons {items : List (List (Token.Kind × String))}
    (item : List (Token.Kind × String)) (present : items ≠ []) :
    commaBetween (item :: items) = item ++ (.comma, ",") :: commaBetween items := by
  rw [commaBetween, List.intercalate_cons_of_ne_nil present, List.append_assoc]
  rfl

/-- Spelled tokens have the contents of the tree that is derived from them. -/
theorem Derives.contents_eq {adjacency : Adjacency} {phrase : Phrase} {tokens : List Token}
    {need : Nat} (derived : Derives adjacency phrase tokens need)
    (spelled : ∀ token ∈ tokens, token.Spelled) : contents tokens = phrase.contents := by
  -- The tree does not hold every token, and those that it lacks have one spelling only.
  induction derived with
  | binary next operation _ _ left right =>
    simp only [List.forall_mem_append, List.forall_mem_cons] at spelled
    have kept := Stratum.isPlaced_of_mem_operators operation
    simp [contents_cons, kept, left spelled.1, right spelled.2.2, Phrase.contents,
      Expression.contents]
  | tighter _ _ part => exact part spelled
  | @unary operand operator _ _ operation _ part =>
    rw [List.forall_mem_cons] at spelled
    have kept : operator.kind.isPlaced = false := by
      obtain kind | kind := operation <;> rw [kind] <;> rfl
    simp [contents_cons, kept, part spelled.2, Phrase.contents, Expression.contents]
  | call opens closes _ _ callee arguments =>
    simp only [List.forall_mem_append, List.forall_mem_cons] at spelled
    simp [contents_cons, opens, closes, Token.Kind.isPlaced, callee spelled.1,
      arguments spelled.2.2.1, Phrase.contents, Expression.contents]
  | integer kind denoted =>
    simp [contents_cons, kind, Token.Kind.isPlaced, Phrase.contents, Expression.contents]
  | identifier kind =>
    simp [contents_cons, kind, Token.Kind.isPlaced, Phrase.contents, Expression.contents]
  | @truth token value kind =>
    have kept : token.kind.isPlaced = false := by
      cases value <;> rw [kind] <;> rfl
    simp [contents_cons, kept, Phrase.contents, Expression.contents]
  | grouping opens closes _ part =>
    simp only [List.forall_mem_append, List.forall_mem_cons] at spelled
    simp [contents_cons, opens, closes, Token.Kind.isPlaced, part spelled.2.1, Phrase.contents]
  | conditional keyword opens closes _ _ _ condition consequence alternative =>
    simp only [List.forall_mem_append, List.forall_mem_cons] at spelled
    obtain ⟨_, _, conditionSpelled, _, consequenceSpelled, alternativeSpelled⟩ := spelled
    simp [contents_cons, keyword, opens, closes, Token.Kind.isPlaced, condition conditionSpelled,
      consequence consequenceSpelled, alternative alternativeSpelled, Phrase.contents,
      Expression.contents]
  | function keyword opens closes _ _ names body =>
    simp only [List.forall_mem_append, List.forall_mem_cons] at spelled
    obtain ⟨_, _, namesSpelled, _, bodySpelled⟩ := spelled
    simp [contents_cons, keyword, opens, closes, Token.Kind.isPlaced, names namesSpelled,
      body bodySpelled, Phrase.contents, Expression.contents]
  | noArguments => rfl
  | lastArgument _ part =>
    rw [part spelled]
    exact (List.append_nil _).symm
  | @moreArguments tree others comma _ _ _ _ separator present _ _ part otherParts =>
    simp only [List.forall_mem_append, List.forall_mem_cons] at spelled
    obtain ⟨treeSpelled, commaSpelled, othersSpelled⟩ := spelled
    have more : Expression.contentsEach others ≠ [] := by
      cases others with
      | nil => exact absurd rfl present
      | cons next others => exact List.cons_ne_nil _ _
    simp [contents_cons, separator, Token.Kind.isPlaced, part treeSpelled,
      otherParts othersSpelled, Token.entry_of_spelling commaSpelled separator rfl,
      Phrase.contents, Expression.contentsEach, commaBetween_cons _ more]
  | noParameters => rfl
  | lastParameter kind =>
    simp [contents_cons, kind, Token.Kind.isPlaced, Phrase.contents, commaBetween]
  | @moreParameters name comma others _ kind separator present _ otherParts =>
    simp only [List.forall_mem_cons] at spelled
    obtain ⟨_, commaSpelled, othersSpelled⟩ := spelled
    have more : others.map (fun name : Token => [name.entry]) ≠ [] := by simpa using present
    simp [contents_cons, kind, separator, Token.Kind.isPlaced, otherParts othersSpelled,
      Token.entry_of_spelling commaSpelled separator rfl, Phrase.contents,
      commaBetween_cons _ more]
  | noAlternative => rfl
  | alternative keyword _ part =>
    rw [List.forall_mem_cons] at spelled
    simp [contents_cons, keyword, Token.Kind.isPlaced, part spelled.2,
      Token.entry_of_spelling spelled.1 keyword rfl, Phrase.contents, Block.contentsOptional]
  | block opens closes _ part =>
    simp only [List.forall_mem_append, List.forall_mem_cons] at spelled
    obtain ⟨_, partSpelled, closingSpelled, -⟩ := spelled
    simp [contents_cons, opens, closes, Token.Kind.isPlaced, part partSpelled,
      Token.entry_of_spelling closingSpelled closes rfl, Phrase.contents, Block.contents]
  | binding keyword kind assigns ends _ part =>
    simp only [List.forall_mem_append, List.forall_mem_cons] at spelled
    obtain ⟨_, _, equalsSpelled, partSpelled, _⟩ := spelled
    simp [contents_cons, keyword, kind, assigns, Token.Kind.isPlaced, part partSpelled,
      contents_ending ends, Token.entry_of_spelling equalsSpelled assigns rfl, Phrase.contents,
      Statement.contents]
  | bareReturn keyword ends =>
    simp [contents_cons, keyword, Token.Kind.isPlaced, contents_ending ends, Phrase.contents,
      Statement.contents, Expression.contentsOptional]
  | returning keyword ends _ part =>
    simp only [List.forall_mem_append, List.forall_mem_cons] at spelled
    simp [contents_cons, keyword, Token.Kind.isPlaced, part spelled.2.1, contents_ending ends,
      Phrase.contents, Statement.contents, Expression.contentsOptional]
  | bareExpression ends _ part =>
    rw [← List.cons_append, List.forall_mem_append] at spelled
    rw [← List.cons_append, contents_append, contents_ending ends, part spelled.1]
    exact List.append_nil _
  | noStatements => rfl
  | moreStatements _ _ _ part others =>
    rw [List.forall_mem_append] at spelled
    simp [part spelled.1, others spelled.2, Phrase.contents, Statement.contentsAll]

/-- The end mark has no contents, so those of a script are before it. -/
theorem contents_beforeEnd_tokenize (source file : String) :
    contents (beforeEnd (tokenize source file)) = contents (tokenize source file) := by
  rw [beforeEnd_tokenize, tokenize, contents_append]
  exact (List.append_nil _).symm

/-- A canonical form has no token that the script does not have, and it has the tokens in their
order. It has all of them if nothing failed. Only parentheses and semicolons may be others. -/
theorem contents_tokenize_render (source file name : String) (limit : Nat) :
    let reading := readScript source file limit
    (contents (tokenize reading.program.render name)).Sublist (contents (tokenize source file)) ∧
      (reading.errors = [] →
        contents (tokenize reading.program.render name) = contents (tokenize source file)) := by
  intro reading
  obtain ⟨used, _, derived, spelled, sublist, all⟩ :=
    exists_spelled_derivation source file file limit
  obtain ⟨trees, _, outline, rederived⟩ : ∃ trees need,
      trees.map Statement.outline = reading.program.statements.map Statement.outline ∧
        Derives .apart (.statements trees) (beforeEnd (tokenize reading.program.render name))
          need :=
    Program.exists_rederived derived spelled name
  have spelledAgain : ∀ token ∈ beforeEnd (tokenize reading.program.render name),
      token.Spelled := by
    intro token member
    exact spelled_of_mem_tokenize ((List.takeWhile_sublist _).subset member)
      (rederived.admitted token member)
  have same : contents (tokenize reading.program.render name) = contents used := by
    calc contents (tokenize reading.program.render name)
      _ = contents (beforeEnd (tokenize reading.program.render name)) :=
        (contents_beforeEnd_tokenize _ _).symm
      _ = Statement.contentsAll trees := rederived.contents_eq spelledAgain
      _ = Statement.contentsAll reading.program.statements := by
        rw [← Statement.contentsAll_map_outline, outline, Statement.contentsAll_map_outline]
      _ = contents used := (derived.contents_eq spelled).symm
  constructor
  · rw [same]
    exact contents_sublist sublist
  · intro accepted
    rw [same, all accepted, contents_beforeEnd_tokenize]

/-- The parentheses of this script do not stand where the canonical form has them. -/
def groupedScript : String :=
  "((1) + two) if (!true) \x7b (fn(a, b) \x7b\x7d)(3) \x7d"

theorem contents_groupedScript :
    (readScript groupedScript "grouped" 8).errors = [] ∧
      contents (tokenize (readScript groupedScript "grouped" 8).program.render "canonical") =
        contents (tokenize groupedScript "grouped") := by
  have accepted : (readScript groupedScript "grouped" 8).errors = [] := by decide +kernel
  exact ⟨accepted, (contents_tokenize_render groupedScript "grouped" "canonical" 8).2 accepted⟩

end ScriptFrontend
