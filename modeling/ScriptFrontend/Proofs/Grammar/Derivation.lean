/-
This file states the grammar of scripts in strata and counts the nesting of its derivations.
-/

import ScriptFrontend.Text.Integer
import ScriptFrontend.Tree.Basic

namespace ScriptFrontend

open Text

/-- The strata of expressions are listed from the loosest to the tightest. -/
inductive Stratum where
  | equality
  | comparison
  | sum
  | product
  | unary
  | call
  | atom
  deriving DecidableEq

namespace Stratum

def rank : Stratum → Nat
  | equality => 1
  | comparison => 2
  | sum => 3
  | product => 4
  | unary => 5
  | call => 6
  | atom => 7

/-- The stratum that comes after another in the list. -/
def tighter? : Stratum → Option Stratum
  | equality => some comparison
  | comparison => some sum
  | sum => some product
  | product => some unary
  | unary => some call
  | call => some atom
  | atom => none

/-- Four of the strata have binary operators. -/
def operators : Stratum → List Token.Kind
  | equality => [.equals, .notEquals]
  | comparison => [.less, .greater]
  | sum => [.plus, .dash]
  | product => [.star, .slash]
  | unary | call | atom => []

theorem rank_tighter {stratum tighter : Stratum} (next : stratum.tighter? = some tighter) :
    tighter.rank = stratum.rank + 1 := by
  cases stratum <;> cases next <;> rfl

theorem exists_tighter {stratum other : Stratum} (below : stratum.rank < other.rank) :
    ∃ tighter, stratum.tighter? = some tighter := by
  cases stratum with
  | atom => cases other <;> simp [rank] at below
  | _ => exact ⟨_, rfl⟩

theorem rank_equality_le (stratum : Stratum) : equality.rank ≤ stratum.rank := by
  cases stratum <;> decide

/-- Binary operations are looser than unary ones. -/
theorem rank_lt_unary {stratum : Stratum} {kind : Token.Kind} (operation : kind ∈ stratum.operators) :
    stratum.rank < unary.rank := by
  cases stratum with
  | unary | call | atom => cases operation
  | _ => decide

theorem rank_injective {first second : Stratum} (same : first.rank = second.rank) :
    first = second := by
  cases first <;> cases second <;> first | rfl | cases same

end Stratum

/-- A phrase is a part of a tree in the place that the grammar gives it. -/
inductive Phrase where
  | expression (stratum : Stratum) (tree : Expression)
  | arguments (trees : List Expression)
  | parameters (names : List Token)
  | alternative (tree : Option Block)
  | block (tree : Block)
  | statement (tree : Statement) (ended : Bool)
  | statements (trees : List Statement)

/-- A statement ends with one semicolon or with nothing. -/
inductive Ending : Bool → List Token → Prop where
  | absent : Ending false []
  | present {token : Token} (semicolon : token.kind = .semicolon) : Ending true [token]

/-- The place where a text stops whose first token is given apart from the others. -/
def lastStop (first : Token) (others : List Token) : Position :=
  (others.getLastD first).span.stop

/-- A condition on a statement, on whether a semicolon ends it, and on the tokens that come after it
in the same list. -/
abbrev Adjacency : Type :=
  Statement → Bool → List Token → Prop

/-- The grammar itself lets any statement follow any other. -/
def Adjacency.free : Adjacency :=
  fun _ _ _ => True

/-- A bare return has no value. -/
def Statement.isBareReturn : Statement → Bool
  | .returning _ none _ => true
  | _ => false

/-- A statement without its semicolon is not followed by a dash or a parenthesis, and a bare return
without its semicolon is the last statement of its list. -/
def Adjacency.apart : Adjacency :=
  fun tree ended others => ended = false →
    (∀ token ∈ others.head?, token.kind ≠ .dash ∧ token.kind ≠ .openParen) ∧
      (tree.isBareReturn → others = [])

theorem Adjacency.apart_nil (tree : Statement) (ended : Bool) : apart tree ended [] :=
  fun _ => ⟨by simp, fun _ => rfl⟩

theorem Adjacency.apart_of_ended (tree : Statement) (others : List Token) :
    apart tree true others :=
  nofun

/-- A derivation reads a phrase from all of the tokens in their order. The number is the depth of
nesting that the derivation needs: a right operand, an argument, the operand of a prefix or of
parentheses, a condition and a block lie one level deeper, and a left operand and a callee do
not. -/
inductive Derives (adjacency : Adjacency) : Phrase → List Token → Nat → Prop where
  | binary {stratum tighter : Stratum} {left right : Expression} {operator : Token}
      {leftTokens rightTokens : List Token} {leftNeed rightNeed : Nat}
      (next : stratum.tighter? = some tighter) (operation : operator.kind ∈ stratum.operators)
      (leftPart : Derives adjacency (.expression stratum left) leftTokens leftNeed)
      (rightPart : Derives adjacency (.expression tighter right) rightTokens rightNeed) :
      Derives adjacency
        (.expression stratum (.binary left operator right ⟨left.span.start, right.span.stop⟩))
        (leftTokens ++ operator :: rightTokens) (max leftNeed (rightNeed + 1))
  | tighter {stratum tighter : Stratum} {tree : Expression} {tokens : List Token} {need : Nat}
      (next : stratum.tighter? = some tighter)
      (part : Derives adjacency (.expression tighter tree) tokens need) :
      Derives adjacency (.expression stratum tree) tokens need
  | unary {operand : Expression} {operator : Token} {tokens : List Token} {need : Nat}
      (operation : operator.kind = .not ∨ operator.kind = .dash)
      (part : Derives adjacency (.expression .unary operand) tokens need) :
      Derives adjacency
        (.expression .unary (.unary operator operand ⟨operator.span.start, operand.span.stop⟩))
        (operator :: tokens) (need + 1)
  | call {callee : Expression} {arguments : List Expression} {opening closing : Token}
      {calleeTokens argumentTokens : List Token} {calleeNeed argumentNeed : Nat}
      (opens : opening.kind = .openParen) (closes : closing.kind = .closeParen)
      (calleePart : Derives adjacency (.expression .call callee) calleeTokens calleeNeed)
      (argumentsPart : Derives adjacency (.arguments arguments) argumentTokens argumentNeed) :
      Derives adjacency
        (.expression .call
          (.call callee opening arguments ⟨callee.span.start, closing.span.stop⟩))
        (calleeTokens ++ opening :: (argumentTokens ++ [closing])) (max calleeNeed argumentNeed)
  | integer {token : Token} {value : Int64} (kind : token.kind = .integer)
      (denoted : readInteger? token.text = some value) :
      Derives adjacency (.expression .atom (.integer token value)) [token] 1
  | identifier {token : Token} (kind : token.kind = .identifier) :
      Derives adjacency (.expression .atom (.identifier token)) [token] 1
  | truth {token : Token} {value : Bool}
      (kind : token.kind = if value then .trueKeyword else .falseKeyword) :
      Derives adjacency (.expression .atom (.boolean token value)) [token] 1
  | grouping {tree : Expression} {opening closing : Token} {tokens : List Token} {need : Nat}
      (opens : opening.kind = .openParen) (closes : closing.kind = .closeParen)
      (part : Derives adjacency (.expression .equality tree) tokens need) :
      Derives adjacency (.expression .atom tree) (opening :: (tokens ++ [closing])) (need + 1)
  | conditional {condition : Expression} {consequence : Block} {alternative : Option Block}
      {token opening closing : Token}
      {conditionTokens consequenceTokens alternativeTokens : List Token}
      {conditionNeed consequenceNeed alternativeNeed : Nat}
      (keyword : token.kind = .ifKeyword) (opens : opening.kind = .openParen)
      (closes : closing.kind = .closeParen)
      (conditionPart : Derives adjacency (.expression .equality condition) conditionTokens
        conditionNeed)
      (consequencePart : Derives adjacency (.block consequence) consequenceTokens consequenceNeed)
      (alternativePart : Derives adjacency (.alternative alternative) alternativeTokens
        alternativeNeed) :
      Derives adjacency
        (.expression .atom (.conditional token condition consequence alternative
          ⟨token.span.start, (alternative.getD consequence).span.stop⟩))
        (token :: opening ::
          (conditionTokens ++ closing :: (consequenceTokens ++ alternativeTokens)))
        (max (conditionNeed + 1) (max (consequenceNeed + 1) alternativeNeed))
  | function {names : List Token} {body : Block} {token opening closing : Token}
      {nameTokens bodyTokens : List Token} {bodyNeed : Nat}
      (keyword : token.kind = .functionKeyword) (opens : opening.kind = .openParen)
      (closes : closing.kind = .closeParen)
      (parametersPart : Derives adjacency (.parameters names) nameTokens 0)
      (bodyPart : Derives adjacency (.block body) bodyTokens bodyNeed) :
      Derives adjacency
        (.expression .atom (.function token names body ⟨token.span.start, body.span.stop⟩))
        (token :: opening :: (nameTokens ++ closing :: bodyTokens)) (bodyNeed + 1)
  | noArguments : Derives adjacency (.arguments []) [] 0
  | lastArgument {tree : Expression} {tokens : List Token} {need : Nat}
      (part : Derives adjacency (.expression .equality tree) tokens need) :
      Derives adjacency (.arguments [tree]) tokens (need + 1)
  | moreArguments {tree : Expression} {others : List Expression} {comma : Token}
      {tokens otherTokens : List Token} {need otherNeed : Nat}
      (separator : comma.kind = .comma) (present : others ≠ [])
      (part : Derives adjacency (.expression .equality tree) tokens need)
      (otherParts : Derives adjacency (.arguments others) otherTokens otherNeed) :
      Derives adjacency (.arguments (tree :: others)) (tokens ++ comma :: otherTokens)
        (max (need + 1) otherNeed)
  | noParameters : Derives adjacency (.parameters []) [] 0
  | lastParameter {name : Token} (kind : name.kind = .identifier) :
      Derives adjacency (.parameters [name]) [name] 0
  | moreParameters {name comma : Token} {others otherTokens : List Token}
      (kind : name.kind = .identifier) (separator : comma.kind = .comma) (present : others ≠ [])
      (otherParts : Derives adjacency (.parameters others) otherTokens 0) :
      Derives adjacency (.parameters (name :: others)) (name :: comma :: otherTokens) 0
  | noAlternative : Derives adjacency (.alternative none) [] 0
  | alternative {tree : Block} {token : Token} {tokens : List Token} {need : Nat}
      (keyword : token.kind = .elseKeyword)
      (part : Derives adjacency (.block tree) tokens need) :
      Derives adjacency (.alternative (some tree)) (token :: tokens) (need + 1)
  | block {trees : List Statement} {opening closing : Token} {tokens : List Token} {need : Nat}
      (opens : opening.kind = .openCurly) (closes : closing.kind = .closeCurly)
      (part : Derives adjacency (.statements trees) tokens need) :
      Derives adjacency (.block (.braces opening trees ⟨opening.span.start, closing.span.stop⟩))
        (opening :: (tokens ++ [closing])) (need + 1)
  | binding {token name equals : Token} {value : Expression} {ended : Bool}
      {tokens ending : List Token} {need : Nat}
      (keyword : token.kind = .letKeyword) (kind : name.kind = .identifier)
      (assigns : equals.kind = .assignment) (ends : Ending ended ending)
      (part : Derives adjacency (.expression .equality value) tokens need) :
      Derives adjacency
        (.statement (.binding token name value
          ⟨token.span.start, lastStop equals (tokens ++ ending)⟩) ended)
        (token :: name :: equals :: (tokens ++ ending)) need
  | bareReturn {token : Token} {ended : Bool} {ending : List Token}
      (keyword : token.kind = .returnKeyword) (ends : Ending ended ending) :
      Derives adjacency
        (.statement (.returning token none ⟨token.span.start, lastStop token ending⟩) ended)
        (token :: ending) 0
  | returning {token : Token} {value : Expression} {ended : Bool} {tokens ending : List Token}
      {need : Nat} (keyword : token.kind = .returnKeyword) (ends : Ending ended ending)
      (part : Derives adjacency (.expression .equality value) tokens need) :
      Derives adjacency
        (.statement (.returning token (some value)
          ⟨token.span.start, lastStop token (tokens ++ ending)⟩) ended)
        (token :: (tokens ++ ending)) need
  | bareExpression {token : Token} {tree : Expression} {ended : Bool} {others ending : List Token}
      {need : Nat} (ends : Ending ended ending)
      (part : Derives adjacency (.expression .equality tree) (token :: others) need) :
      Derives adjacency
        (.statement (.expression token tree ⟨token.span.start, tree.span.stop⟩) ended)
        (token :: (others ++ ending)) need
  | noStatements : Derives adjacency (.statements []) [] 0
  | moreStatements {tree : Statement} {others : List Statement} {ended : Bool}
      {tokens otherTokens : List Token} {need otherNeed : Nat}
      (adjacent : adjacency tree ended otherTokens)
      (part : Derives adjacency (.statement tree ended) tokens need)
      (otherParts : Derives adjacency (.statements others) otherTokens otherNeed) :
      Derives adjacency (.statements (tree :: others)) (tokens ++ otherTokens)
        (max need otherNeed)

/-- Tokens with these kinds and texts stand in a row, and each of them takes one byte. -/
def Token.row (file : String) (spellings : List (Token.Kind × String)) : List Token :=
  spellings.mapIdx fun index (kind, text) => ⟨kind, text, Span.ofBytes index (index + 1) file⟩

/-- A reading sees the tokens before the first end mark. -/
def beforeEnd (tokens : List Token) : List Token :=
  tokens.takeWhile fun token => token.kind ≠ .endOfInput

/-- The tokens that were taken are those before the end mark if none of them is an end mark. -/
theorem beforeEnd_append {taken rest : List Token}
    (present : ∀ token ∈ taken, token.kind ≠ .endOfInput)
    (ended : ∀ token ∈ rest.head?, token.kind = .endOfInput) : beforeEnd (taken ++ rest) = taken := by
  have stops : beforeEnd rest = [] := by
    cases rest with
    | nil => rfl
    | cons token others => simp [beforeEnd, ended token rfl]
  rw [beforeEnd, List.takeWhile_append_of_pos fun token member => by simp [present token member]]
  change taken ++ beforeEnd rest = taken
  rw [stops, List.append_nil]

namespace Derives

variable {adjacency : Adjacency}

/-- An expression of a tighter stratum is also one of every looser stratum. -/
theorem loosen {stratum other : Stratum} {tree : Expression} {tokens : List Token} {need : Nat}
    (below : stratum.rank ≤ other.rank)
    (derived : Derives adjacency (.expression other tree) tokens need) :
    Derives adjacency (.expression stratum tree) tokens need := by
  obtain ⟨distance, apart⟩ := Nat.exists_eq_add_of_le below
  induction distance generalizing stratum with
  | zero =>
    obtain rfl : stratum = other := Stratum.rank_injective (by omega)
    exact derived
  | succ distance ih =>
    obtain ⟨tighter, next⟩ := Stratum.exists_tighter (show stratum.rank < other.rank by omega)
    have rank := Stratum.rank_tighter next
    exact .tighter next (ih (by omega) (by omega))

end Derives

/-- A token that a derivation may use is a part of the language. -/
structure Token.Admitted (token : Token) : Prop where
  present : token.kind ≠ .endOfInput
  recognised : token.kind ≠ .illegal
  inRange : token.kind = .integer → ∃ value, readInteger? token.text = some value

theorem Token.admitted_of_kind {token : Token} {kind : Token.Kind} (same : token.kind = kind)
    (fixed : kind ∉ [.endOfInput, .illegal, .integer]) : token.Admitted := by
  subst same
  simp only [List.mem_cons, List.not_mem_nil, or_false, not_or] at fixed
  exact ⟨fixed.1, fixed.2.1, fun integer => absurd integer fixed.2.2⟩

/-- An opening bracket and the closing bracket of the same shape belong together. -/
inductive Token.Kind.Encloses : Token.Kind → Token.Kind → Prop where
  | paren : Encloses .openParen .closeParen
  | curly : Encloses .openCurly .closeCurly

/-- The tokens that open or close something. -/
def Token.Kind.brackets : List Token.Kind :=
  [.openParen, .closeParen, .openCurly, .closeCurly]

/-- Every bracket has its partner, and pairs of brackets do not cross. -/
inductive Bracketed : List Token → Prop where
  | nil : Bracketed []
  | plain {token : Token} {rest : List Token} (plain : token.kind ∉ Token.Kind.brackets)
      (others : Bracketed rest) : Bracketed (token :: rest)
  | pair {opening closing : Token} {inside rest : List Token}
      (encloses : opening.kind.Encloses closing.kind) (within : Bracketed inside)
      (others : Bracketed rest) : Bracketed (opening :: (inside ++ closing :: rest))

namespace Bracketed

theorem append {first second : List Token} (left : Bracketed first) (right : Bracketed second) :
    Bracketed (first ++ second) := by
  induction left with
  | nil => exact right
  | plain plain others ih => exact .plain plain ih
  | pair encloses within others _ ih =>
    rw [List.cons_append, List.append_assoc]
    exact .pair encloses within ih

theorem plain_of_kind {token : Token} {kind : Token.Kind} {rest : List Token}
    (same : token.kind = kind) (plain : kind ∉ Token.Kind.brackets) (others : Bracketed rest) :
    Bracketed (token :: rest) :=
  .plain (by rwa [same]) others

theorem paren {opening closing : Token} {inside rest : List Token}
    (opens : opening.kind = .openParen) (closes : closing.kind = .closeParen)
    (within : Bracketed inside) (others : Bracketed rest) :
    Bracketed (opening :: (inside ++ closing :: rest)) := by
  refine .pair ?_ within others
  rw [opens, closes]
  exact .paren

theorem curly {opening closing : Token} {inside rest : List Token}
    (opens : opening.kind = .openCurly) (closes : closing.kind = .closeCurly)
    (within : Bracketed inside) (others : Bracketed rest) :
    Bracketed (opening :: (inside ++ closing :: rest)) := by
  refine .pair ?_ within others
  rw [opens, closes]
  exact .curly

end Bracketed

theorem Stratum.kind_of_mem_operators {stratum : Stratum} {kind : Token.Kind}
    (operation : kind ∈ stratum.operators) :
    kind ∈ [.equals, .notEquals, .less, .greater, .plus, .dash, .star, .slash] := by
  cases stratum <;> simp only [operators, List.mem_cons, List.not_mem_nil, or_false] at operation
  all_goals rcases operation with rfl | rfl <;> decide

theorem Token.admitted_of_operator {token : Token} {stratum : Stratum}
    (operation : token.kind ∈ stratum.operators) : token.Admitted := by
  have kind := Stratum.kind_of_mem_operators operation
  refine Token.admitted_of_kind rfl fun special => ?_
  revert kind special
  cases token.kind <;> decide

theorem Bracketed.operator {token : Token} {stratum : Stratum} {rest : List Token}
    (operation : token.kind ∈ stratum.operators) (others : Bracketed rest) :
    Bracketed (token :: rest) := by
  have kind := Stratum.kind_of_mem_operators operation
  refine .plain (fun bracket => ?_) others
  revert kind bracket
  cases token.kind <;> decide

namespace Ending

theorem admitted {ended : Bool} {ending : List Token} (ends : Ending ended ending) :
    ∀ token ∈ ending, token.Admitted := by
  cases ends with
  | absent => exact List.forall_mem_nil _
  | present semicolon =>
    rw [List.forall_mem_singleton]
    exact Token.admitted_of_kind semicolon (by decide)

theorem bracketed {ended : Bool} {ending : List Token} (ends : Ending ended ending) :
    Bracketed ending := by
  cases ends with
  | absent => exact .nil
  | present semicolon => exact .plain_of_kind semicolon (by decide) .nil

end Ending

namespace Derives

variable {adjacency : Adjacency} {phrase : Phrase} {tokens : List Token} {need : Nat}

/-- A derivation uses no end mark, no illegal token and no integer out of range. -/
theorem admitted (derived : Derives adjacency phrase tokens need) :
    ∀ token ∈ tokens, token.Admitted := by
  have mark {token : Token} {kind : Token.Kind} (same : token.kind = kind)
      (fixed : kind ∉ [.endOfInput, .illegal, .integer]) := Token.admitted_of_kind same fixed
  have every {first second : List Token} (left : ∀ token ∈ first, token.Admitted)
      (right : ∀ token ∈ second, token.Admitted) : ∀ token ∈ first ++ second, token.Admitted :=
    List.forall_mem_append.2 ⟨left, right⟩
  have first {token : Token} {others : List Token} (here : token.Admitted)
      (rest : ∀ token ∈ others, token.Admitted) : ∀ other ∈ token :: others, other.Admitted :=
    List.forall_mem_cons.2 ⟨here, rest⟩
  have none : ∀ token ∈ ([] : List Token), token.Admitted := List.forall_mem_nil _
  induction derived with
  | binary next operation _ _ left right =>
    exact every left (first (Token.admitted_of_operator operation) right)
  | tighter _ _ part => exact part
  | unary operation _ part =>
    rcases operation with kind | kind
    · exact first (mark kind (by decide)) part
    · exact first (mark kind (by decide)) part
  | call opens closes _ _ callee arguments =>
    exact every callee (first (mark opens (by decide))
      (every arguments (first (mark closes (by decide)) none)))
  | integer kind denoted =>
    refine first ⟨?_, ?_, fun _ => ⟨_, denoted⟩⟩ none
    · rw [kind]
      decide
    · rw [kind]
      decide
  | identifier kind => exact first (mark kind (by decide)) none
  | @truth token value kind =>
    cases value
    · exact first (mark kind (by decide)) none
    · exact first (mark kind (by decide)) none
  | grouping opens closes _ part =>
    exact first (mark opens (by decide)) (every part (first (mark closes (by decide)) none))
  | conditional keyword opens closes _ _ _ condition consequence alternative =>
    exact first (mark keyword (by decide)) (first (mark opens (by decide))
      (every condition (first (mark closes (by decide)) (every consequence alternative))))
  | function keyword opens closes _ _ parameters body =>
    exact first (mark keyword (by decide)) (first (mark opens (by decide))
      (every parameters (first (mark closes (by decide)) body)))
  | noArguments | noParameters | noAlternative | noStatements => exact none
  | lastArgument _ part => exact part
  | moreArguments separator _ _ _ part others =>
    exact every part (first (mark separator (by decide)) others)
  | lastParameter kind => exact first (mark kind (by decide)) none
  | moreParameters kind separator _ _ others =>
    exact first (mark kind (by decide)) (first (mark separator (by decide)) others)
  | alternative keyword _ part => exact first (mark keyword (by decide)) part
  | block opens closes _ part =>
    exact first (mark opens (by decide)) (every part (first (mark closes (by decide)) none))
  | binding keyword kind assigns ends _ part =>
    exact first (mark keyword (by decide)) (first (mark kind (by decide))
      (first (mark assigns (by decide)) (every part ends.admitted)))
  | bareReturn keyword ends => exact first (mark keyword (by decide)) ends.admitted
  | returning keyword ends _ part =>
    exact first (mark keyword (by decide)) (every part ends.admitted)
  | bareExpression ends _ part => exact every part ends.admitted
  | moreStatements _ _ _ part others => exact every part others

/-- A derivation leaves no bracket without its partner. -/
theorem bracketed (derived : Derives adjacency phrase tokens need) : Bracketed tokens := by
  have mark {token : Token} {kind : Token.Kind} {rest : List Token} (same : token.kind = kind)
      (plain : kind ∉ Token.Kind.brackets) (others : Bracketed rest) :=
    Bracketed.plain_of_kind same plain others
  induction derived with
  | binary next operation _ _ left right => exact left.append (.operator operation right)
  | tighter _ _ part => exact part
  | unary operation _ part =>
    rcases operation with kind | kind
    · exact mark kind (by decide) part
    · exact mark kind (by decide) part
  | call opens closes _ _ callee arguments => exact callee.append (.paren opens closes arguments .nil)
  | integer kind _ => exact mark kind (by decide) .nil
  | identifier kind => exact mark kind (by decide) .nil
  | @truth token value kind =>
    cases value
    · exact mark kind (by decide) .nil
    · exact mark kind (by decide) .nil
  | grouping opens closes _ part => exact .paren opens closes part .nil
  | conditional keyword opens closes _ _ _ condition consequence alternative =>
    exact mark keyword (by decide) (.paren opens closes condition (consequence.append alternative))
  | function keyword opens closes _ _ parameters body =>
    exact mark keyword (by decide) (.paren opens closes parameters body)
  | noArguments | noParameters | noAlternative | noStatements => exact .nil
  | lastArgument _ part => exact part
  | moreArguments separator _ _ _ part others => exact part.append (mark separator (by decide) others)
  | lastParameter kind => exact mark kind (by decide) .nil
  | moreParameters kind separator _ _ others =>
    exact mark kind (by decide) (mark separator (by decide) others)
  | alternative keyword _ part => exact mark keyword (by decide) part
  | block opens closes _ part => exact .curly opens closes part .nil
  | binding keyword kind assigns ends _ part =>
    exact mark keyword (by decide) (mark kind (by decide)
      (mark assigns (by decide) (part.append ends.bracketed)))
  | bareReturn keyword ends => exact mark keyword (by decide) ends.bracketed
  | returning keyword ends _ part =>
    exact mark keyword (by decide) (part.append ends.bracketed)
  | bareExpression ends _ part => exact part.append ends.bracketed
  | moreStatements _ _ _ part others => exact part.append others

end Derives

end ScriptFrontend
