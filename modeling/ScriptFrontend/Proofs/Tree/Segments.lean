/-
This file shows from which tokens in a row each node of a tree is derived.
-/

import ScriptFrontend.Proofs.Grammar.Covering
import ScriptFrontend.Proofs.Grammar.Operators
import ScriptFrontend.Proofs.Tree.Nodes
import ScriptFrontend.Proofs.Tree.Outline

namespace ScriptFrontend

/-- A node is derived in some tokens when it is derived from some of them in a row. -/
def Node.DerivedIn (adjacency : Adjacency) (used : List Token) : Node → Prop
  | expression tree => ∃ part need, part <:+: used ∧
      Derives adjacency (.expression .equality tree) part need
  | block tree => ∃ part need, part <:+: used ∧ Derives adjacency (.block tree) part need
  | statement tree => ∃ part need ended, part <:+: used ∧
      Derives adjacency (.statement tree ended) part need

namespace Node

variable {adjacency : Adjacency} {part used : List Token} {root : Node}

theorem DerivedIn.widen (derived : root.DerivedIn adjacency part) (within : part <:+: used) :
    root.DerivedIn adjacency used := by
  cases root with
  | expression tree =>
    obtain ⟨inner, need, inside, derivation⟩ := derived
    exact ⟨inner, need, inside.trans within, derivation⟩
  | block tree =>
    obtain ⟨inner, need, inside, derivation⟩ := derived
    exact ⟨inner, need, inside.trans within, derivation⟩
  | statement tree =>
    obtain ⟨inner, need, ended, inside, derivation⟩ := derived
    exact ⟨inner, need, ended, inside.trans within, derivation⟩

theorem Everywhere.mono {holds other : Node → Prop} (everywhere : root.Everywhere holds)
    (weaker : ∀ node, holds node → other node) : root.Everywhere other :=
  fun depth role visit member => weaker _ (everywhere depth role visit member)

theorem widen_roots {roots : List Node}
    (all : ∀ root ∈ roots, root.Everywhere (DerivedIn adjacency part)) (within : part <:+: used) :
    ∀ root ∈ roots, root.Everywhere (DerivedIn adjacency used) :=
  fun root member => (all root member).mono fun _ derived => derived.widen within

end Node

namespace Derives

variable {adjacency : Adjacency} {phrase : Phrase} {used : List Token} {need : Nat}

/-- Every node of a derived tree is derived from tokens in a row. -/
theorem everywhere_derivedIn (derived : Derives adjacency phrase used need) :
    ∀ root ∈ phrase.roots, root.Everywhere (Node.DerivedIn adjacency used) := by
  have front (first second : List Token) : first <:+: first ++ second :=
    (List.prefix_append first second).isInfix
  have back (first second : List Token) : second <:+: first ++ second :=
    (List.suffix_append first second).isInfix
  have rest (token : Token) (others : List Token) : others <:+: token :: others :=
    (List.suffix_cons token others).isInfix
  have twice (first second : Token) (others : List Token) : others <:+: first :: second :: others :=
    (rest second others).trans (rest first _)
  have whole {stratum : Stratum} {tree : Expression} {used : List Token} {need : Nat}
      (derived : Derives adjacency (.expression stratum tree) used need) :
      (Node.expression tree).DerivedIn adjacency used :=
    ⟨used, need, List.infix_refl used, derived.loosen stratum.rank_equality_le⟩
  induction derived with
  | binary next operation leftPart rightPart left right =>
    refine .alone (whole (.binary next operation leftPart rightPart)) ?_
    exact List.forall_mem_append.2 ⟨Node.widen_roots left (front _ _),
      Node.widen_roots right ((rest _ _).trans (back _ _))⟩
  | tighter _ _ part => exact part
  | unary operation part operand =>
    exact .alone (whole (.unary operation part)) (Node.widen_roots operand (rest _ _))
  | call opens closes calleePart argumentsPart callee arguments =>
    refine .alone (whole (.call opens closes calleePart argumentsPart)) ?_
    rw [Node.parts_call]
    exact List.forall_mem_append.2 ⟨Node.widen_roots callee (front _ _),
      Node.widen_roots arguments ((front _ _).trans ((rest _ _).trans (back _ _)))⟩
  | integer kind denoted => exact .alone (whole (.integer kind denoted)) (List.forall_mem_nil _)
  | identifier kind => exact .alone (whole (.identifier kind)) (List.forall_mem_nil _)
  | truth kind => exact .alone (whole (.truth kind)) (List.forall_mem_nil _)
  | grouping _ _ _ part => exact Node.widen_roots part ((front _ _).trans (rest _ _))
  | conditional keyword opens closes conditionPart consequencePart alternativePart condition
      consequence alternative =>
    refine .alone (whole (.conditional keyword opens closes conditionPart consequencePart
      alternativePart)) ?_
    rw [Node.parts_conditional]
    exact List.forall_mem_append.2 ⟨Node.widen_roots condition ((front _ _).trans (twice _ _ _)),
      List.forall_mem_append.2 ⟨Node.widen_roots consequence
          ((front _ _).trans ((rest _ _).trans ((back _ _).trans (twice _ _ _)))),
        Node.widen_roots alternative
          ((back _ _).trans ((rest _ _).trans ((back _ _).trans (twice _ _ _))))⟩⟩
  | function keyword opens closes parametersPart bodyPart parameters body =>
    refine .alone (whole (.function keyword opens closes parametersPart bodyPart)) ?_
    rw [Node.parts_function]
    exact List.forall_mem_append.2
      ⟨Node.widen_roots parameters ((front _ _).trans (twice _ _ _)),
        Node.widen_roots body ((rest _ _).trans ((back _ _).trans (twice _ _ _)))⟩
  | noArguments | noParameters | noAlternative | noStatements => exact List.forall_mem_nil _
  | lastArgument _ part => exact part
  | moreArguments _ _ _ _ part others =>
    exact List.forall_mem_append.2 ⟨Node.widen_roots part (front _ _),
      Node.widen_roots others ((rest _ _).trans (back _ _))⟩
  | lastParameter kind => exact .alone (whole (.identifier kind)) (List.forall_mem_nil _)
  | moreParameters kind _ _ _ others =>
    refine List.forall_mem_cons.2 ⟨?_, Node.widen_roots others (twice _ _ _)⟩
    exact .intro ((whole (.identifier kind)).widen (front [_] _)) (List.forall_mem_nil _)
  | alternative _ _ part => exact Node.widen_roots part (rest _ _)
  | block opens closes part statements =>
    refine .alone ⟨_, _, List.infix_refl _, .block opens closes part⟩ ?_
    rw [Node.parts_block]
    exact Node.widen_roots statements ((front _ _).trans (rest _ _))
  | binding keyword kind assigns ends part value =>
    refine .alone ⟨_, _, _, List.infix_refl _, .binding keyword kind assigns ends part⟩ ?_
    refine List.forall_mem_cons.2 ⟨.intro ?_ (List.forall_mem_nil _), ?_⟩
    · exact (whole (.identifier kind)).widen ((front [_] _).trans (rest _ _))
    · exact Node.widen_roots value ((front _ _).trans ((twice _ _ _).trans (rest _ _)))
  | bareReturn keyword ends =>
    exact .alone ⟨_, _, _, List.infix_refl _, .bareReturn keyword ends⟩ (List.forall_mem_nil _)
  | returning keyword ends part value =>
    exact .alone ⟨_, _, _, List.infix_refl _, .returning keyword ends part⟩
      (Node.widen_roots value ((front _ _).trans (rest _ _)))
  | bareExpression ends part value =>
    exact .alone ⟨_, _, _, List.infix_refl _, .bareExpression ends part⟩
      (Node.widen_roots value (front _ _))
  | moreStatements _ _ _ statement others =>
    exact List.forall_mem_append.2 ⟨Node.widen_roots statement (front _ _),
      Node.widen_roots others (back _ _)⟩

end Derives

theorem stop_getLast?_append (front : List Token) (first : Token) (others : List Token) :
    (front ++ first :: others).getLast?.map (fun token => token.span.stop) =
      some (lastStop first others) := by
  rw [List.getLast?_append, List.getLast?_cons, lastStop, List.getLastD_eq_getLast?]
  rfl

namespace Span

/-- A span runs over tokens when it starts with the first of them and stops with the last one. -/
structure RunsOver (span : Span) (tokens : List Token) : Prop where
  start : tokens.head?.map (fun token => token.span.start) = some span.start
  stop : tokens.getLast?.map (fun token => token.span.stop) = some span.stop

namespace RunsOver

variable {first last : Span} {front back : List Token}

theorem of_token (token : Token) : token.span.RunsOver [token] :=
  ⟨rfl, rfl⟩

/-- A span over the first tokens starts as a span over all of them. -/
theorem extend (begins : first.RunsOver front) {rest : List Token} {stop : Position}
    (ends : rest.getLast?.map (fun token => token.span.stop) = some stop) :
    RunsOver ⟨first.start, stop⟩ (front ++ rest) := by
  obtain ⟨token, head, start⟩ := Option.map_eq_some_iff.1 begins.start
  obtain ⟨final, tail, finish⟩ := Option.map_eq_some_iff.1 ends
  constructor
  · rw [List.head?_append, head]
    exact congrArg some start
  · rw [List.getLast?_append, tail]
    exact congrArg some finish

theorem through (begins : first.RunsOver front) (between : List Token) (ends : last.RunsOver back) :
    RunsOver ⟨first.start, last.stop⟩ (front ++ (between ++ back)) := by
  obtain ⟨final, tail, finish⟩ := Option.map_eq_some_iff.1 ends.stop
  apply begins.extend
  rw [List.getLast?_append, tail]
  exact congrArg some finish

end RunsOver

/-- Parentheses around the tokens that a span runs over make up some tokens. -/
structure Trims (span : Span) (tokens opens own closes : List Token) : Prop where
  split : tokens = opens ++ (own ++ closes)
  runs : span.RunsOver own
  opening : ∀ token ∈ opens, token.kind = .openParen
  closing : ∀ token ∈ closes, token.kind = .closeParen

namespace Trims

variable {span : Span} {tokens opens own closes : List Token}

theorem of_runs (runs : span.RunsOver own) : span.Trims own [] own [] :=
  ⟨by simp, runs, List.forall_mem_nil _, List.forall_mem_nil _⟩

/-- More parentheses may stand around. -/
theorem wrap {before after : List Token} (trims : span.Trims tokens opens own closes)
    (opening : ∀ token ∈ before, token.kind = .openParen)
    (closing : ∀ token ∈ after, token.kind = .closeParen) :
    span.Trims (before ++ (tokens ++ after)) (before ++ opens) own (closes ++ after) where
  split := by simp [trims.split]
  runs := trims.runs
  opening := List.forall_mem_append.2 ⟨opening, trims.opening⟩
  closing := List.forall_mem_append.2 ⟨trims.closing, closing⟩

end Trims

end Span

/-- An expression is tight when its own tokens lack parentheses around them only if they do not match
without these. -/
structure Tight (adjacency : Adjacency) (tree : Expression) (part opens own closes : List Token) :
    Prop where
  derives : ∃ need, Derives adjacency (.expression .equality tree) part need
  trims : tree.span.Trims part opens own closes
  exact : Bracketed own → opens = [] ∧ closes = []

/-- Parentheses around the tokens of a tight expression make up those of the phrase. -/
def Phrase.Tightens (adjacency : Adjacency) : Phrase → List Token → Prop
  | .expression _ tree, tokens => ∃ before part after, tokens = before ++ (part ++ after) ∧
      (∀ token ∈ before, token.kind = .openParen) ∧ (∀ token ∈ after, token.kind = .closeParen) ∧
      ∃ opens own closes, Tight adjacency tree part opens own closes
  | _, _ => True

namespace Phrase.Tightens

variable {adjacency : Adjacency} {tree : Expression} {stratum : Stratum} {tokens own : List Token}
  {need : Nat}

theorem exists_trims (tightens : Tightens adjacency (.expression stratum tree) tokens) :
    ∃ opens own closes, tree.span.Trims tokens opens own closes := by
  obtain ⟨before, part, after, rfl, opening, closing, opens, own, closes, tight⟩ := tightens
  exact ⟨_, _, _, tight.trims.wrap opening closing⟩

theorem of_trims {opens closes : List Token}
    (derived : Derives adjacency (.expression stratum tree) tokens need)
    (trims : tree.span.Trims tokens opens own closes)
    (exact : Bracketed own → opens = [] ∧ closes = []) :
    Tightens adjacency (.expression stratum tree) tokens :=
  ⟨[], tokens, [], by simp, List.forall_mem_nil _, List.forall_mem_nil _, opens, own, closes,
    ⟨need, derived.loosen stratum.rank_equality_le⟩, trims, exact⟩

theorem of_runs (derived : Derives adjacency (.expression stratum tree) tokens need)
    (runs : tree.span.RunsOver tokens) : Tightens adjacency (.expression stratum tree) tokens :=
  of_trims derived (.of_runs runs) fun _ => ⟨rfl, rfl⟩

end Phrase.Tightens

namespace Derives

variable {adjacency : Adjacency} {phrase : Phrase} {tokens : List Token} {need : Nat}

theorem runsOver_block {tree : Block} (derived : Derives adjacency (.block tree) tokens need) :
    tree.span.RunsOver tokens := by
  cases derived with
  | block opens closes part => exact (Span.RunsOver.of_token _).through _ (.of_token _)

/-- The blocks of a conditional end with the last of them. -/
theorem exists_runsOver {consequence : Block} {alternative : Option Block} {others : List Token}
    {otherNeed : Nat} (derived : Derives adjacency (.block consequence) tokens need)
    (otherDerived : Derives adjacency (.alternative alternative) others otherNeed) :
    ∃ front back, tokens ++ others = front ++ back ∧
      (alternative.getD consequence).span.RunsOver back := by
  cases otherDerived with
  | noAlternative => exact ⟨[], tokens, by simp, derived.runsOver_block⟩
  | @alternative tree token last lastNeed keyword part =>
    exact ⟨tokens ++ [token], last, by simp, part.runsOver_block⟩

/-- Only a left operand or a callee has parentheses in front of the own tokens of an expression, and
only a right operand has some behind them. -/
theorem tightens (derived : Derives adjacency phrase tokens need) :
    phrase.Tightens adjacency tokens := by
  induction derived with
  | @binary _ _ left _ operator leftTokens rightTokens _ _ next operation leftPart rightPart
      leftTightens rightTightens =>
    have derived := Derives.binary next operation leftPart rightPart
    have bracketed := derived.bracketed
    have leftBracketed := leftPart.bracketed
    obtain ⟨opens, front, between, splitLeft, runsLeft, opening, _⟩ := leftTightens.exists_trims
    obtain ⟨others, back, closes, splitRight, runsRight, _, closing⟩ := rightTightens.exists_trims
    have split : leftTokens ++ operator :: rightTokens =
        opens ++ ((front ++ ((between ++ operator :: others) ++ back)) ++ closes) := by
      simp [splitLeft, splitRight]
    refine .of_trims derived ⟨split, runsLeft.through _ runsRight, opening, closing⟩ ?_
    intro matched
    have regrouped : front ++ ((between ++ operator :: others) ++ back) =
        (front ++ between) ++ (operator :: others ++ back) := by simp
    rw [splitLeft] at leftBracketed
    obtain rfl : opens = [] := by
      rw [regrouped] at matched
      exact Bracketed.opens_eq_nil opening leftBracketed matched
    rw [split] at bracketed
    exact ⟨rfl, Bracketed.closes_eq_nil closing bracketed matched⟩
  | tighter _ _ tightens => exact tightens
  | @unary _ operator tokens _ operation part tightens =>
    have derived := Derives.unary operation part
    have bracketed := derived.bracketed
    obtain ⟨others, back, closes, split, runs, _, closing⟩ := tightens.exists_trims
    have whole : operator :: tokens = [] ++ (([operator] ++ (others ++ back)) ++ closes) := by
      simp [split]
    refine .of_trims derived
      ⟨whole, (Span.RunsOver.of_token operator).through _ runs, List.forall_mem_nil _, closing⟩ ?_
    intro matched
    rw [whole] at bracketed
    exact ⟨rfl, Bracketed.closes_eq_nil closing bracketed matched⟩
  | @call callee _ opening closing calleeTokens argumentTokens _ _ opens closes calleePart
      argumentsPart tightens _ =>
    have derived := Derives.call opens closes calleePart argumentsPart
    have bracketed := calleePart.bracketed
    obtain ⟨before, front, between, split, runs, begins, _⟩ := tightens.exists_trims
    have whole : calleeTokens ++ opening :: (argumentTokens ++ [closing]) =
        before ++ ((front ++ ((between ++ opening :: argumentTokens) ++ [closing])) ++ []) := by
      simp [split]
    refine .of_trims derived ⟨whole, runs.through _ (.of_token closing), begins,
      List.forall_mem_nil _⟩ ?_
    intro matched
    have regrouped : front ++ ((between ++ opening :: argumentTokens) ++ [closing]) =
        (front ++ between) ++ (opening :: argumentTokens ++ [closing]) := by simp
    rw [split] at bracketed
    rw [regrouped] at matched
    exact ⟨Bracketed.opens_eq_nil begins bracketed matched, rfl⟩
  | integer kind denoted => exact .of_runs (.integer kind denoted) (.of_token _)
  | identifier kind => exact .of_runs (.identifier kind) (.of_token _)
  | truth kind => exact .of_runs (.truth kind) (.of_token _)
  | @grouping _ first last _ _ opens closes _ tightens =>
    obtain ⟨before, part, after, rfl, opening, closing, tight⟩ := tightens
    refine ⟨first :: before, part, after ++ [last], by simp, ?_, ?_, tight⟩
    · exact List.forall_mem_cons.2 ⟨opens, opening⟩
    · exact List.forall_mem_append.2 ⟨closing, List.forall_mem_singleton.2 closes⟩
  | @conditional _ consequence alternative token opening closing conditionTokens consequenceTokens
      alternativeTokens _ _ _ keyword opens closes conditionPart consequencePart alternativePart =>
    have derived := Derives.conditional keyword opens closes conditionPart consequencePart
      alternativePart
    refine .of_runs derived ?_
    obtain ⟨front, back, behind, runs⟩ := consequencePart.exists_runsOver alternativePart
    have split : token :: opening ::
          (conditionTokens ++ closing :: (consequenceTokens ++ alternativeTokens)) =
        [token] ++ ((opening :: (conditionTokens ++ closing :: front)) ++ back) := by
      simp [behind]
    rw [split]
    exact (Span.RunsOver.of_token token).through _ runs
  | @function _ _ token opening closing nameTokens bodyTokens _ keyword opens closes parametersPart
      bodyPart =>
    refine .of_runs (.function keyword opens closes parametersPart bodyPart) ?_
    have split : token :: opening :: (nameTokens ++ closing :: bodyTokens) =
        [token] ++ ((opening :: (nameTokens ++ [closing])) ++ bodyTokens) := by simp
    rw [split]
    exact (Span.RunsOver.of_token token).through _ bodyPart.runsOver_block
  | _ => exact trivial

/-- A statement makes up a list of its own. -/
theorem alone {tree : Statement} {ended : Bool}
    (derived : Derives .apart (.statement tree ended) tokens need) :
    Derives .apart (.statements [tree]) tokens (max need 0) := by
  have whole := Derives.moreStatements (Adjacency.apart_nil tree ended) derived .noStatements
  rwa [List.append_nil] at whole

end Derives

/-- A node that is no block is the only statement of a script. -/
def Node.alone? : Node → Option Statement
  | expression tree => some (.expression ⟨.illegal, "", .unknown⟩ tree .unknown)
  | block _ => none
  | statement tree => some tree

/-- Among the used tokens, those that a span runs over are a statement of their own, once parentheses
next to them are taken in. None are taken in where the tokens of the span match. -/
structure Excerpt (used : List Token) (span : Span) (tree : Statement)
    (part opens own closes : List Token) : Prop where
  inside : part <:+: used
  derives : ∃ again need, again.outline = tree.outline ∧ Derives .apart (.statements [again]) part need
  trims : span.Trims part opens own closes
  exact : Bracketed own → opens = [] ∧ closes = []

namespace Excerpt

variable {used part : List Token} {span : Span} {tree : Statement}

theorem of_runs {ended : Bool} {need : Nat} (inside : part <:+: used)
    (derived : Derives .apart (.statement tree ended) part need) (runs : span.RunsOver part) :
    Excerpt used span tree part [] part [] :=
  ⟨inside, ⟨tree, _, rfl, derived.alone⟩, .of_runs runs, fun _ => ⟨rfl, rfl⟩⟩

end Excerpt

theorem Node.DerivedIn.exists_excerpt {used : List Token} {node : Node} {tree : Statement}
    (derived : node.DerivedIn .apart used) (alone : node.alone? = some tree) :
    ∃ part opens own closes, Excerpt used node.span tree part opens own closes := by
  cases node with
  | block => cases alone
  | expression inner =>
    cases alone
    obtain ⟨tokens, need, inside, derivation⟩ := derived
    obtain ⟨before, part, after, rfl, _, _, opens, own, closes, tight⟩ := derivation.tightens
    obtain ⟨tightNeed, tightDerived⟩ := tight.derives
    have within : part <:+: used := by
      refine List.IsInfix.trans ⟨before, after, ?_⟩ inside
      rw [List.append_assoc]
    obtain ⟨token, others, rule, rfl, _⟩ := tightDerived.exists_leading
    have statement := Derives.bareExpression .absent tightDerived
    rw [List.append_nil] at statement
    refine ⟨_, opens, own, closes, within, ⟨_, _, ?_, statement.alone⟩, tight.trims, tight.exact⟩
    rfl
  | statement inner =>
    cases alone
    obtain ⟨tokens, need, ended, inside, derivation⟩ := derived
    cases derivation with
    | binding keyword kind assigns ends part =>
      exact ⟨_, _, _, _, .of_runs inside (.binding keyword kind assigns ends part)
        ⟨rfl, stop_getLast?_append [_, _] _ _⟩⟩
    | bareReturn keyword ends =>
      exact ⟨_, _, _, _, .of_runs inside (.bareReturn keyword ends)
        ⟨rfl, stop_getLast?_append [] _ _⟩⟩
    | returning keyword ends part =>
      exact ⟨_, _, _, _, .of_runs inside (.returning keyword ends part)
        ⟨rfl, stop_getLast?_append [] _ _⟩⟩
    | @bareExpression token tree _ others ending need ends part =>
      obtain ⟨opens, own, closes, trims⟩ := part.tightens.exists_trims
      have split : token :: others = [] ++ ((opens ++ own) ++ closes) := by
        rw [trims.split]
        simp
      have within : token :: others <:+: used := (List.prefix_append _ _).isInfix.trans inside
      have statement := Derives.bareExpression .absent part
      rw [List.append_nil] at statement
      -- The statement begins with its first token, which may be a parenthesis.
      have runs : Span.RunsOver ⟨token.span.start, tree.span.stop⟩ (opens ++ own) := by
        obtain ⟨last, tail, stop⟩ := Option.map_eq_some_iff.1 trims.runs.stop
        have present : opens ++ own ≠ [] := by
          rintro nothing
          rw [(List.append_eq_nil_iff.1 nothing).2] at tail
          cases tail
        obtain ⟨first, rest, same⟩ := List.exists_cons_of_ne_nil present
        obtain rfl : token = first := by
          rw [same] at split
          exact (List.cons_eq_cons.1 split).1
        constructor
        · rw [same]
          rfl
        · rw [List.getLast?_append, tail]
          exact congrArg some stop
      refine ⟨token :: others, [], opens ++ own, closes, within, ⟨_, _, ?_, statement.alone⟩,
        ⟨split, runs, List.forall_mem_nil _, trims.closing⟩, fun matched => ⟨rfl, ?_⟩⟩
      · rfl
      · have bracketed := part.bracketed
        rw [split] at bracketed
        exact Bracketed.closes_eq_nil trims.closing bracketed matched

end ScriptFrontend
