/-
This file shows that the spans of a tree lie in one another in the order of the script.
-/

import ScriptFrontend.Proofs.Lexeme.Tiling
import ScriptFrontend.Proofs.Reading.Truncation
import ScriptFrontend.Proofs.Tree.WellFormed

namespace ScriptFrontend

open Text

namespace Span

def firstByte (span : Span) : Nat :=
  span.start.offset.toNat

/-- The byte just after the last one. -/
def endByte (span : Span) : Nat :=
  span.stop.offset.toNat

/-- A span follows a byte of a file when it is not empty and starts at that byte or later. -/
structure Follows (file : String) (byte : Nat) (span : Span) : Prop where
  startFile : span.start.file = file
  stopFile : span.stop.file = file
  after : byte ≤ span.firstByte
  nonempty : span.firstByte < span.endByte

/-- A chain of spans runs from one byte to another, and each of them follows the one before it. -/
def Chain (file : String) (lower upper : Nat) : List Span → Prop
  | [] => lower ≤ upper
  | span :: others => span.Follows file lower ∧ Chain file span.endByte upper others

variable {file : String} {lower middle upper : Nat} {span : Span} {spans : List Span}

@[simp] theorem chain_nil : Chain file lower upper [] ↔ lower ≤ upper := Iff.rfl

@[simp] theorem chain_cons : Chain file lower upper (span :: spans) ↔
    span.Follows file lower ∧ Chain file span.endByte upper spans := Iff.rfl

theorem Follows.earlier (follows : span.Follows file middle) (below : lower ≤ middle) :
    span.Follows file lower :=
  ⟨follows.startFile, follows.stopFile, Nat.le_trans below follows.after, follows.nonempty⟩

theorem Follows.lt (follows : span.Follows file lower) : lower < span.endByte :=
  Nat.lt_of_le_of_lt follows.after follows.nonempty

/-- A span may reach as far as another one that stops in the same file. -/
theorem Follows.through {last : Span} (follows : span.Follows file lower)
    (lastFile : last.stop.file = file) (onward : span.firstByte < last.endByte) :
    Follows file lower ⟨span.start, last.stop⟩ :=
  ⟨follows.startFile, lastFile, follows.after, onward⟩

namespace Chain

theorem le (chain : Chain file lower upper spans) : lower ≤ upper := by
  induction spans generalizing lower with
  | nil => exact chain
  | cons span spans ih =>
    obtain ⟨follows, rest⟩ := chain_cons.1 chain
    exact Nat.le_trans (Nat.le_of_lt follows.lt) (ih rest)

theorem widen {lowest highest : Nat} (chain : Chain file lower upper spans)
    (below : lowest ≤ lower) (above : upper ≤ highest) : Chain file lowest highest spans := by
  induction spans generalizing lower lowest with
  | nil => exact Nat.le_trans below (Nat.le_trans chain above)
  | cons span spans ih =>
    obtain ⟨follows, rest⟩ := chain_cons.1 chain
    exact ⟨follows.earlier below, ih rest (Nat.le_refl _)⟩

theorem sublist {chosen : List Span} (chain : Chain file lower upper spans)
    (sublist : chosen.Sublist spans) : Chain file lower upper chosen := by
  induction sublist generalizing lower with
  | slnil => exact chain
  | cons span _ ih =>
    obtain ⟨follows, rest⟩ := chain_cons.1 chain
    exact (ih rest).widen (Nat.le_of_lt follows.lt) (Nat.le_refl upper)
  | cons_cons span _ ih =>
    obtain ⟨follows, rest⟩ := chain_cons.1 chain
    exact ⟨follows, ih rest⟩

theorem inside (chain : Chain file lower upper spans) :
    ∀ span ∈ spans, span.Follows file lower ∧ span.endByte ≤ upper := by
  induction spans generalizing lower with
  | nil => exact List.forall_mem_nil _
  | cons span spans ih =>
    obtain ⟨follows, rest⟩ := chain_cons.1 chain
    refine List.forall_mem_cons.2 ⟨⟨follows, rest.le⟩, fun other member => ?_⟩
    obtain ⟨otherFollows, bounded⟩ := ih rest other member
    exact ⟨otherFollows.earlier (Nat.le_of_lt follows.lt), bounded⟩

theorem pairwise (chain : Chain file lower upper spans) :
    spans.Pairwise fun earlier later => earlier.endByte ≤ later.firstByte := by
  induction spans generalizing lower with
  | nil => exact .nil
  | cons span spans ih =>
    obtain ⟨_, rest⟩ := chain_cons.1 chain
    exact .cons (fun other member => (rest.inside other member).1.after) (ih rest)

end Chain

/-- Two chains that meet at some byte are one. -/
theorem chain_append {others : List Span} : Chain file lower upper (spans ++ others) ↔
    ∃ middle, Chain file lower middle spans ∧ Chain file middle upper others := by
  induction spans generalizing lower with
  | nil =>
    refine ⟨fun chain => ⟨lower, Nat.le_refl _, chain⟩, fun parts => ?_⟩
    obtain ⟨middle, onward, chain⟩ := parts
    exact chain.widen onward (Nat.le_refl _)
  | cons span spans ih =>
    simp only [List.cons_append, chain_cons, ih, and_assoc, exists_and_left]

end Span

open ScriptFrontend.Span

variable {file : String} {lower upper : Nat}

/-- The last of some tokens ends their chain. -/
theorem exists_last_of_chain {first : Token} {others : List Token}
    (chain : Chain file lower upper ((first :: others).map Token.span)) :
    ∃ last : Span, lastStop first others = last.stop ∧ last.Follows file lower ∧
      last.endByte ≤ upper ∧ Chain file lower last.endByte ((first :: others).map Token.span) := by
  induction others generalizing first lower with
  | nil => exact ⟨first.span, rfl, chain.1, chain.2, chain.1, Nat.le_refl _⟩
  | cons next others ih =>
    obtain ⟨follows, rest⟩ := chain
    obtain ⟨last, stop, lastFollows, bounded, tight⟩ := ih rest
    refine ⟨last, ?_, lastFollows.earlier (Nat.le_of_lt follows.lt), bounded, follows, tight⟩
    rw [lastStop, List.getLastD_cons]
    exact stop

/-- A node is framed when its span lies in the script and holds a chain of the spans of its parts. -/
structure Node.Framed (file : String) (length : Nat) (node : Node) : Prop where
  follows : node.span.Follows file 0
  bounded : node.span.endByte ≤ length
  chain : Chain file node.span.firstByte node.span.endByte (node.parts.map Node.span)

/-- Nodes next to each other are chained when their spans are and all nodes in them are framed. -/
structure Node.Chained (file : String) (length lower upper : Nat) (nodes : List Node) : Prop where
  chain : Chain file lower upper (nodes.map Node.span)
  framed : ∀ node ∈ nodes, node.Everywhere (Node.Framed file length)

namespace Node.Chained

variable {length middle : Nat} {node : Node} {nodes others : List Node}

theorem nil (onward : lower ≤ upper) : Chained file length lower upper [] :=
  ⟨onward, List.forall_mem_nil _⟩

theorem append (first : Chained file length lower middle nodes)
    (second : Chained file length middle upper others) :
    Chained file length lower upper (nodes ++ others) where
  chain := by
    rw [List.map_append, chain_append]
    exact ⟨middle, first.chain, second.chain⟩
  framed := List.forall_mem_append.2 ⟨first.framed, second.framed⟩

theorem widen {lowest highest : Nat} (chained : Chained file length lower upper nodes)
    (below : lowest ≤ lower) (above : upper ≤ highest) :
    Chained file length lowest highest nodes :=
  ⟨chained.chain.widen below above, chained.framed⟩

/-- A node is framed by the chain of its parts. -/
theorem alone (follows : node.span.Follows file lower) (above : node.span.endByte ≤ upper)
    (bounded : upper ≤ length)
    (parts : Chained file length node.span.firstByte node.span.endByte node.parts) :
    Chained file length lower upper [node] := by
  refine ⟨⟨follows, above⟩, Everywhere.alone ?_ parts.framed⟩
  exact ⟨follows.earlier (Nat.zero_le _), Nat.le_trans above bounded, parts.chain⟩

/-- A single node begins and ends its own chain. -/
theorem tight (chained : Chained file length lower upper [node]) :
    Chained file length node.span.firstByte node.span.endByte [node] := by
  obtain ⟨follows, -⟩ := chained.chain
  refine ⟨⟨?_, Nat.le_refl _⟩, chained.framed⟩
  exact ⟨follows.startFile, follows.stopFile, Nat.le_refl _, follows.nonempty⟩

theorem follows (chained : Chained file length lower upper [node]) :
    node.span.Follows file lower ∧ node.span.endByte ≤ upper :=
  ⟨chained.chain.1, chained.chain.2⟩

/-- A node of one token begins a chain. -/
theorem leaf {token : Token} (span : node.span = token.span) (bare : node.parts = [])
    (follows : token.span.Follows file lower) (bounded : token.span.endByte ≤ length)
    (rest : Chained file length token.span.endByte upper others) :
    Chained file length lower upper (node :: others) := by
  rw [← span] at follows bounded rest
  have first : Chained file length lower node.span.endByte [node] := by
    refine alone follows (Nat.le_refl _) bounded ?_
    rw [bare]
    exact nil (Nat.le_of_lt follows.nonempty)
  exact first.append rest

end Node.Chained

namespace Derives

variable {adjacency : Adjacency} {phrase : Phrase} {used : List Token} {need length : Nat}

/-- Wherever the tokens of a phrase are chained, its nodes are. -/
theorem chained (derived : Derives adjacency phrase used need)
    (chain : Chain file lower upper (used.map Token.span)) (bounded : upper ≤ length) :
    Node.Chained file length lower upper phrase.roots := by
  -- The bounds of a part are the bytes next to the tokens that the phrase has around it.
  induction derived generalizing lower upper with
  | binary _ _ _ _ leftPart rightPart =>
    simp only [List.map_append, List.map_cons, chain_append, chain_cons] at chain
    obtain ⟨middle, leftChain, operatorFollows, rightChain⟩ := chain
    have between := operatorFollows.lt
    have onward := rightChain.le
    have left := leftPart leftChain (by omega)
    have right := rightPart rightChain bounded
    obtain ⟨leftFollows, leftAbove⟩ := left.follows
    obtain ⟨rightFollows, rightAbove⟩ := right.follows
    have nonempty := leftFollows.nonempty
    have after := rightFollows.after
    refine .alone (leftFollows.through rightFollows.stopFile ?_) rightAbove bounded ?_
    · exact Nat.lt_of_le_of_lt (by omega) rightFollows.lt
    · exact left.tight.append (right.tight.widen (by omega) (Nat.le_refl _))
  | tighter _ _ part => exact part chain bounded
  | unary _ _ part =>
    obtain ⟨operatorFollows, rest⟩ := chain_cons.1 chain
    have begins := Nat.le_of_lt operatorFollows.nonempty
    have operand := part rest bounded
    obtain ⟨operandFollows, above⟩ := operand.follows
    refine .alone (operatorFollows.through operandFollows.stopFile ?_) above bounded ?_
    · exact Nat.lt_of_le_of_lt begins operandFollows.lt
    · exact operand.tight.widen (Nat.le_trans begins operandFollows.after) (Nat.le_refl _)
  | call _ _ _ _ calleePart argumentsPart =>
    simp only [List.map_append, List.map_cons, List.map_nil, chain_append, chain_cons,
      chain_nil] at chain
    obtain ⟨middle, calleeChain, openingFollows, last, argumentsChain, closingFollows, above⟩ := chain
    have opens := openingFollows.lt
    have inside := argumentsChain.le
    have closes := closingFollows.lt
    have callee := calleePart calleeChain (by omega)
    have arguments := argumentsPart argumentsChain (by omega)
    obtain ⟨calleeFollows, calleeAbove⟩ := callee.follows
    have nonempty := calleeFollows.nonempty
    refine .alone (calleeFollows.through closingFollows.stopFile ?_) above bounded ?_
    · omega
    · rw [Node.parts_call]
      exact callee.tight.append (arguments.widen (by omega) (Nat.le_of_lt closes))
  | integer | identifier | truth =>
    exact .leaf rfl rfl chain.1 (Nat.le_trans chain.2 bounded) (.nil chain.2)
  | grouping _ _ _ part =>
    simp only [List.map_append, List.map_cons, List.map_nil, chain_append, chain_cons,
      chain_nil] at chain
    obtain ⟨openingFollows, last, inside, closingFollows, above⟩ := chain
    have closes := closingFollows.lt
    exact (part inside (by omega)).widen (Nat.le_of_lt openingFollows.lt) (by omega)
  | @conditional _ _ alternative _ _ _ _ _ _ _ _ _ _ _ _ _ _ _ conditionPart consequencePart
      alternativePart =>
    simp only [List.map_append, List.map_cons, chain_append, chain_cons] at chain
    obtain ⟨tokenFollows, openingFollows, first, conditionChain, closingFollows, second,
      consequenceChain, alternativeChain⟩ := chain
    have begins := Nat.le_of_lt tokenFollows.nonempty
    have opens := openingFollows.lt
    have inside := conditionChain.le
    have closes := closingFollows.lt
    have between := consequenceChain.le
    have last := alternativeChain.le
    have condition := conditionPart conditionChain (by omega)
    have consequence := consequencePart consequenceChain (by omega)
    obtain ⟨consequenceFollows, consequenceAbove⟩ := consequence.follows
    have after := consequenceFollows.after
    have front := condition.widen (Nat.le_trans begins (Nat.le_of_lt opens)) (Nat.le_refl _)
      |>.append (consequence.tight.widen (by omega) (Nat.le_refl _))
    cases alternative with
    | none =>
      refine .alone (tokenFollows.through consequenceFollows.stopFile ?_) ?_ bounded front
      · exact Nat.lt_of_le_of_lt (by omega) consequenceFollows.lt
      · exact Nat.le_trans consequenceAbove last
    | some tree =>
      have alternative := alternativePart alternativeChain bounded
      obtain ⟨alternativeFollows, above⟩ := alternative.follows
      refine .alone (tokenFollows.through alternativeFollows.stopFile ?_) above bounded ?_
      · exact Nat.lt_of_le_of_lt (by omega) alternativeFollows.lt
      · refine front.append (alternative.tight.widen ?_ (Nat.le_refl _))
        exact Nat.le_trans consequenceAbove alternativeFollows.after
  | function _ _ _ _ _ parametersPart bodyPart =>
    simp only [List.map_append, List.map_cons, chain_append, chain_cons] at chain
    obtain ⟨tokenFollows, openingFollows, last, parametersChain, closingFollows, bodyChain⟩ := chain
    have begins := Nat.le_of_lt tokenFollows.nonempty
    have opens := openingFollows.lt
    have inside := parametersChain.le
    have closes := closingFollows.lt
    have onward := bodyChain.le
    have parameters := parametersPart parametersChain (by omega)
    have body := bodyPart bodyChain bounded
    obtain ⟨bodyFollows, above⟩ := body.follows
    have after := bodyFollows.after
    refine .alone (tokenFollows.through bodyFollows.stopFile ?_) above bounded ?_
    · exact Nat.lt_of_le_of_lt (by omega) bodyFollows.lt
    · rw [Node.parts_function]
      exact parameters.widen (Nat.le_trans begins (Nat.le_of_lt opens)) (Nat.le_refl _)
        |>.append (body.tight.widen (by omega) (Nat.le_refl _))
  | noArguments | noParameters | noAlternative | noStatements => exact .nil chain
  | lastArgument _ part => exact part chain bounded
  | moreArguments _ _ _ _ part otherParts =>
    simp only [List.map_append, List.map_cons, chain_append, chain_cons] at chain
    obtain ⟨middle, first, commaFollows, others⟩ := chain
    have between := commaFollows.lt
    have onward := others.le
    exact (part first (by omega)).append
      ((otherParts others bounded).widen (Nat.le_of_lt between) (Nat.le_refl _))
  | lastParameter _ => exact .leaf rfl rfl chain.1 (Nat.le_trans chain.2 bounded) (.nil chain.2)
  | moreParameters _ _ _ _ otherParts =>
    obtain ⟨nameFollows, commaFollows, others⟩ := chain
    have between := commaFollows.lt
    have onward := others.le
    exact .leaf rfl rfl nameFollows (by omega)
      ((otherParts others bounded).widen (Nat.le_of_lt between) (Nat.le_refl _))
  | alternative _ _ part =>
    obtain ⟨tokenFollows, rest⟩ := chain_cons.1 chain
    exact (part rest bounded).widen (Nat.le_of_lt tokenFollows.lt) (Nat.le_refl _)
  | block _ _ _ part =>
    simp only [List.map_append, List.map_cons, List.map_nil, chain_append, chain_cons,
      chain_nil] at chain
    obtain ⟨openingFollows, last, inside, closingFollows, above⟩ := chain
    have begins := Nat.le_of_lt openingFollows.nonempty
    have within := inside.le
    have closes := closingFollows.lt
    refine .alone (openingFollows.through closingFollows.stopFile ?_) above bounded ?_
    · omega
    · rw [Node.parts_block]
      exact (part inside (by omega)).widen begins (Nat.le_of_lt closes)
  | binding _ _ _ _ _ part =>
    obtain ⟨tokenFollows, nameFollows, rest⟩ := chain
    obtain ⟨last, stop, lastFollows, above, tight⟩ := exists_last_of_chain rest
    rw [List.map_cons, chain_cons, List.map_append, chain_append] at tight
    obtain ⟨equalsFollows, middle, valueChain, ending⟩ := tight
    have begins := Nat.le_of_lt tokenFollows.nonempty
    have named := nameFollows.lt
    have between := equalsFollows.lt
    have inside := valueChain.le
    have ends := ending.le
    have value := part valueChain (by omega)
    rw [stop]
    refine .alone (tokenFollows.through lastFollows.stopFile ?_) above bounded ?_
    · omega
    · apply Node.Chained.leaf rfl rfl (nameFollows.earlier begins) (by omega)
      exact value.widen (Nat.le_of_lt between) ends
  | bareReturn _ _ =>
    obtain ⟨last, stop, lastFollows, above, tokenFollows, ending⟩ := exists_last_of_chain chain
    have onward := Nat.lt_of_lt_of_le tokenFollows.nonempty ending.le
    rw [stop]
    refine .alone (tokenFollows.through lastFollows.stopFile onward) above bounded ?_
    exact .nil (Nat.le_of_lt onward)
  | returning _ _ _ part =>
    obtain ⟨last, stop, lastFollows, above, tokenFollows, rest⟩ := exists_last_of_chain chain
    have onward := Nat.lt_of_lt_of_le tokenFollows.nonempty rest.le
    rw [List.map_append, chain_append] at rest
    obtain ⟨middle, valueChain, ending⟩ := rest
    have ends := ending.le
    have value := part valueChain (by omega)
    rw [stop]
    refine .alone (tokenFollows.through lastFollows.stopFile onward) above bounded ?_
    exact value.widen (Nat.le_of_lt tokenFollows.nonempty) ends
  | bareExpression _ _ part =>
    rw [← List.cons_append, List.map_append, chain_append] at chain
    obtain ⟨middle, valueChain, ending⟩ := chain
    obtain ⟨tokenFollows, rest⟩ := chain_cons.1 valueChain
    have ends := ending.le
    -- The expression does not begin before its first token.
    have fromToken : Chain file _ middle (_ :: _) :=
      ⟨⟨tokenFollows.startFile, tokenFollows.stopFile, Nat.le_refl _, tokenFollows.nonempty⟩, rest⟩
    have value := part fromToken (by omega)
    obtain ⟨valueFollows, above⟩ := value.follows
    refine .alone (tokenFollows.through valueFollows.stopFile valueFollows.lt)
      (Nat.le_trans above ends) bounded ?_
    exact value.tight.widen valueFollows.after (Nat.le_refl _)
  | moreStatements _ _ _ part otherParts =>
    rw [List.map_append, chain_append] at chain
    obtain ⟨middle, first, others⟩ := chain
    have onward := others.le
    exact (part first (by omega)).append (otherParts others bounded)

end Derives

/-- Where the offsets do not wrap around, the tokens of a text are a chain over the text. -/
theorem Tiles.chain {start : Nat} {text : List Char} {tokens : List Token} {extents : List Extent}
    (tiles : Tiles file start text tokens extents) (small : start + byteLength text < UInt32.size) :
    Chain file start (start + byteLength text) ((beforeEnd tokens).map Token.span) := by
  induction tiles with
  | ended => exact Nat.le_add_right _ _
  | @token start gap text rest kind extent tokens extents _ begins ends present nonempty _ _ ih =>
    rw [byteLength_append, byteLength_append] at small ⊢
    have positive := byteLength_pos nonempty
    have first : (extent.span file).firstByte = extent.start := Position.ofByte_offset file (by omega)
    have stop : (extent.span file).endByte = extent.stop := Position.ofByte_offset file (by omega)
    have whole : extent.stop + byteLength rest =
        start + (byteLength gap + (byteLength text + byteLength rest)) := by omega
    have others := ih (by omega)
    rw [whole, ← stop] at others
    rw [beforeEnd, List.takeWhile_cons_of_pos (by simpa using present)]
    have follows : (extent.span file).Follows file start := ⟨rfl, rfl, by omega, by omega⟩
    exact ⟨follows, others⟩

theorem chain_tokenize {source : String} (file : String)
    (small : byteLength source.toList < UInt32.size) :
    Chain file 0 (byteLength source.toList) ((beforeEnd (tokenize source file)).map Token.span) := by
  obtain ⟨extents, tiles⟩ := exists_tiles_tokenize source file
  have chain := tiles.chain (by omega)
  rwa [Nat.zero_add] at chain

theorem firstEnd_tokenize (source file other : String) :
    firstEnd (tokenize source file) other =
      Token.endAt (Position.ofByte (byteLength source.toList) file) := by
  have present : ((Lexeme.scan source).filterMap (Lexeme.token? file)).find?
      (fun token => token.kind = .endOfInput) = none := by
    apply List.find?_eq_none.2
    intro token member
    simpa using present_of_mem_scan member
  rw [firstEnd, firstEndOr, tokenize, List.find?_append, present]
  rfl

/-- A script is read up to the end mark behind its last token. -/
theorem span_readScript (source file : String) (limit : Nat) :
    (readScript source file limit).program.span =
      Span.ofBytes 0 (byteLength source.toList) file := by
  have last := current_statementsUntil (tokenize source file) file limit limit
  rw [firstEnd_tokenize] at last
  exact congrArg (fun token => Span.mk (Position.ofByte 0 file) token.span.stop) last

/-- A node is placed when it takes some bytes of the file, and its parts take bytes of its own, one
behind the other. The positions of its token are in the file, too. -/
structure Node.Placed (file : String) (length : Nat) (node : Node) : Prop where
  follows : node.span.Follows file 0
  bounded : node.span.endByte ≤ length
  inside : ∀ part ∈ node.parts, node.span.firstByte ≤ part.span.firstByte ∧
    part.span.endByte ≤ node.span.endByte
  apart : node.parts.Pairwise fun earlier later => earlier.span.endByte ≤ later.span.firstByte
  token : node.token.span.start.file = file ∧ node.token.span.stop.file = file

theorem Node.Framed.placed {length : Nat} {node : Node} (framed : node.Framed file length)
    (token : node.token.span.start.file = file ∧ node.token.span.stop.file = file) :
    node.Placed file length where
  follows := framed.follows
  bounded := framed.bounded
  inside part member := by
    obtain ⟨follows, above⟩ := framed.chain.inside _ (List.mem_map_of_mem member)
    exact ⟨follows.after, above⟩
  apart := List.pairwise_map.1 framed.chain.pairwise
  token := token

/-- The spans of a script form a tree. The program takes all of the script, its statements come one
behind the other, and every node is placed, whether failures occurred or not. -/
theorem spans_readScript {source : String} (small : byteLength source.toList < UInt32.size)
    (file : String) (limit : Nat) :
    let program := (readScript source file limit).program
    program.span = Span.ofBytes 0 (byteLength source.toList) file ∧
      (program.statements.Pairwise fun earlier later =>
        earlier.span.endByte ≤ later.span.firstByte) ∧
      ∀ node ∈ program.nodes, node.Placed file (byteLength source.toList) := by
  intro program
  obtain ⟨used, need, derived, sublist, -⟩ :=
    exists_derivation_beforeEnd (tokenize source file) file limit
  have chain := (chain_tokenize file small).sublist (sublist.map Token.span)
  have chained := derived.chained chain (Nat.le_refl _)
  have files : ∀ token ∈ used, token.span.start.file = file ∧ token.span.stop.file = file := by
    intro token member
    obtain ⟨follows, -⟩ := chain.inside _ (List.mem_map_of_mem member)
    exact ⟨follows.startFile, follows.stopFile⟩
  refine ⟨span_readScript source file limit, ?_, ?_⟩
  · have apart := chained.chain.pairwise
    rw [Phrase.roots, List.map_map, List.pairwise_map] at apart
    exact apart
  · intro node member
    have framed := Program.forall_mem_nodes chained.framed node member
    have located := Program.forall_mem_nodes (derived.everywhere_wellFormed files) node member
    exact framed.placed located.2

/-- A character that begins no token and a block with an unnamed binding interrupt the script. -/
def interruptedScript : String :=
  "é; let f = fn(a, b) \x7b let = 1; (a)(b) + -c \x7d; f(1, (2))"

theorem spans_interruptedScript :
    byteLength interruptedScript.toList < UInt32.size ∧
      (readScript interruptedScript "interrupted" 8).errors.length = 2 ∧
        let program := (readScript interruptedScript "interrupted" 8).program
        program.span = Span.ofBytes 0 (byteLength interruptedScript.toList) "interrupted" ∧
          (program.statements.Pairwise fun earlier later =>
            earlier.span.endByte ≤ later.span.firstByte) ∧
          ∀ node ∈ program.nodes,
            node.Placed "interrupted" (byteLength interruptedScript.toList) := by
  have small : byteLength interruptedScript.toList < UInt32.size := by decide
  exact ⟨small, by decide +kernel, spans_readScript small "interrupted" 8⟩

end ScriptFrontend
