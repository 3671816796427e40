/-
This file shows that every derivation is read back with exactly the room that it needs.
-/

import ScriptFrontend.Proofs.Grammar.Acceptance
import ScriptFrontend.Script

namespace ScriptFrontend

namespace Rule

section Statements

variable {limit room need : Nat} {state : State} {tokens ending : List Token} {kind : Token.Kind}
  {ended : Bool}

/-- A semicolon is consumed where a statement has one. -/
theorem Settles.semicolon {α : Type} {next : Bool → Rule α} {value : α} (ends : Ending ended ending)
    (faces : state.Faces ending kind) (apart : ended = false → kind ≠ .semicolon)
    (rest : ∀ found after, Passes state ending after →
      Settles limit 0 room (next found) after [] value) :
    Settles limit 0 room (Rule.skipOptional .semicolon >>= next) state ending value := by
  cases ends with
  | absent =>
    have other : state.current.kind ≠ .semicolon := by
      rw [faces.current_kind]
      exact apart rfl
    exact .skipNothing other (rest false state (.refl state))
  | present semicolon => exact .skipOptional faces semicolon (rest true _ (.advance faces))

/-- The token behind the expression of a statement is not taken in by it. -/
theorem faces_of_ending (ends : Ending ended ending) (faces : state.Faces (tokens ++ ending) kind)
    (apart : ended = false → kind.Delimits) :
    ∃ next, state.Faces tokens next ∧ next.strength = .lowest ∧ next ≠ .elseKeyword := by
  cases ends with
  | absent =>
    rw [List.append_nil] at faces
    exact ⟨kind, faces, (apart rfl).weak, (apart rfl).notElse⟩
  | present semicolon =>
    have ahead := faces.take
    rw [semicolon] at ahead
    exact ⟨Token.Kind.semicolon, ahead, by decide, by decide⟩

/-- An expression, an optional semicolon and what is built from them make the rest of a
statement. -/
theorem Settles.value_ending {α : Type} {tree : Expression} {next : Expression → Bool → Rule α}
    {result : α} (ends : Ending ended ending)
    (accepted : Phrase.Accepted limit (.expression .equality tree) tokens need)
    (faces : state.Faces (tokens ++ ending) kind) (apart : ended = false → kind.Delimits)
    (forward : ∀ value found, Forward α (next value found))
    (rest : ∀ found after, Passes state (tokens ++ ending) after →
      Settles limit 0 room (next tree found) after [] result) :
    Settles limit need room (do
      let value ← (Nested.within limit room).expression .lowest
      let found ← Rule.skipOptional .semicolon
      next value found) state (tokens ++ ending) result := by
  obtain ⟨following, ahead, weak, notElse⟩ := faces_of_ending ends faces apart
  have first : Settles limit need room ((Nested.within limit room).expression .lowest) state tokens
      tree := settles_lowest accepted ahead weak notElse
  apply Settles.cast _ (Nat.max_zero need)
  apply first.bind
  · intro value
    exact forward_closed.bind (forward_closed.skipOptional .semicolon) (forward value)
  · intro middle passes
    exact .semicolon ends (passes.faces faces) (fun absent => (apart absent).notSemicolon)
      fun found after passesOn => rest found after (passes.trans passesOn)

/-- A keyword is noted before its statement is read. -/
theorem Settles.of_keyword {rule : Rule Statement} {tree : Statement} {token : Token}
    (faces : state.Faces (token :: tokens) kind)
    (dispatched : statement (Nested.within limit room) state =
      rule (state.note (.statementKeyword state.current.kind)))
    (settles : ∀ noted, State.Faces noted (token :: tokens) kind →
      Settles limit need room rule noted (token :: tokens) tree) :
    Settles limit need room (statement (Nested.within limit room)) state (token :: tokens) tree := by
  have passes := Passes.note (.statementKeyword state.current.kind) state
  exact .of_eq dispatched passes (settles _ (passes.faces faces))

theorem settles_binding {token name equals : Token} {value : Expression}
    (keyword : token.kind = .letKeyword) (identifier : name.kind = .identifier)
    (assigns : equals.kind = .assignment) (ends : Ending ended ending)
    (accepted : Phrase.Accepted limit (.expression .equality value) tokens need)
    (faces : state.Faces (token :: name :: equals :: (tokens ++ ending)) kind)
    (apart : ended = false → kind.Delimits) :
    Settles limit need room (statement (Nested.within limit room)) state
      (token :: name :: equals :: (tokens ++ ending))
      (.binding token name value ⟨token.span.start, lastStop equals (tokens ++ ending)⟩) := by
  have dispatched : statement (Nested.within limit room) state =
      binding (Nested.within limit room) (state.note (.statementKeyword state.current.kind)) := by
    rw [statement_apply, faces.current, keyword]
    rfl
  apply Settles.of_keyword faces dispatched
  intro noted started
  have named := started.advance.advance
  apply Settles.advance started
  apply Settles.look (current_apply _)
  apply Settles.expectOr started.advance identifier
  apply Settles.expect named assigns
  apply Settles.value_ending ends accepted named.advance apart
  · intro _ _
    exact forward_spanned _
  · intro found after passes
    have all : EndsAt (equals :: (tokens ++ ending)) after :=
      ((Passes.advance named).trans passes).endsAt (List.cons_ne_nil _ _)
    exact .spanned all.lastEnd_eq

theorem statement_of_return {inner : Nested} {token : Token} {others : List Token}
    (keyword : token.kind = .returnKeyword) (faces : state.Faces (token :: others) kind) :
    statement inner state =
      returning inner (state.note (.statementKeyword state.current.kind)) := by
  rw [statement_apply, faces.current, keyword]
  rfl

theorem returned_apply (inner : Nested) (state : State) :
    returned inner state =
      if endsReturn state.current.kind then .ok none state
      else (inner.expression .lowest >>= fun value => pure (some value)) state := by
  rw [returned, bind_apply, current_apply]
  dsimp only
  split <;> rfl

theorem settles_bareReturn {token : Token} (keyword : token.kind = .returnKeyword)
    (ends : Ending ended ending) (faces : state.Faces (token :: ending) kind)
    (apart : ended = false → kind.Delimits ∧ endsReturn kind) :
    Settles limit 0 room (statement (Nested.within limit room)) state (token :: ending)
      (.returning token none ⟨token.span.start, lastStop token ending⟩) := by
  apply Settles.of_keyword faces (statement_of_return keyword faces)
  intro noted started
  have bare : endsReturn noted.advance.current.kind = true := by
    cases ends with
    | absent =>
      rw [started.advance.current_kind]
      exact (apart rfl).2
    | present semicolon =>
      rw [started.advance.current, semicolon]
      rfl
  have nothing : returned (Nested.within limit room) noted.advance = .ok none noted.advance := by
    rw [returned_apply, if_pos bare]
  apply Settles.advance started
  apply Settles.look nothing
  apply Settles.semicolon ends started.advance
  · intro absent
    exact (apart absent).1.notSemicolon
  · intro found after passes
    have all : EndsAt (token :: ending) after :=
      ((Passes.advance started).trans passes).endsAt (List.cons_ne_nil _ _)
    exact .spanned all.lastEnd_eq

theorem settles_returning {adjacency : Adjacency} {token : Token} {value : Expression}
    (keyword : token.kind = .returnKeyword) (ends : Ending ended ending)
    (part : Derives adjacency (.expression .equality value) tokens need)
    (accepted : Phrase.Accepted limit (.expression .equality value) tokens need)
    (faces : state.Faces (token :: (tokens ++ ending)) kind)
    (apart : ended = false → kind.Delimits) :
    Settles limit need room (statement (Nested.within limit room)) state
      (token :: (tokens ++ ending))
      (.returning token (some value) ⟨token.span.start, lastStop token (tokens ++ ending)⟩) := by
  apply Settles.of_keyword faces (statement_of_return keyword faces)
  intro noted started
  have valued : endsReturn noted.advance.current.kind = false := by
    obtain ⟨first, rest, rule, rfl, dispatched⟩ := part.exists_leading
    have ahead := started.advance
    rw [List.cons_append] at ahead
    rw [ahead.current]
    exact endsReturn_of_leading dispatched
  have something : (returned (Nested.within limit room) >>= fun value => do
      let _ ← skipOptional .semicolon
      return Statement.returning token value ⟨token.span.start, ← lastEnd⟩) noted.advance =
      ((Nested.within limit room).expression .lowest >>= fun value => do
        let _ ← skipOptional .semicolon
        return Statement.returning token (some value) ⟨token.span.start, ← lastEnd⟩)
        noted.advance := by
    rw [bind_apply, returned_apply, valued, if_neg Bool.false_ne_true, bind_apply, bind_apply]
    cases (Nested.within limit room).expression .lowest noted.advance <;> rfl
  apply Settles.advance started
  apply Settles.of_eq something (.refl _)
  apply Settles.value_ending ends accepted started.advance apart
  · intro _ _
    exact forward_spanned _
  · intro found after passes
    have all : EndsAt (token :: (tokens ++ ending)) after :=
      ((Passes.advance started).trans passes).endsAt (List.cons_ne_nil _ _)
    exact .spanned all.lastEnd_eq

theorem statement_of_leading {rule : LeadingRule}
    (dispatched : RuleTable.standard.leading kind = some rule) :
    RuleTable.standard.statement kind = none := by
  cases kind <;> first | rfl | cases dispatched

theorem settles_bareExpression {adjacency : Adjacency} {token : Token} {others : List Token}
    {tree : Expression} (ends : Ending ended ending)
    (part : Derives adjacency (.expression .equality tree) (token :: others) need)
    (accepted : Phrase.Accepted limit (.expression .equality tree) (token :: others) need)
    (faces : state.Faces (token :: (others ++ ending)) kind)
    (apart : ended = false → kind.Delimits) :
    Settles limit need room (statement (Nested.within limit room)) state
      (token :: (others ++ ending))
      (.expression token tree ⟨token.span.start, tree.span.stop⟩) := by
  obtain ⟨first, rest, rule, same, dispatched⟩ := part.exists_leading
  obtain ⟨rfl, -⟩ := List.cons_eq_cons.1 same
  have bare : statement (Nested.within limit room) state =
      bareExpression (Nested.within limit room) state := by
    rw [statement_apply, faces.current, statement_of_leading dispatched]
  apply Settles.of_eq bare (.refl state)
  apply Settles.look (current_apply state)
  rw [faces.current]
  exact .value_ending ends accepted faces apart (fun _ _ => forward_closed.pure _)
    fun _ _ _ => .pure _ _

/-- An attempt records the failure of a statement that is too deep. -/
theorem settles_attempt {closing : Token.Kind} {rule : Rule Statement} {tree : Statement}
    (settles : Settles limit need room rule state tokens tree) :
    Settles limit need room (attempt closing rule) state tokens (some tree) := by
  constructor
  · intro enough
    obtain ⟨after, passes, read⟩ := settles.reads enough
    refine ⟨after, passes, ?_⟩
    rw [attempt, read]
  · intro less
    exact (settles.overflows less).attempt

theorem settles_noStatements {closing : Token.Kind} (faces : state.Faces [] closing) :
    Settles limit 0 room (statementsUntil (Nested.within limit room) closing) state [] [] := by
  apply Settles.of_reads (.refl state)
  rw [statementsUntil_step (Nested.steady_within limit room), bind_apply, current_apply]
  dsimp only
  rw [if_pos (.inr faces.current_kind)]
  rfl

/-- No statement begins like what may end a list of statements. -/
theorem not_endsStatements {adjacency : Adjacency} {closing : Token.Kind} {tree : Statement}
    {token : Token} {rest : List Token}
    (part : Derives adjacency (.statement tree ended) (token :: rest) need)
    (closes : closing ∈ [.closeCurly, .endOfInput]) :
    ¬ endsStatements closing token.kind := by
  obtain ⟨first, others, same, begins⟩ := part.exists_beginning
  obtain ⟨rfl, -⟩ := List.cons_eq_cons.1 same
  have ends (kind : Token.Kind) (same : endsStatements closing kind) :
      kind = .closeCurly ∨ kind = .endOfInput := by
    simp only [List.mem_cons, List.not_mem_nil, or_false] at closes
    rcases same with rfl | rfl
    · exact .inr rfl
    · exact closes
  intro stops
  rcases begins with keyword | keyword | ⟨rule, dispatched⟩
  · rcases ends _ stops with kind | kind <;> rw [keyword] at kind <;> cases kind
  · rcases ends _ stops with kind | kind <;> rw [keyword] at kind <;> cases kind
  · rcases ends _ stops with kind | kind
    · exact RuleTable.kind_ne_of_rule dispatched rfl kind
    · exact RuleTable.kind_ne_of_rule dispatched rfl kind

theorem delimits_of_closing (closes : kind ∈ [Token.Kind.closeCurly, .endOfInput]) :
    kind.Delimits ∧ endsReturn kind := by
  simp only [List.mem_cons, List.not_mem_nil, or_false] at closes
  rcases closes with rfl | rfl
  · exact ⟨⟨by decide, by decide, by decide⟩, rfl⟩
  · exact ⟨⟨by decide, by decide, by decide⟩, rfl⟩

/-- The first token of a statement delimits the statement before it, unless it is a dash or a
parenthesis. -/
theorem delimits_of_beginning {token : Token} (begins : token.kind = .letKeyword ∨
      token.kind = .returnKeyword ∨ ∃ rule, RuleTable.standard.leading token.kind = some rule)
    (noDash : token.kind ≠ .dash) (noParen : token.kind ≠ .openParen) : token.kind.Delimits := by
  rcases begins with keyword | keyword | ⟨rule, dispatched⟩
  · rw [keyword]
    exact ⟨by decide, by decide, by decide⟩
  · rw [keyword]
    exact ⟨by decide, by decide, by decide⟩
  · exact ⟨RuleTable.strength_of_leading dispatched noDash noParen,
      RuleTable.kind_ne_of_rule dispatched rfl, RuleTable.kind_ne_of_rule dispatched rfl⟩

theorem settles_moreStatements {tree : Statement} {others : List Statement}
    {otherTokens : List Token} {otherNeed : Nat} {closing : Token.Kind}
    (apart : Adjacency.apart tree ended otherTokens)
    (part : Derives .apart (.statement tree ended) tokens need)
    (otherParts : Derives .apart (.statements others) otherTokens otherNeed)
    (accepted : Phrase.Accepted limit (.statement tree ended) tokens need)
    (othersAccepted : Phrase.Accepted limit (.statements others) otherTokens otherNeed)
    (faces : state.Faces (tokens ++ otherTokens) closing)
    (closes : closing ∈ [.closeCurly, .endOfInput]) :
    Settles limit (max need otherNeed) room (statementsUntil (Nested.within limit room) closing) state
      (tokens ++ otherTokens) (tree :: others) := by
  have first : Settles limit need room (statement (Nested.within limit room)) state tokens tree := by
    rcases otherParts.exists_head with rfl | ⟨token, rest, rfl, begins⟩
    · rw [List.append_nil] at faces
      obtain ⟨delimits, bare⟩ := delimits_of_closing closes
      exact accepted faces fun _ => ⟨delimits, fun _ => bare⟩
    · apply accepted faces.take
      intro absent
      obtain ⟨here, last⟩ := apart absent
      obtain ⟨noDash, noParen⟩ := here token rfl
      exact ⟨delimits_of_beginning begins noDash noParen, fun bare => by cases last bare⟩
  have forward := forward_closed.within limit room
  obtain ⟨token, rest, rfl, begins⟩ := part.exists_beginning
  have goesOn := not_endsStatements part closes
  rw [statementsUntil_step (Nested.steady_within limit room)]
  apply Settles.look (current_apply state)
  have here : State.Faces state (token :: (rest ++ otherTokens)) closing := faces
  rw [here.current, if_neg goesOn]
  apply (settles_attempt first).bind
  · intro _
    exact forward_closed.bind (forward_closed.statementsUntil forward closing) fun _ =>
      forward_closed.pure _
  · intro after passes
    have rest : Settles limit otherNeed room (statementsUntil (Nested.within limit room) closing)
        after otherTokens others := othersAccepted (passes.faces faces) closes
    exact rest.last (fun _ => forward_closed.pure _) fun _ _ => .pure _ _

theorem settles_block {trees : List Statement} {opening closing : Token}
    (opens : opening.kind = .openCurly) (closes : closing.kind = .closeCurly)
    (accepted : Phrase.Accepted limit (.statements trees) tokens need)
    (faces : state.Faces (opening :: (tokens ++ [closing])) kind) :
    Settles limit (need + 1) room (Nested.within limit room).block state
      (opening :: (tokens ++ [closing]))
      (.braces opening trees ⟨opening.span.start, closing.span.stop⟩) := by
  cases room with
  | zero => exact ⟨fun enough => by omega, fun _ => overflows_tooDeep limit state⟩
  | succ deeper =>
    have forward := forward_closed.within limit deeper
    have ahead := faces.advance.take
    rw [closes] at ahead
    have inside : Settles limit need deeper (statementsUntil (Nested.within limit deeper) .closeCurly)
        state.advance tokens trees := accepted ahead (by decide)
    apply Settles.expect faces opens
    apply Settles.succ
    apply Settles.cast _ (Nat.max_zero need)
    apply inside.bind
    · intro _
      exact forward_closed.bind (forward_closed.expect .closeCurly) fun _ => forward_spanned _
    · intro middle passes
      have last := passes.faces faces.advance
      obtain ⟨final, found, stop⟩ := (Passes.advance last).endsAt (List.cons_ne_nil _ _)
      obtain rfl : closing = final := Option.some.inj found
      exact .expect last closes (.spanned stop)

end Statements

end Rule

namespace Derives

open Rule

/-- Every phrase that is derived is accepted with its need. -/
theorem accepted (limit : Nat) {phrase : Phrase} {tokens : List Token} {need : Nat}
    (derived : Derives .apart phrase tokens need) : Phrase.Accepted limit phrase tokens need := by
  induction derived with
  | binary next operation _ _ left right =>
    intro room power state kind faces notElse weak fits notCall
    exact grows_binary next operation left right faces notElse weak fits notCall
  | tighter next _ part =>
    intro room power state kind faces notElse weak fits notCall
    have rank := Stratum.rank_tighter next
    exact part faces notElse (by omega) (by omega) notCall
  | unary operation _ part =>
    intro room power state kind faces notElse weak _ _
    exact grows_unary operation part faces notElse weak
  | call opens closes _ _ callee arguments =>
    intro room power state kind faces _ _ _ notCall
    exact grows_call opens closes callee arguments faces notCall
  | @integer token value kind denoted =>
    intro room power state next faces _ _ _ _
    apply grows_literal faces (by simp [LeadingRule.kinds, kind])
    rw [literal_apply, faces.current, kind, denoted]
  | @identifier token kind =>
    intro room power state next faces _ _ _ _
    apply grows_literal faces (by simp [LeadingRule.kinds, kind])
    rw [literal_apply, faces.current, kind]
  | @truth token value kind =>
    intro room power state next faces _ _ _ _
    cases value
    · apply grows_literal faces (by simp [LeadingRule.kinds, kind])
      rw [literal_apply, faces.current, kind]
      rfl
    · apply grows_literal faces (by simp [LeadingRule.kinds, kind])
      rw [literal_apply, faces.current, kind]
      rfl
  | grouping opens closes _ part =>
    intro room power state kind faces _ _ _ _
    exact grows_grouping opens closes part faces
  | conditional keyword opens closes _ consequencePart alternativePart condition consequence
      alternative =>
    intro room power state kind faces notElse _ _ _
    exact grows_conditional keyword opens closes consequencePart alternativePart condition
      consequence alternative faces notElse
  | function keyword opens closes _ bodyPart names body =>
    intro room power state kind faces _ _ _ _
    exact grows_function keyword opens closes bodyPart names body faces
  | noArguments => exact .nil
  | lastArgument part accepted => exact lists_last part accepted
  | moreArguments separator present part _ accepted others =>
    exact lists_more separator present part accepted others
  | noParameters => exact .nil
  | lastParameter kind =>
    intro room
    refine .last (forward_closed.expect .identifier) ?_ fun faces => settles_name kind faces
    rw [kind]
    decide
  | moreParameters kind separator present _ others =>
    intro room
    refine Lists.more (forward_closed.expect .identifier) ?_ separator present
      (fun faces => settles_name kind faces) others
    rw [kind]
    decide
  | noAlternative =>
    intro room state kind faces notElse
    refine .skipNothing ?_ (.pure none state)
    rw [faces.current_kind]
    exact notElse
  | alternative keyword _ part =>
    intro room state kind faces _
    exact settles_alternative keyword part faces
  | block opens closes _ part =>
    intro room state kind faces
    exact settles_block opens closes part faces
  | binding keyword kind assigns ends _ part =>
    intro room state next faces apart
    exact settles_binding keyword kind assigns ends part faces fun absent => (apart absent).1
  | bareReturn keyword ends =>
    intro room state next faces apart
    exact settles_bareReturn keyword ends faces fun absent =>
      ⟨(apart absent).1, (apart absent).2 rfl⟩
  | returning keyword ends part accepted =>
    intro room state next faces apart
    exact settles_returning keyword ends part accepted faces fun absent => (apart absent).1
  | bareExpression ends part accepted =>
    intro room state next faces apart
    exact settles_bareExpression ends part accepted faces fun absent => (apart absent).1
  | noStatements =>
    intro room state closing faces _
    exact settles_noStatements faces
  | moreStatements apart part otherParts accepted others =>
    intro room state closing faces closes
    exact settles_moreStatements apart part otherParts accepted others faces closes

end Derives

/-- At the start the tokens before the end mark are ahead. -/
theorem Rule.State.faces_ofTokens (tokens : List Token) (file : String) :
    (Rule.State.ofTokens tokens file).Faces (beforeEnd tokens) .endOfInput := by
  rw [← Cursor.beforeEnd_ofTokens tokens file]
  refine ⟨(Cursor.ofTokens tokens file).ahead.dropWhile fun token => token.kind ≠ .endOfInput,
    (List.takeWhile_append_dropWhile).symm, ?_⟩
  cases rest : (Cursor.ofTokens tokens file).ahead.dropWhile fun token =>
      token.kind ≠ .endOfInput with
  | nil => exact (Cursor.ofTokens tokens file).endMark_kind
  | cons token others =>
    have stops := List.head?_dropWhile_not (fun token : Token => decide (token.kind ≠ .endOfInput))
      (Cursor.ofTokens tokens file).ahead
    rw [rest] at stops
    simpa using stops

section Limits

variable {trees : List Statement} {tokens : List Token} {need : Nat}
  (derived : Derives .apart (.statements trees) (beforeEnd tokens) need) (file : String)
include derived

/-- The loop at the top of a script settles on the derived trees. -/
theorem Derives.settles (limit : Nat) : Rule.Settles limit need limit
    (Rule.statementsUntil (.within limit limit) .endOfInput) (.ofTokens tokens file)
    (beforeEnd tokens) trees :=
  derived.accepted limit (Rule.State.faces_ofTokens tokens file) (by decide)

theorem Derives.readTokens_eq {limit : Nat} (enough : need ≤ limit) :
    (readTokens tokens file limit).program.statements = trees ∧
      (readTokens tokens file limit).errors = [] := by
  obtain ⟨after, passes, read⟩ := (derived.settles file limit).reads enough
  rw [Rule.statementsUntil_apply, EStateM.Result.ok.injEq] at read
  obtain ⟨same, final⟩ := read
  refine ⟨same, ?_⟩
  show (Rule.State.statementsUntil _ _ _).2.errors.toList = []
  rw [final, passes.errors]
  rfl

end Limits

/-- A script whose tokens are derived is read as the derived tree exactly if the limit covers the
need of the derivation, and otherwise the lack of room is reported. -/
theorem reads_of_derives {trees : List Statement} {tokens : List Token} {need : Nat}
    (derived : Derives .apart (.statements trees) (beforeEnd tokens) need) (file : String)
    (limit : Nat) :
    (need ≤ limit → (readTokens tokens file limit).program.statements = trees ∧
      (readTokens tokens file limit).errors = []) ∧
    (limit < need → ∃ failure ∈ (readTokens tokens file limit).errors,
      failure.problem = .nestingTooDeep limit) :=
  ⟨derived.readTokens_eq file, (derived.settles file limit).overflows⟩

/-- The tokens of `let y = 1 + 2 * f(x); if (true) \x7b return \x7d` nest four levels deep. -/
def nestedScript : List Token :=
  Token.row "nested" [(.letKeyword, "let"), (.identifier, "y"), (.assignment, "="), (.integer, "1"),
    (.plus, "+"), (.integer, "2"), (.star, "*"), (.identifier, "f"), (.openParen, "("),
    (.identifier, "x"), (.closeParen, ")"), (.semicolon, ";"), (.ifKeyword, "if"),
    (.openParen, "("), (.trueKeyword, "true"), (.closeParen, ")"), (.openCurly, "\x7b"),
    (.returnKeyword, "return"), (.closeCurly, "\x7d"), (.endOfInput, "EOF")]

/-- Four levels of room are enough for the script, and three are not. -/
theorem reads_nestedScript : ∃ trees,
    Derives .apart (.statements trees) (beforeEnd nestedScript) 4 ∧
    ((readTokens nestedScript "nested" 4).program.statements = trees ∧
      (readTokens nestedScript "nested" 4).errors = []) ∧
    ∃ failure ∈ (readTokens nestedScript "nested" 3).errors, failure.problem = .nestingTooDeep 3 := by
  let token (index : Nat) (kind : Token.Kind) (text : String) : Token :=
    ⟨kind, text, Span.ofBytes index (index + 1) "nested"⟩
  have readOne : Text.readInteger? "1" = some 1 := by decide +kernel
  have readTwo : Text.readInteger? "2" = some 2 := by decide +kernel
  have one : Derives .apart (.expression .sum (.integer (token 3 .integer "1") 1))
      [token 3 .integer "1"] 1 := .loosen (by decide) (.integer rfl readOne)
  have two : Derives .apart (.expression .product (.integer (token 5 .integer "2") 2))
      [token 5 .integer "2"] 1 := .loosen (by decide) (.integer rfl readTwo)
  have callee : Derives .apart (.expression .call (.identifier (token 7 .identifier "f")))
      [token 7 .identifier "f"] 1 := .loosen (by decide) (.identifier rfl)
  have argument : Derives .apart (.expression .equality (.identifier (token 9 .identifier "x")))
      [token 9 .identifier "x"] 1 := .loosen (by decide) (.identifier rfl)
  have called := @Derives.call .apart _ _ (token 8 .openParen "(") (token 10 .closeParen ")") _ _ _ _
    rfl rfl callee (.lastArgument argument)
  have product := @Derives.binary .apart .product .unary _ _ (token 6 .star "*") _ _ _ _
    rfl (by decide) two (.loosen (by decide) called)
  have sum := @Derives.binary .apart .sum .product _ _ (token 4 .plus "+") _ _ _ _
    rfl (by decide) one product
  have bound := @Derives.binding .apart (token 0 .letKeyword "let") (token 1 .identifier "y")
    (token 2 .assignment "=") _ true _ [token 11 .semicolon ";"] _ rfl rfl rfl (.present rfl)
    (.loosen (by decide) sum)
  have condition : Derives .apart (.expression .equality (.boolean (token 14 .trueKeyword "true") true))
      [token 14 .trueKeyword "true"] 1 := .loosen (by decide) (.truth rfl)
  have returned := @Derives.bareReturn .apart (token 17 .returnKeyword "return") false [] rfl .absent
  have body := @Derives.block .apart _ (token 16 .openCurly "\x7b") (token 18 .closeCurly "\x7d") _ _
    rfl rfl (.moreStatements (Adjacency.apart_nil _ _) returned .noStatements)
  have branched := @Derives.conditional .apart _ _ _ (token 12 .ifKeyword "if")
    (token 13 .openParen "(") (token 15 .closeParen ")") _ _ _ _ _ _ rfl rfl rfl condition body
    .noAlternative
  have last := @Derives.bareExpression .apart _ _ false _ [] _ .absent (.loosen (by decide) branched)
  have derived : Derives .apart (.statements _) (beforeEnd nestedScript) 4 :=
    .moreStatements (Adjacency.apart_of_ended _ _) bound
      (.moreStatements (Adjacency.apart_nil _ _) last .noStatements)
  exact ⟨_, derived, (reads_of_derives derived "nested" 4).1 (by decide),
    (reads_of_derives derived "nested" 3).2 (by decide)⟩

end ScriptFrontend
