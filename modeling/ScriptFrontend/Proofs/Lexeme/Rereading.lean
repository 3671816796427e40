/-
This file says what it means that a text is read again, and puts such texts together.
-/

import ScriptFrontend.Proofs.Lexeme.Spelling

namespace ScriptFrontend

open Lexeme

/-- The text of a token spells its kind. -/
def Token.Spelled (token : Token) : Prop :=
  Spells token.kind token.text.toList

/-- The text of a keyword is one of the reserved words of its kind. -/
theorem Token.Kind.mem_reservedWords_of_ofWord {word : String} {kind : Token.Kind}
    (same : ofWord word = kind) (special : kind ≠ .identifier) : (word, kind) ∈ reservedWords := by
  cases found : reserved? word with
  | none =>
    rw [ofWord, found] at same
    exact absurd same.symm special
  | some other =>
    rw [ofWord, found] at same
    obtain rfl : other = kind := same
    obtain ⟨before, after, split, -⟩ := List.lookup_eq_some_iff.1 found
    rw [split]
    simp

/-- A kind that is no word and no number is spelled by its mark. -/
theorem Lexeme.Spells.mark_of_kind {kind : Token.Kind} {text : List Char} (spells : Spells kind text)
    (noWord : kind ≠ .identifier) (noKeyword : kind.isKeyword = false) (noNumber : kind ≠ .integer) :
    ∃ first others, text = first :: others ∧ .mark kind first others ∈ patterns := by
  cases spells with
  | @word first others start parts =>
    have reserved := Token.Kind.mem_reservedWords_of_ofWord rfl noWord
    simp only [Token.Kind.reservedWords, List.mem_cons, Prod.mk.injEq, List.not_mem_nil,
      or_false] at reserved
    rcases reserved with h | h | h | h | h | h | h | h <;> rw [h.2] at noKeyword <;> cases noKeyword
  | number start digits => exact absurd rfl noNumber
  | @mark kind first others listed => exact ⟨first, others, rfl, listed⟩

/-- The text of a kind that is always spelled in the same way. -/
def Token.Kind.spelling? : Token.Kind → Option String
  | openCurly => some "\x7b"
  | closeCurly => some "\x7d"
  | openParen => some "("
  | closeParen => some ")"
  | assignment => some "="
  | equals => some "=="
  | not => some "!"
  | notEquals => some "!="
  | less => some "<"
  | greater => some ">"
  | semicolon => some ";"
  | comma => some ","
  | plus => some "+"
  | dash => some "-"
  | slash => some "/"
  | star => some "*"
  | letKeyword => some "let"
  | returnKeyword => some "return"
  | ifKeyword => some "if"
  | elseKeyword => some "else"
  | trueKeyword => some "true"
  | falseKeyword => some "false"
  | endOfInput | illegal | integer | identifier | functionKeyword => none

theorem Token.Kind.spelling?_reservedWords :
    ∀ entry ∈ reservedWords, entry.2.spelling?.all (· == entry.1) = true := by
  decide

theorem Lexeme.spelling?_patterns : ∀ pattern ∈ patterns,
    (match pattern with
    | .mark kind first others => kind.spelling?.all (· == String.ofList (first :: others))
    | _ => true) = true := by
  decide

theorem Lexeme.Spells.eq_spelling {kind : Token.Kind} {text : List Char} {spelling : String}
    (spells : Spells kind text) (fixed : kind.spelling? = some spelling) :
    String.ofList text = spelling := by
  cases spells with
  | @word first others start parts =>
    have special : Token.Kind.ofWord (String.ofList (first :: others)) ≠ .identifier := by
      intro same
      rw [same] at fixed
      cases fixed
    have known := Token.Kind.spelling?_reservedWords _
      (Token.Kind.mem_reservedWords_of_ofWord rfl special)
    rw [fixed] at known
    exact (eq_of_beq known).symm
  | number start digits => cases fixed
  | @mark kind first others listed =>
    have known := spelling?_patterns _ listed
    dsimp only at known
    rw [fixed] at known
    exact (eq_of_beq known).symm

/-- Where a kind has one spelling only, the token of this kind has it. -/
theorem Token.outline_of_spelling {token : Token} {kind : Token.Kind} {text : String}
    (spelled : token.Spelled) (same : token.kind = kind) (fixed : kind.spelling? = some text) :
    token.outline = ⟨kind, text, .unknown⟩ := by
  subst same
  rw [outline, ← spelled.eq_spelling fixed, String.ofList_toList]

/-- A truth value has the text that its canonical form shows. -/
theorem Token.outline_of_truth {token : Token} {value : Bool} (spelled : token.Spelled)
    (kind : token.kind = if value then .trueKeyword else .falseKeyword) :
    token.outline = ⟨if value then .trueKeyword else .falseKeyword,
      if value then "true" else "false", .unknown⟩ := by
  cases value with
  | true => exact outline_of_spelling spelled kind rfl
  | false => exact outline_of_spelling spelled kind rfl

/-- A text is read again as something if the tokens that are cut out of it are that in any places.
The condition is on the text behind it. -/
def Rereads (behind : List Char → Prop) (text : String) (result : List Token → Prop) : Prop :=
  ∃ marks, (∀ rest, behind rest → outlines (text.toList ++ rest) = marks ++ outlines rest) ∧
    ∀ tokens : List Token, tokens.map Token.outline = marks → result tokens

/-- There is one token, and it has the given outline. -/
def Token.Alone (mark : Token) (tokens : List Token) : Prop :=
  ∃ token : Token, tokens = [token] ∧ token.outline = mark

/-- Any text may come behind. -/
def Anything (_ : List Char) : Prop :=
  True

/-- A sign of equality must not come behind a mark that has a longer form. -/
def NoSign (rest : List Char) : Prop :=
  ∀ c ∈ rest.head?, c ≠ '='

theorem Lexeme.Apart.noSign {rest : List Char} (apart : Apart rest) : NoSign rest :=
  fun c here => (apart c here).2

theorem NoSign.append {text rest : List Char} (first : NoSign text) (second : NoSign rest) :
    NoSign (text ++ rest) := by
  cases text with
  | nil => exact second
  | cons c text => exact first

namespace Rereads

variable {behind behindNext : List Char → Prop} {text next : String}
  {result other : List Token → Prop}

theorem imp (reads : Rereads behind text result) (weaken : ∀ tokens, result tokens → other tokens) :
    Rereads behind text other := by
  obtain ⟨marks, cuts, all⟩ := reads
  exact ⟨marks, cuts, fun tokens same => weaken tokens (all tokens same)⟩

theorem mono (reads : Rereads behind text result) (stronger : ∀ rest, behindNext rest → behind rest) :
    Rereads behindNext text result := by
  obtain ⟨marks, cuts, all⟩ := reads
  exact ⟨marks, fun rest apart => cuts rest (stronger rest apart), all⟩

theorem before (reads : Rereads Anything text result) : Rereads behind text result :=
  reads.mono fun _ _ => trivial

/-- Two texts are read one after the other if the first ends where the second begins. -/
theorem append (first : Rereads behind text result) (second : Rereads behindNext next other)
    (apart : ∀ rest, behindNext rest → behind (next.toList ++ rest)) :
    Rereads behindNext (text ++ next) fun tokens =>
      ∃ front back, tokens = front ++ back ∧ result front ∧ other back := by
  obtain ⟨marks, cuts, all⟩ := first
  obtain ⟨otherMarks, otherCuts, otherAll⟩ := second
  refine ⟨marks ++ otherMarks, ?_, ?_⟩
  · intro rest allowed
    rw [String.toList_append, List.append_assoc, cuts _ (apart rest allowed),
      otherCuts rest allowed, List.append_assoc]
  · intro tokens same
    obtain ⟨front, back, rfl, here, there⟩ := List.map_eq_append_iff.1 same
    exact ⟨front, back, rfl, all front here, otherAll back there⟩

/-- A text of one token is read again as one token. -/
theorem single {mark : Token}
    (cuts : ∀ rest, behind rest → outlines (text.toList ++ rest) = mark :: outlines rest) :
    Rereads behind text (Token.Alone mark) :=
  ⟨[mark], cuts, fun _ same => List.map_eq_singleton_iff.1 same⟩

theorem nothing (cuts : ∀ rest, behind rest → outlines (text.toList ++ rest) = outlines rest) :
    Rereads behind text fun tokens => tokens = [] :=
  ⟨[], cuts, fun _ same => List.map_eq_nil_iff.1 same⟩

theorem spelled {token : Token} (spelled : token.Spelled) :
    Rereads Apart token.text (Token.Alone token.outline) := by
  apply single
  intro rest apart
  rw [outlines_append spelled apart, String.ofList_toList]
  rfl

/-- Only a sign of equality can glue to an operator. -/
theorem operator {token : Token} (spelled : token.Spelled)
    (operation : token.kind = .not ∨ token.kind = .dash) :
    Rereads NoSign token.text (Token.Alone token.outline) := by
  have mark : token.kind ≠ .identifier ∧ token.kind.isKeyword = false ∧ token.kind ≠ .integer := by
    rcases operation with kind | kind <;> rw [kind] <;> decide
  obtain ⟨first, others, shape, listed⟩ := spelled.mark_of_kind mark.1 mark.2.1 mark.2.2
  apply single
  intro rest noSign
  rw [shape, outlines_append_mark listed noSign, ← shape, String.ofList_toList]
  rfl

end Rereads

namespace Rereads

variable {text : String} {result : List Token → Prop}

/-- The fixed parts of the canonical form are marks, spaces and three words. -/
theorem plain {kind : Token.Kind} (first : Char) (text : String) (shape : text.toList = [first])
    (listed : .mark kind first [] ∈ patterns) (plain : kind ∉ [.not, .assignment]) :
    Rereads Anything text (Token.Alone ⟨kind, text, .unknown⟩) := by
  apply single
  intro rest allowed
  rw [shape, List.singleton_append, outlines_plain rest listed plain, ← shape, String.ofList_toList]

theorem openParen : Rereads Anything "(" (Token.Alone ⟨.openParen, "(", .unknown⟩) :=
  plain '(' "(" rfl (by simp [patterns]) (by decide)

theorem closeParen : Rereads Anything ")" (Token.Alone ⟨.closeParen, ")", .unknown⟩) :=
  plain ')' ")" rfl (by simp [patterns]) (by decide)

theorem closeCurly : Rereads Anything "\x7d" (Token.Alone ⟨.closeCurly, "\x7d", .unknown⟩) :=
  plain '\x7d' "\x7d" rfl (by simp [patterns]) (by decide)

theorem semicolon : Rereads Anything ";" (Token.Alone ⟨.semicolon, ";", .unknown⟩) :=
  plain ';' ";" rfl (by simp [patterns]) (by decide)

theorem space : Rereads Anything " " fun tokens => tokens = [] :=
  nothing fun rest _ => outlines_blank rest rfl

/-- A space ends a text without a token of its own. -/
theorem thenSpace (reads : Rereads Apart text result) : Rereads Anything (text ++ " ") result := by
  have spaced := reads.append space fun rest _ => apart_cons rest rfl (by decide)
  apply spaced.imp
  intro tokens read
  obtain ⟨front, _, rfl, holds, rfl⟩ := read
  rwa [List.append_nil]

theorem empty : Rereads Anything "" fun tokens => tokens = [] :=
  nothing fun _ _ => rfl

theorem spacedOpenParen : Rereads Anything " (" (Token.Alone ⟨.openParen, "(", .unknown⟩) := by
  apply single
  intro rest allowed
  show outlines (' ' :: '(' :: rest) = _
  rw [outlines_blank _ rfl]
  exact outlines_plain rest (by simp [patterns]) (by decide)

theorem closeParenSpaced : Rereads Anything ") " (Token.Alone ⟨.closeParen, ")", .unknown⟩) :=
  thenSpace closeParen.before

theorem openCurlySpaced : Rereads Anything "\x7b " (Token.Alone ⟨.openCurly, "\x7b", .unknown⟩) :=
  thenSpace (plain '\x7b' "\x7b" rfl (by simp [patterns]) (by decide)).before

theorem commaSpaced : Rereads Anything ", " (Token.Alone ⟨.comma, ",", .unknown⟩) :=
  thenSpace (plain ',' "," rfl (by simp [patterns]) (by decide)).before

theorem spacedAssignment : Rereads Anything " = " (Token.Alone ⟨.assignment, "=", .unknown⟩) := by
  apply single
  intro rest allowed
  have listed : .mark .assignment '=' [] ∈ patterns := by simp [patterns]
  have noSign : ∀ c ∈ (' ' :: rest).head?, c ≠ '=' := by simp
  show outlines (' ' :: (['='] ++ ' ' :: rest)) = _
  rw [outlines_blank _ rfl, outlines_append_mark listed noSign, outlines_blank _ rfl]

theorem word {kind : Token.Kind} (first : Char) (others : List Char) (text : String)
    (shape : text.toList = first :: others) (start : isWordStart first = true)
    (parts : others.all isWordPart = true) (same : Token.Kind.ofWord text = kind) :
    Rereads Apart text (Token.Alone ⟨kind, text, .unknown⟩) := by
  have spells : Spells (Token.Kind.ofWord (String.ofList (first :: others))) (first :: others) :=
    .word start (List.all_eq_true.mp parts)
  rw [← shape, String.ofList_toList, same] at spells
  apply single
  intro rest apart
  rw [outlines_append spells apart, String.ofList_toList]

theorem spacedElse : Rereads Anything " else " (Token.Alone ⟨.elseKeyword, "else", .unknown⟩) := by
  have read := word 'e' ['l', 's', 'e'] "else" rfl rfl rfl rfl
  have reads := (space.append read fun _ _ => trivial).thenSpace
  apply reads.imp
  intro tokens found
  obtain ⟨_, _, rfl, rfl, token, rfl, same⟩ := found
  exact ⟨token, rfl, same⟩

theorem truth (value : Bool) : Rereads Apart (if value then "true" else "false") (Token.Alone
    ⟨if value then .trueKeyword else .falseKeyword, if value then "true" else "false",
      .unknown⟩) := by
  cases value
  · exact word 'f' ['a', 'l', 's', 'e'] "false" rfl rfl rfl rfl
  · exact word 't' ['r', 'u', 'e'] "true" rfl rfl rfl rfl

end Rereads

end ScriptFrontend
