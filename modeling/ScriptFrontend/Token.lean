/-
This file defines the tokens of a script.
-/

import ScriptFrontend.Position

namespace ScriptFrontend

/-- The kind of a token decides where the grammar admits it. -/
inductive Token.Kind where
  | endOfInput
  | illegal
  | integer
  | identifier
  | openCurly
  | closeCurly
  | openParen
  | closeParen
  | assignment
  | equals
  | not
  | notEquals
  | less
  | greater
  | semicolon
  | comma
  | plus
  | dash
  | slash
  | star
  | letKeyword
  | returnKeyword
  | functionKeyword
  | ifKeyword
  | elseKeyword
  | trueKeyword
  | falseKeyword
  deriving DecidableEq

namespace Token.Kind

/-- Messages call a kind by its name. -/
def name : Token.Kind → String
  | endOfInput => "EOF"
  | illegal => "Illegal"
  | integer => "Integer"
  | identifier => "Identifier"
  | openCurly => "OpenCurly"
  | closeCurly => "CloseCurly"
  | openParen => "OpenParen"
  | closeParen => "CloseParen"
  | assignment => "Assignment"
  | equals => "Equals"
  | not => "Not"
  | notEquals => "NotEquals"
  | less => "Less"
  | greater => "Greater"
  | semicolon => "Semicolon"
  | comma => "Comma"
  | plus => "Plus"
  | dash => "Dash"
  | slash => "Slash"
  | star => "Star"
  | letKeyword => "Let"
  | returnKeyword => "Return"
  | functionKeyword => "Function"
  | ifKeyword => "If"
  | elseKeyword => "Else"
  | trueKeyword => "True"
  | falseKeyword => "False"

def all : List Token.Kind :=
  [endOfInput, illegal, integer, identifier, openCurly, closeCurly, openParen, closeParen,
    assignment, equals, not, notEquals, less, greater, semicolon, comma, plus, dash, slash, star,
    letKeyword, returnKeyword, functionKeyword, ifKeyword, elseKeyword, trueKeyword, falseKeyword]

theorem mem_all (kind : Token.Kind) : kind ∈ all := by
  cases kind <;> decide

/-- The kind that has the given name. -/
def named? (name : String) : Option Token.Kind :=
  all.find? fun kind => kind.name = name

theorem named?_name (kind : Token.Kind) : named? kind.name = some kind := by
  cases kind <;> decide +kernel

/-- A reserved word has a kind of its own, and two words begin a function. -/
def reservedWords : List (String × Token.Kind) :=
  [("let", letKeyword), ("return", returnKeyword), ("fn", functionKeyword),
    ("function", functionKeyword), ("if", ifKeyword), ("else", elseKeyword),
    ("true", trueKeyword), ("false", falseKeyword)]

def reserved? (word : String) : Option Token.Kind :=
  reservedWords.lookup word

/-- A word that is not reserved is an identifier. -/
def ofWord (word : String) : Token.Kind :=
  (reserved? word).getD identifier

/-- The text of such a token comes from the script and not from a fixed spelling. -/
def carriesText : Token.Kind → Bool
  | identifier | integer | illegal => true
  | _ => false

def isKeyword : Token.Kind → Bool
  | letKeyword | returnKeyword | functionKeyword | ifKeyword | elseKeyword | trueKeyword
  | falseKeyword => true
  | _ => false

/-- The reserved words are exactly the words of keyword kinds. -/
theorem isKeyword_of_reserved? {word : String} {kind : Token.Kind}
    (reserved : reserved? word = some kind) : kind.isKeyword = true := by
  have member : (word, kind) ∈ reservedWords := by
    obtain ⟨before, after, same, -⟩ := List.lookup_eq_some_iff.1 reserved
    simp [same]
  simp only [reservedWords, List.mem_cons, Prod.mk.injEq, List.not_mem_nil, or_false] at member
  rcases member with ⟨-, rfl⟩ | ⟨-, rfl⟩ | ⟨-, rfl⟩ | ⟨-, rfl⟩ | ⟨-, rfl⟩ | ⟨-, rfl⟩ | ⟨-, rfl⟩ |
    ⟨-, rfl⟩ <;> rfl

end Token.Kind

/-- A token is a piece of a script together with its kind and its place. -/
structure Token where
  kind : Token.Kind
  text : String
  span : Span
  deriving DecidableEq

/-- A message shows the text of a token only where its kind leaves the text open. -/
def Token.describe (token : Token) : String :=
  if token.kind.carriesText then token.kind.name ++ "(" ++ token.text ++ ")" else token.kind.name

/-- The end of the input is a token of its own, with no byte in its span. -/
def Token.endAt (position : Position) : Token :=
  ⟨.endOfInput, "EOF", ⟨position, position⟩⟩

@[simp] theorem Token.endAt_kind (position : Position) :
    (Token.endAt position).kind = .endOfInput := rfl

end ScriptFrontend
