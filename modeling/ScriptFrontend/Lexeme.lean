/-
This file cuts a script into lexemes and keeps those that are tokens.
-/

import ScriptFrontend.Text.Blank
import ScriptFrontend.Text.Bytes
import ScriptFrontend.Token

namespace ScriptFrontend

open Text

/-- The form of a lexeme is the rule by which its characters belong together. -/
inductive Lexeme.Form where
  | word
  | number
  | blank
  | mark (kind : Token.Kind)
  | illegal
  deriving DecidableEq

/-- A lexeme is a piece of a script that starts at the given byte. -/
structure Lexeme where
  form : Lexeme.Form
  text : List Char
  start : Nat
  deriving DecidableEq

namespace Lexeme

def isWordStart (c : Char) : Bool :=
  c.isAlpha || c == '_'

def isWordPart (c : Char) : Bool :=
  c.isAlphanum || c == '_'

/-- A pattern accepts a run of characters of one class or one fixed spelling. -/
inductive Pattern where
  | word
  | number
  | blank
  | mark (kind : Token.Kind) (first : Char) (others : List Char)

/-- The longest text that a pattern accepts begins with the first character, and the answer counts
the characters of that text after the first. -/
def Pattern.extent? (first : Char) (rest : List Char) : Pattern → Option Nat
  | .word => if isWordStart first then some (rest.takeWhile isWordPart).length else none
  | .number => if first.isDigit then some (rest.takeWhile Char.isDigit).length else none
  | .blank => if isBlank first then some (rest.takeWhile isBlank).length else none
  | .mark _ initial others =>
    if first = initial ∧ others.isPrefixOf rest then some others.length else none

def Pattern.form : Pattern → Form
  | .word => .word
  | .number => .number
  | .blank => .blank
  | .mark kind _ _ => .mark kind

/-- The patterns are tried in this order, so the marks of two characters come before their first
characters. -/
def patterns : List Pattern :=
  [.word, .number, .blank,
    .mark .openCurly '{' [], .mark .closeCurly '}' [],
    .mark .openParen '(' [], .mark .closeParen ')' [],
    .mark .equals '=' ['='], .mark .notEquals '!' ['='],
    .mark .not '!' [], .mark .assignment '=' [],
    .mark .less '<' [], .mark .greater '>' [],
    .mark .semicolon ';' [], .mark .comma ',' [],
    .mark .plus '+' [], .mark .dash '-' [], .mark .slash '/' [], .mark .star '*' []]

/-- The first pattern that accepts a text decides, and a character that none accepts is illegal. -/
def classify (first : Char) (rest : List Char) : Form × Nat :=
  let found := patterns.findSome? fun pattern =>
    (pattern.extent? first rest).map fun extent => (pattern.form, extent)
  found.getD (.illegal, 0)

/-- The scan takes one lexeme at a time from the front of the text. -/
def scanFrom (start : Nat) : List Char → List Lexeme
  | [] => []
  | first :: rest =>
    let (form, extent) := classify first rest
    let text := first :: rest.take extent
    ⟨form, text, start⟩ :: scanFrom (start + byteLength text) (rest.drop extent)
  termination_by text => text.length
  decreasing_by simp only [List.length_cons, List.length_drop]; omega

def scan (source : String) : List Lexeme :=
  scanFrom 0 source.toList

/-- Every lexeme but a blank is a token of some kind. -/
def kind? (lexeme : Lexeme) : Option Token.Kind :=
  match lexeme.form with
  | .word => some (Token.Kind.ofWord (String.ofList lexeme.text))
  | .number => some .integer
  | .blank => none
  | .mark kind => some kind
  | .illegal => some .illegal

def stop (lexeme : Lexeme) : Nat :=
  lexeme.start + byteLength lexeme.text

def token? (file : String) (lexeme : Lexeme) : Option Token :=
  lexeme.kind?.map fun kind =>
    ⟨kind, String.ofList lexeme.text, Span.ofBytes lexeme.start lexeme.stop file⟩

/-- The lexemes make up the text. -/
theorem flatMap_text_scanFrom (start : Nat) (text : List Char) :
    (scanFrom start text).flatMap Lexeme.text = text := by
  fun_induction scanFrom start text with
  | case1 => rfl
  | case2 start first rest form extent classified text ih =>
    rw [List.flatMap_cons, ih]
    simp [text]

end Lexeme

/-- The tokens of a script end with the end of the input. -/
def tokenize (source file : String) : List Token :=
  (Lexeme.scan source).filterMap (Lexeme.token? file) ++
    [Token.endAt (Position.ofByte (byteLength source.toList) file)]

end ScriptFrontend
