/-
This file writes texts between quotation marks so that every character can be seen.
-/

import ScriptFrontend.Text.Unprintable

namespace ScriptFrontend.Text

/-- A code point between braces stands for a character that has no form of its own. -/
def escapeNumber (c : Char) : List Char :=
  ['\\', 'u', '{'] ++ Nat.toDigits 16 c.toNat ++ ['}']

/-- The mark that ends the quotation is escaped inside it, and the other mark is not. -/
def escape (mark : Char) (c : Char) : List Char :=
  if c = '\x00' then ['\\', '0']
  else if c = '\t' then ['\\', 't']
  else if c = '\n' then ['\\', 'n']
  else if c = '\r' then ['\\', 'r']
  else if c = '\\' ∨ c = mark then ['\\', c]
  else if isUnprintable c then escapeNumber c
  else [c]

/-- A quotation escapes each character between two equal marks. -/
def quoteWith (mark : Char) (text : List Char) : String :=
  String.ofList (mark :: text.flatMap (escape mark) ++ [mark])

def quote (text : String) : String :=
  quoteWith '"' text.toList

def quoteChar (c : Char) : String :=
  quoteWith '\'' [c]

end ScriptFrontend.Text
