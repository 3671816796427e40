/-
This file reads decimal integers of 64 bits.
-/

namespace ScriptFrontend.Text

/-- The value of a text of decimal digits. -/
def digitsValue (digits : List Char) : Nat :=
  digits.foldl (fun value digit => 10 * value + (digit.toNat - '0'.toNat)) 0

/-- A value fits when it has a signed word of 64 bits. -/
def int64? (value : Int) : Option Int64 :=
  if fits : Int64.minValue.toInt ≤ value ∧ value ≤ Int64.maxValue.toInt then
    some (Int64.ofIntLE value fits.1 fits.2)
  else none

/-- An unsigned numeral is a nonempty text of digits. -/
def magnitude? (digits : List Char) : Option Nat :=
  if !digits.isEmpty && digits.all Char.isDigit then some (digitsValue digits) else none

/-- A numeral is an unsigned numeral behind at most one sign. -/
def numeral? : List Char → Option Int
  | '-' :: digits => (magnitude? digits).map fun magnitude => -(magnitude : Int)
  | '+' :: digits => (magnitude? digits).map fun magnitude => (magnitude : Int)
  | digits => (magnitude? digits).map fun magnitude => (magnitude : Int)

/-- The integer that a text denotes, when it denotes one that fits. -/
def readInteger? (text : String) : Option Int64 :=
  (numeral? text.toList).bind int64?

theorem toInt_of_int64? {value : Int} {word : Int64} (fits : int64? value = some word) :
    word.toInt = value := by
  unfold int64? at fits
  split at fits
  · next range =>
    obtain rfl := Option.some.inj fits
    exact Int64.toInt_ofIntLE
  · simp at fits

example : readInteger? "9223372036854775807" = some Int64.maxValue := by decide +kernel

example : readInteger? "9223372036854775808" = none := by decide +kernel

example : readInteger? "-9223372036854775808" = some Int64.minValue := by decide +kernel

end ScriptFrontend.Text
