/-
This file defines positions and spans in a named source.
-/

namespace ScriptFrontend

/-- A position is a byte offset of 32 bits in a source of some name. -/
structure Position where
  offset : UInt32
  file : String
  deriving DecidableEq

/-- A byte count keeps its low 32 bits when it becomes an offset. -/
def Position.ofByte (byte : Nat) (file : String) : Position :=
  ⟨UInt32.ofNat byte, file⟩

/-- The unknown position belongs to no source. -/
def Position.unknown : Position :=
  ⟨0, "<null>"⟩

/-- A source without a name of its own carries this one. -/
def defaultFile : String := "shell"

/-- A span runs from the first byte of a text to just after its last byte. -/
structure Span where
  start : Position
  stop : Position
  deriving DecidableEq

def Span.ofBytes (start stop : Nat) (file : String) : Span :=
  ⟨Position.ofByte start file, Position.ofByte stop file⟩

@[simp] theorem Position.ofByte_file (byte : Nat) (file : String) :
    (Position.ofByte byte file).file = file := rfl

/-- Below the limit of 32 bits an offset is the byte count itself. -/
theorem Position.ofByte_offset {byte : Nat} (file : String) (small : byte < UInt32.size) :
    (Position.ofByte byte file).offset.toNat = byte :=
  UInt32.toNat_ofNat_of_lt' small

end ScriptFrontend
