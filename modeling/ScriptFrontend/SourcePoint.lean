/-
This file walks through a source by numbers of bytes.
-/

import ScriptFrontend.Text.Bytes
import ScriptFrontend.Position

namespace ScriptFrontend

open Text

/-- A point stands at some byte of a source, inside it or past its end. -/
structure SourcePoint where
  source : String
  file : String
  byte : UInt64

namespace SourcePoint

def ofSource (source file : String) : SourcePoint :=
  ⟨source, file, 0⟩

/-- The point moves forward without regard to the source. -/
def advance (point : SourcePoint) (count : UInt64) : SourcePoint :=
  { point with byte := point.byte + count }

def atEnd (point : SourcePoint) : Bool :=
  byteLength point.source.toList ≤ point.byte.toNat

def position (point : SourcePoint) : Position :=
  Position.ofByte point.byte.toNat point.file

/-- The span of the next bytes starts at the position of the point. -/
def nextSpan (point : SourcePoint) (count : UInt64) : Span :=
  ⟨point.position, (point.advance count).position⟩

/-- The unread text exists only when the point stands between two characters. -/
def unread? (point : SourcePoint) : Option String :=
  (dropBytes? point.byte.toNat point.source.toList).map String.ofList

end SourcePoint

end ScriptFrontend
