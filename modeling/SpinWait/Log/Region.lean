import SpinWait.Log.Scan
import SpinWait.Log.Token
import SpinWait.Markers

namespace SpinWait.Log

/-! The lines of a compiled method. -/

/-- The position of the line that names the method, and the lines of its body. -/
structure Region where
  start : Nat
  body : List Text
deriving DecidableEq, Repr

/-- The normal form of the line mentions one of the end markers, in lower case. -/
def endsRegion (ends : List Text) (line : Text) : Bool :=
  (ends.map Text.lower).any (normalize line).mentions

/-- The body begins after the first line that names the holder class, and ends before the first line
that mentions an end marker. -/
def methodRegion (lines : List Text) (markers : Markers) : Except Stop Region := do
  let start ← requireFrom lines 0 markers.qualifiedName "method".toList
  .ok ⟨start.index,
    (lines.drop (start.index + 1)).takeWhile fun line => !endsRegion markers.regionEnd line⟩

end SpinWait.Log
