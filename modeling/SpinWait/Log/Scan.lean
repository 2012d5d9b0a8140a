import SpinWait.Fault.Acceptance

namespace SpinWait.Log

/-! Searching the lines of a log for a marker. Every search is told where to begin, so that it can
be resumed behind the last hit. -/

/-- A line and its position in the log. -/
structure Hit where
  index : Nat
  line : Text
deriving DecidableEq, Repr

/-- The first line that mentions the marker; `index` is the position of the first line given. -/
def findAt (marker : Text) : Nat → List Text → Option Hit
  | _, [] => none
  | index, line :: others =>
    if line.mentions marker then some ⟨index, line⟩ else findAt marker (index + 1) others

/-- The first line at or after `start` that mentions the marker. -/
def findFrom (lines : List Text) (start : Nat) (marker : Text) : Option Hit :=
  findAt marker start (lines.drop start)

def countMentions (lines : List Text) (marker : Text) : Nat :=
  lines.countP (·.mentions marker)

/-- Like `findFrom`, but a miss is a fault. A negative start means the first line, though the fault
quotes it as it was given. -/
def requireFrom (lines : List Text) (start : Int) (marker name : Text) : Except Stop Hit :=
  match findFrom lines start.toNat marker with
  | some hit => .ok hit
  | none => (Fault.markerNotFound (.text name) (.text marker) (.number start)).raise

/-- No other line of the log mentions the marker. -/
def checkUnique (lines : List Text) (marker name : Text) : Except Stop Unit :=
  let occurrences := countMentions lines marker
  if occurrences > 1 then
    (Fault.duplicateMarker (.text name) (.text marker) (.number occurrences)).raise
  else .ok ()

/-- The only line that mentions the marker. -/
def requireUnique (lines : List Text) (marker name : Text) : Except Stop Hit := do
  let hit ← requireFrom lines 0 marker name
  checkUnique lines marker name
  .ok hit

end SpinWait.Log
