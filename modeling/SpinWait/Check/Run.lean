import SpinWait.Fault.Acceptance
import SpinWait.Trace.Note

namespace SpinWait

/-- A check that has run: the notes it took, and its result or what stopped it. Notes taken before a
stop are kept. -/
structure Run (α : Type) where
  notes : List Note
  outcome : Except Stop α

namespace Run

def done {α : Type} (result : α) : Run α := ⟨[], .ok result⟩

def note (note : Note) : Run Unit := ⟨[note], .ok ()⟩

def stopped {α : Type} (stop : Stop) : Run α := ⟨[], .error stop⟩

/-- Goes on with a result that took no notes. -/
def require {α : Type} (outcome : Except Stop α) : Run α := ⟨[], outcome⟩

def fail {α : Type} (fault : Fault) : Run α := require fault.raise

def andThen {α β : Type} (run : Run α) (next : α → Run β) : Run β :=
  match run.outcome with
  | .error stop => ⟨run.notes, .error stop⟩
  | .ok result => ⟨run.notes ++ (next result).notes, (next result).outcome⟩

instance : Monad Run where
  pure := done
  bind := andThen

/-- Records notes in order, up to the first that cannot be recorded. -/
def recordNotes : Trace → List Note → Except TraceError Unit × Trace
  | trace, [] => (.ok (), trace)
  | trace, note :: others =>
    match trace.record (.text note.kind) (.mapping note.data) with
    | (.ok _, after) => recordNotes after others
    | (.error error, after) => (.error error, after)

/-- The outcome of a run whose notes go to a trace. A note that cannot be recorded stops the run
there. -/
def recorded {α : Type} (run : Run α) (trace : Trace) : Except Stop α × Trace :=
  match recordNotes trace run.notes with
  | (.ok (), after) => (run.outcome, after)
  | (.error _, after) => (.error (.refused .oversized), after)

end Run

end SpinWait
