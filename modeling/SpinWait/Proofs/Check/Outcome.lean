import SpinWait.Check.Run

namespace SpinWait.Run

/-! The outcome and the notes of a run that is put together from others. -/

variable {α β : Type} {run : Run α} {next : α → Run β}

@[simp] theorem outcome_pure (result : α) : (pure result : Run α).outcome = .ok result := rfl

@[simp] theorem outcome_note (note : Note) : (Run.note note).outcome = .ok () := rfl

@[simp] theorem outcome_require (outcome : Except Stop α) :
    (Run.require outcome).outcome = outcome := rfl

@[simp] theorem outcome_fail (fault : Fault) : (Run.fail fault : Run α).outcome = fault.raise := rfl

@[simp] theorem outcome_bind : (run >>= next).outcome =
    match run.outcome with
    | .error stop => .error stop
    | .ok result => (next result).outcome := by
  cases ended : run.outcome <;> simp [bind, andThen, ended]

theorem outcome_bind_of_ok {result : α} (done : run.outcome = .ok result) :
    (run >>= next).outcome = (next result).outcome := by
  rw [outcome_bind, done]

theorem outcome_bind_of_raise {fault : Fault} (failed : run.outcome = fault.raise) :
    (run >>= next).outcome = fault.raise := by
  rw [outcome_bind, failed]
  rfl

@[simp] theorem notes_pure (result : α) : (pure result : Run α).notes = [] := rfl

@[simp] theorem notes_note (note : Note) : (Run.note note).notes = [note] := rfl

@[simp] theorem notes_require (outcome : Except Stop α) : (Run.require outcome).notes = [] := rfl

@[simp] theorem notes_fail (fault : Fault) : (Run.fail fault : Run α).notes = [] := rfl

/-- Notes that were taken before a stop are kept, and none follows them. -/
@[simp] theorem notes_bind : (run >>= next).notes =
    match run.outcome with
    | .error _ => run.notes
    | .ok result => run.notes ++ (next result).notes := by
  cases ended : run.outcome <;> simp [bind, andThen, ended]

end SpinWait.Run
