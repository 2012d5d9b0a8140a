import SpinWait.Check.Counter

namespace SpinWait.Check

open Log

/-! Checking a log against what was asked for. -/

/-- A check that passed. -/
structure Passed where
  expectation : Expectation
  layout : Layout
  detail : Text

def detail : Expectation → Text
  | .repeated hint count => "found ".toList ++ Numeral.decimal count ++ " x ".toList ++ hint.name
  | .counter delay _ _ => "counter idiom with delay ".toList ++ Numeral.decimal delay

def layoutOf (lines : List Text) (markers : Markers) : Expectation → Run Layout
  | .repeated hint count => repeated lines markers hint count
  | .counter delay spin _ => counter lines markers delay spin

/-- The layout of a log that meets the expectation. -/
def meets (lines : List Text) (markers : Markers) (expectation : Expectation) : Run Passed := do
  let layout ← layoutOf lines markers expectation
  Run.note (.verdict layout (detail expectation))
  pure ⟨expectation, layout, detail expectation⟩

/-- A value in place of an expectation is a fault of the caller. -/
def notExpectation (value : Value) : Fault :=
  .plain .contract
    (.text ("ContractViolationError: pattern must be Repeated or FixedIdiom: got ".toList ++
      value.written ++ ".".toList))
    (.text "pattern".toList) value

def verify (lines : List Text) (markers : Markers) : Request → Run Passed
  | .expectation expectation => meets lines markers expectation
  | .other value =>
    if value.isWritable then Run.fail (notExpectation value)
    else Run.stopped (.refused .oversized)

/-- The count alone. That a request has no count is noticed once the instructions are collected. -/
def repeatedOnly (lines : List Text) (markers : Markers) : Request → Run Layout
  | .expectation (.repeated hint count) => repeated lines markers hint count
  | _ => do
    let _ ← approach lines markers
    Run.stopped (.refused .missingPart)

/-- The counter loop alone. That a request has no delay is noticed once the first instruction of the
loop is found. -/
def counterOnly (lines : List Text) (markers : Markers) : Request → Run Layout
  | .expectation (.counter delay spin _) => counter lines markers delay spin
  | _ => do
    let _ ← candidate lines markers
    Run.stopped (.refused .missingPart)

end SpinWait.Check
