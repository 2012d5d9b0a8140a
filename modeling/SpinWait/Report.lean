import SpinWait.Check.Verify

namespace SpinWait

/-! What a run prints at its end, and its exit code. -/

def version : Text := "1.0.0".toList

/-- The ways in which a run fails. -/
inductive FailureType
  | instructionCountMismatch
  | idiomMismatch
  | markerNotFound
  | duplicateMarker
  | malformedHex
  | contractViolation
  | processExitMismatch
  | internalError
deriving DecidableEq, Repr

namespace FailureType

def all : List FailureType := [instructionCountMismatch, idiomMismatch, markerNotFound,
  duplicateMarker, malformedHex, contractViolation, processExitMismatch, internalError]

def name : FailureType → Text
  | instructionCountMismatch => "INSTRUCTION_COUNT_MISMATCH".toList
  | idiomMismatch => "IDIOM_MISMATCH".toList
  | markerNotFound => "MARKER_NOT_FOUND".toList
  | duplicateMarker => "DUPLICATE_MARKER".toList
  | malformedHex => "MALFORMED_HEX".toList
  | contractViolation => "CONTRACT_VIOLATION".toList
  | processExitMismatch => "PROCESS_EXIT_MISMATCH".toList
  | internalError => "HARNESS_INTERNAL_ERROR".toList

/-- 1: the instructions are not the expected ones. 2: the log lacks what the check depends on.
3: the caller asked for something impossible. 4: anything else. -/
def exitCode : FailureType → Nat
  | instructionCountMismatch => 1
  | idiomMismatch => 1
  | markerNotFound => 2
  | duplicateMarker => 2
  | malformedHex => 2
  | contractViolation => 3
  | processExitMismatch => 3
  | internalError => 4

/-- The exit code for a name; a name that is not registered counts as an internal error. -/
def exitCodeOfName (name : Text) : Nat :=
  match all.find? fun type => type.name = name with
  | some type => type.exitCode
  | none => internalError.exitCode

end FailureType

def FaultKind.failureType : FaultKind → FailureType
  | countMismatch => .instructionCountMismatch
  | idiomMismatch => .idiomMismatch
  | markerNotFound => .markerNotFound
  | duplicateMarker => .duplicateMarker
  | malformedHex => .malformedHex
  | contract | invalidDelay | invalidCount | unknownHint => .contractViolation
  | unspecified | logStructure | mismatch => .internalError

/-- The identifier of a run: its date, and random bytes in upper-case hexadecimal digits. -/
def runIdOf (year : Int) (month day : Nat) (random : List UInt8) : Text :=
  let digits := random.flatMap fun byte => Numeral.fixedHex 2 byte.toNat
  "RUN-".toList ++ (Numeral.signed year).padZeros 4 ++ (Numeral.decimal month).padZeros 2 ++
    (Numeral.decimal day).padZeros 2 ++ '-' :: digits.map Char.toUpper

/-- How an error of the system on a path is reported. -/
def systemReport (number : Nat) (description path : Text) : Text :=
  "[Errno ".toList ++ Numeral.decimal number ++ "] ".toList ++ description ++ ": ".toList ++
    path.quoted

/-- The run that a report is about. -/
structure RunInfo where
  runId : Text
  logPath : Text

/-- The summary of a failed run. -/
structure FailureRecord where
  failureType : Text
  exitCode : Nat
  subject : Text
  run : RunInfo
  version : Text
  detail : Text

namespace FailureRecord

def build (run : RunInfo) (failureType detail subject : Text) : FailureRecord :=
  ⟨failureType, FailureType.exitCodeOfName failureType, subject, run, SpinWait.version, detail⟩

def ofFault (run : RunInfo) (fault : Fault) : FailureRecord :=
  build run fault.kind.failureType.name fault.message.shown fault.subject.shown

def notApplicable : Text := "(not applicable)".toList

def summary (record : FailureRecord) : Text :=
  "SPINCHECK RESULT: FAIL\n".toList ++
    "Failure type:   ".toList ++ record.failureType ++ "\n".toList ++
    "Exit code:      ".toList ++ Numeral.decimal record.exitCode ++ "\n".toList ++
    "Subject:        ".toList ++
      (if record.subject.isEmpty then notApplicable else record.subject) ++ "\n".toList ++
    "Log:            ".toList ++ record.run.logPath ++ "\n".toList ++
    "Run ID:         ".toList ++ record.run.runId ++ "\n".toList ++
    "Detail:         ".toList ++ record.detail ++ "\n".toList

end FailureRecord

/-- The summary of a run that passed on a log of `lineCount` lines. -/
def Check.Passed.summary (passed : Check.Passed) (run : RunInfo) (lineCount : Nat) : Text :=
  "SPINCHECK RESULT: PASS\n".toList ++
    "Run ID:          ".toList ++ run.runId ++ "\n".toList ++
    "Harness version: ".toList ++ version ++ "\n".toList ++
    "Log:             ".toList ++ run.logPath ++ " (".toList ++ Numeral.decimal lineCount ++
      " lines)\n".toList ++
    "Format:          ".toList ++ passed.layout.name ++ "\n".toList ++
    "Detail:          ".toList ++ passed.detail ++ "\n".toList

end SpinWait
