import SpinWait.Value.Notation
import SpinWait.Value.Agreement

namespace SpinWait

/-- Why an operation cannot state its own result. -/
inductive Refusal
  /-- A rule on the arguments is broken, in words. -/
  | because (message : Text)
  /-- An argument is of a kind for which the operation makes no sense. -/
  | wrongKind
  /-- An argument lacks the part that the operation needs of it. -/
  | missingPart
  /-- A number has more digits than are read or written. -/
  | oversized
  /-- A path holds a character that no path can hold. -/
  | invalidPath

/-- The kinds of fault. Some only group others. -/
inductive FaultKind
  | unspecified
  | logStructure
  | markerNotFound
  | duplicateMarker
  | malformedHex
  | contract
  | invalidDelay
  | invalidCount
  | unknownHint
  | mismatch
  | countMismatch
  | idiomMismatch
deriving DecidableEq, Repr

namespace FaultKind

def name : FaultKind → Text
  | unspecified => "SpinCheckError".toList
  | logStructure => "LogStructureError".toList
  | markerNotFound => "MarkerNotFoundError".toList
  | duplicateMarker => "DuplicateMarkerError".toList
  | malformedHex => "MalformedHexError".toList
  | contract => "ContractViolationError".toList
  | invalidDelay => "InvalidDelayError".toList
  | invalidCount => "InvalidCountError".toList
  | unknownHint => "UnknownInstructionError".toList
  | mismatch => "PatternMismatchError".toList
  | countMismatch => "InstructionCountMismatchError".toList
  | idiomMismatch => "IdiomMismatchError".toList

def all : List FaultKind := [unspecified, logStructure, markerNotFound, duplicateMarker,
  malformedHex, contract, invalidDelay, invalidCount, unknownHint, mismatch, countMismatch,
  idiomMismatch]

def ofName? (name : Text) : Option FaultKind := all.find? fun kind => kind.name = name

/-- The kind and the groups it belongs to, the narrowest first. -/
def lineage : FaultKind → List FaultKind
  | unspecified => [unspecified]
  | logStructure => [logStructure, unspecified]
  | markerNotFound => [markerNotFound, logStructure, unspecified]
  | duplicateMarker => [duplicateMarker, logStructure, unspecified]
  | malformedHex => [malformedHex, unspecified]
  | contract => [contract, unspecified]
  | invalidDelay => [invalidDelay, contract, unspecified]
  | invalidCount => [invalidCount, contract, unspecified]
  | unknownHint => [unknownHint, contract, unspecified]
  | mismatch => [mismatch, unspecified]
  | countMismatch => [countMismatch, mismatch, unspecified]
  | idiomMismatch => [idiomMismatch, mismatch, unspecified]

end FaultKind

/-- The kinds of fault that come with a message of their own. -/
inductive PlainKind
  | unspecified
  | logStructure
  | contract
  | mismatch
deriving DecidableEq, Repr

def PlainKind.kind : PlainKind → FaultKind
  | unspecified => .unspecified
  | logStructure => .logStructure
  | contract => .contract
  | mismatch => .mismatch

/-- What a check found wrong. The arguments are values, because a fault may quote whatever a caller
handed over. -/
inductive Fault
  | plain (kind : PlainKind) (message subject value : Value)
  | markerNotFound (name text start : Value)
  | duplicateMarker (name text occurrences : Value)
  | malformedHex (token reason : Value)
  | invalidDelay (delay upper : Value)
  | invalidCount (count : Value)
  | unknownHint (name : Value)
  | countMismatch (instruction found expected : Value)
  | idiomMismatch (slot expected actual : Value)

namespace Fault

def kind : Fault → FaultKind
  | plain kind _ _ _ => kind.kind
  | markerNotFound .. => .markerNotFound
  | duplicateMarker .. => .duplicateMarker
  | malformedHex .. => .malformedHex
  | invalidDelay .. => .invalidDelay
  | invalidCount .. => .invalidCount
  | unknownHint .. => .unknownHint
  | countMismatch .. => .countMismatch
  | idiomMismatch .. => .idiomMismatch

/-- The characters of a text or a hint; other values have none. -/
def characters (value : Value) : Text := value.text?.getD []

/-- What follows the kind in the message. -/
def details : Fault → Text
  | plain .. => []
  | markerNotFound name text start =>
    characters name ++ " marker ".toList ++ text.written ++
      " not found at or after line ".toList ++ start.shown ++ ".".toList
  | duplicateMarker name text occurrences =>
    characters name ++ " marker ".toList ++ text.written ++
      " must occur exactly once; found ".toList ++ occurrences.shown ++ " occurrences.".toList
  | malformedHex token reason =>
    "token ".toList ++ token.written ++ " is not a hex instruction word: ".toList ++
      characters reason ++ ".".toList
  | invalidDelay delay upper =>
    "delay must be in [0, ".toList ++ upper.shown ++ "]: got ".toList ++ delay.written ++ ".".toList
  | invalidCount count =>
    "count must be a non-negative integer: got ".toList ++ count.written ++ ".".toList
  | unknownHint name =>
    "unknown spin wait instruction ".toList ++ name.written ++
      "; expected one of 'nop', 'isb', 'yield'.".toList
  | countMismatch instruction found expected =>
    "wrong instruction ".toList ++ instruction.written ++ " count ".toList ++ found.shown ++
      "; expecting ".toList ++ expected.shown ++ ".".toList
  | idiomMismatch slot expected actual =>
    "slot ".toList ++ slot.shown ++ " expected ".toList ++ characters expected ++
      " but found ".toList ++ actual.written ++ ".".toList

/-- The message of a plain fault is the one it was given; all others begin with their kind. -/
def message : Fault → Value
  | plain _ message _ _ => message
  | fault => .text (fault.kind.name ++ ": ".toList ++ fault.details)

/-- What the fault is about. -/
def subject : Fault → Value
  | plain _ _ subject _ => subject
  | markerNotFound name _ _ => name
  | duplicateMarker name _ _ => name
  | malformedHex .. => .text "hex_token".toList
  | invalidDelay .. => .text "delay".toList
  | invalidCount .. => .text "count".toList
  | unknownHint .. => .text "instruction".toList
  | countMismatch instruction _ _ => instruction
  | idiomMismatch _ expected _ => expected

/-- The offending value. -/
def value : Fault → Value
  | plain _ _ _ value => value
  | markerNotFound _ text _ => text
  | duplicateMarker _ _ occurrences => occurrences
  | malformedHex token _ => token
  | invalidDelay delay _ => delay
  | invalidCount count => count
  | unknownHint name => name
  | countMismatch _ found _ => found
  | idiomMismatch _ _ actual => actual

def attributes : Fault → List (String × Value)
  | plain .. => []
  | markerNotFound name text start =>
    [("marker_name", name), ("marker_text", text), ("start_index", start)]
  | duplicateMarker name text occurrences =>
    [("marker_name", name), ("marker_text", text), ("occurrences", occurrences)]
  | malformedHex token reason => [("token", token), ("reason", reason)]
  | invalidDelay delay _ => [("delay", delay)]
  | invalidCount count => [("count", count)]
  | unknownHint name => [("kind", name)]
  | countMismatch instruction found expected =>
    [("instruction", instruction), ("found", found), ("expected", expected)]
  | idiomMismatch slot expected actual =>
    [("slot_index", slot), ("expected_kind", expected), ("actual_text", actual)]

/-- The fault with its subject, value and message, each written as a value. -/
def written (fault : Fault) : Text :=
  fault.kind.name ++ "(subject=".toList ++ fault.subject.written ++ ", value=".toList ++
    fault.value.written ++ ", message=".toList ++ fault.message.written ++ ")".toList

/-- Faults of one kind agree if subject, value and message do. -/
def agrees (left right : Fault) : Bool :=
  left.kind == right.kind && left.subject.agrees right.subject && left.value.agrees right.value &&
    left.message.agrees right.message

end Fault

end SpinWait
