import SpinWait.Fault.Basic

namespace SpinWait

namespace Fault

/-! Which arguments make a fault: those that give it a message and a subject. -/

def isNonEmptyText (value : Value) : Bool := value.text?.isSome && !value.isEmpty

/-- The name of a marker: an empty one is refused in words, and one that is no text has no place in
a message. -/
def checkName (kind : FaultKind) (name : Value) : Except Refusal Unit :=
  if name.isEmpty then
    .error (.because (kind.name ++ ": marker_name must be a non-empty string".toList))
  else if name.text?.isNone then .error .wrongKind
  else .ok ()

def checkNonEmpty (kind : FaultKind) (part : Text) (value : Value) : Except Refusal Unit :=
  if isNonEmptyText value then .ok ()
  else .error (.because (kind.name ++ ": ".toList ++ part ++ " must be a non-empty string".toList))

def checkWritable (values : List Value) : Except Refusal Unit :=
  if Value.areWritable values then .ok () else .error .oversized

def checkSubject (subject : Value) : Except Refusal Unit :=
  if subject.text?.isSome then .ok ()
  else .error (.because "SpinCheckError: subject must be a string".toList)

/-- The first broken rule, if any. -/
def check : Fault → Except Refusal Unit
  | plain _ message subject _ => do
    checkNonEmpty .unspecified "message".toList message
    checkSubject subject
  | markerNotFound name text start => do
    checkName .markerNotFound name
    checkWritable [text, start]
  | duplicateMarker name text occurrences => do
    checkName .duplicateMarker name
    checkWritable [text, occurrences]
  | malformedHex token reason => do
    checkNonEmpty .malformedHex "reason".toList reason
    checkWritable [token]
  | invalidDelay delay upper => checkWritable [upper, delay]
  | invalidCount count => checkWritable [count]
  | unknownHint name => checkWritable [name]
  | countMismatch instruction found expected => do
    checkWritable [instruction, found, expected]
    checkSubject instruction
  | idiomMismatch slot expected actual => do
    checkNonEmpty .idiomMismatch "expected_kind".toList expected
    checkWritable [slot, actual]

def accepted (fault : Fault) : Except Refusal Fault :=
  match fault.check with
  | .ok () => .ok fault
  | .error refusal => .error refusal

def plainOf (kind : PlainKind) : List Value → Except Refusal Fault
  | [message] => (plain kind message (.text []) .absent).accepted
  | [message, subject] => (plain kind message subject .absent).accepted
  | [message, subject, value] => (plain kind message subject value).accepted
  | _ => .error .wrongKind

/-- The fault of a kind with these arguments in order. The subject and the value of a plain fault,
the start of a search and the upper bound of a delay may be left out. -/
def ofArguments : FaultKind → List Value → Except Refusal Fault
  | .unspecified, arguments => plainOf .unspecified arguments
  | .logStructure, arguments => plainOf .logStructure arguments
  | .contract, arguments => plainOf .contract arguments
  | .mismatch, arguments => plainOf .mismatch arguments
  | .markerNotFound, [name, text] => (markerNotFound name text (.number 0)).accepted
  | .markerNotFound, [name, text, start] => (markerNotFound name text start).accepted
  | .duplicateMarker, [name, text, occurrences] => (duplicateMarker name text occurrences).accepted
  | .malformedHex, [token, reason] => (malformedHex token reason).accepted
  | .invalidDelay, [delay] => (invalidDelay delay (.number 4096)).accepted
  | .invalidDelay, [delay, upper] => (invalidDelay delay upper).accepted
  | .invalidCount, [count] => (invalidCount count).accepted
  | .unknownHint, [name] => (unknownHint name).accepted
  | .countMismatch, [instruction, found, expected] =>
    (countMismatch instruction found expected).accepted
  | .idiomMismatch, [slot, expected, actual] => (idiomMismatch slot expected actual).accepted
  | _, _ => .error .wrongKind

end Fault

/-- Why a check ends without a result. -/
inductive Stop
  /-- A fault, and the fault that it was found through. -/
  | fault (fault : Fault) (cause : Option Fault)
  | refused (refusal : Refusal)

def Fault.stop (fault : Fault) (cause : Option Fault) : Stop :=
  match fault.accepted with
  | .ok fault => .fault fault cause
  | .error refusal => .refused refusal

def Fault.raise {α : Type} (fault : Fault) : Except Stop α := .error (fault.stop none)

end SpinWait
