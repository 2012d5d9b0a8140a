import SpinWait.CommandLine.Setting
import SpinWait.Expectation
import SpinWait.Markers

namespace SpinWait.CommandLine

/-! The options of the command line. A long option may be cut short as long as one option remains
that begins so, and may carry its value behind `=`. If an option is given twice, the last one
counts. -/

structure Options where
  logPath : Setting Text
  instruction : Setting Text
  value : Option (Setting Text)
  exitCode : Setting Int
  expectedExitCode : Setting Int
  holder : Setting Text
  method : Setting Text
  signature : Setting Text
  verbose : Bool

inductive Switch
  | help
  | logPath
  | inst
  | value
  | exitCode
  | expectedExitCode
  | holder
  | method
  | signature
  | verbose
deriving DecidableEq, Repr

namespace Switch

/-- All spellings, in the order in which they are listed. -/
def spellings : List (Text × Switch) := [
  ("-h".toList, help), ("--help".toList, help), ("--log-path".toList, logPath),
  ("--inst".toList, inst), ("--value".toList, value), ("--exit-code".toList, exitCode),
  ("--expected-exit-code".toList, expectedExitCode), ("--holder".toList, holder),
  ("--method".toList, method), ("--signature".toList, signature),
  ("--verbose".toList, verbose)]

/-- How messages name an option: by all its spellings. -/
def title (switch : Switch) : Text :=
  "/".toList.intercalate ((spellings.filter fun entry => entry.2 = switch).map (·.1))

end Switch

/-- Why no options come out of the arguments: a mistake, in words, or a question for help. -/
inductive ParseStop
  | usage (message : Text)
  | help
deriving DecidableEq

/-- What an argument is. An option may carry a value in the same argument. -/
inductive Piece
  | plain (text : Text)
  | dashes
  | unknown (text : Text)
  | switch (switch : Switch) (attached : Option Text)
  /-- `-h` with more letters behind it, with or without `=` between them. -/
  | helpCluster (letters : Text)

/-- One last line feed is overlooked. -/
def withoutFinalNewline (text : Text) : Text :=
  match text.reverse with
  | '\n' :: rest => rest.reverse
  | _ => text

def areDigits (text : Text) : Bool := text.all fun c => (Text.digitValue? c).isSome

/-- A minus sign and a number, which may have a point. -/
def isNegativeNumber (text : Text) : Bool :=
  match withoutFinalNewline text with
  | '-' :: number =>
    let whole := number.takeWhile (· != '.')
    match number.dropWhile (· != '.') with
    | [] => !whole.isEmpty && areDigits whole
    | _ :: fraction => areDigits whole && !fraction.isEmpty && areDigits fraction
  | _ => false

/-- The value behind the first `=`. -/
def attachedValue (argument : Text) : Option Text :=
  match argument.dropWhile (· != '=') with
  | [] => none
  | _ :: value => some value

/-- The options that a long argument may be short for. -/
def candidates (argument : Text) : List (Text × Switch) :=
  Switch.spellings.filter fun entry => (argument.before '=').isPrefixOf entry.1

def ambiguous (argument : Text) (found : List (Text × Switch)) : Text :=
  "ambiguous option: ".toList ++ argument ++ " could match ".toList ++
    ", ".toList.intercalate (found.map (·.1))

/-- An argument that begins with a minus sign and is no option is plain if it is a number or holds a
blank. -/
def unlisted (argument : Text) : Piece :=
  if isNegativeNumber argument || argument.contains ' ' then .plain argument else .unknown argument

/-- An argument that begins with two minus signs. An option spelled out in full is meant even if it
begins another one. -/
def classifyLong (argument : Text) : Except ParseStop Piece :=
  match Switch.spellings.lookup (argument.before '=') with
  | some switch => .ok (.switch switch (attachedValue argument))
  | none =>
    match candidates argument with
    | [] => .ok (unlisted argument)
    | [entry] => .ok (.switch entry.2 (attachedValue argument))
    | found => .error (.usage (ambiguous argument found))

def classify (argument : Text) : Except ParseStop Piece :=
  match argument with
  | '-' :: '-' :: _ => classifyLong argument
  | ['-', 'h', '='] => .ok (.switch .help (some []))
  | '-' :: 'h' :: '=' :: letters => .ok (.helpCluster letters)
  | '-' :: 'h' :: letters => .ok (.helpCluster letters)
  | '-' :: _ :: _ => .ok (unlisted argument)
  | _ => .ok (.plain argument)

/-- All arguments, before any is acted on. After `--` every argument is plain. -/
def classifyAll : List Text → Except ParseStop (List Piece)
  | [] => .ok []
  | argument :: others =>
    if argument = "--".toList then .ok (.dashes :: others.map .plain)
    else do
      let piece ← classify argument
      let pieces ← classifyAll others
      .ok (piece :: pieces)

/-- What has been read so far, and the arguments that belong to no option. -/
structure Draft where
  logPath : Option (Setting Text)
  instruction : Option (Setting Text)
  value : Option (Setting Text)
  exitCode : Setting Int
  expectedExitCode : Setting Int
  holder : Setting Text
  method : Setting Text
  signature : Setting Text
  verbose : Bool
  extras : List Text

def Draft.initial : Draft where
  logPath := none
  instruction := none
  value := none
  exitCode := .value 0
  expectedExitCode := .value 0
  holder := .value Markers.defaultHolder
  method := .value Markers.defaultName
  signature := .value Markers.defaultSignature
  verbose := false
  extras := []

def Draft.addExtra (draft : Draft) (text : Text) : Draft :=
  { draft with extras := draft.extras ++ [text] }

def complain {α : Type} (switch : Switch) (complaint : Text) : Except ParseStop α :=
  .error (.usage ("argument ".toList ++ switch.title ++ ": ".toList ++ complaint))

def instructionNames : List Text := Hint.all.map Hint.name ++ [Expectation.counterName]

def readNumber (switch : Switch) : Setting Text → Except ParseStop (Setting Int)
  | .nothing => .ok .nothing
  | .value text =>
    match Numeral.read? text with
    | some n => .ok (.value n)
    | none => complain switch ("invalid int value: ".toList ++ text.quoted)

def readInstruction : Setting Text → Except ParseStop (Setting Text)
  | .nothing => .ok .nothing
  | .value text =>
    if text ∈ instructionNames then .ok (.value text)
    else complain .inst ("invalid choice: ".toList ++ text.quoted ++ " (choose from ".toList ++
      ", ".toList.intercalate (instructionNames.map Text.quoted) ++ ")".toList)

/-- Takes what an option is given. -/
def Draft.set (draft : Draft) (switch : Switch) (given : Setting Text) :
    Except ParseStop Draft :=
  match switch with
  | .logPath => .ok { draft with logPath := some given }
  | .inst => do .ok { draft with instruction := some (← readInstruction given) }
  | .value => .ok { draft with value := some given }
  | .exitCode => do .ok { draft with exitCode := ← readNumber .exitCode given }
  | .expectedExitCode => do
    .ok { draft with expectedExitCode := ← readNumber .expectedExitCode given }
  | .holder => .ok { draft with holder := given }
  | .method => .ok { draft with method := given }
  | .signature => .ok { draft with signature := given }
  | .help => .ok draft
  | .verbose => .ok draft

/-- An option that takes no value has been given one. -/
def ignored {α : Type} (switch : Switch) (value : Text) : Except ParseStop α :=
  complain switch ("ignored explicit argument ".toList ++ value.quoted)

/-- Each further `h` asks for help once more; anything else would be a value for the one before
it. -/
def readHelpCluster {α : Type} : Text → Except ParseStop α
  | [] => .error .help
  | 'h' :: letters => readHelpCluster letters
  | rest => ignored .help rest

/-- Acts on the arguments from left to right. -/
def readPieces : List Piece → Draft → Except ParseStop Draft
  | [], draft => .ok draft
  | .plain text :: others, draft => readPieces others (draft.addExtra text)
  | .dashes :: others, draft => readPieces others (draft.addExtra "--".toList)
  | .unknown text :: others, draft => readPieces others (draft.addExtra text)
  | .helpCluster letters :: _, _ => readHelpCluster letters
  | .switch .help none :: _, _ => .error .help
  | .switch .help (some value) :: _, _ => ignored .help value
  | .switch .verbose none :: others, draft => readPieces others { draft with verbose := true }
  | .switch .verbose (some value) :: _, _ => ignored .verbose value
  | .switch switch (some value) :: others, draft => do
    readPieces others (← draft.set switch (.ofText value))
  | .switch switch none :: .plain value :: others, draft => do
    readPieces others (← draft.set switch (.ofText value))
  | .switch switch none :: _, _ => complain switch "expected one argument".toList

/-- The options that cannot be left out. -/
def missing (draft : Draft) : List Switch :=
  (if draft.logPath.isNone then [.logPath] else []) ++
    (if draft.instruction.isNone then [.inst] else [])

def finish (draft : Draft) : Except ParseStop Options :=
  match draft.logPath, draft.instruction with
  | some logPath, some instruction =>
    if draft.extras.isEmpty then
      .ok ⟨logPath, instruction, draft.value, draft.exitCode, draft.expectedExitCode, draft.holder,
        draft.method, draft.signature, draft.verbose⟩
    else .error (.usage ("unrecognized arguments: ".toList ++ " ".toList.intercalate draft.extras))
  | _, _ =>
    .error (.usage ("the following arguments are required: ".toList ++
      ", ".toList.intercalate ((missing draft).map Switch.title)))

def parse (arguments : List Text) : Except ParseStop Options := do
  let pieces ← classifyAll arguments
  let draft ← readPieces pieces Draft.initial
  finish draft

end SpinWait.CommandLine
