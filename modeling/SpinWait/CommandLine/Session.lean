import SpinWait.CommandLine.FileTree
import SpinWait.CommandLine.Options
import SpinWait.Report
import SpinWait.Text.Lines

namespace SpinWait.CommandLine

/-! A run of the command line from its arguments to its exit code. -/

/-- How a run ends. -/
inductive Outcome
  /-- With an exit code and what was printed. -/
  | ended (exitCode : Nat) (output : Text)
  /-- With a complaint about the arguments. -/
  | usage (message : Text)
  | help
  /-- Without a summary, because the operation could not be stated. -/
  | broken (refusal : Refusal)

def fail (record : FailureRecord) (trace : Text) : Outcome :=
  .ended record.exitCode (trace ++ record.summary)

/-- A stop in a run that prints a summary. -/
def failStop (info : RunInfo) (trace : Text) : Stop → Outcome
  | .fault fault _ => fail (.ofFault info fault) trace
  | .refused refusal => .broken refusal

/-- The printed trace, one line for each event. -/
def printTrace (options : Options) (trace : Trace) : Text :=
  if options.verbose then trace.events.flatMap fun event => event.line ++ ['\n'] else []

/-- The markers of the method that the options name. A holder has to be given. -/
def markersOf (options : Options) : Except Refusal Markers :=
  match options.holder with
  | .value holder =>
    .ok (.forMethod holder options.method.text options.signature.text Markers.defaultCallSite)
  | .nothing => .error .missingPart

/-- The log is checked, and the trace is printed before the summary. -/
def checkLog (options : Options) (info : RunInfo) (expectation : Expectation) (markers : Markers)
    (log : Text) : Outcome :=
  let lines := log.lines
  let run := Check.verify lines markers (.expectation expectation)
  match run.recorded Trace.empty with
  | (.error stop, trace) => failStop info (printTrace options trace) stop
  | (.ok passed, trace) =>
    .ended 0 (printTrace options trace ++ passed.summary info lines.length)

def exitMismatch (options : Options) (info : RunInfo) : FailureRecord :=
  .build info FailureType.processExitMismatch.name
    ("Process exited with ".toList ++ options.exitCode.number ++ "; expected ".toList ++
      options.expectedExitCode.number ++ ". Output not inspected.".toList)
    "exit_code".toList

def cannotRead (info : RunInfo) (report : Text) : FailureRecord :=
  .build info FailureType.internalError.name
    ("Cannot read log ".toList ++ info.logPath ++ ": ".toList ++ report) []

/-- What is left to do once the log is read, or the system has reported why it is not: the exit code
of the process that wrote it is compared, then the log is checked. -/
def inspect (options : Options) (info : RunInfo) (expectation : Expectation) :
    Except Text Text → Outcome
  | .error report => fail (cannotRead info report) []
  | .ok log =>
    if options.exitCode ≠ options.expectedExitCode then fail (exitMismatch options info) []
    else match markersOf options with
      | .error refusal => .broken refusal
      | .ok markers => checkLog options info expectation markers log

/-- The expectation that the options `--inst` and `--value` state. -/
def expectationOf (options : Options) : Except Stop Expectation :=
  let instruction := options.instruction.asValue .text
  match options.value with
  | none => Expectation.ofInstruction instruction none
  | some (.value text) => Expectation.ofInstruction instruction (some text)
  | some .nothing => .error (.refused .wrongKind)

/-- Where a log comes from. -/
inductive LogSource
  | standardInput
  | file (path : Text)
deriving DecidableEq

/-- A single minus sign stands for standard input. No path holds a null character. -/
def LogSource.ofSetting : Setting Text → Except Refusal LogSource
  | .nothing => .error .wrongKind
  | .value path =>
    if path = "-".toList then .ok standardInput
    else if path.contains '\x00' then .error .invalidPath
    else .ok (file (normalPath path))

/-- A run either ends before the log is touched, or needs the log to go on. -/
inductive Session
  | ended (outcome : Outcome)
  | awaitsLog (source : LogSource) (resume : Except Text Text → Outcome)

namespace Session

/-- What is expected is settled first, so that the log is not read in vain. -/
def ofOptions (options : Options) (runId : Text) : Session :=
  let info : RunInfo := ⟨runId, options.logPath.text⟩
  match expectationOf options with
  | .error stop => ended (failStop info [] stop)
  | .ok expectation =>
    match LogSource.ofSetting options.logPath with
    | .error refusal => ended (.broken refusal)
    | .ok source => awaitsLog source (inspect options info expectation)

def ofArguments (arguments : List Text) (runId : Text) : Session :=
  match parse arguments with
  | .error (.usage message) => ended (.usage message)
  | .error .help => ended .help
  | .ok options => ofOptions options runId

end Session

/-- How a run ends, whatever reading its log answers: a text, or the report of the system on why there
is none. -/
def runOn (answer : LogSource → Except Text Text) (arguments : List Text) (runId : Text) : Outcome :=
  match Session.ofArguments arguments runId with
  | .ended outcome => outcome
  | .awaitsLog source resume => resume (answer source)

/-- Bytes of a log as text. -/
def decodeLog (bytes : List UInt8) : Text := (Text.ofUtf8 bytes).unifyNewlines

/-- What reading answers if all files are those of a tree, and `input` is the text of standard
input. -/
def readLog (tree : FileTree) (input : Text) : LogSource → Except Text Text
  | .standardInput => .ok input.unifyNewlines
  | .file path =>
    match tree.read path with
    | .ok bytes => .ok (decodeLog bytes)
    | .error error => .error (error.report path)

def run (arguments : List Text) (tree : FileTree) (input runId : Text) : Outcome :=
  runOn (readLog tree input) arguments runId

end SpinWait.CommandLine
