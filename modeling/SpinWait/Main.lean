import SpinWait.CommandLine.Session
import Std.Time.DateTime

namespace SpinWait.CommandLine

/-! The program: it reads the log that a session asks for, prints what the session ends with, and
leaves with its exit code. -/

def programName : String := "spinwait"

def usage : String :=
  "usage: " ++ programName ++ " [-h] --log-path LOG_PATH --inst (nop|isb|yield|counter)\n" ++
  "       [--value VALUE] [--exit-code EXIT_CODE] [--expected-exit-code EXPECTED_EXIT_CODE]\n" ++
  "       [--holder HOLDER] [--method METHOD] [--signature SIGNATURE] [--verbose]\n"

/-- The number and the description of an error that came from the system. -/
def systemError? : IO.Error → Option (UInt32 × String)
  | .otherError number description
  | .resourceBusy number description
  | .resourceVanished number description
  | .unsupportedOperation number description
  | .hardwareFault number description
  | .unsatisfiedConstraints number description
  | .illegalOperation number description
  | .protocolError number description
  | .timeExpired number description
  | .interrupted _ number description
  | .noFileOrDirectory _ number description
  | .alreadyExists _ number description
  | .invalidArgument _ number description
  | .permissionDenied _ number description
  | .resourceExhausted _ number description
  | .inappropriateType _ number description
  | .noSuchThing _ number description => some (number, description)
  | _ => none

def reportOf (path : Text) (error : IO.Error) : Text :=
  match systemError? error with
  | some (number, description) => systemReport number.toNat description.toList path
  | none => (toString error).toList

partial def readAll (stream : IO.FS.Stream) (known : ByteArray) : IO ByteArray := do
  let more ← stream.read 65536
  if more.isEmpty then pure known else readAll stream (known ++ more)

def readSource : LogSource → IO (Except Text Text)
  | .standardInput => do
    let bytes ← readAll (← IO.getStdin) ByteArray.empty
    pure (.ok (decodeLog bytes.toList))
  | .file path => do
    try
      let file ← IO.FS.Handle.mk (String.ofList path) .read
      pure (.ok (decodeLog (← file.readBinToEnd).toList))
    catch error => pure (.error (reportOf path error))

/-- Today, with four random bytes. -/
def newRunId : IO Text := do
  let now ← Std.Time.Timestamp.now
  let date := Std.Time.PlainDate.ofEpochDay now.toDaysSinceUnixEpoch
  let random ← IO.getRandomBytes 4
  pure (runIdOf date.year date.month.toNat date.day.toNat random.toList)

def finishProgram : Outcome → IO UInt32
  | .ended exitCode output => do
    IO.print (String.ofList output)
    pure exitCode.toUInt32
  | .usage message => do
    IO.eprint (usage ++ programName ++ ": error: " ++ String.ofList message ++ "\n")
    pure 2
  | .help => do
    IO.print usage
    pure 0
  | .broken _ => do
    IO.eprintln (programName ++ ": the check could not be stated")
    pure 1

end SpinWait.CommandLine

open SpinWait.CommandLine in
def main (arguments : List String) : IO UInt32 := do
  match Session.ofArguments (arguments.map String.toList) (← newRunId) with
  | .ended outcome => finishProgram outcome
  | .awaitsLog source resume => do finishProgram (resume (← readSource source))
