import ErDiagram.Command.Session
import Std.Time

/-!
The program: it takes the arguments and the environment of the process, carries out the plan for them
and exits with its status. Nothing is decided here.
-/

namespace ErDiagram.Main

open Command

/-- The number of a system error. Some operations give it with a negative sign. -/
def errorNumber (code : UInt32) : Nat :=
  min code.toNat (0 - code).toNat

/-- The cause of a failed operation on a file. -/
def fileError : IO.Error → FileError
  | .noFileOrDirectory .. => .notFound
  | .inappropriateType _ code _ =>
    if errorNumber code = 21 then .isDirectory else .notDirectory
  | .invalidArgument _ code detail =>
    if errorNumber code = 36 then .nameTooLong else .other detail.toList
  | .permissionDenied _ code detail =>
    .other (detail.toList ++ " (os error ".toList ++ Text.ofNat (errorNumber code) ++ [')'])
  | e => .other e.toString.toList

def readChannel : Channel → IO (Except ReadError Text)
  | .standard => do
    let stdin ← IO.getStdin
    let mut bytes := ByteArray.empty
    let mut chunk ← stdin.read 65536
    while !chunk.isEmpty do
      bytes := bytes ++ chunk
      chunk ← stdin.read 65536
    return decodeText bytes
  | .file path => do
    try
      return decodeText (← IO.FS.readBinFile (String.ofList path))
    catch e => return .error (.file (fileError e))

def writeFile (path content : Text) : IO (Except FileError Unit) := do
  try
    IO.FS.writeBinFile (String.ofList path) content.toUtf8
    return .ok ()
  catch e => return .error (fileError e)

/-- Carry out a plan with the streams and files of the process. -/
def perform : Plan → IO Outcome
  | .finish outcome => return outcome
  | .read channel next => do perform (next (← readChannel channel))
  | .write path content next => do perform (next (← writeFile path content))

def environment : IO Environment := do
  let names := [Environment.logLevelName, Environment.commonLevelName, Environment.logFormatName,
    Environment.noColorName]
  let values ← names.mapM fun name => return (name, (← IO.getEnv name).map String.toList)
  return .ofVariables (fun name => (values.lookup name).join) (← (← IO.getStdout).isTty)

/-- The time in UTC, to the microsecond. -/
def timeStamp : IO Text := do
  let time := Std.Time.DateTime.ofTimestampWithZone (← Std.Time.Timestamp.now) Std.Time.TimeZone.UTC
  return (time.format "uuuu-MM-dd'T'HH:mm:ss.SSSSSS'Z'").toList

end ErDiagram.Main

def main (arguments : List String) : IO UInt32 := do
  let plan := ErDiagram.Command.plan (← ErDiagram.Main.environment) (← ErDiagram.Main.timeStamp)
    (arguments.map String.toList)
  let outcome ← ErDiagram.Main.perform plan
  let stdout ← IO.getStdout
  let stderr ← IO.getStderr
  stdout.putStr (String.ofList outcome.stdout)
  stdout.flush
  stderr.putStr (String.ofList outcome.stderr)
  return outcome.status.toUInt32
