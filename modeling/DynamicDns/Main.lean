import DynamicDns.Program
import Std.Async.Signal

/-! # Command line program

Where the program meets the system: arguments and environment go in, the file is
read, lines go out, and signals are waited for. What is done with all of them is
decided in `Program`.
-/

namespace DynamicDns

/-- The cause of a failed read, by the number that the system gives it. -/
def ReadError.ofNumber (number : UInt32) (reason : String) : ReadError :=
  match number with
  | 2 => .notFound
  | 20 => .notADirectory
  | 21 => .isADirectory
  | 36 => .nameTooLong
  | _ => .system reason number.toNat

/-- The cause of a failed read, as the system reports it. -/
def ReadError.ofSystem : IO.Error → ReadError
  | .noFileOrDirectory _ number reason => ofNumber number reason
  | .invalidArgument _ number reason => ofNumber number reason
  | .permissionDenied _ number reason => ofNumber number reason
  | .resourceExhausted _ number reason => ofNumber number reason
  | .inappropriateType _ number reason => ofNumber number reason
  | .noSuchThing _ number reason => ofNumber number reason
  | .alreadyExists _ number reason => ofNumber number reason
  | .interrupted _ number reason => ofNumber number reason
  | .otherError number reason => ofNumber number reason
  | .resourceBusy number reason => ofNumber number reason
  | .resourceVanished number reason => ofNumber number reason
  | .unsupportedOperation number reason => ofNumber number reason
  | .hardwareFault number reason => ofNumber number reason
  | .unsatisfiedConstraints number reason => ofNumber number reason
  | .illegalOperation number reason => ofNumber number reason
  | .protocolError number reason => ofNumber number reason
  | .timeExpired number reason => ofNumber number reason
  | .unexpectedEof => .system "unexpected end of file" 0
  | .userError reason => .system reason 0

def readFile (path : String) : IO (Except ReadError String) := do
  try
    let file ← IO.FS.Handle.mk path .read
    return decodeText (← file.readBinToEnd)
  catch cause =>
    return .error (.ofSystem cause)

/-- The time of day, as log lines begin with it. -/
def timeStamp : IO String := do
  let now := Std.Time.DateTime.ofTimestampWithZone (← Std.Time.Timestamp.now) .UTC
  return now.format "uuuu-MM-dd'T'HH:mm:ss.SSSSSS'Z'"

/-- Print output, a log line with its time. Levels are aligned on the right. -/
def Output.print (piece : Output) : IO Unit := do
  match piece with
  | .text lines => IO.print lines
  | .log event =>
    let level := event.level.name
    let margin := String.ofList (List.replicate (6 - level.length) ' ')
    IO.print ((← timeStamp) ++ margin ++ piece.render)
  (← IO.getStdout).flush

/-- Wait for one of the signals that end the daemon. -/
def Signal.wait : IO Signal := do
  let terminate ← Std.Async.Signal.Waiter.mk .sigterm false
  let interrupt ← Std.Async.Signal.Waiter.mk .sigint false
  let first ← terminate.wait
  let second ← interrupt.wait
  IO.ofExcept (← IO.waitAny [
    first.map fun _ => Signal.terminate,
    second.map fun _ => Signal.interrupt])

end DynamicDns

open DynamicDns in
/-- Run the program on its arguments. The result is the exit code. -/
def main (args : List String) : IO UInt32 := do
  let envLevel ← IO.getEnv "DDNS_LOG_LEVEL"
  let contents ← match CommandLine.parse envLevel args with
    | .ok line => readFile line.config
    | .error (.usage error) => do
      IO.eprintln ("error: " ++ error.message)
      pure (.error .notFound)
    | .error _ => pure (.error .notFound)
  let program := Program.start envLevel (fun _ => contents) args
  program.output.forM Output.print
  match program with
  | .ended _ _ => pure ()
  | .waiting _ _ _ => (program.farewell (← Signal.wait)).forM Output.print
  return program.exitCode.toUInt32
