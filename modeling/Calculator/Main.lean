/-
# The command line

Runs the program on the real standard streams.  What a session comes to is
settled by its dialogue; here its signals are read and its replies written.
Each reply is written and flushed before more input is read, so that the program
can sit behind a terminal.  What is logged goes to the standard error.
-/

import Calculator.CommandLine.Program
import Calculator.Dialogue
import Calculator.Transport.Frame

namespace Calculator
namespace CommandLine

/-- The words for an error of the system. -/
def osText (code : UInt32) (details : String) : String :=
  details ++ " (os error " ++ Numeral.text code.toNat ++ ")"

/-- An error of the system as a failure of a stream. -/
def failureOf : IO.Error → TransportFailure
  | .interrupted _ code details => ⟨.interrupted, osText code details⟩
  | .noFileOrDirectory _ code details => ⟨.notFound, osText code details⟩
  | .inappropriateType _ code details => ⟨.isDirectory, osText code details⟩
  | .resourceVanished code details => ⟨.brokenPipe, osText code details⟩
  | .permissionDenied _ code details | .invalidArgument _ code details
  | .resourceExhausted _ code details | .noSuchThing _ code details
  | .otherError code details => ⟨.other, osText code details⟩
  | error => ⟨.other, toString error⟩

/-- The result of an action, or how it failed. -/
def attempt {α : Type} (action : IO α) : IO (Except TransportFailure α) := do
  try
    return .ok (← action)
  catch error =>
    return .error (failureOf error)

/-- Writes events to the standard error. -/
def log (verbose : Bool) (events : List Event) : IO Unit := do
  let stream ← IO.getStderr
  for event in events do
    if event.level.isShown verbose then
      stream.putStrLn event.text

/-- The result of a run, after its events were logged. -/
def logged {α : Type} (verbose : Bool) (run : Run α) : IO α := do
  log verbose run.events
  return run.result

/-- Writes bytes to the standard output. -/
def put (bytes : List UInt8) : IO (Except TransportFailure Unit) := attempt do
  let stream ← IO.getStdout
  stream.write bytes.toByteArray
  stream.flush

/-- What a stream shows next. -/
def listen (input : IO.FS.Stream) : IO Signal := do
  match ← attempt (input.read 1) with
  | .error failure => return .failure failure
  | .ok bytes =>
    match bytes.toList with
    | [] => return .endOfInput
    | byte :: _ => return .byte byte

/-- Holds a dialogue over a stream and the standard output. -/
partial def hold (verbose : Bool) (input : IO.FS.Stream) (dialogue : Dialogue) :
    IO (Except SessionError Unit) := do
  match ← logged verbose (dialogue.hear (← listen input)) with
  | .listens next => hold verbose input next
  | .replies reply next =>
    match ← put (frame dialogue.settings.newline reply) with
    | .error failure => return .error (.transport failure)
    | .ok () => hold verbose input next
  | .ends result => return result.map fun _ => ()

/-- Holds a session over a stream. -/
def converse (request : Request) (input : IO.FS.Stream) : IO (Except SessionError Unit) := do
  match ← logged request.verbose (Dialogue.start request.settings) with
  | .error error => return .error error
  | .ok dialogue => hold request.verbose input dialogue

/-- Answers a single expression. -/
def single (request : Request) (expression : String) : IO (Except SessionError Unit) := do
  let answered ← logged request.verbose (answerSingle request.settings expression .unlimited)
  match answered.result with
  | .error error => return .error error
  | .ok () => return (← put answered.sink.output).mapError .transport

/-- Does what is asked for. -/
def fulfil (request : Request) : IO (Except SessionError Unit) := do
  match request.expression, request.file with
  | some expression, _ => single request expression
  | none, some path =>
    match ← attempt (IO.FS.Handle.mk path .read) with
    | .error failure => return .error (.transport failure)
    | .ok handle => converse request (.ofHandle handle)
  | none, none => converse request (← IO.getStdin)

/-- The exit code of the program. -/
def exitCode (arguments : List String) : IO UInt32 := do
  match Invocation.ofArguments arguments with
  | .error error =>
    IO.eprintln (error.message ++ "\n\n" ++ help)
    return 2
  | .ok .showVersion =>
    IO.print version
    return 0
  | .ok .showHelp =>
    IO.print help
    return 0
  | .ok (.answer request) =>
    match ← fulfil request with
    | .ok () => return 0
    | .error error =>
      IO.eprintln error.message
      return 1

end CommandLine
end Calculator

def main (arguments : List String) : IO UInt32 := Calculator.CommandLine.exitCode arguments
