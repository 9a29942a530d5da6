/-
# The program

What the program does with its arguments, its standard input and the files
there are: an expression is answered alone, and otherwise every line of the
file, or of the standard input, is.  It exits with 0 when all went well, with 1
when a session was stopped by an error, and with 2 when the arguments make no
sense.
-/

import Calculator.CommandLine.Invocation

namespace Calculator
namespace CommandLine

/-- How the program ends. -/
structure Exit where
  code : Nat
  /-- What was written to the standard output. -/
  output : List UInt8
  /-- What is said of an error. -/
  complaint : Option String
deriving DecidableEq

/-- The name and version of the program. -/
def version : String := "linecalc 0.1.0\n"

/-- How the program is used. -/
def help : String :=
  "Evaluates integer arithmetic, one line at a time.\n\n" ++
  "Usage: linecalc [OPTIONS] [EXPRESSION]\n\n" ++
  "Arguments:\n" ++
  "  [EXPRESSION]  Evaluates this expression and exits\n\n" ++
  "Options:\n" ++
  "  -f, --file <FILE>           Reads lines from a file instead of standard input\n" ++
  "  -m, --max-line-length <N>   Longest accepted line, in bytes [default: 255]\n" ++
  "      --crlf                  Ends replies with a carriage return and a line feed\n" ++
  "  -v, --verbose               Logs every evaluated line to standard error\n" ++
  "  -h, --help                  Prints this help\n" ++
  "  -V, --version               Prints the version\n"

/-- The end of a session, with its output. -/
def Exit.ofSession {α : Type} (result : Except SessionError α) (sink : Sink) : Exit :=
  match result with
  | .ok _ => ⟨0, sink.output, none⟩
  | .error error => ⟨1, sink.output, some error.message⟩

/-- How a request was answered on an output stream, where `open?` opens files. -/
def answerOn (open? : String → Except TransportFailure (List Signal)) (input : List Signal)
    (request : Request) (sink : Sink) : Run Answered :=
  match request.expression, request.file with
  | some expression, _ => answerSingle request.settings expression sink
  | none, some path =>
    match open? path with
    | .error failure => pure ⟨.error (.transport failure), sink⟩
    | .ok signals => Served.toAnswered <$> serve request.settings signals sink
  | none, none => Served.toAnswered <$> serve request.settings input sink

/-- **What a request leads to,** where `open?` opens files. -/
def answer (open? : String → Except TransportFailure (List Signal)) (input : List Signal)
    (request : Request) : Run Exit := do
  let answered ← answerOn open? input request .unlimited
  pure (.ofSession answered.result answered.sink)

/-- **What the arguments lead to.** -/
def program (open? : String → Except TransportFailure (List Signal)) (input : List Signal)
    (arguments : List String) : Run Exit :=
  match Invocation.ofArguments arguments with
  | .error error => pure ⟨2, [], some error.message⟩
  | .ok .showVersion => pure ⟨0, Utf8.encode version.toList, none⟩
  | .ok .showHelp => pure ⟨0, Utf8.encode help.toList, none⟩
  | .ok (.answer request) => answer open? input request

end CommandLine
end Calculator
