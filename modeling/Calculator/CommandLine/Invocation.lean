/-
# What the arguments ask for

| option | value | asks for |
| --- | --- | --- |
| `-f`, `--file` | a path | lines from a file instead of the standard input |
| `-m`, `--max-line-length` | a size | the limit on the length of lines |
| `--crlf` | | replies that end in a carriage return and a line feed |
| `-v`, `--verbose` | | a log of every calculated line |
| `-V`, `--version` | | the version, and nothing else |
| `-h`, `--help` | | the help text, and nothing else |

An argument that starts with `-` is an option, unless it is `-` itself or
follows `--`; any other is the expression to calculate, of which there may be
one.  Letters may share a `-`, and a value may be attached: after `=` to a long
option, after an optional `=` to a letter.  A value in an argument of its own
must not look like an option.  No option may be given twice.

Arguments are read from left to right.  The first mistake ends the reading, and
so does asking for the version or the help text, whatever follows; that a file
was given beside an expression shows only at the end.
-/

import Calculator.Session

namespace Calculator
namespace CommandLine

/-- An option that takes a value. -/
inductive Valued
  | file
  | limit
deriving DecidableEq

/-- An option that takes no value. -/
inductive Switch
  | crlf
  | verbose
deriving DecidableEq

/-- An option. -/
inductive Choice
  | valued (option : Valued)
  | switch (option : Switch)
  | version
  | help
deriving DecidableEq

namespace Choice

/-- The option with a long name. -/
def ofName? : List Char → Option Choice := fun name =>
  [("file".toList, valued .file), ("max-line-length".toList, valued .limit),
    ("crlf".toList, switch .crlf), ("verbose".toList, switch .verbose),
    ("version".toList, version), ("help".toList, help)].lookup name

/-- The option with a letter. -/
def ofLetter? : Char → Option Choice
  | 'f' => some (valued .file)
  | 'm' => some (valued .limit)
  | 'v' => some (switch .verbose)
  | 'V' => some version
  | 'h' => some help
  | _ => none

end Choice

/-- What is wrong with the arguments. -/
inductive UsageError
  /-- There is no such option. -/
  | unknownOption
  /-- An option that takes a value has none. -/
  | missingValue
  /-- An option that takes no value has one. -/
  | unexpectedValue
  /-- A value is not of the kind that its option takes. -/
  | badValue
  /-- An option was given before. -/
  | repeated
  /-- There is an expression already. -/
  | secondExpression
  /-- There are an expression and a file. -/
  | expressionAndFile
deriving DecidableEq

/-- What is said of a mistake in the arguments. -/
def UsageError.message : UsageError → String
  | unknownOption => "error: unknown option"
  | missingValue => "error: an option lacks its value"
  | unexpectedValue => "error: an option takes no value"
  | badValue => "error: an option cannot have this value"
  | repeated => "error: an option is given twice"
  | secondExpression => "error: more than one expression"
  | expressionAndFile => "error: an expression and a file"

/-- What was asked for so far. -/
structure Request where
  expression : Option String
  file : Option String
  limit : Option Nat
  crlf : Bool
  verbose : Bool
deriving DecidableEq

/-- What the program is to do. -/
inductive Invocation
  | showVersion
  | showHelp
  | answer (request : Request)
deriving DecidableEq

/-- **A size is written in decimal digits,** with at most one `+` in front, and fits an unsigned
64-bit word. -/
def size? (text : List Char) : Option Nat :=
  let digits := match text with
    | '+' :: digits => digits
    | digits => digits
  let value := digits.foldl (fun value digit => 10 * value + (digit.toNat - 48)) 0
  if digits.isEmpty || !digits.all Char.isDigit || 18446744073709551616 ≤ value then none
  else some value

namespace Request

/-- Nothing was asked for. -/
def empty : Request := ⟨none, none, none, false, false⟩

/-- The request with a value for an option. -/
def withValue (request : Request) (option : Valued) (value : List Char) :
    Except UsageError Request :=
  match option with
  | .file =>
    if request.file.isSome then .error .repeated
    else if value.isEmpty then .error .badValue
    else .ok { request with file := String.ofList value }
  | .limit =>
    if request.limit.isSome then .error .repeated
    else
      match size? value with
      | none => .error .badValue
      | some limit => .ok { request with limit := limit }

/-- The request with an option that takes no value. -/
def withSwitch (request : Request) : Switch → Except UsageError Request
  | .crlf => if request.crlf then .error .repeated else .ok { request with crlf := true }
  | .verbose =>
    if request.verbose then .error .repeated else .ok { request with verbose := true }

/-- The request with an expression. -/
def withExpression (request : Request) (expression : String) : Except UsageError Request :=
  if request.expression.isSome then .error .secondExpression
  else .ok { request with expression := expression }

/-- The settings that are asked for. -/
def settings (request : Request) : Settings :=
  ⟨request.limit.getD Settings.standard.limit, if request.crlf then .crlf else .lf⟩

/-- The whole request, when all arguments are read. -/
def finish (request : Request) : Except UsageError Invocation :=
  if request.expression.isSome && request.file.isSome then .error .expressionAndFile
  else .ok (.answer request)

end Request

/-- Where reading an argument leads. -/
inductive Progress
  /-- To the next argument. -/
  | next (request : Request)
  /-- To the next argument, which must be a value. -/
  | awaits (option : Valued) (request : Request)
  /-- To an end. -/
  | done (invocation : Invocation)

/-- Reads a long option: its name, and the value after the first `=` if there is one. -/
def readLong (request : Request) (text : List Char) : Except UsageError Progress :=
  let name := text.takeWhile (· != '=')
  let attached := text.dropWhile (· != '=')
  match Choice.ofName? name, attached with
  | none, _ => .error .unknownOption
  | some (.valued option), [] => .ok (.awaits option request)
  | some (.valued option), _ :: value => .next <$> request.withValue option value
  | some _, _ :: _ => .error .unexpectedValue
  | some (.switch option), [] => .next <$> request.withSwitch option
  | some .version, [] => .ok (.done .showVersion)
  | some .help, [] => .ok (.done .showHelp)

/-- Reads options given by letters.  The value of an option is what is left of the argument. -/
def readLetters (request : Request) : List Char → Except UsageError Progress
  | [] => .ok (.next request)
  | letter :: letters =>
    match Choice.ofLetter? letter with
    | none => .error .unknownOption
    | some (.switch option) => do readLetters (← request.withSwitch option) letters
    | some .version => .ok (.done .showVersion)
    | some .help => .ok (.done .showHelp)
    | some (.valued option) =>
      match letters with
      | [] => .ok (.awaits option request)
      | '=' :: value => .next <$> request.withValue option value
      | value => .next <$> request.withValue option value

/-- Reads an argument other than `--`. -/
def readArgument (request : Request) (argument : String) : Except UsageError Progress :=
  match argument.toList with
  | '-' :: '-' :: text => readLong request text
  | '-' :: letter :: letters => readLetters request (letter :: letters)
  | _ => .next <$> request.withExpression argument

/-- Whether an argument is read as an option, and so cannot be a value. -/
def looksLikeOption (argument : String) : Bool :=
  match argument.toList with
  | '-' :: _ :: _ => true
  | _ => false

/-- Reads the arguments after those of a request. -/
def readArguments (request : Request) : List String → Except UsageError Invocation
  | [] => request.finish
  | argument :: rest =>
    if argument = "--" then do
      (← rest.foldlM Request.withExpression request).finish
    else do
      match ← readArgument request argument with
      | .next request => readArguments request rest
      | .done invocation => .ok invocation
      | .awaits option request =>
        match rest with
        | [] => .error .missingValue
        | value :: rest =>
          if looksLikeOption value then
            .error .missingValue
          else do
            readArguments (← request.withValue option value.toList) rest

/-- **What the arguments ask for.** -/
def Invocation.ofArguments (arguments : List String) : Except UsageError Invocation :=
  readArguments .empty arguments

end CommandLine
end Calculator
