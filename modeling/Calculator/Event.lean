/-
# Log events

Everything that is logged while lines are calculated and sessions are served.
Each event has a level, a message and named fields; columns in an event are
those of the lexeme or character that caused it.

| level | events |
| --- | --- |
| `trace` | what the scanner and the grammar rules object to |
| `debug` | what nesting, literals and operations object to, and each calculated line |
| `info` | a session starts or ends |
| `warn` | a line was cut |
-/

import Calculator.Fault.Set
import Calculator.Newline
import Calculator.Numeral
import Calculator.Token

namespace Calculator

/-- How much an event matters. -/
inductive LogLevel
  | trace
  | debug
  | info
  | warn
deriving DecidableEq

/-- The name of a level in the log. -/
def LogLevel.name : LogLevel → String
  | trace => "TRACE"
  | debug => "DEBUG"
  | info => "INFO"
  | warn => "WARN"

/-- Whether a level is shown: warnings always, details only in a verbose log, and what the scanner
and the rules object to never. -/
def LogLevel.isShown (verbose : Bool) : LogLevel → Bool
  | trace => false
  | debug | info => verbose
  | warn => true

/-- Something worth logging. -/
inductive Event
  /-- A character that no token and no blank begins with. -/
  | unrecognized (column : Nat) (char : Char)
  /-- Another token, or the end of the line, where an operand should start. -/
  | operandExpected (column : Nat) (token : Option Token)
  /-- A parenthesis opens inside too many others. -/
  | nestingTooDeep (column depth : Nat)
  /-- Another token, or the end of the line, where a parenthesis should close. -/
  | closingExpected (column : Nat)
  /-- Lexemes follow a complete expression. -/
  | unconsumed (column remaining : Nat)
  /-- An operation has no value. -/
  | operationRejected (column : Nat) (operator : Operator) (left right : Int) (fault : Fault)
  /-- A literal lies above the largest value. -/
  | literalTooLarge (column : Nat) (digits : List Char)
  /-- A line was calculated. -/
  | calculated (line : String) (value : Int) (faults : FaultSet)
  /-- A line was longer than the limit and was cut. -/
  | lineCut (limit : Nat)
  /-- A session begins. -/
  | serving (limit : Nat) (newline : Newline)
  /-- The input of a session has ended, after so many answers. -/
  | inputClosed (answered : Nat)
deriving DecidableEq

namespace Event

/-- The level an event is logged at. -/
def level : Event → LogLevel
  | unrecognized .. | operandExpected .. | closingExpected .. | unconsumed .. => .trace
  | nestingTooDeep .. | operationRejected .. | literalTooLarge .. | calculated .. => .debug
  | lineCut .. => .warn
  | serving .. | inputClosed .. => .info

/-- What an event says. -/
def message : Event → String
  | unrecognized .. => "unrecognized input"
  | operandExpected .. => "expected operand"
  | nestingTooDeep .. => "nesting too deep"
  | closingExpected .. => "expected ')'"
  | unconsumed .. => "unconsumed input"
  | operationRejected .. => "operation rejected"
  | literalTooLarge .. => "literal out of range"
  | calculated .. => "evaluated line"
  | lineCut .. => "input line truncated"
  | serving .. => "serving"
  | inputClosed .. => "input closed"

/-- The named fields of an event. -/
def fields : Event → List (String × String)
  | unrecognized column char =>
    [("column", Numeral.text column), ("slice", String.singleton char)]
  | operandExpected column token =>
    [("column", Numeral.text column),
      ("token", token.elim "None" fun t => "Some(" ++ t.logName ++ ")")]
  | nestingTooDeep column depth =>
    [("column", Numeral.text column), ("depth", Numeral.text depth)]
  | closingExpected column => [("column", Numeral.text column)]
  | unconsumed column remaining =>
    [("column", Numeral.text column), ("remaining", Numeral.text remaining)]
  | operationRejected column operator left right fault =>
    [("column", Numeral.text column), ("left", Numeral.text left),
      ("op", String.singleton operator.symbol), ("right", Numeral.text right),
      ("kind", fault.name)]
  | literalTooLarge column digits =>
    [("column", Numeral.text column), ("digits", String.ofList digits)]
  | calculated line value faults =>
    [("line", line), ("value", Numeral.text value), ("errors", faults.describe)]
  | lineCut limit => [("max_line_length", Numeral.text limit)]
  | serving limit newline =>
    [("max_line_length", Numeral.text limit), ("line_ending", newline.logName)]
  | inputClosed answered => [("answered", Numeral.text answered)]

/-- An event as one line of the log. -/
def text (event : Event) : String :=
  " ".intercalate (event.level.name :: event.message ::
    event.fields.map fun (name, value) => name ++ "=" ++ value)

end Event
end Calculator
