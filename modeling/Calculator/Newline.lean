/-
# Line endings

The two ways a reply line may end.
-/

namespace Calculator

/-- How reply lines end. -/
inductive Newline
  /-- A line feed alone. -/
  | lf
  /-- A carriage return and a line feed, as serial terminals expect. -/
  | crlf
deriving DecidableEq

namespace Newline

/-- The characters that end a line. -/
def text : Newline → String
  | lf => "\n"
  | crlf => "\r\n"

/-- How the log names a line ending. -/
def logName : Newline → String
  | lf => "Lf"
  | crlf => "CrLf"

end Newline
end Calculator
