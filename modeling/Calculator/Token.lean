/-
# Tokens and lexemes

The words of a line: runs of digits, operators and parentheses.  A lexeme is a
token at the column it starts at; columns count UTF-8 bytes from the start of
the line.
-/

import Calculator.Operator

namespace Calculator

/-- A character that separates words and is otherwise passed over. -/
def isBlank (c : Char) : Bool := c == ' ' || c == '\t'

/-- A word of a line. -/
inductive Token
  /-- A run of digits, not yet read as a number. -/
  | number (digits : List Char)
  | plus
  | minus
  | star
  | slash
  | opening
  | closing
  /-- Space between words; a line's own tokens never include it. -/
  | blank
deriving DecidableEq

namespace Token

/-- The operator that a token stands for between two operands. -/
def operator? : Token → Option Operator
  | plus => some .plus
  | minus => some .minus
  | star => some .times
  | slash => some .dividedBy
  | _ => none

/-- The token that a character is by itself. -/
def ofChar? : Char → Option Token
  | '+' => some plus
  | '-' => some minus
  | '*' => some star
  | '/' => some slash
  | '(' => some opening
  | ')' => some closing
  | _ => none

/-- How the log names a token. -/
def logName : Token → String
  | number digits => "Digits(\"" ++ String.ofList digits ++ "\")"
  | plus => "Plus"
  | minus => "Minus"
  | star => "Star"
  | slash => "Slash"
  | opening => "LParen"
  | closing => "RParen"
  | blank => "Whitespace"

end Token

/-- A token and the column it starts at. -/
structure Lexeme where
  token : Token
  column : Nat
deriving DecidableEq

end Calculator
