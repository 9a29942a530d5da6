/-
# Scanning a line into lexemes

Spaces and tabs are passed over, digits that stand side by side form one
number, and the other characters of the alphabet are tokens by themselves.
Any other character is logged, makes the line malformed and is passed over.

The scan goes to the right end of the line first and builds the lexemes from
there, so a digit only has to look at the lexeme that follows: if that is a
number that starts in the next column, the digit belongs to it.
-/

import Calculator.Outcome
import Calculator.Run

namespace Calculator

namespace Scan

/-- Puts a digit in front of the lexemes that follow it: into the number that starts in the next
column if there is one, and as a number of its own otherwise. -/
def joinDigit (digit : Char) (column : Nat) : List Lexeme → List Lexeme
  | ⟨.number digits, next⟩ :: rest =>
    if next = column + digit.utf8Size then
      ⟨.number (digit :: digits), column⟩ :: rest
    else
      ⟨.number [digit], column⟩ :: ⟨.number digits, next⟩ :: rest
  | rest => ⟨.number [digit], column⟩ :: rest

/-- The lexemes of a text that starts at a column. -/
def lexemesFrom (column : Nat) : List Char → Run (Outcome (List Lexeme))
  | [] => pure (.clean [])
  | c :: rest =>
    let following := lexemesFrom (column + c.utf8Size) rest
    if isBlank c then
      following
    else if c.isDigit then
      Outcome.map (joinDigit c column) <$> following
    else
      match Token.ofChar? c with
      | some token => Outcome.map (⟨token, column⟩ :: ·) <$> following
      | none => do
        Run.report (.unrecognized column c)
        (·.record .malformed) <$> following

end Scan

/-- **The lexemes of a line.** -/
def scan (line : List Char) : Run (Outcome (List Lexeme)) := Scan.lexemesFrom 0 line

end Calculator
