/-
# Pieces of a line

A line is a row of pieces: tokens, blanks between them and characters that are
neither.  `Piece.IsRow` says how a row may look: a run of digits is not empty
and is not followed by another digit, and the other pieces are single
characters of their kind.  A row spells a line and determines its lexemes, and
each line is spelled by one row only, since runs of digits are as long as they
can be.
-/

import Calculator.Event
import Calculator.Utf8

namespace Calculator

/-- A piece of a line. -/
inductive Piece
  /-- A run of digits. -/
  | number (digits : List Char)
  /-- A character that is a token by itself. -/
  | mark (char : Char) (token : Token)
  /-- A space or a tab. -/
  | blank (char : Char)
  /-- A character outside the alphabet. -/
  | foreign (char : Char)
deriving DecidableEq

namespace Piece

/-- The characters of a piece. -/
def text : Piece → List Char
  | number digits => digits
  | mark char _ | blank char | foreign char => [char]

/-- The token that a piece is. -/
def token? : Piece → Option Token
  | number digits => some (.number digits)
  | mark _ token => some token
  | blank _ | foreign _ => none

/-- Whether the characters of a piece are of its kind. -/
def IsProper : Piece → Prop
  | number digits => digits ≠ [] ∧ ∀ c ∈ digits, c.isDigit = true
  | mark char token => Token.ofChar? char = some token
  | blank char => isBlank char = true
  | foreign char =>
    isBlank char = false ∧ char.isDigit = false ∧ Token.ofChar? char = none

/-- Whether a piece is a run of digits. -/
def isNumber : Piece → Bool
  | number _ => true
  | _ => false

/-- **A row of pieces:** each is proper, and no two runs of digits stand side by side. -/
def IsRow : List Piece → Prop
  | [] => True
  | [piece] => piece.IsProper
  | piece :: next :: rest =>
    piece.IsProper ∧ (piece.isNumber && next.isNumber) = false ∧ IsRow (next :: rest)

/-- The line that a row spells. -/
def spelling (row : List Piece) : List Char := row.flatMap text

/-- The tokens of a row. -/
def tokens (row : List Piece) : List Token := row.filterMap token?

/-- The lexemes of a row that starts at a column. -/
def lexemes (column : Nat) : List Piece → List Lexeme
  | [] => []
  | piece :: rest =>
    let following := lexemes (column + Utf8.size piece.text) rest
    match piece.token? with
    | some token => ⟨token, column⟩ :: following
    | none => following

/-- What is logged of the characters outside the alphabet. -/
def objections (column : Nat) : List Piece → List Event
  | [] => []
  | piece :: rest =>
    let following := objections (column + Utf8.size piece.text) rest
    match piece with
    | foreign char => .unrecognized column char :: following
    | _ => following

/-- Whether a row has a character outside the alphabet. -/
def HasForeign (row : List Piece) : Prop := ∃ char, foreign char ∈ row

end Piece

/-- **A line spells tokens** when it is a row of these tokens and blanks. -/
def Spells (line : List Char) (tokens : List Token) : Prop :=
  ∃ row, Piece.IsRow row ∧ ¬ Piece.HasForeign row ∧ Piece.spelling row = line ∧
    Piece.tokens row = tokens

end Calculator
