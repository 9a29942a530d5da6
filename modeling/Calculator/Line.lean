/-
# Lines

One line as the calculator receives it.  A line that is longer than the limit
is cut, and remembers it.
-/

import Calculator.Utf8

namespace Calculator

/-- A received line, without its line ending. -/
structure Line where
  /-- The text within the limit. -/
  text : String
  /-- Whether there was more. -/
  cut : Bool
deriving DecidableEq

namespace Line

/-- A line that was received whole. -/
def whole (text : String) : Line := ⟨text, false⟩

/-- **A text cut to a limit** in bytes, between two characters.  Line endings inside the text are
kept. -/
def fitted (limit : Nat) (text : String) : Line :=
  ⟨String.ofList (Utf8.take limit text.toList), decide (limit < Utf8.size text.toList)⟩

end Line
end Calculator
