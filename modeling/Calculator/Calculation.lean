/-
# Calculating a line

A line is scanned into lexemes, one sum must take all of them, and the faults
of both passes are put together.
-/

import Calculator.Rule
import Calculator.Scan
import Calculator.Utf8

namespace Calculator

/-- **The outcome of a list of lexemes** that ends at the column `stop`.  Lexemes that follow a
complete sum make the line malformed. -/
def parse (lexemes : List Lexeme) (stop : Nat) : Run (Outcome Int) := do
  let ⟨outcome, rest⟩ ← (Rule.sum 0).run ⟨lexemes, stop⟩
  if rest.remaining = 0 then
    pure outcome
  else do
    Run.report (.unconsumed rest.column rest.remaining)
    pure (outcome.record .malformed)

/-- **The outcome of a line.** -/
def calculate (line : String) : Run (Outcome Int) := do
  let lexemes ← scan line.toList
  let parsed ← parse lexemes.value (Utf8.size line.toList)
  let outcome := parsed.absorb lexemes
  Run.report (.calculated line outcome.value outcome.faults)
  pure outcome

end Calculator
