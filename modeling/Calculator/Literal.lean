/-
# Literals

The value of a run of digits, read from left to right.  The first digit that
would carry the number past the largest value makes the literal too large; the
digits after it are not looked at.
-/

import Calculator.Arithmetic
import Calculator.Outcome
import Calculator.Utf8

namespace Calculator
namespace Literal

/-- The number that begins with `number` and goes on with a digit for each byte. -/
def accumulate (number : Int) : List UInt8 → Run (Except Fault Int)
  | [] => pure (.ok number)
  | byte :: rest => do
    let digit ← Run.perform (.digitValue byte)
    match ← Arithmetic.withDigit number digit with
    | .ok longer => do
      let longer ← Run.hold longer
      accumulate longer rest
    | .error fault => pure (.error fault)

end Literal

/-- **The value of a literal.**  One that is too large is logged at its column and stands for the
placeholder. -/
def literal (digits : List Char) (column : Nat) : Run (Outcome Int) := do
  match ← Literal.accumulate (← Run.hold 0) (Utf8.encode digits) with
  | .ok number => pure (.clean number)
  | .error fault => do
    Run.report (.literalTooLarge column digits)
    pure (.flagged (← Run.hold Value.placeholder) fault)

end Calculator
