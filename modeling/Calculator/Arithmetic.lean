/-
# Checked arithmetic

Sums, differences, products and quotients of values, and the step that appends
a digit to a literal.  A guard looks at the operands first and refuses those
whose result is not a value, so that the operation itself never overflows:

| operation | refused when | fault |
| --- | --- | --- |
| `sum`, `difference` | half of it, or of its negation, is above half of the largest value | `outOfRange` |
| `product` | a factor lies outside the quotients of the range by the other | `outOfRange` |
| `quotient` | the divisor is zero | `zeroDivisor` |
| `withDigit` | the number before the digit is above a tenth of what the digit leaves | `literalTooLarge` |

The guards work in machine words as well, and each of their steps is counted.
-/

import Calculator.Run
import Calculator.Value

namespace Calculator
namespace Arithmetic

open Run (perform)

/-- **Half of a sum, rounded down,** without the sum: the halves are added, and one more if both
operands are odd. -/
def halfSum (a b : Int) : Run Int := do
  let halfLeft ← perform (.halve a)
  let halfRight ← perform (.halve b)
  let halves ← perform (.add halfLeft halfRight)
  perform (.add halves (if a % 2 = 1 ∧ b % 2 = 1 then 1 else 0))

/-- Half of the largest value, rounded down. -/
def halfLargest : Int := 4611686018427387903

/-- Refuses operands whose sum is not a value. -/
def sumGuard (a b : Int) : Run (Except Fault Unit) := do
  let half ← halfSum a b
  if half > halfLargest then
    pure (.error .outOfRange)
  else do
    let negatedLeft ← perform (.negate a)
    let negatedRight ← perform (.negate b)
    let half ← halfSum negatedLeft negatedRight
    pure (if half > halfLargest then .error .outOfRange else .ok ())

/-- Refuses factors whose product is not a value. -/
def productGuard (a b : Int) : Run (Except Fault Unit) :=
  if a = 0 ∨ b = 0 then
    pure (.ok ())
  else do
    let towardLargest ← perform (.divide Value.largest b)
    let towardLeast ← perform (.divide Value.least b)
    let low := if b > 0 then towardLeast else towardLargest
    let high := if b > 0 then towardLargest else towardLeast
    pure (if a < low ∨ a > high then .error .outOfRange else .ok ())

/-- Refuses a divisor of zero. -/
def quotientGuard (_ b : Int) : Run (Except Fault Unit) :=
  pure (if b = 0 then .error .zeroDivisor else .ok ())

/-- Refuses a digit that would carry a literal past the largest value. -/
def digitGuard (number digit : Int) : Run (Except Fault Unit) := do
  let room ← perform (.subtract Value.largest digit)
  let bound ← perform (.divide room 10)
  pure (if number > bound then .error .literalTooLarge else .ok ())

/-- An operation that is carried out only if its guard accepts the operands. -/
def guarded (guard : Run (Except Fault Unit)) (operation : Run Int) : Run (Except Fault Int) := do
  match ← guard with
  | .ok () => .ok <$> operation
  | .error fault => pure (.error fault)

/-- The sum of two values. -/
def sum (a b : Int) : Run (Except Fault Int) :=
  guarded (sumGuard a b) (perform (.add a b))

/-- The difference of two values: the sum of the left and the negated right one. -/
def difference (a b : Int) : Run (Except Fault Int) := do
  let negated ← perform (.negate b)
  sum a negated

/-- The product of two values. -/
def product (a b : Int) : Run (Except Fault Int) :=
  guarded (productGuard a b) (perform (.multiply a b))

/-- The quotient of two values, rounded toward zero. -/
def quotient (a b : Int) : Run (Except Fault Int) :=
  guarded (quotientGuard a b) (perform (.divide a b))

/-- The number whose decimal digits are those of `number` and then `digit`. -/
def withDigit (number digit : Int) : Run (Except Fault Int) :=
  guarded (digitGuard number digit) do
    let shifted ← perform (.multiply number 10)
    perform (.add shifted digit)

end Arithmetic

/-- The value of an operator on two operands, or the fault of having none. -/
def Operator.apply : Operator → Int → Int → Run (Except Fault Int)
  | plus => Arithmetic.sum
  | minus => Arithmetic.difference
  | times => Arithmetic.product
  | dividedBy => Arithmetic.quotient

end Calculator
