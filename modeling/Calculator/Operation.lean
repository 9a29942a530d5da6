/-
# Operations on outcomes

Negation and the four operators, on operands that may carry faults.  The
result carries the faults of all its operands, and the operation is still
tried on their values, so that later faults are found as well.
-/

import Calculator.Arithmetic
import Calculator.Outcome

namespace Calculator
namespace Outcome

/-- The negated value, with the operand's faults. -/
def negate (operand : Outcome Int) : Run (Outcome Int) := do
  let value ← Run.perform (.negate operand.value)
  pure ⟨← Run.hold value, operand.faults⟩

/-- **Two operands joined by an operator.**  A rejected operation is logged at the operator's
column, adds its own fault and gives the placeholder. -/
def combine (operator : Operator) (left right : Outcome Int) (column : Nat) :
    Run (Outcome Int) := do
  let faults := left.faults ∪ right.faults
  match ← operator.apply left.value right.value with
  | .ok value => pure ⟨← Run.hold value, faults⟩
  | .error fault => do
    Run.report (.operationRejected column operator left.value right.value fault)
    pure ⟨← Run.hold Value.placeholder, insert fault faults⟩

end Outcome
end Calculator
