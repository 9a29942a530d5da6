/-
# Operators

The four operators that join two operands, and the two precedences: `*` and
`/` bind tighter than `+` and `-`.
-/

namespace Calculator

/-- How tightly an operator binds. -/
inductive Precedence
  /-- Sums and differences, which bind looser. -/
  | additive
  /-- Products and quotients, which bind tighter. -/
  | multiplicative
deriving DecidableEq

/-- An operator between two operands. -/
inductive Operator
  | plus
  | minus
  | times
  /-- The quotient, rounded toward zero. -/
  | dividedBy
deriving DecidableEq

namespace Operator

/-- How tightly an operator binds. -/
def precedence : Operator → Precedence
  | plus | minus => .additive
  | times | dividedBy => .multiplicative

/-- The character an operator is written with. -/
def symbol : Operator → Char
  | plus => '+'
  | minus => '-'
  | times => '*'
  | dividedBy => '/'

end Operator
end Calculator
