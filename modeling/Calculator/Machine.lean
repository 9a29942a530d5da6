/-
# Machine steps

Values are worked on in machine words: signed 64-bit words for values, bytes
for the characters of a literal, unsigned 64-bit words for nesting depths.  A
`MachineStep` is one such operation on known operands.  `exact` is its result
over the integers and `Fits` says that the machine can give that result, that
is, that the step neither overflows nor divides by zero.
-/

namespace Calculator

/-- An integer that a signed 64-bit word can hold. -/
def IsWord (v : Int) : Prop := -9223372036854775808 ≤ v ∧ v ≤ 9223372036854775807

instance (v : Int) : Decidable (IsWord v) := inferInstanceAs (Decidable (_ ∧ _))

/-- One machine operation on known operands. -/
inductive MachineStep
  | negate (a : Int)
  | add (a b : Int)
  | subtract (a b : Int)
  | multiply (a b : Int)
  /-- The quotient, rounded toward zero. -/
  | divide (a b : Int)
  /-- Half of a word, rounded down. -/
  | halve (a : Int)
  /-- How far a byte lies above the digit zero. -/
  | digitValue (byte : UInt8)
  /-- One more level of nesting. -/
  | deepen (depth : Nat)
deriving DecidableEq

namespace MachineStep

/-- The result of a step over the integers. -/
def exact : MachineStep → Int
  | negate a => -a
  | add a b => a + b
  | subtract a b => a - b
  | multiply a b => a * b
  | divide a b => a.tdiv b
  | halve a => a / 2
  | digitValue byte => (byte.toNat : Int) - 48
  | deepen depth => depth + 1

/-- The machine can give the exact result: it fits the word, and no divisor is zero. -/
def Fits : MachineStep → Prop
  | divide a b => b ≠ 0 ∧ IsWord (a.tdiv b)
  | digitValue byte => 48 ≤ byte.toNat
  | deepen depth => depth + 1 < 18446744073709551616
  | step => IsWord step.exact

instance : DecidablePred Fits
  | negate _ | add _ _ | subtract _ _ | multiply _ _ | halve _ =>
    inferInstanceAs (Decidable (IsWord _))
  | divide _ _ => inferInstanceAs (Decidable (_ ∧ _))
  | digitValue _ => inferInstanceAs (Decidable (_ ≤ _))
  | deepen _ => inferInstanceAs (Decidable (_ < _))

end MachineStep
end Calculator
