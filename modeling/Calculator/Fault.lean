/-
# Faults

What can be wrong with a line.  A line may have several faults at once; only
the most severe of them is told to whoever sent the line, so the kinds are
ranked:

| rank | fault | a line has it when |
| ---: | --- | --- |
| 0 | `lineTooLong` | it has more bytes than the transport accepts |
| 1 | `malformed` | it does not follow the grammar |
| 2 | `literalTooLarge` | a literal lies above the largest value |
| 3 | `zeroDivisor` | a division has a zero divisor |
| 4 | `outOfRange` | a sum, difference or product leaves the value range |
-/

namespace Calculator

/-- A kind of fault, the most severe kind first. -/
inductive Fault
  /-- The line is longer than the transport accepts. -/
  | lineTooLong
  /-- The line does not follow the grammar. -/
  | malformed
  /-- A literal lies above the largest value. -/
  | literalTooLarge
  /-- The right operand of a division is zero. -/
  | zeroDivisor
  /-- A sum, difference or product leaves the value range. -/
  | outOfRange
deriving DecidableEq

namespace Fault

/-- Every kind, the most severe first. -/
def all : List Fault := [lineTooLong, malformed, literalTooLarge, zeroDivisor, outOfRange]

theorem mem_all (fault : Fault) : fault ∈ all := by cases fault <;> decide

/-- The place of a kind among all kinds: the smaller, the more severe. -/
def rank : Fault → Nat
  | lineTooLong => 0
  | malformed => 1
  | literalTooLarge => 2
  | zeroDivisor => 3
  | outOfRange => 4

/-- **Kinds compare by severity,** and the most severe is the least. -/
instance : Ord Fault := ⟨fun a b => compare a.rank b.rank⟩

/-- **No two kinds are equally severe.** -/
theorem rank_injective {a b : Fault} (h : a.rank = b.rank) : a = b := by
  cases a <;> cases b <;> simp [rank] at h ⊢

/-- The name of a kind in running text. -/
def name : Fault → String
  | lineTooLong => "buffer overflow"
  | malformed => "syntax error"
  | literalTooLarge => "value overflow"
  | zeroDivisor => "division by zero"
  | outOfRange => "arithmetic overflow"

/-- The name of a kind as a flag in the log. -/
def flag : Fault → String
  | lineTooLong => "BUFFER_OVERFLOW"
  | malformed => "SYNTAX_ERROR"
  | literalTooLarge => "VALUE_OVERFLOW"
  | zeroDivisor => "DIVISION_BY_ZERO"
  | outOfRange => "ARITHMETIC_OVERFLOW"

/-- The bit that stands for a kind when a set of kinds is written as a number. -/
def bit : Fault → Nat
  | lineTooLong => 1
  | malformed => 2
  | literalTooLarge => 4
  | zeroDivisor => 8
  | outOfRange => 16

end Fault
end Calculator
