/-
# Values

The values a calculation may give are the integers of absolute value at most
`2 ^ 63 - 1`.  The range is symmetric, so the negation of a value is a value;
it fits a signed 64-bit word, which also holds `-2 ^ 63`.
-/

namespace Calculator
namespace Value

/-- The largest value, `2 ^ 63 - 1`. -/
def largest : Int := 9223372036854775807

/-- The least value, the negation of the largest. -/
def least : Int := -9223372036854775807

/-- The value that stands where a computation was refused. -/
def placeholder : Int := 0

/-- An integer is a value when it lies between the least and the largest. -/
def InRange (v : Int) : Prop := least ≤ v ∧ v ≤ largest

instance (v : Int) : Decidable (InRange v) := inferInstanceAs (Decidable (_ ∧ _))

theorem inRange_iff {v : Int} :
    InRange v ↔ -9223372036854775807 ≤ v ∧ v ≤ 9223372036854775807 := Iff.rfl

/-- An integer as a value, if it is one. -/
def ofInt? (v : Int) : Option Int := if InRange v then some v else none

theorem ofInt?_eq_some_iff {v w : Int} : ofInt? v = some w ↔ InRange v ∧ v = w := by
  simp [ofInt?]

theorem ofInt?_eq_none_iff {v : Int} : ofInt? v = none ↔ ¬ InRange v := by
  simp [ofInt?]

theorem inRange_placeholder : InRange placeholder := by decide

/-- **The negation of a value is a value.** -/
theorem InRange.neg {v : Int} (h : InRange v) : InRange (-v) := by
  rw [inRange_iff] at h ⊢
  omega

end Value
end Calculator
