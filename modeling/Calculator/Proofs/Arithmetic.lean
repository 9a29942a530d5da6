/-
# Exact arithmetic

The guards are exact.  On values they accept an operation exactly when its
result over the integers is a value, and everything they compute on the way
fits a machine word, so that a guarded operation is the exact one:

| operation | on | accepted when |
| --- | --- | --- |
| `sum`, `difference` | values | the result is a value |
| `product` | any integers | the result is a value |
| `quotient` | values | the divisor is not zero |
| `withDigit` | a number up to the largest value, a digit below 208 | the longer number is not above it |

Each is one equation between runs: the right side is pure, so nothing is
logged, nothing overflows and no value is held.
-/

import Calculator.Arithmetic
import Calculator.Phrase

namespace Calculator

open Run (perform perform_eq_pure)

/-- A value fits a machine word. -/
theorem Value.InRange.isWord {v : Int} (h : Value.InRange v) : IsWord v := by
  rw [Value.inRange_iff] at h
  unfold IsWord; omega

namespace Arithmetic

/-! ### Machine steps that fit -/

section Steps

variable {a b : Int}

theorem perform_negate (h : IsWord (-a)) : perform (.negate a) = pure (-a) := perform_eq_pure h

theorem perform_add (h : IsWord (a + b)) : perform (.add a b) = pure (a + b) := perform_eq_pure h

theorem perform_subtract (h : IsWord (a - b)) : perform (.subtract a b) = pure (a - b) :=
  perform_eq_pure h

theorem perform_multiply (h : IsWord (a * b)) : perform (.multiply a b) = pure (a * b) :=
  perform_eq_pure h

theorem perform_divide (hb : b ≠ 0) (h : IsWord (a.tdiv b)) :
    perform (.divide a b) = pure (a.tdiv b) := perform_eq_pure ⟨hb, h⟩

theorem perform_halve (h : IsWord (a / 2)) : perform (.halve a) = pure (a / 2) := perform_eq_pure h

end Steps

/-- A guarded operation whose guard decides `P`, and which gives `v` where `P` holds. -/
theorem guarded_eq_pure {P : Prop} [Decidable P] {fault : Fault} {operation : Run Int} {v : Int}
    (h : P → operation = pure v) :
    guarded (pure (if P then .ok () else .error fault)) operation =
      pure (if P then .ok v else .error fault) := by
  by_cases hp : P
  · simp only [guarded, pure_bind, if_pos hp, h hp, map_pure]
  · simp only [guarded, pure_bind, if_neg hp]

/-! ### Sums -/

/-- The halves of two numbers fall short of the half of their sum by one when both are odd. -/
theorem half_add_half (a b : Int) :
    a / 2 + b / 2 + (if a % 2 = 1 ∧ b % 2 = 1 then 1 else 0) = (a + b) / 2 := by
  split <;> omega

/-- **The halved sum of two words is exact,** and none of its steps leaves the word. -/
theorem halfSum_eq_pure {a b : Int} (ha : IsWord a) (hb : IsWord b) :
    halfSum a b = pure ((a + b) / 2) := by
  unfold IsWord at ha hb
  rw [halfSum, perform_halve (by unfold IsWord; omega), pure_bind,
    perform_halve (by unfold IsWord; omega), pure_bind,
    perform_add (by unfold IsWord; omega), pure_bind,
    perform_add (by rw [half_add_half]; unfold IsWord; omega), half_add_half]

/-- **The guard of sums is exact.** -/
theorem sumGuard_eq_pure {a b : Int} (ha : Value.InRange a) (hb : Value.InRange b) :
    sumGuard a b = pure (if Value.InRange (a + b) then .ok () else .error .outOfRange) := by
  rw [Value.inRange_iff] at ha hb
  rw [sumGuard, halfSum_eq_pure (by unfold IsWord; omega) (by unfold IsWord; omega), pure_bind]
  by_cases high : (a + b) / 2 > halfLargest
  · rw [if_pos high, if_neg]
    rw [Value.inRange_iff]; unfold halfLargest at high; omega
  · rw [if_neg high, perform_negate (by unfold IsWord; omega), pure_bind,
      perform_negate (by unfold IsWord; omega), pure_bind,
      halfSum_eq_pure (by unfold IsWord; omega) (by unfold IsWord; omega), pure_bind]
    by_cases low : (-a + -b) / 2 > halfLargest
    · rw [if_pos low, if_neg]
      rw [Value.inRange_iff]; unfold halfLargest at low; omega
    · rw [if_neg low, if_pos]
      rw [Value.inRange_iff]; unfold halfLargest at high low; omega

theorem sum_eq_pure {a b : Int} (ha : Value.InRange a) (hb : Value.InRange b) :
    sum a b = pure (if Value.InRange (a + b) then .ok (a + b) else .error .outOfRange) := by
  rw [sum, sumGuard_eq_pure ha hb]
  exact guarded_eq_pure fun h => perform_add h.isWord

theorem difference_eq_pure {a b : Int} (ha : Value.InRange a) (hb : Value.InRange b) :
    difference a b = pure (if Value.InRange (a - b) then .ok (a - b) else .error .outOfRange) := by
  rw [difference, perform_negate hb.neg.isWord, pure_bind, sum_eq_pure ha hb.neg,
    Int.sub_eq_add_neg]

/-! ### Products -/

/-- A quotient of a value by anything but zero is a value. -/
theorem inRange_tdiv {a : Int} (ha : Value.InRange a) (b : Int) : Value.InRange (a.tdiv b) := by
  have := Int.natAbs_tdiv_le_natAbs a b
  rw [Value.inRange_iff] at ha ⊢
  omega

/-- The product with a positive factor is a value when the other factor lies between the quotients
of the range. -/
theorem inRange_mul_iff_of_pos {a b : Int} (hb : 0 < b) :
    Value.InRange (a * b) ↔ Value.least.tdiv b ≤ a ∧ a ≤ Value.largest.tdiv b := by
  have upper (c : Int) : c ≤ Value.largest.tdiv b ↔ c * b ≤ Value.largest := by
    rw [Int.tdiv_eq_ediv_of_nonneg (by decide), Int.le_ediv_iff_mul_le hb]
  have mirrored : Value.least.tdiv b = -Value.largest.tdiv b := by
    rw [← Int.neg_tdiv]; rfl
  have lower : Value.least.tdiv b ≤ a ↔ Value.least ≤ a * b := by
    have := upper (-a)
    rw [Int.neg_mul] at this
    rw [mirrored]; unfold Value.least; unfold Value.largest at this ⊢
    omega
  rw [lower, upper]
  rfl

/-- The product with any factor but zero is a value when the other factor lies between the
quotients of the range, which change places when the factor is negative. -/
theorem inRange_mul_iff {a b : Int} (hb : b ≠ 0) :
    Value.InRange (a * b) ↔
      (if b > 0 then Value.least.tdiv b else Value.largest.tdiv b) ≤ a ∧
        a ≤ (if b > 0 then Value.largest.tdiv b else Value.least.tdiv b) := by
  by_cases positive : b > 0
  · rw [if_pos positive, if_pos positive, inRange_mul_iff_of_pos positive]
  · have mirrored : 0 < -b := by omega
    have negated : Value.InRange (a * -b) ↔ _ := inRange_mul_iff_of_pos mirrored
    rw [Int.mul_neg, Int.tdiv_neg, Int.tdiv_neg, ← Int.neg_tdiv, ← Int.neg_tdiv] at negated
    rw [if_neg positive, if_neg positive]
    refine Iff.trans ?_ negated
    constructor
    · intro h
      exact h.neg
    · intro h
      rw [← Int.neg_neg (a * b)]
      exact h.neg

/-- **The guard of products is exact,** on integers of any size. -/
theorem productGuard_eq_pure (a b : Int) :
    productGuard a b = pure (if Value.InRange (a * b) then .ok () else .error .outOfRange) := by
  rw [productGuard]
  by_cases zero : a = 0 ∨ b = 0
  · have product : a * b = 0 := Int.mul_eq_zero.2 zero
    rw [if_pos zero, if_pos]
    rw [product]
    decide
  · obtain ⟨-, hb⟩ := not_or.1 zero
    have towardLargest : IsWord (Value.largest.tdiv b) := (inRange_tdiv (by decide) b).isWord
    have towardLeast : IsWord (Value.least.tdiv b) := (inRange_tdiv (by decide) b).isWord
    have bounds := inRange_mul_iff (a := a) hb
    rw [if_neg zero, perform_divide hb towardLargest, pure_bind, perform_divide hb towardLeast,
      pure_bind]
    dsimp only
    by_cases accepted : Value.InRange (a * b)
    · have inside := bounds.1 accepted
      rw [if_pos accepted, if_neg]
      omega
    · have outside := mt bounds.2 accepted
      rw [if_neg accepted, if_pos]
      omega

theorem product_eq_pure (a b : Int) :
    product a b = pure (if Value.InRange (a * b) then .ok (a * b) else .error .outOfRange) := by
  rw [product, productGuard_eq_pure]
  exact guarded_eq_pure fun h => perform_multiply h.isWord

/-! ### Quotients and digits -/

theorem quotient_eq_pure {a : Int} (ha : Value.InRange a) (b : Int) :
    quotient a b = pure (if b ≠ 0 then .ok (a.tdiv b) else .error .zeroDivisor) := by
  rw [quotient, quotientGuard, ← ite_not]
  exact guarded_eq_pure fun hb => perform_divide hb (inRange_tdiv ha b).isWord

/-- **Appending a digit is exact,** for whatever one byte counted from the digit zero can be. -/
theorem withDigit_eq_pure {number digit : Int} (hn : 0 ≤ number) (hn' : Value.InRange number)
    (hd : 0 ≤ digit) (hd' : digit < 208) :
    withDigit number digit = pure (if Value.InRange (10 * number + digit) then
      .ok (10 * number + digit) else .error .literalTooLarge) := by
  rw [Value.inRange_iff] at hn'
  have room : (9223372036854775807 - digit).tdiv 10 = (9223372036854775807 - digit) / 10 :=
    Int.tdiv_eq_ediv_of_nonneg (by omega)
  have guard : digitGuard number digit =
      pure (if Value.InRange (10 * number + digit) then .ok () else .error .literalTooLarge) := by
    unfold digitGuard Value.largest
    rw [perform_subtract (by unfold IsWord; omega), pure_bind,
      perform_divide (by decide) (by rw [room]; unfold IsWord; omega), pure_bind, room]
    by_cases accepted : Value.InRange (10 * number + digit)
    · rw [if_pos accepted, if_neg (by rw [Value.inRange_iff] at accepted; omega)]
    · rw [if_neg accepted, if_pos (by rw [Value.inRange_iff] at accepted; omega)]
  rw [withDigit, guard]
  refine guarded_eq_pure fun accepted => ?_
  rw [Value.inRange_iff] at accepted
  rw [perform_multiply (by unfold IsWord; omega), pure_bind,
    perform_add (by unfold IsWord; omega), Int.mul_comm]

end Arithmetic

/-- **An operator on values is exact:** it gives the result over the integers if that is a value,
and its own fault otherwise. -/
theorem Operator.apply_eq_pure (operator : Operator) {a b : Int} (ha : Value.InRange a)
    (hb : Value.InRange b) :
    operator.apply a b =
      pure (((operator.result? a b).bind Value.ofInt?).elim (.error operator.fault) .ok) := by
  have checked (v : Int) (fault : Fault) :
      (if Value.InRange v then Except.ok v else .error fault) =
        ((some v).bind Value.ofInt?).elim (.error fault) .ok := by
    by_cases h : Value.InRange v <;> simp [Value.ofInt?, h]
  cases operator with
  | plus => exact (Arithmetic.sum_eq_pure ha hb).trans (congrArg pure (checked ..))
  | minus => exact (Arithmetic.difference_eq_pure ha hb).trans (congrArg pure (checked ..))
  | times => exact (Arithmetic.product_eq_pure a b).trans (congrArg pure (checked ..))
  | dividedBy =>
    refine (Arithmetic.quotient_eq_pure ha b).trans (congrArg pure ?_)
    by_cases zero : b = 0
    · simp [Operator.result?, Operator.fault, zero]
    · simp [Operator.result?, Value.ofInt?, zero, Arithmetic.inRange_tdiv ha b]

end Calculator
