/-
# What the guards let through

A guard looks at two operands and says, before the operation is carried out,
whether its result is a value.  The guards of sums, differences and products
are right about every pair of operands, and take no step on the way that the
machine cannot give:

| operation | operands | what the guard computes |
| --- | --- | --- |
| `sum`, `difference` | values | half of the sum, rounded down, and of its negation |
| `product` | words | the quotients of the range by the right factor, rounded toward zero |

Half of a sum is found with shifts and one bit.  For a signed word an
arithmetic shift is the half, rounded down (`MachineStep.exact_halve_toInt`),
and the last bit of both operands at once is one exactly if both are odd
(`toInt_and_one`), so the bits give the number that the steps give
(`Arithmetic.toInt_halves`).
-/

import Calculator.Proofs.Arithmetic

namespace Calculator

/-! ### Words as bits -/

theorem isWord_toInt (a : Int64) : IsWord a.toInt := by
  have least := a.le_toInt
  have largest := a.toInt_lt
  unfold IsWord; omega

/-- **Half of a word is its arithmetic shift by one bit.** -/
theorem MachineStep.exact_halve_toInt (a : Int64) : exact (.halve a.toInt) = (a >>> 1).toInt := by
  have shift : (a >>> 1).toBitVec = a.toBitVec.sshiftRight 1 := by
    rw [Int64.toBitVec_shiftRight]; rfl
  rw [← Int64.toInt_toBitVec (a >>> 1), shift, BitVec.toInt_sshiftRight, Int.shiftRight_eq_div_pow]
  rfl

/-- A word is odd when its last bit is set, whatever its sign. -/
theorem toInt_mod_two_eq_one_iff (a : Int64) :
    a.toInt % 2 = 1 ↔ a.toBitVec.getLsbD 0 = true := by
  rw [← Int64.toInt_toBitVec, BitVec.toInt_eq_toNat_cond, BitVec.getLsbD, Nat.testBit_zero,
    decide_eq_true_iff]
  split <;> omega

/-- **The last bit of two words at once** is set when both are odd. -/
theorem toInt_and_one (a b : Int64) :
    (a &&& b &&& 1).toInt = if a.toInt % 2 = 1 ∧ b.toInt % 2 = 1 then 1 else 0 := by
  have bits : (a &&& b &&& 1).toBitVec = (a.toBitVec &&& b.toBitVec) &&& 1#64 := by
    rw [Int64.toBitVec_and, Int64.toBitVec_and]; rfl
  rw [← Int64.toInt_toBitVec, bits, BitVec.and_one_eq_setWidth_ofBool_getLsbD, BitVec.getLsbD_and]
  simp only [toInt_mod_two_eq_one_iff]
  cases a.toBitVec.getLsbD 0 <;> cases b.toBitVec.getLsbD 0 <;> decide

namespace Arithmetic

/-- **The bits of a halved sum:** two shifts and the last bit of both words add up to the half of
the sum, rounded down. -/
theorem toInt_halves (a b : Int64) :
    ((a >>> 1) + (b >>> 1) + (a &&& b &&& 1)).toInt = (a.toInt + b.toInt) / 2 := by
  have left : (a >>> 1).toInt = a.toInt / 2 := (MachineStep.exact_halve_toInt a).symm
  have right : (b >>> 1).toInt = b.toInt / 2 := (MachineStep.exact_halve_toInt b).symm
  have wordLeft := isWord_toInt a
  have wordRight := isWord_toInt b
  unfold IsWord at wordLeft wordRight
  have halves : (a >>> 1 + b >>> 1).toInt = a.toInt / 2 + b.toInt / 2 := by
    rw [Int64.toInt_add, left, right, Int.bmod_eq_of_le (by omega) (by omega)]
  rw [Int64.toInt_add, halves, toInt_and_one, half_add_half,
    Int.bmod_eq_of_le (by omega) (by omega)]

/-! ### Guards -/

/-- **Sums and differences of values are exact.**  The halved sum is the half of the sum, rounded
down, and so are its bits; the guard accepts the operands exactly when their sum is a value; the
sum, and likewise the difference, is given exactly when it is a value and refused as out of range
otherwise.  All of these are pure, so no step on the way leaves the word. -/
theorem sum_and_difference_exact {a b : Int} (ha : Value.InRange a) (hb : Value.InRange b) :
    halfSum a b = pure ((a + b).fdiv 2) ∧
      (∀ x y : Int64, x.toInt = a → y.toInt = b →
        ((x >>> 1) + (y >>> 1) + (x &&& y &&& 1)).toInt = (a + b).fdiv 2) ∧
      sumGuard a b = pure (if Value.InRange (a + b) then .ok () else .error .outOfRange) ∧
      sum a b = pure (if Value.InRange (a + b) then .ok (a + b) else .error .outOfRange) ∧
      difference a b =
        pure (if Value.InRange (a - b) then .ok (a - b) else .error .outOfRange) := by
  have floor : (a + b).fdiv 2 = (a + b) / 2 := Int.fdiv_eq_ediv_of_nonneg _ (by decide)
  rw [floor]
  refine ⟨halfSum_eq_pure ha.isWord hb.isWord, ?_, sumGuard_eq_pure ha hb, sum_eq_pure ha hb,
    difference_eq_pure ha hb⟩
  rintro x y rfl rfl
  exact toInt_halves x y

/-- The least value and one less: the half of the sum is a word, and the sum is no value. -/
theorem sum_and_difference_exact_least :
    Value.InRange Value.least ∧ Value.InRange (-1) ∧
      halfSum Value.least (-1) = pure (-4611686018427387904) ∧
      sum Value.least (-1) = pure (.error .outOfRange) ∧
      difference Value.least (-1) = pure (.ok (-9223372036854775806)) := by
  have least : Value.InRange Value.least := by decide
  have one : Value.InRange (-1) := by decide
  obtain ⟨half, -, -, sum, difference⟩ := sum_and_difference_exact least one
  exact ⟨least, one, half, sum, difference⟩

/-- **Products are exact,** on integers of any size and so on all words.  The guard accepts the
factors exactly when their product is a value, whichever of them it divides by; it is pure, so no
quotient it takes overflows or has a zero divisor.  The product is given exactly when it is a
value and refused as out of range otherwise. -/
theorem product_exact_and_symmetric (a b : Int) :
    productGuard a b = pure (if Value.InRange (a * b) then .ok () else .error .outOfRange) ∧
      product a b = pure (if Value.InRange (a * b) then .ok (a * b) else .error .outOfRange) ∧
      productGuard a b = productGuard b a := by
  refine ⟨productGuard_eq_pure a b, product_eq_pure a b, ?_⟩
  rw [productGuard_eq_pure, productGuard_eq_pure, Int.mul_comm]

/-- The least word is a factor like any other, but it is no value. -/
example : product (-9223372036854775808) 0 = pure (.ok 0) ∧
    product 1 (-9223372036854775808) = pure (.error .outOfRange) := ⟨rfl, rfl⟩

end Arithmetic
end Calculator
