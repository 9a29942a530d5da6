/-
# Decimal numerals

How an integer is written in replies and in the log: its decimal digits, the
most significant first and without leading zeros, after a `-` if it is
negative.  The core function `Nat.toDigits` gives the digits.
-/

namespace Calculator

/-- The decimal numeral of an integer. -/
def numeral : Int → List Char
  | .ofNat n => Nat.toDigits 10 n
  | .negSucc n => '-' :: Nat.toDigits 10 (n + 1)

namespace Numeral

/-- The decimal numeral of an integer, as a string. -/
def text (v : Int) : String := String.ofList (numeral v)

@[simp] theorem toList_text (v : Int) : (text v).toList = numeral v := String.toList_ofList

/-- **A natural number is written with digits alone.** -/
theorem isDigit_of_mem {n : Nat} {c : Char} (h : c ∈ numeral n) : c.isDigit = true :=
  Nat.isDigit_of_mem_toDigits (by decide) (by decide) h

theorem ne_nil (v : Int) : numeral v ≠ [] := by
  cases v with
  | ofNat n => exact Nat.toDigits_ne_nil
  | negSucc n => exact List.cons_ne_nil _ _

theorem minus_not_mem_toDigits (n : Nat) : '-' ∉ Nat.toDigits 10 n := by
  intro sign
  exact absurd (isDigit_of_mem (n := n) sign) (by decide)

/-- **Different integers have different numerals.** -/
theorem text_injective {v w : Int} (h : text v = text w) : v = w := by
  have digits {m n : Nat} (h : Nat.toDigits 10 m = Nat.toDigits 10 n) : m = n := by
    rw [← @Nat.ofDigitChars_ten_toDigits m, h, Nat.ofDigitChars_ten_toDigits]
  have sign {m n : Nat} (h : Nat.toDigits 10 m = '-' :: Nat.toDigits 10 n) : False :=
    minus_not_mem_toDigits m (h ▸ List.mem_cons_self)
  have same : numeral v = numeral w := String.ofList_injective h
  cases v with
  | ofNat m =>
    cases w with
    | ofNat n => exact congrArg Int.ofNat (digits same)
    | negSucc n => exact (sign same).elim
  | negSucc m =>
    cases w with
    | ofNat n => exact (sign same.symm).elim
    | negSucc n => exact congrArg Int.negSucc (Nat.succ.inj (digits (List.cons.inj same).2))

end Numeral
end Calculator
