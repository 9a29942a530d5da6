/-
# Exact literals

A literal of any length has its positional value when that is a value, and is
too large otherwise.  The digits are read from the left and the number never
shrinks on the way (`Literal.le_continued`), so the first digit that is refused
decides: whatever follows it, the whole literal would be too large as well.

`Literal.accumulate_cons` says what one digit does, and everything about whole
literals is an induction with it.
-/

import Calculator.Literal
import Calculator.Phrase
import Calculator.Proofs.Arithmetic

namespace Calculator

open Run (perform perform_eq_pure)

namespace Literal

/-- The number that begins with `number` and goes on with bytes as its digits. -/
def continued (number : Nat) (bytes : List UInt8) : Nat :=
  bytes.foldl (fun number byte => 10 * number + (byte.toNat - 48)) number

@[simp] theorem continued_nil (number : Nat) : continued number [] = number := rfl

@[simp] theorem continued_cons (number : Nat) (byte : UInt8) (bytes : List UInt8) :
    continued number (byte :: bytes) = continued (10 * number + (byte.toNat - 48)) bytes :=
  List.foldl_cons ..

/-- **More digits never make a number smaller.** -/
theorem le_continued (number : Nat) (bytes : List UInt8) : number ≤ continued number bytes := by
  induction bytes generalizing number with
  | nil => exact Nat.le_refl number
  | cons byte bytes ih =>
    have := ih (10 * number + (byte.toNat - 48))
    rw [continued_cons]
    omega

theorem perform_digitValue {byte : UInt8} (h : 48 ≤ byte.toNat) :
    perform (.digitValue byte) = pure ((byte.toNat - 48 : Nat) : Int) := by
  rw [@perform_eq_pure (.digitValue byte) h, MachineStep.exact, Int.ofNat_sub h]
  rfl

/-- **What one digit does:** it is appended if the longer number is not too large, and ends the
literal otherwise. -/
theorem accumulate_cons {number : Nat} (hn : Value.InRange number) {byte : UInt8}
    (hb : 48 ≤ byte.toNat) (rest : List UInt8) :
    accumulate number (byte :: rest) =
      if Value.InRange ((10 * number + (byte.toNat - 48) : Nat) : Int) then do
        let longer ← Run.hold ((10 * number + (byte.toNat - 48) : Nat) : Int)
        accumulate longer rest
      else pure (.error .literalTooLarge) := by
  have small : byte.toNat < 256 := byte.toNat_lt
  have cast : ((10 * number + (byte.toNat - 48) : Nat) : Int) =
      10 * (number : Int) + ((byte.toNat - 48 : Nat) : Int) := by omega
  rw [accumulate, perform_digitValue hb, pure_bind,
    Arithmetic.withDigit_eq_pure (by omega) hn (by omega) (by omega), pure_bind, cast]
  by_cases fits : Value.InRange (10 * (number : Int) + ((byte.toNat - 48 : Nat) : Int))
  · rw [if_pos fits, if_pos fits]
  · rw [if_neg fits, if_neg fits]

end Literal

/-- A number that is counted up from zero is a value when it is at most the largest. -/
theorem Value.inRange_natCast_iff {n : Nat} : InRange n ↔ n ≤ 9223372036854775807 := by
  rw [inRange_iff]
  omega

/-- **Accumulation is exact:** it gives the whole number, or the fault of a number that is too
large. -/
theorem Literal.result_accumulate {bytes : List UInt8} (hb : ∀ byte ∈ bytes, 48 ≤ byte.toNat)
    {number : Nat} (hn : Value.InRange number) :
    (accumulate number bytes).result =
      if Value.InRange (continued number bytes) then .ok (continued number bytes : Int)
      else .error .literalTooLarge := by
  induction bytes generalizing number with
  | nil => rw [continued_nil, if_pos hn]; rfl
  | cons byte rest ih =>
    obtain ⟨hd, hr⟩ := List.forall_mem_cons.1 hb
    rw [accumulate_cons hn hd, continued_cons]
    by_cases fits : Value.InRange ((10 * number + (byte.toNat - 48) : Nat) : Int)
    · rw [if_pos fits]
      exact ih hr fits
    · have := le_continued (10 * number + (byte.toNat - 48)) rest
      rw [if_neg fits, if_neg]
      · rfl
      · rw [Value.inRange_natCast_iff] at fits ⊢
        omega

/-- The digits of a literal are accumulated to the number that they spell. -/
theorem Literal.result_accumulate_encode {digits : List Char}
    (h : ∀ byte ∈ Utf8.encode digits, 48 ≤ byte.toNat) :
    (accumulate 0 (Utf8.encode digits)).result =
      if Value.InRange (positional (Utf8.encode digits)) then
        .ok (positional (Utf8.encode digits) : Int)
      else .error .literalTooLarge :=
  @Literal.result_accumulate _ h 0 (by decide)

/-- **A literal of any length is exact.** -/
theorem result_literal {digits : List Char}
    (h : ∀ byte ∈ Utf8.encode digits, 48 ≤ byte.toNat) (column : Nat) :
    (literal digits column).result = (Phrase.literal digits).outcome := by
  simp only [literal, Run.result_bind, Run.result_hold, Literal.result_accumulate_encode h,
    Phrase.outcome, Value.ofInt?]
  by_cases fits : Value.InRange (positional (Utf8.encode digits))
  · rw [if_pos fits, if_pos fits]; rfl
  · rw [if_neg fits, if_neg fits]; rfl

/-- A digit is encoded as the one byte that counts it from the digit zero. -/
theorem Utf8.encodeChar_of_isDigit {c : Char} (h : c.isDigit = true) :
    String.utf8EncodeChar c = [UInt8.ofNat c.toNat] := by
  obtain ⟨-, high⟩ := Char.isDigit_iff_toNat.1 h
  have high : c.toNat ≤ 57 := high
  exact Utf8.encodeChar_of_lt (by omega)

theorem Utf8.le_of_mem_encode {digits : List Char} (h : ∀ c ∈ digits, c.isDigit = true) :
    ∀ byte ∈ Utf8.encode digits, 48 ≤ byte.toNat := by
  intro byte hb
  obtain ⟨c, hc, hb⟩ := List.mem_flatMap.1 hb
  obtain ⟨low, high⟩ := Char.isDigit_iff_toNat.1 (h c hc)
  have low : 48 ≤ c.toNat := low
  have high : c.toNat ≤ 57 := high
  rw [Utf8.encodeChar_of_isDigit (h c hc), List.mem_singleton] at hb
  rw [hb, UInt8.toNat_ofNat']
  omega

end Calculator
