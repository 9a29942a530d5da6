/-
# The digits of a literal

A literal is read from the left, one digit after another, and never past the
first digit that makes it too large.  Its number is the sum of its digits, each
times its power of ten, which is what the library calls `Nat.ofDigits 10` of
the digits from the right (`positional_eq_ofDigits`).

Reading holds a number after every digit.  These are the numbers that the
beginnings of the literal spell, as far as they are values
(`Literal.values_accumulate`): a digit is refused exactly when the number that
ends in it is too large, and since the numbers never get smaller
(`Literal.le_continued`), nothing behind it could have been taken.
-/

import Calculator.Proofs.Logging
import Calculator.Proofs.Safety
import Mathlib.Data.Nat.Digits.Defs

namespace Calculator

/-! ### Numbers -/

/-- **Bytes spell the sum of their digits times the powers of ten,** counted from the right. -/
theorem positional_eq_ofDigits (bytes : List UInt8) :
    positional bytes = Nat.ofDigits 10 (bytes.reverse.map fun byte => byte.toNat - 48) := by
  rw [Nat.ofDigits_eq_foldr, List.foldr_map, List.foldr_reverse, positional]
  simp only [Nat.cast_id, Nat.add_comm]

/-- **Zeros in front of digits** add nothing to the number. -/
theorem positional_zeros (zeros : Nat) (digits : List Char) :
    positional (Utf8.encode (List.replicate zeros '0' ++ digits)) =
      positional (Utf8.encode digits) := by
  induction zeros with
  | zero => rfl
  | succ zeros ih =>
    rw [List.replicate_succ, List.cons_append, Utf8.encode_cons, ← ih]
    rfl

/-- A digit zero is the least byte that a literal may have. -/
theorem le_of_mem_encode_zeros {digits : List Char} (zeros : Nat)
    (h : ∀ byte ∈ Utf8.encode digits, 48 ≤ byte.toNat) :
    ∀ byte ∈ Utf8.encode (List.replicate zeros '0' ++ digits), 48 ≤ byte.toNat := by
  rw [Utf8.encode_append]
  refine List.forall_mem_append.2 ⟨Utf8.le_of_mem_encode ?_, h⟩
  intro c hc
  rw [List.eq_of_mem_replicate hc]
  rfl

/-! ### Reading -/

namespace Literal

/-- **Reading holds the numbers of the beginnings,** the number so far among them, up to the first
that is too large. -/
theorem values_accumulate {bytes : List UInt8} (hb : ∀ byte ∈ bytes, 48 ≤ byte.toNat)
    {number : Nat} (hn : Value.InRange number) :
    (number : Int) :: (accumulate number bytes).values =
      (bytes.inits.map fun read => (continued number read : Int)).filter
        fun v => decide (Value.InRange v) := by
  induction bytes generalizing number with
  | nil => simp [accumulate, List.inits, hn]
  | cons byte rest ih =>
    obtain ⟨hd, hr⟩ := List.forall_mem_cons.1 hb
    have later : (rest.inits.map (byte :: ·)).map (fun read => (continued number read : Int)) =
        rest.inits.map fun read =>
          (continued (10 * number + (byte.toNat - 48)) read : Int) := by
      rw [List.map_map]; rfl
    rw [List.inits, List.map_cons, continued_nil, later, List.filter_cons,
      if_pos (decide_eq_true hn), accumulate_cons hn hd]
    refine congrArg _ ?_
    by_cases fits : Value.InRange ((10 * number + (byte.toNat - 48) : Nat) : Int)
    · rw [if_pos fits, ← ih hr fits]
      rfl
    · -- Every later number is at least the one that is too large.
      rw [if_neg fits, Run.values_pure, eq_comm, List.filter_eq_nil_iff, List.forall_mem_map]
      intro read _
      have := le_continued (10 * number + (byte.toNat - 48)) read
      rw [Value.inRange_natCast_iff] at fits
      rw [decide_eq_true_iff, Value.inRange_natCast_iff]
      omega

end Literal

section Run

variable {digits : List Char} (h : ∀ byte ∈ Utf8.encode digits, 48 ≤ byte.toNat) (column : Nat)
include h

theorem result_literal_eq_ite :
    (literal digits column).result =
      if Value.InRange (positional (Utf8.encode digits)) then
        .clean (positional (Utf8.encode digits))
      else .flagged Value.placeholder .literalTooLarge := by
  rw [result_literal h, Phrase.outcome, Value.ofInt?]
  by_cases fits : Value.InRange (positional (Utf8.encode digits))
  · rw [if_pos fits, if_pos fits]
  · rw [if_neg fits, if_neg fits]

/-- **A literal is logged exactly when it is too large.** -/
theorem events_literal :
    (literal digits column).events =
      if Value.InRange (positional (Utf8.encode digits)) then []
      else [.literalTooLarge column digits] := by
  have silent := (Literal.refusesWith_accumulate 0 (Utf8.encode digits)).events_eq
  simp only [literal, Run.events_bind, Run.result_hold, Run.events_hold, silent,
    Literal.result_accumulate_encode h]
  by_cases fits : Value.InRange (positional (Utf8.encode digits))
  · rw [if_pos fits, if_pos fits]; rfl
  · rw [if_neg fits, if_neg fits]; rfl

/-- **What is held of a literal** are the numbers that its beginnings spell, as long as they are
not too large, and the placeholder behind them if the literal is. -/
theorem values_literal :
    (literal digits column).values =
      ((Utf8.encode digits).inits.map fun read => (positional read : Int)).filter
          (fun v => decide (Value.InRange v)) ++
        if Value.InRange (positional (Utf8.encode digits)) then [] else [Value.placeholder] := by
  have held := @Literal.values_accumulate _ h 0 (by decide)
  simp only [literal, Run.values_bind, Run.result_hold, Run.values_hold,
    Literal.result_accumulate_encode h]
  rw [← List.append_assoc]
  refine congrArg₂ _ held ?_
  by_cases fits : Value.InRange (positional (Utf8.encode digits))
  · rw [if_pos fits, if_pos fits]; rfl
  · rw [if_neg fits, if_neg fits]; rfl

end Run

/-- **A literal of any length is read exactly,** and no further than is needed.  Let its number be
the sum of its digits times their powers of ten; then the literal has this value, or is too large
and stands for the placeholder, which is logged once.  No step overflows.  A number that a
beginning of the literal spells is held exactly if it is not too large, so no digit is refused too
early or taken too late.  Zeros in front change nothing. -/
theorem literal_exact {digits : List Char} (h : ∀ byte ∈ Utf8.encode digits, 48 ≤ byte.toNat)
    (column : Nat) :
    let number (bytes : List UInt8) : Int :=
      (Nat.ofDigits 10 (bytes.reverse.map fun byte => byte.toNat - 48) : Nat)
    let whole := number (Utf8.encode digits)
    (literal digits column).result =
        (if whole ≤ Value.largest then ⟨whole, ∅⟩ else ⟨0, {.literalTooLarge}⟩) ∧
      (literal digits column).events =
        (if whole ≤ Value.largest then [] else [.literalTooLarge column digits]) ∧
      (literal digits column).overflows = [] ∧
      (literal digits column).values =
        ((Utf8.encode digits).inits.map number).filter (fun v => decide (v ≤ Value.largest)) ++
          (if whole ≤ Value.largest then [] else [0]) ∧
      ∀ zeros, (literal (List.replicate zeros '0' ++ digits) column).result =
        (literal digits column).result := by
  intro number whole
  have small (n : Nat) : (n : Int) ≤ Value.largest ↔ Value.InRange n :=
    (Value.inRange_natCast_iff.trans Int.ofNat_le.symm).symm
  simp only [whole, number, ← positional_eq_ofDigits, small]
  refine ⟨result_literal_eq_ite h column, events_literal h column,
    (literal_safe h column).overflows, ?_, ?_⟩
  · rw [values_literal h column]
    refine congrArg (· ++ _) (List.filter_congr ?_)
    rw [List.forall_mem_map]
    intro read _
    rw [decide_eq_decide, small]
  · intro zeros
    rw [result_literal_eq_ite h, result_literal_eq_ite (le_of_mem_encode_zeros zeros h),
      positional_zeros]

/-- One more than the largest value, with zeros in front and without. -/
theorem literal_exact_past_largest :
    let digits := "9223372036854775808".toList
    (∀ byte ∈ Utf8.encode digits, 48 ≤ byte.toNat) ∧
      (literal digits 4).result = ⟨0, {.literalTooLarge}⟩ ∧
      (literal digits 4).events = [.literalTooLarge 4 digits] ∧
      (literal (List.replicate 30 '0' ++ digits) 4).result = ⟨0, {.literalTooLarge}⟩ := by
  intro digits
  have h : ∀ byte ∈ Utf8.encode digits, 48 ≤ byte.toNat :=
    Utf8.le_of_mem_encode (by simp [digits])
  obtain ⟨result, events, -, -, zeros⟩ := literal_exact h 4
  rw [if_neg (by decide)] at result events
  exact ⟨h, result, events, (zeros 30).trans result⟩

end Calculator
