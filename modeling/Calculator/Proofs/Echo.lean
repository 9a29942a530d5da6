/-
# Replies sent back

A reply may come back as a line.  A numeral is then read as the number that it
writes: its digits are the ones of that number, a sign in front negates it, and
the values are symmetric, so the magnitude of the least value is still a literal
that is not too large (`result_calculate_numeral`).  A notice begins with a letter, so
it is malformed as a line, whatever numbers stand in it
(`malformed_mem_faults_calculate_notice`).

So the reply to a reply is the reply itself if that was a numeral, and the
notice of a malformed line otherwise, and from there on nothing changes.
-/

import Calculator.Proofs.Answers
import Calculator.Proofs.Encoding
import Calculator.Proofs.Safety

namespace Calculator

/-! ### Numerals as lines -/

/-- Digits spell the number that they are the digits of. -/
theorem positional_encode_digits {digits : List Char} (h : ∀ c ∈ digits, c.isDigit = true) :
    positional (Utf8.encode digits) = Nat.ofDigitChars 10 digits 0 := by
  have continued (number : Nat) : Literal.continued number (Utf8.encode digits) =
      Nat.ofDigitChars 10 digits number := by
    induction digits generalizing number with
    | nil => rfl
    | cons c digits ih =>
      obtain ⟨hc, h⟩ := List.forall_mem_cons.1 h
      obtain ⟨-, high⟩ := Char.isDigit_iff_toNat.1 hc
      have small : c.toNat < 256 := Nat.lt_of_le_of_lt high (by decide)
      rw [Utf8.encode_cons, Utf8.encodeChar_of_isDigit hc, List.singleton_append,
        Literal.continued_cons, Utf8.toNat_byte small, ih h, Nat.ofDigitChars_cons]
      rfl
  exact continued 0

theorem positional_encode_toDigits (n : Nat) :
    positional (Utf8.encode (Nat.toDigits 10 n)) = n := by
  have digits : ∀ c ∈ Nat.toDigits 10 n, c.isDigit = true :=
    fun c hc => Numeral.isDigit_of_mem (n := n) hc
  rw [positional_encode_digits digits, Nat.ofDigitChars_ten_toDigits]

namespace Numeral

/-- The expression that a numeral writes: a literal, with a sign if the number is negative. -/
def phrase : Int → Phrase .sum
  | .ofNat n => .single (.single (.unsigned (.literal (Nat.toDigits 10 n))))
  | .negSucc n => .single (.single (.negated (.literal (Nat.toDigits 10 (n + 1)))))

theorem nesting_phrase (v : Int) : (phrase v).nesting = 0 := by cases v <;> rfl

theorem layout_phrase (v : Int) : layout (fun _ => []) (phrase v).tokens = numeral v := by
  cases v <;> simp [phrase, Phrase.tokens, layout, Token.text, numeral]

theorem isProper_of_mem_phrase {v : Int} : ∀ token ∈ (phrase v).tokens, token.IsProper := by
  have number (n : Nat) : (Token.number (Nat.toDigits 10 n)).IsProper :=
    ⟨Nat.toDigits_ne_nil, fun c hc => isDigit_of_mem (n := n) hc⟩
  cases v with
  | ofNat n => exact List.forall_mem_singleton.2 (number n)
  | negSucc n => exact List.forall_mem_cons.2 ⟨trivial, List.forall_mem_singleton.2 (number _)⟩

/-- **A numeral spells its expression.** -/
theorem spells_phrase (v : Int) : Spells (numeral v) (phrase v).tokens := by
  rw [← layout_phrase]
  exact spells_layout isProper_of_mem_phrase (fun _ => List.forall_mem_nil _)
    (separates_of_isChain (phrase v).isChain_tokens _)

/-- **The expression of a numeral has the number as its value.** -/
theorem outcome_phrase {v : Int} (h : Value.InRange v) : (phrase v).outcome = .clean v := by
  have literal {n : Nat} (hn : Value.InRange n) :
      (Phrase.literal (Nat.toDigits 10 n)).outcome = .clean (n : Int) := by
    rw [Phrase.outcome, positional_encode_toDigits, Value.ofInt?, if_pos hn]
  cases v with
  | ofNat n => exact literal h
  | negSucc n => exact congrArg (Outcome.map (-·)) (literal (n := n + 1) h.neg)

end Numeral

/-- **A numeral is calculated to its number,** if that is a value. -/
theorem result_calculate_numeral {v : Int} (h : Value.InRange v) :
    (calculate (Numeral.text v)).result = .clean v := by
  have nested : (Numeral.phrase v).nesting ≤ maxNesting := by
    rw [Numeral.nesting_phrase]
    exact Nat.zero_le _
  have spells : Spells (Numeral.text v).toList (Numeral.phrase v).tokens := by
    rw [Numeral.toList_text]
    exact Numeral.spells_phrase v
  rw [result_calculate_of_spells nested spells, Numeral.outcome_phrase h]

/-! ### Notices as lines -/

/-- **A notice is malformed as a line:** the letter it begins with is outside the alphabet. -/
theorem malformed_mem_faults_calculate_notice (notice : Notice) :
    .malformed ∈ (calculate notice.text).result.faults := by
  have first : 'E' ∈ notice.text.toList := List.mem_of_head? notice.head?_text
  have foreign : (Piece.foreign 'E').IsProper := ⟨rfl, rfl, rfl⟩
  rw [result_calculate, Outcome.faults_absorb, FaultSet.mem_union, scan,
    Scan.mem_faults_lexemesFrom, Piece.hasForeign_rowOf_iff]
  exact .inr ⟨rfl, 'E', first, foreign⟩

/-! ### Replies -/

section Reply

variable {limit : Nat} {line : Line}

theorem result_respond_whole (limit : Nat) (text : String) :
    (respond limit (.whole text)).result = reply limit (calculate text).result :=
  result_respond limit (.whole text)

theorem exists_notice_of_ne_numeral
    (other : ∀ v, (respond limit line).result ≠ Numeral.text v) :
    ∃ fault, (respond limit line).result = (Notice.of limit fault).text := by
  rw [result_respond] at other ⊢
  exact (exists_reply_eq limit (received line)).resolve_left (not_exists.2 other)

/-- **A numeral that is replied** writes a value. -/
theorem inRange_of_result_respond {v : Int} (h : (respond limit line).result = Numeral.text v) :
    Value.InRange v := by
  rw [result_respond] at h
  have clean : received line = .clean v := reply_eq_numeral_iff.1 h
  have value : (received line).value = (calculate line.text).result.value := by
    rw [received]
    split <;> rfl
  have safe := (calculate_safe line.text).result
  rw [Outcome.InRange, ← value, clean] at safe
  exact safe

/-- **A numeral that comes back** is replied once more. -/
theorem result_respond_numeral {v : Int} (h : Value.InRange v) (limit : Nat) :
    (respond limit (.whole (Numeral.text v))).result = Numeral.text v := by
  rw [result_respond_whole]
  exact reply_eq_numeral_iff.2 (result_calculate_numeral h)

/-- **A notice that comes back** is answered that it is malformed. -/
theorem result_respond_notice (limit : Nat) (notice : Notice) :
    (respond limit (.whole notice.text)).result = Notice.malformed.text := by
  rw [result_respond_whole]
  refine (@reply_eq_notice_iff limit _ .malformed).2 (FaultSet.mostSevere?_eq_malformed_iff.2 ?_)
  exact ⟨malformed_mem_faults_calculate_notice notice, lineTooLong_not_mem_faults_calculate _⟩

end Reply

/-- **Replies that are sent back come to rest.**  The numeral of a value is calculated to this
value, so a line without faults that was not cut has a reply that is its own reply.  Whatever the
line was, the reply to its reply is that reply if it was a numeral, and that the line is malformed
otherwise; and the reply to this one is the same. -/
theorem respond_comes_to_rest :
    (∀ v, Value.InRange v → ∀ limit, (calculate (reply limit (.clean v))).result = .clean v) ∧
    (∀ (line : Line) (limit : Nat), line.cut = false →
      (calculate line.text).result.isClean = true →
        let answer := (respond limit line).result
        (respond limit (.whole answer)).result = answer) ∧
    ∀ (line : Line) (limit : Nat),
      let first := (respond limit line).result
      let second := (respond limit (.whole first)).result
      let third := (respond limit (.whole second)).result
      third = second ∧ (∀ v, first = Numeral.text v → second = first) ∧
        ((∀ v, first ≠ Numeral.text v) → second = "Error: Invalid syntax.") := by
  have kept {line : Line} {limit : Nat} {v : Int}
      (numeral : (respond limit line).result = Numeral.text v) :
      (respond limit (.whole (respond limit line).result)).result =
        (respond limit line).result := by
    rw [numeral]
    exact result_respond_numeral (inRange_of_result_respond numeral) limit
  refine ⟨fun v h limit => result_calculate_numeral h, ?_, ?_⟩
  · intro line limit uncut clean answer
    have faultless : (calculate line.text).result.faults = ∅ := eq_of_beq clean
    have outcome : received line = .clean (calculate line.text).result.value := by
      rw [received, uncut]
      exact Outcome.eq_clean_iff.2 ⟨rfl, faultless⟩
    exact kept ((result_respond limit line).trans (reply_eq_numeral_iff.2 outcome))
  · intro line limit first second third
    by_cases numeral : ∃ v, first = Numeral.text v
    · obtain ⟨v, numeral⟩ := numeral
      have same : second = first := kept numeral
      refine ⟨?_, fun _ _ => same, fun other => absurd numeral (other v)⟩
      exact congrArg (fun text => (respond limit (.whole text)).result) same
    · have other : ∀ v, first ≠ Numeral.text v := not_exists.1 numeral
      obtain ⟨fault, notice⟩ := exists_notice_of_ne_numeral other
      have answered : second = Notice.malformed.text :=
        (congrArg (fun text => (respond limit (.whole text)).result) notice).trans
          (result_respond_notice limit _)
      have again : third = Notice.malformed.text :=
        (congrArg (fun text => (respond limit (.whole text)).result) answered).trans
          (result_respond_notice limit .malformed)
      exact ⟨again.trans answered.symm, fun v same => absurd same (other v), fun _ => answered⟩

/-- The least value is read back, a reply to a product is its own reply, and the notice of a line
that was cut is malformed. -/
theorem respond_comes_to_rest_least :
    Value.InRange Value.least ∧
      (calculate (reply 3 (.clean Value.least))).result = .clean Value.least ∧
      (calculate "6*7").result.isClean = true ∧
      (respond 3 (.whole (respond 3 (.whole "6*7")).result)).result =
        (respond 3 (.whole "6*7")).result ∧
      (∀ v, (respond 3 ⟨"1+1", true⟩).result ≠ Numeral.text v) ∧
      (respond 3 (.whole (respond 3 ⟨"1+1", true⟩).result)).result = "Error: Invalid syntax." := by
  obtain ⟨numerals, clean, any⟩ := respond_comes_to_rest
  have product : (calculate "6*7").result.isClean = true := by decide +kernel
  have cut : ∀ v, (respond 3 ⟨"1+1", true⟩).result ≠ Numeral.text v := by
    intro v
    rw [result_respond_of_cut rfl]
    exact Notice.text_ne_numeral _ v
  exact ⟨by decide, numerals _ (by decide) 3, product, clean (.whole "6*7") 3 rfl product, cut,
    (any ⟨"1+1", true⟩ 3).2.2 cut⟩

end Calculator
