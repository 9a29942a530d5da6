/-
# No step overflows

Whatever the line, every machine step of its calculation fits the machine and
every value held on the way is in range.  The two go together: a step fits
because the values it works on are in range, and a value is in range because it
came out of a guarded step or is the placeholder.

`run.Ensures P` says all that is needed of a run: it is safe in this sense and
what it gives has the property `P`.  Runs are put together by `Ensures.bind`,
where the second run may rely on the property of the first.  What every rule
ensures, on lexemes that can be read, is an outcome whose value is in range and
a rest that can be read (`Rule.IsSafe`); it does so on malformed lines as well,
so the operand of a rule may be assumed to be safe and nothing else.  Nesting is
counted up from zero and bounded by the levels that are left, so the count does
not leave its word either.

What is held is no less than what is found: every rule holds the value of its
outcome (`Rule.HoldsValue`), so that the values in range are those that the
outcomes on the way are made of.
-/

import Calculator.Proofs.Calculation

namespace Calculator

open Run (perform perform_eq_pure)

/-! ### Safe runs -/

/-- **A run is safe and ensures a property of its result:** none of its steps overflows and all
values it holds are in range. -/
structure Run.Ensures {α : Type} (property : α → Prop) (run : Run α) : Prop where
  /-- No step overflows. -/
  overflows : run.overflows = []
  /-- Every value on the way is in range. -/
  inRange : ∀ v ∈ run.values, Value.InRange v
  /-- The result has the property. -/
  result : property run.result

namespace Run.Ensures

variable {α β : Type} {P : α → Prop} {Q : β → Prop}

theorem pure {a : α} (h : P a) : (pure a : Run α).Ensures P := by
  refine ⟨rfl, ?_, h⟩
  intro v hv
  cases hv

/-- A value that is in range may be held. -/
theorem hold {value : Int} (hv : Value.InRange value) : (Run.hold value).Ensures (· = value) := by
  refine ⟨rfl, ?_, rfl⟩
  intro v hm
  rwa [List.mem_singleton.1 hm]

/-- **Safe runs compose,** and the second relies on what the first ensures. -/
theorem bind {first : Run α} {next : α → Run β} (h : first.Ensures P)
    (h' : ∀ a, P a → (next a).Ensures Q) : (first >>= next).Ensures Q := by
  have second := h' first.result h.result
  refine ⟨?_, ?_, second.result⟩
  · rw [Run.overflows_bind, h.overflows, second.overflows, List.append_nil]
  · intro v hv
    rw [Run.values_bind] at hv
    rcases List.mem_append.1 hv with hv | hv
    · exact h.inRange v hv
    · exact second.inRange v hv

theorem map {run : Run α} {f : α → β} (h : run.Ensures P) (h' : ∀ a, P a → Q (f a)) :
    (f <$> run).Ensures Q := by
  refine ⟨?_, ?_, h' _ h.result⟩
  · rw [Run.overflows_map, h.overflows]
  · rw [Run.values_map]
    exact h.inRange

/-- Logging is safe. -/
theorem logged {event : Event} {run : Run α} (h : run.Ensures P) :
    (Run.report event >>= fun _ => run).Ensures P := by
  refine ⟨?_, ?_, h.result⟩
  · rw [Run.overflows_bind, Run.overflows_report, List.nil_append, h.overflows]
  · rw [Run.values_bind, Run.values_report, List.nil_append]
    exact h.inRange

/-- A result made from a value in range that is held. -/
theorem holding {value : Int} {f : Int → β} (hv : Value.InRange value) (h : Q (f value)) :
    (Run.hold value >>= fun held => Pure.pure (f held)).Ensures Q := by
  refine (hold hv).bind ?_
  rintro held rfl
  exact pure h

/-- A safe run ensures that its result is the one it has. -/
theorem exactly {run : Run α} (h : run.Ensures P) : run.Ensures (· = run.result) :=
  ⟨h.overflows, h.inRange, rfl⟩

end Run.Ensures

/-- An outcome whose value is in range. -/
def Outcome.InRange (outcome : Outcome Int) : Prop := Value.InRange outcome.value

/-! ### Literals and operations -/

/-- **Digits are accumulated safely.** -/
theorem Literal.accumulate_safe {bytes : List UInt8} (hb : ∀ byte ∈ bytes, 48 ≤ byte.toNat)
    {number : Nat} (hn : Value.InRange number) :
    (accumulate number bytes).Ensures fun read => ∀ v, read = .ok v → Value.InRange v := by
  induction bytes generalizing number with
  | nil =>
    refine .pure ?_
    rintro v ⟨⟩
    exact hn
  | cons byte rest ih =>
    obtain ⟨hd, hr⟩ := List.forall_mem_cons.1 hb
    rw [accumulate_cons hn hd]
    by_cases fits : Value.InRange ((10 * number + (byte.toNat - 48) : Nat) : Int)
    · rw [if_pos fits]
      refine (Run.Ensures.hold fits).bind ?_
      rintro longer rfl
      exact ih hr fits
    · rw [if_neg fits]
      refine .pure ?_
      rintro v ⟨⟩

theorem literal_safe {digits : List Char} (h : ∀ byte ∈ Utf8.encode digits, 48 ≤ byte.toNat)
    (column : Nat) : (literal digits column).Ensures Outcome.InRange := by
  unfold literal
  refine (Run.Ensures.hold (by decide)).bind ?_
  rintro zero rfl
  refine (@Literal.accumulate_safe _ h 0 (by decide)).bind ?_
  rintro (fault | number) inRange
  · exact .logged (.holding Value.inRange_placeholder Value.inRange_placeholder)
  · exact .pure (inRange number rfl)

namespace Outcome

/-- **Negation is safe.** -/
theorem negate_safe {operand : Outcome Int} (h : operand.InRange) :
    operand.negate.Ensures InRange := by
  have step : perform (.negate operand.value) = Pure.pure (-operand.value) :=
    Arithmetic.perform_negate h.neg.isWord
  rw [negate, step, pure_bind]
  exact .holding h.neg h.neg

/-- **Operators are safe,** on operands that are values or placeholders. -/
theorem combine_safe {left right : Outcome Int} (operator : Operator) (hl : left.InRange)
    (hr : right.InRange) (column : Nat) :
    (left.combine operator right column).Ensures InRange := by
  simp only [combine, operator.apply_eq_pure hl hr, pure_bind]
  cases found : (operator.result? left.value right.value).bind Value.ofInt? with
  | some value =>
    obtain ⟨exact, -, h⟩ := Option.bind_eq_some_iff.1 found
    obtain ⟨inRange, rfl⟩ := Value.ofInt?_eq_some_iff.1 h
    exact .holding inRange inRange
  | none =>
    exact .logged (.holding Value.inRange_placeholder Value.inRange_placeholder)

end Outcome

/-! ### Rules -/

namespace Rule

/-- **A rule is safe** when it takes no step that overflows, on lexemes that can be read, and the
value it finds is in range. -/
def IsSafe (rule : Rule) : Prop :=
  ∀ rest : Rest, rest.IsReadable → (rule.run rest).Ensures fun parsed => parsed.outcome.InRange

theorem isSafe_tooDeep (depth : Nat) : (tooDeep depth).IsSafe := by
  intro rest readable
  exact .logged (.holding Value.inRange_placeholder Value.inRange_placeholder)

/-- One more group is safe as long as the depth fits its word. -/
theorem isSafe_group {depth : Nat} (hd : depth + 1 < 18446744073709551616) {inner : Rule}
    (h : inner.IsSafe) : (group depth inner).IsSafe := by
  intro rest readable
  have step : perform (.deepen depth) = pure ((depth : Int) + 1) := perform_eq_pure hd
  simp only [group, step, pure_bind]
  refine (h rest.advance readable.advance).bind ?_
  rintro ⟨outcome, later⟩ inRange
  dsimp only
  split
  · exact .pure inRange
  · exact .logged (.pure inRange)

theorem isSafe_operand {group : Rule} (h : group.IsSafe) : (operand group).IsSafe := by
  intro rest readable
  unfold operand
  dsimp only
  split
  · next digits number =>
    exact (literal_safe (readable.of_token? number) rest.column).map fun _ inRange => inRange
  · exact h rest readable
  · exact .logged (.holding Value.inRange_placeholder Value.inRange_placeholder)

theorem isSafe_signed {operand : Rule} (h : operand.IsSafe) : (signed operand).IsSafe := by
  intro rest readable
  unfold signed
  dsimp only
  split
  · refine (h rest.advance readable.advance).bind ?_
    rintro ⟨outcome, later⟩ inRange
    exact (Outcome.negate_safe inRange).map fun _ negated => negated
  · exact h rest readable

/-- **The links of a chain are safe,** one after another. -/
theorem links_safe {precedence : Precedence} {operand : Rule} (h : operand.IsSafe)
    {left : Outcome Int} {rest : Rest} :
    left.InRange → rest.IsReadable →
      (links precedence operand left rest).Ensures fun parsed => parsed.outcome.InRange := by
  fun_induction links precedence operand left rest with
  | case1 left rest none =>
    intro inRange _
    exact .pure inRange
  | case2 left rest operator some right shorter ih =>
    intro inRange readable
    have taken : right.Ensures fun parsed => parsed.outcome.InRange := h _ readable.advance
    have later : right.result.rest.IsReadable :=
      readable.advance.of_isSuffix (operand.isSuffix rest.advance)
    refine taken.bind ?_
    intro _ _
    refine (Outcome.combine_safe operator inRange taken.result rest.column).bind ?_
    intro joined held
    exact ih joined held later

theorem isSafe_chain {precedence : Precedence} {operand : Rule} (h : operand.IsSafe) :
    (chain precedence operand).IsSafe := by
  intro rest readable
  have first := h rest readable
  have later : (operand.run rest).result.rest.IsReadable :=
    readable.of_isSuffix (operand.isSuffix rest)
  refine first.exactly.bind ?_
  rintro parsed rfl
  exact links_safe h first.result later

/-- **Atoms are safe at every depth** that leaves room for the levels above it. -/
theorem isSafe_atomWithin {levels depth : Nat} (h : levels + depth < 18446744073709551616) :
    (atomWithin levels depth).IsSafe := by
  induction levels generalizing depth with
  | zero => exact isSafe_operand (isSafe_tooDeep depth)
  | succ levels ih =>
    have deeper : (atomWithin levels (depth + 1)).IsSafe := ih (by omega)
    exact isSafe_operand (isSafe_group (by omega)
      (isSafe_chain (isSafe_chain (isSafe_signed deeper))))

theorem isSafe_sum : (sum 0).IsSafe :=
  isSafe_chain (isSafe_chain (isSafe_signed (isSafe_atomWithin (by decide))))

/-- **A rule stops at one of the positions** behind the lexemes that there were. -/
theorem exists_position (rule : Rule) (rest : Rest) :
    ∃ position ≤ rest.remaining,
      (rule.run rest).result.rest = ⟨rest.lexemes.drop position, rest.stop⟩ ∧
        (rule.run rest).result.rest.remaining = rest.remaining - position := by
  obtain ⟨taken, stop⟩ := rule.isSuffix rest
  have position := List.suffix_iff_eq_drop.1 taken
  have shorter := taken.length_le
  refine ⟨rest.remaining - (rule.run rest).result.rest.remaining, Nat.sub_le .., ?_, ?_⟩
  · rw [Rest.mk.injEq]
    exact ⟨position, stop⟩
  · unfold Rest.remaining
    omega

end Rule

/-! ### What is held -/

theorem Literal.mem_values_accumulate {bytes : List UInt8} {number v : Int}
    (h : (accumulate number bytes).result = .ok v) :
    v = number ∨ v ∈ (accumulate number bytes).values := by
  induction bytes generalizing number with
  | nil => exact .inl (Except.ok.inj h).symm
  | cons byte rest ih =>
    simp only [accumulate, Run.result_bind, Run.values_bind] at h ⊢
    cases found : (Arithmetic.withDigit number (Run.perform (.digitValue byte)).result).result with
    | error fault =>
      rw [found] at h
      cases h
    | ok longer =>
      rw [found] at h
      refine .inr (List.mem_append_right _ (List.mem_append_right _ ?_))
      rcases ih h with rfl | later
      · exact List.mem_append_left _ (List.mem_singleton.2 rfl)
      · exact List.mem_append_right _ later

/-- **The value of a literal is held.** -/
theorem value_mem_values_literal (digits : List Char) (column : Nat) :
    (literal digits column).result.value ∈ (literal digits column).values := by
  simp only [literal, Run.result_bind, Run.values_bind]
  cases found : (Literal.accumulate (Run.hold 0).result (Utf8.encode digits)).result with
  | error fault => simp
  | ok number =>
    rcases Literal.mem_values_accumulate found with rfl | later
    · exact List.mem_append_left _ (List.mem_singleton.2 rfl)
    · exact List.mem_append_right _ (List.mem_append_left _ later)

theorem Outcome.value_mem_values_combine (operator : Operator) (left right : Outcome Int)
    (column : Nat) :
    (left.combine operator right column).result.value ∈
      (left.combine operator right column).values := by
  simp only [combine, Run.result_bind, Run.values_bind]
  refine List.mem_append_right _ ?_
  cases (operator.apply left.value right.value).result with
  | error fault => simp
  | ok value => simp

namespace Rule

/-- **A rule holds what it finds:** the value of its outcome is among those held on the way. -/
def HoldsValue (rule : Rule) : Prop :=
  ∀ rest, (rule.run rest).result.outcome.value ∈ (rule.run rest).values

theorem holdsValue_tooDeep (depth : Nat) : (tooDeep depth).HoldsValue := by
  intro rest
  simp [tooDeep]

theorem holdsValue_group (depth : Nat) {inner : Rule} (h : inner.HoldsValue) :
    (group depth inner).HoldsValue := by
  intro rest
  have held := h rest.advance
  simp only [group, Run.result_bind, Run.values_bind]
  refine List.mem_append_right _ ?_
  split <;> exact List.mem_append_left _ held

theorem holdsValue_operand {group : Rule} (h : group.HoldsValue) : (operand group).HoldsValue := by
  intro rest
  unfold operand
  dsimp only
  split
  · next digits number =>
    rw [Run.result_map, Run.values_map]
    exact value_mem_values_literal digits rest.column
  · exact h rest
  · simp

theorem holdsValue_signed {operand : Rule} (h : operand.HoldsValue) :
    (signed operand).HoldsValue := by
  intro rest
  unfold signed
  dsimp only
  split
  · simp [Outcome.negate]
  · exact h rest

/-- The value of a chain was held by one of its links, or is the one that the links began with. -/
theorem value_links (precedence : Precedence) (operand : Rule) (left : Outcome Int) (rest : Rest) :
    (links precedence operand left rest).result.outcome.value = left.value ∨
      (links precedence operand left rest).result.outcome.value ∈
        (links precedence operand left rest).values := by
  fun_induction links precedence operand left rest with
  | case1 left rest none => exact .inl rfl
  | case2 left rest operator some right shorter ih =>
    refine .inr (List.mem_append_right _ ?_)
    rcases ih (left.combine operator right.result.outcome rest.column).result with same | later
    · refine List.mem_append_left _ ?_
      exact same ▸ left.value_mem_values_combine operator right.result.outcome rest.column
    · exact List.mem_append_right _ later

theorem holdsValue_chain {precedence : Precedence} {operand : Rule} (h : operand.HoldsValue) :
    (chain precedence operand).HoldsValue := by
  intro rest
  rcases value_links precedence operand (operand.run rest).result.outcome
    (operand.run rest).result.rest with same | later
  · exact List.mem_append_left _ (same ▸ h rest)
  · exact List.mem_append_right _ later

theorem holdsValue_atomWithin (levels depth : Nat) : (atomWithin levels depth).HoldsValue := by
  induction levels generalizing depth with
  | zero => exact holdsValue_operand (holdsValue_tooDeep depth)
  | succ levels ih =>
    exact holdsValue_operand (holdsValue_group depth
      (holdsValue_chain (holdsValue_chain (holdsValue_signed (ih (depth + 1))))))

theorem holdsValue_sum (depth : Nat) : (sum depth).HoldsValue :=
  holdsValue_chain (holdsValue_chain (holdsValue_signed (holdsValue_atomWithin _ depth)))

end Rule

/-! ### Lines -/

/-- The scan takes no machine step and holds no value. -/
theorem Scan.lexemesFrom_safe (column : Nat) (line : List Char) :
    (lexemesFrom column line).Ensures fun _ => True := by
  induction line generalizing column with
  | nil => exact .pure trivial
  | cons c line ih =>
    rcases Piece.kinds c with blank | digit | ⟨token, mark⟩ | foreign
    · rw [lexemesFrom_blank blank]
      exact ih _
    · rw [lexemesFrom_digit digit]
      exact (ih _).map fun _ _ => trivial
    · rw [lexemesFrom_mark mark]
      exact (ih _).map fun _ _ => trivial
    · rw [lexemesFrom_foreign foreign]
      exact .logged ((ih _).map fun _ _ => trivial)

theorem parse_safe {lexemes : List Lexeme} (stop : Nat)
    (readable : ∀ lexeme ∈ lexemes, lexeme.token.IsReadable) :
    (parse lexemes stop).Ensures Outcome.InRange := by
  have tokens : Rest.IsReadable ⟨lexemes, stop⟩ := List.forall_mem_map.2 readable
  refine (Rule.isSafe_sum _ tokens).bind ?_
  rintro ⟨outcome, rest⟩ inRange
  dsimp only
  split
  · exact .pure inRange
  · exact .logged (.pure inRange)

theorem calculate_safe (line : String) : (calculate line).Ensures Outcome.InRange := by
  refine (Scan.lexemesFrom_safe 0 line.toList).exactly.bind ?_
  rintro lexemes rfl
  refine (parse_safe _ isReadable_of_mem_scan).bind ?_
  intro parsed inRange
  exact .logged (.pure inRange)

/-- The value of a line is held. -/
theorem value_mem_values_calculate (line : String) :
    (calculate line).result.value ∈ (calculate line).values := by
  have held := Rule.holdsValue_sum 0
    ⟨(scan line.toList).result.value, Utf8.size line.toList⟩
  refine List.mem_append_right _ (List.mem_append_left _ ?_)
  rw [result_calculate, Outcome.value_absorb]
  simp only [parse, Run.result_bind, Run.values_bind]
  refine List.mem_append_left _ ?_
  split <;> exact held

/-- **No line makes the machine overflow.**  Every step that is taken fits, and every value held on
the way is in range, placeholders included; the value at the end is one of them.  The position
where the reading stops is one of the lexemes' or the end, so that counting those left over does
not go below zero. -/
theorem overflows_calculate (line : String) :
    (calculate line).overflows = [] ∧ (∀ v ∈ (calculate line).values, Value.InRange v) ∧
      (calculate line).result.value ∈ (calculate line).values ∧
      ∃ position ≤ (scan line.toList).result.value.length,
        ((Rule.sum 0).run ⟨(scan line.toList).result.value, Utf8.size line.toList⟩).result.rest =
            ⟨(scan line.toList).result.value.drop position, Utf8.size line.toList⟩ ∧
          ((Rule.sum 0).run
              ⟨(scan line.toList).result.value, Utf8.size line.toList⟩).result.rest.remaining =
            (scan line.toList).result.value.length - position := by
  have safe := calculate_safe line
  refine ⟨safe.overflows, safe.inRange, value_mem_values_calculate line, ?_⟩
  exact (Rule.sum 0).exists_position ⟨(scan line.toList).result.value, Utf8.size line.toList⟩

/-- The difference that takes the guard of sums to both ends of the word. -/
theorem overflows_calculate_least :
    (calculate "-9223372036854775807 - 9223372036854775807").overflows = [] ∧
      Value.InRange
        (calculate "-9223372036854775807 - 9223372036854775807").result.value := by
  obtain ⟨overflows, inRange, held, -⟩ :=
    overflows_calculate "-9223372036854775807 - 9223372036854775807"
  exact ⟨overflows, inRange _ held⟩

end Calculator
