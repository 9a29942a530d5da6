/-
# Where arithmetic faults come from

An operation that has no result leaves the placeholder, and the phrases around
it go on with that.  So a fault may be the consequence of another one, and what
is told of a line need not be what went wrong in it first.

* An overflow that is told is always genuine: if nothing else is wrong with a
  phrase, then somewhere in it operands without faults have a result that is
  out of range (`Phrase.hasOverflow_of_outOfRange`).
* A zero divisor that is told belongs to a division whose divisor is zero, but
  this zero may be the placeholder of an overflow inside the divisor
  (`Phrase.hasDivision_of_zeroDivisor`); `1/(9223372036854775807+1)` is such a
  line.

Both look for the innermost phrase that has the fault: there the operands do
not have it.
-/

import Calculator.Proofs.Logging

namespace Calculator

namespace Phrase

variable {category : Category}

/-- **A genuine overflow:** somewhere in a phrase, a sum, difference or product of operands without
faults lies outside the value range. -/
def HasOverflow (phrase : Phrase category) : Prop :=
  ∃ (precedence : Precedence) (left : Phrase (.chain precedence)) (operator : Operator)
    (fits : operator.precedence = precedence) (right : Phrase precedence.operand)
    (a b exact : Int),
    IsPart (joined left operator fits right) phrase ∧ operator ≠ .dividedBy ∧
      left.outcome = .clean a ∧ right.outcome = .clean b ∧
      operator.result? a b = some exact ∧ ¬ Value.InRange exact

/-- Somewhere in a phrase there is a division whose divisor has a property. -/
def HasDivision (property : Phrase .factor → Prop) (phrase : Phrase category) : Prop :=
  ∃ (left : Phrase (.chain .multiplicative)) (divisor : Phrase .factor),
    IsPart (joined left .dividedBy rfl divisor) phrase ∧ property divisor

/-- **Parts of parts are parts.** -/
theorem IsPart.trans {part middle whole : Category} {p : Phrase part} {q : Phrase middle}
    {r : Phrase whole} (h : IsPart p q) (h' : IsPart q r) : IsPart p r := by
  induction h' with
  | refl => exact h
  | group _ ih => exact .group (ih h)
  | unsigned _ ih => exact .unsigned (ih h)
  | negated _ ih => exact .negated (ih h)
  | single _ ih => exact .single (ih h)
  | left _ ih => exact .left (ih h)
  | right _ ih => exact .right (ih h)

section Whole

variable {part whole : Category} {p : Phrase part} {q : Phrase whole}

theorem HasOverflow.of_isPart (h : p.HasOverflow) (isPart : IsPart p q) : q.HasOverflow := by
  obtain ⟨precedence, left, operator, fits, right, a, b, exact, inside, overflows⟩ := h
  exact ⟨precedence, left, operator, fits, right, a, b, exact, inside.trans isPart, overflows⟩

theorem HasDivision.of_isPart {property : Phrase .factor → Prop} (h : p.HasDivision property)
    (isPart : IsPart p q) : q.HasDivision property := by
  obtain ⟨left, divisor, inside, holds⟩ := h
  exact ⟨left, divisor, inside.trans isPart, holds⟩

/-- What is known of parts may be used of divisors. -/
theorem HasDivision.imp {property property' : Phrase .factor → Prop} (h : q.HasDivision property)
    (h' : ∀ divisor, IsPart divisor q → property divisor → property' divisor) :
    q.HasDivision property' := by
  obtain ⟨left, divisor, inside, holds⟩ := h
  exact ⟨left, divisor, inside, h' divisor ((IsPart.right (.refl divisor)).trans inside) holds⟩

end Whole

/-- The outcomes of all divisors in a phrase. -/
def divisors {category : Category} : Phrase category → List (Outcome Int)
  | literal _ => []
  | group inner => inner.divisors
  | unsigned operand => operand.divisors
  | negated operand => operand.divisors
  | single operand => operand.divisors
  | joined left operator _ right =>
    left.divisors ++ right.divisors ++ if operator = .dividedBy then [right.outcome] else []

theorem IsPart.divisors_subset {part whole : Category} {p : Phrase part} {q : Phrase whole}
    (h : IsPart p q) : p.divisors ⊆ q.divisors := by
  induction h with
  | refl => exact List.Subset.refl _
  | group _ ih | unsigned _ ih | negated _ ih | single _ ih => exact ih
  | left _ ih =>
    rw [divisors, List.append_assoc]
    exact List.subset_append_of_subset_left _ ih
  | right _ ih =>
    rw [divisors, List.append_assoc]
    exact List.subset_append_of_subset_right _ (List.subset_append_of_subset_left _ ih)

/-- **A division has one of these divisors.** -/
theorem HasDivision.exists_mem_divisors {category : Category} {property : Phrase .factor → Prop}
    {phrase : Phrase category} (h : phrase.HasDivision property) :
    ∃ divisor : Phrase .factor, divisor.outcome ∈ phrase.divisors ∧ property divisor := by
  obtain ⟨left, divisor, isPart, holds⟩ := h
  have among : divisor.outcome ∈ (joined left .dividedBy rfl divisor).divisors :=
    List.mem_append_right (left.divisors ++ divisor.divisors) (List.mem_singleton.2 rfl)
  exact ⟨divisor, isPart.divisors_subset among, holds⟩

/-- **The faults of an operation** are those of its operands, and its own if it has no result. -/
theorem mem_faults_joined {precedence : Precedence} {left : Phrase (.chain precedence)}
    {operator : Operator} {fits : operator.precedence = precedence}
    {right : Phrase precedence.operand} {fault : Fault} :
    fault ∈ (joined left operator fits right).outcome.faults ↔
      fault ∈ left.outcome.faults ∨ fault ∈ right.outcome.faults ∨
        fault = operator.fault ∧
          (operator.result? left.outcome.value right.outcome.value).bind Value.ofInt? = none := by
  rw [outcome]
  cases (operator.result? left.outcome.value right.outcome.value).bind Value.ofInt? with
  | none => simp [or_comm, or_left_comm]
  | some value => simp

/-- **The faults of a part are faults of the whole.** -/
theorem IsPart.mem_faults {part whole : Category} {p : Phrase part} {q : Phrase whole}
    (h : IsPart p q) {fault : Fault} (hf : fault ∈ p.outcome.faults) :
    fault ∈ q.outcome.faults := by
  induction h with
  | refl => exact hf
  | group _ ih | unsigned _ ih | negated _ ih | single _ ih => exact ih hf
  | left _ ih => exact mem_faults_joined.2 (.inl (ih hf))
  | right _ ih => exact mem_faults_joined.2 (.inr (.inl (ih hf)))

end Phrase

/-- A quotient of values has no result only if the divisor is zero. -/
theorem Operator.eq_zero_of_rejected {a b : Int} (ha : Value.InRange a)
    (h : (dividedBy.result? a b).bind Value.ofInt? = none) : b = 0 := by
  by_contra hb
  rw [result?, if_neg hb, Option.bind_some, Value.ofInt?, if_pos (Arithmetic.inRange_tdiv ha b)] at h
  cases h

/-- Another operator has no result only if the one over the integers is out of range. -/
theorem Operator.exists_of_rejected {operator : Operator} (other : operator ≠ dividedBy) {a b : Int}
    (h : (operator.result? a b).bind Value.ofInt? = none) :
    ∃ exact, operator.result? a b = some exact ∧ ¬ Value.InRange exact := by
  cases operator with
  | dividedBy => exact absurd rfl other
  | plus | minus | times => exact ⟨_, rfl, Value.ofInt?_eq_none_iff.1 h⟩

namespace Phrase

variable {category : Category}

/-- **An overflow that is the only fault is genuine.** -/
theorem hasOverflow_of_outOfRange {phrase : Phrase category}
    (found : .outOfRange ∈ phrase.outcome.faults)
    (only : ∀ fault ∈ phrase.outcome.faults, fault = .outOfRange) : phrase.HasOverflow := by
  induction phrase with
  | literal digits =>
    rw [outcome] at found
    split at found <;> simp at found
  | group inner ih => exact (ih found only).of_isPart (.group (.refl inner))
  | unsigned operand ih => exact (ih found only).of_isPart (.unsigned (.refl operand))
  | negated operand ih => exact (ih found only).of_isPart (.negated (.refl operand))
  | single operand ih => exact (ih found only).of_isPart (.single (.refl operand))
  | joined left operator fits right ihl ihr =>
    have onlyLeft : ∀ fault ∈ left.outcome.faults, fault = .outOfRange :=
      fun fault h => only fault (mem_faults_joined.2 (.inl h))
    have onlyRight : ∀ fault ∈ right.outcome.faults, fault = .outOfRange :=
      fun fault h => only fault (mem_faults_joined.2 (.inr (.inl h)))
    by_cases inLeft : .outOfRange ∈ left.outcome.faults
    · exact (ihl inLeft onlyLeft).of_isPart (.left (.refl left))
    by_cases inRight : .outOfRange ∈ right.outcome.faults
    · exact (ihr inRight onlyRight).of_isPart (.right (.refl right))
    -- Here both operands are clean, so it is this operation that overflows.
    obtain absurdity | absurdity | ⟨own, rejected⟩ := mem_faults_joined.1 found
    · exact absurd absurdity inLeft
    · exact absurd absurdity inRight
    have cleanLeft : left.outcome = .clean left.outcome.value :=
      Outcome.eq_clean_iff.2 ⟨rfl, FaultSet.eq_empty_iff.2 fun fault h =>
        inLeft (onlyLeft fault h ▸ h)⟩
    have cleanRight : right.outcome = .clean right.outcome.value :=
      Outcome.eq_clean_iff.2 ⟨rfl, FaultSet.eq_empty_iff.2 fun fault h =>
        inRight (onlyRight fault h ▸ h)⟩
    have notDivision : operator ≠ .dividedBy := by
      rintro rfl
      cases own
    obtain ⟨exact, result, outside⟩ := Operator.exists_of_rejected notDivision rejected
    exact ⟨_, left, operator, fits, right, _, _, exact, .refl _, notDivision, cleanLeft,
      cleanRight, result, outside⟩

/-- **A zero divisor is a division whose divisor is zero,** and does not itself have a zero
divisor. -/
theorem hasDivision_of_zeroDivisor {phrase : Phrase category}
    (found : .zeroDivisor ∈ phrase.outcome.faults) :
    phrase.HasDivision fun divisor =>
      divisor.outcome.value = 0 ∧ ¬ .zeroDivisor ∈ divisor.outcome.faults := by
  induction phrase with
  | literal digits =>
    rw [outcome] at found
    split at found <;> simp at found
  | group inner ih => exact (ih found).of_isPart (.group (.refl inner))
  | unsigned operand ih => exact (ih found).of_isPart (.unsigned (.refl operand))
  | negated operand ih => exact (ih found).of_isPart (.negated (.refl operand))
  | single operand ih => exact (ih found).of_isPart (.single (.refl operand))
  | joined left operator fits right ihl ihr =>
    by_cases inRight : .zeroDivisor ∈ right.outcome.faults
    · exact (ihr inRight).of_isPart (.right (.refl right))
    obtain inLeft | absurdity | ⟨own, rejected⟩ := mem_faults_joined.1 found
    · exact (ihl inLeft).of_isPart (.left (.refl left))
    · exact absurd absurdity inRight
    obtain rfl : operator = .dividedBy := by cases operator <;> first | rfl | cases own
    obtain rfl := fits
    exact ⟨left, right, .refl _,
      Operator.eq_zero_of_rejected left.inRange_value_outcome rejected, inRight⟩

/-- **What is wrong with that divisor is an overflow,** where there are no faults but these two. -/
theorem hasDivision_of_arithmetic {phrase : Phrase category}
    (arithmetic : ∀ fault ∈ phrase.outcome.faults, fault = .zeroDivisor ∨ fault = .outOfRange)
    (found : .zeroDivisor ∈ phrase.outcome.faults) :
    phrase.HasDivision fun divisor => divisor.outcome.value = 0 ∧
      (divisor.outcome.faults = ∅ ∨
        divisor.outcome.faults = {.outOfRange} ∧ divisor.HasOverflow) := by
  refine (hasDivision_of_zeroDivisor found).imp fun divisor isPart ⟨zero, undivided⟩ => ⟨zero, ?_⟩
  have only : ∀ fault ∈ divisor.outcome.faults, fault = .outOfRange := by
    intro fault h
    obtain rfl | overflow := arithmetic fault (isPart.mem_faults h)
    · exact absurd h undivided
    · exact overflow
  by_cases overflow : .outOfRange ∈ divisor.outcome.faults
  · refine .inr ⟨?_, hasOverflow_of_outOfRange overflow only⟩
    ext fault
    rw [FaultSet.mem_singleton]
    exact ⟨only fault, fun h => h ▸ overflow⟩
  · exact .inl (FaultSet.eq_empty_iff.2 fun fault h => overflow (only fault h ▸ h))

end Phrase

/-! ### Lines -/

/-- **What is told of the arithmetic of a line.**  In a line that is well-formed and has no literal
that is too large, an overflow that is told is genuine.  A zero divisor that is told belongs to a
division whose divisor is zero; either nothing is wrong with this divisor, or exactly an overflow,
a genuine one inside it, and then an overflow is among the faults of the line. -/
theorem cause_of_mostSevere (line : String)
    (formed : ¬ .malformed ∈ (calculate line).result.faults)
    (literals : ¬ .literalTooLarge ∈ (calculate line).result.faults) :
    ∃ phrase : Phrase .sum, phrase.nesting ≤ maxNesting ∧ Spells line.toList phrase.tokens ∧
      (∀ other : Phrase .sum, Spells line.toList other.tokens → other = phrase) ∧
      ((calculate line).result.faults.mostSevere? = some .zeroDivisor →
        phrase.HasDivision (fun divisor => divisor.outcome.value = 0 ∧
          (divisor.outcome.faults = ∅ ∨
            divisor.outcome.faults = {.outOfRange} ∧ divisor.HasOverflow)) ∧
        (¬ .outOfRange ∈ (calculate line).result.faults →
          phrase.HasDivision fun divisor => divisor.outcome = .clean 0)) ∧
      ((calculate line).result.faults.mostSevere? = some .outOfRange → phrase.HasOverflow) := by
  obtain ⟨phrase, nested, spells⟩ := exists_spells_of_calculate formed
  have outcome := result_calculate_of_spells nested spells
  have long := lineTooLong_not_mem_faults_calculate line
  rw [outcome] at formed literals long ⊢
  have arithmetic : ∀ fault ∈ phrase.outcome.faults, fault = .zeroDivisor ∨ fault = .outOfRange := by
    intro fault h
    cases fault with
    | lineTooLong => exact absurd h long
    | malformed => exact absurd h formed
    | literalTooLarge => exact absurd h literals
    | zeroDivisor => exact .inl rfl
    | outOfRange => exact .inr rfl
  refine ⟨phrase, nested, spells, fun other h => h.unique spells, ?_, ?_⟩
  · intro severe
    have division := Phrase.hasDivision_of_arithmetic arithmetic
      (FaultSet.mostSevere?_eq_some_iff.1 severe).1
    refine ⟨division, fun within => ?_⟩
    refine division.imp fun divisor isPart ⟨zero, cause⟩ => Outcome.eq_clean_iff.2 ⟨zero, ?_⟩
    refine cause.resolve_right fun ⟨overflow, _⟩ => within (isPart.mem_faults ?_)
    rw [overflow]
    exact FaultSet.mem_singleton.2 rfl
  · intro severe
    obtain ⟨found, first⟩ := FaultSet.mostSevere?_eq_some_iff.1 severe
    refine Phrase.hasOverflow_of_outOfRange found fun fault h => ?_
    obtain rfl | overflow := arithmetic fault h
    · exact absurd h (first .zeroDivisor (by decide))
    · exact overflow

/-- A divisor that is zero by itself. -/
theorem cause_of_mostSevere_difference :
    ¬ .malformed ∈ (calculate "7/(2-2)").result.faults ∧
      ¬ .literalTooLarge ∈ (calculate "7/(2-2)").result.faults ∧
      ∃ phrase : Phrase .sum, Spells "7/(2-2)".toList phrase.tokens ∧
        phrase.HasDivision fun divisor => divisor.outcome = .clean 0 := by
  have formed : ¬ .malformed ∈ (calculate "7/(2-2)").result.faults := by decide +kernel
  have literals : ¬ .literalTooLarge ∈ (calculate "7/(2-2)").result.faults := by decide +kernel
  obtain ⟨phrase, -, spells, -, division, -⟩ := cause_of_mostSevere "7/(2-2)" formed literals
  exact ⟨formed, literals, phrase, spells, (division (by decide +kernel)).2 (by decide +kernel)⟩

/-- **A zero divisor that is told need not be genuine:** here the sum in the divisor overflows, and
what divides is its placeholder. -/
theorem not_hasDivision_of_overflow :
    let line := "1/(9223372036854775807+1)"
    let faults := (calculate line).result.faults
    ¬ .malformed ∈ faults ∧ ¬ .literalTooLarge ∈ faults ∧ faults.mostSevere? = some .zeroDivisor ∧
      ∃ phrase : Phrase .sum, Spells line.toList phrase.tokens ∧
        (∀ other : Phrase .sum, Spells line.toList other.tokens → other = phrase) ∧
        ¬ phrase.HasDivision fun divisor => divisor.outcome = .clean 0 := by
  intro line faults
  let sum : Phrase .sum := .joined
    (.single (.single (.unsigned (.literal "9223372036854775807".toList)))) .plus rfl
    (.single (.unsigned (.literal ['1'])))
  let quotient : Phrase .sum := .single (.joined (.single (.unsigned (.literal ['1']))) .dividedBy
    rfl (.unsigned (.group sum)))
  have spells : Spells line.toList quotient.tokens := spells_iff.2 (by decide +kernel)
  have only : quotient.divisors = [⟨0, {.outOfRange}⟩] := by decide +kernel
  refine ⟨by decide +kernel, by decide +kernel, by decide +kernel, quotient, spells,
    fun other h => h.unique spells, ?_⟩
  intro division
  obtain ⟨divisor, isDivisor, clean⟩ := division.exists_mem_divisors
  rw [only, clean, List.mem_singleton] at isDivisor
  exact absurd isDivisor (by decide)

end Calculator
