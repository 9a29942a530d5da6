/-
# What phrases mean

The three meanings of a phrase agree.  Its outcome always carries a value in
range, placeholders included, so every operation in it has operands that are
values (`Phrase.inRange_value_outcome`).  No phrase is malformed: its faults
are those of its literals and operations
(`Phrase.malformed_not_mem_faults_outcome`).  And its exact value is what its
outcome says when there is no fault (`Phrase.value?_eq_some_iff`).

Each is an induction on the phrase, with one case for a literal and one for an
operator; the other cases hand the claim on.
-/

import Calculator.Operation
import Calculator.Proofs.Arithmetic

namespace Calculator

/-- The value of an operator on two outcomes, as `Phrase.outcome` has it. -/
theorem Outcome.result_combine (operator : Operator) {left right : Outcome Int}
    (hl : Value.InRange left.value) (hr : Value.InRange right.value) (column : Nat) :
    (left.combine operator right column).result =
      match (operator.result? left.value right.value).bind Value.ofInt? with
      | some value => ⟨value, left.faults ∪ right.faults⟩
      | none => ⟨Value.placeholder, insert operator.fault (left.faults ∪ right.faults)⟩ := by
  simp only [Outcome.combine, operator.apply_eq_pure hl hr, pure_bind]
  cases (operator.result? left.value right.value).bind Value.ofInt? with
  | some value => rfl
  | none => rfl

theorem Operator.fault_ne_malformed (operator : Operator) : operator.fault ≠ .malformed := by
  cases operator <;> decide

namespace Phrase

/-- **The value of an outcome is always in range,** also where it is a placeholder. -/
theorem inRange_value_outcome {category : Category} (phrase : Phrase category) :
    Value.InRange phrase.outcome.value := by
  induction phrase with
  | literal digits =>
    rw [outcome]
    split
    · next number h => exact (Value.ofInt?_eq_some_iff.1 h).2 ▸ (Value.ofInt?_eq_some_iff.1 h).1
    · exact Value.inRange_placeholder
  | group inner ih => exact ih
  | unsigned operand ih => exact ih
  | negated operand ih => exact ih.neg
  | single operand ih => exact ih
  | joined left operator fits right ihl ihr =>
    rw [outcome]
    split
    · next value h =>
      obtain ⟨exact, -, h⟩ := Option.bind_eq_some_iff.1 h
      exact (Value.ofInt?_eq_some_iff.1 h).2 ▸ (Value.ofInt?_eq_some_iff.1 h).1
    · exact Value.inRange_placeholder

/-- **A phrase is not malformed,** whatever else is wrong with it. -/
theorem malformed_not_mem_faults_outcome {category : Category} (phrase : Phrase category) :
    ¬ .malformed ∈ phrase.outcome.faults := by
  induction phrase with
  | literal digits =>
    rw [outcome]
    split
    · exact FaultSet.not_mem_empty _
    · simp
  | group inner ih => exact ih
  | unsigned operand ih => exact ih
  | negated operand ih => exact ih
  | single operand ih => exact ih
  | joined left operator fits right ihl ihr =>
    have merged : ¬ .malformed ∈ left.outcome.faults ∪ right.outcome.faults := by
      rw [FaultSet.mem_union]
      exact not_or.2 ⟨ihl, ihr⟩
    rw [outcome]
    split
    · exact merged
    · rw [FaultSet.mem_insert]
      exact not_or.2 ⟨operator.fault_ne_malformed.symm, merged⟩

/-- **The exact value of a phrase is that of a faultless outcome.** -/
theorem value?_eq_some_iff {category : Category} {phrase : Phrase category} {v : Int} :
    phrase.value? = some v ↔ phrase.outcome = .clean v := by
  induction phrase generalizing v with
  | literal digits =>
    rw [value?, outcome]
    cases Value.ofInt? (positional (Utf8.encode digits)) with
    | some number => simp [Outcome.clean]
    | none => simp [Outcome.clean, Outcome.flagged, FaultSet.eq_empty_iff]
  | group inner ih => exact ih
  | unsigned operand ih => exact ih
  | negated operand ih =>
    rw [value?, outcome, Option.map_eq_some_iff]
    constructor
    · rintro ⟨w, hw, rfl⟩
      rw [ih.1 hw]
      rfl
    · intro h
      obtain ⟨hv, hs⟩ := Outcome.eq_clean_iff.1 h
      exact ⟨operand.outcome.value, ih.2 (Outcome.eq_clean_iff.2 ⟨rfl, hs⟩), hv⟩
  | single operand ih => exact ih
  | joined left operator fits right ihl ihr =>
    simp only [value?, Option.bind_eq_bind, Option.bind_eq_some_iff]
    constructor
    · rintro ⟨a, ha, b, hb, exact, he, hv⟩
      rw [outcome, ihl.1 ha, ihr.1 hb]
      simp [he, hv, Outcome.clean]
    · intro h
      rw [outcome] at h
      split at h
      · next value found =>
        obtain ⟨hv, hs⟩ := Outcome.eq_clean_iff.1 h
        obtain ⟨hl, hr⟩ := FaultSet.union_eq_empty_iff.1 hs
        obtain ⟨exact, he, found⟩ := Option.bind_eq_some_iff.1 found
        exact ⟨_, ihl.2 (Outcome.eq_clean_iff.2 ⟨rfl, hl⟩), _,
          ihr.2 (Outcome.eq_clean_iff.2 ⟨rfl, hr⟩), exact, he, hv ▸ found⟩
      · exact absurd (Outcome.eq_clean_iff.1 h).2 (FaultSet.insert_ne_empty _ _)

end Phrase
end Calculator
