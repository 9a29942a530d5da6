/-
# Outcomes

A calculation never stops at its first fault.  Each step gives an `Outcome`: a
value together with the faults found while it was computed.  Where a step
cannot give a value it gives a placeholder, so that the rest of the line is
still looked at; the value of an outcome counts only if its faults are empty.
-/

import Calculator.Fault.Set

namespace Calculator

/-- A value and the faults found on the way to it. -/
structure Outcome (α : Type) where
  /-- The value, or a placeholder when there are faults. -/
  value : α
  /-- The faults found. -/
  faults : FaultSet
deriving DecidableEq

namespace Outcome

variable {α β : Type}

/-- A value found without a fault. -/
def clean (value : α) : Outcome α := ⟨value, ∅⟩

/-- A placeholder for a value that one fault prevented. -/
def flagged (value : α) (fault : Fault) : Outcome α := ⟨value, {fault}⟩

/-- Whether no fault was found. -/
def isClean (outcome : Outcome α) : Bool := outcome.faults == ∅

/-- The same value with one more fault. -/
def record (outcome : Outcome α) (fault : Fault) : Outcome α :=
  ⟨outcome.value, insert fault outcome.faults⟩

/-- The same value with the faults of another outcome as well. -/
def absorb (outcome : Outcome α) (other : Outcome β) : Outcome α :=
  ⟨outcome.value, outcome.faults ∪ other.faults⟩

/-- Another value with the same faults. -/
def map (f : α → β) (outcome : Outcome α) : Outcome β := ⟨f outcome.value, outcome.faults⟩

/-- The value if there is no fault, and the faults otherwise. -/
def toExcept (outcome : Outcome α) : Except FaultSet α :=
  if outcome.isClean then .ok outcome.value else .error outcome.faults

@[simp] theorem value_clean (value : α) : (clean value).value = value := rfl

@[simp] theorem faults_clean (value : α) : (clean value).faults = ∅ := rfl

@[simp] theorem value_flagged (value : α) (fault : Fault) : (flagged value fault).value = value :=
  rfl

@[simp] theorem faults_flagged (value : α) (fault : Fault) :
    (flagged value fault).faults = {fault} := rfl

@[simp] theorem value_record (outcome : Outcome α) (fault : Fault) :
    (outcome.record fault).value = outcome.value := rfl

@[simp] theorem faults_record (outcome : Outcome α) (fault : Fault) :
    (outcome.record fault).faults = insert fault outcome.faults := rfl

@[simp] theorem value_absorb (outcome : Outcome α) (other : Outcome β) :
    (outcome.absorb other).value = outcome.value := rfl

@[simp] theorem faults_absorb (outcome : Outcome α) (other : Outcome β) :
    (outcome.absorb other).faults = outcome.faults ∪ other.faults := rfl

@[simp] theorem value_map (f : α → β) (outcome : Outcome α) :
    (outcome.map f).value = f outcome.value := rfl

@[simp] theorem faults_map (f : α → β) (outcome : Outcome α) :
    (outcome.map f).faults = outcome.faults := rfl

theorem eq_clean_iff {outcome : Outcome α} {value : α} :
    outcome = clean value ↔ outcome.value = value ∧ outcome.faults = ∅ := by
  cases outcome
  simp [clean]

/-- **A value comes out exactly when no fault was found.** -/
theorem toExcept_eq_ok_iff {outcome : Outcome α} {value : α} :
    outcome.toExcept = .ok value ↔ outcome = clean value := by
  obtain ⟨v, s⟩ := outcome
  by_cases h : s = ∅ <;> simp [toExcept, isClean, clean, h]

end Outcome
end Calculator
