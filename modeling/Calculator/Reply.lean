/-
# Replies

A clean outcome is answered with its value, any other with the notice of its
most severe fault; the value then does not matter.
-/

import Calculator.Notice
import Calculator.Outcome

namespace Calculator

/-- **The answer to a line,** under a limit on the length of lines. -/
def reply (limit : Nat) (outcome : Outcome Int) : String :=
  match outcome.faults.mostSevere? with
  | none => Numeral.text outcome.value
  | some fault => (Notice.of limit fault).text

/-- **A reply is a numeral or a notice.** -/
theorem exists_reply_eq (limit : Nat) (outcome : Outcome Int) :
    (∃ v, reply limit outcome = Numeral.text v) ∨
      ∃ fault, reply limit outcome = (Notice.of limit fault).text := by
  rw [reply]
  cases outcome.faults.mostSevere? with
  | none => exact .inl ⟨_, rfl⟩
  | some fault => exact .inr ⟨fault, rfl⟩

/-- **The reply is the notice of a fault** when this is the most severe one. -/
theorem reply_eq_notice_iff {limit : Nat} {outcome : Outcome Int} {fault : Fault} :
    reply limit outcome = (Notice.of limit fault).text ↔
      outcome.faults.mostSevere? = some fault := by
  rw [reply]
  cases h : outcome.faults.mostSevere? with
  | none => simpa using ((Notice.of limit fault).text_ne_numeral outcome.value).symm
  | some first =>
    rw [Option.some.injEq]
    exact ⟨Notice.text_of_injective, fun same => by rw [same]⟩

/-- **The reply is a numeral** when there is no fault and this is the value. -/
theorem reply_eq_numeral_iff {limit : Nat} {outcome : Outcome Int} {v : Int} :
    reply limit outcome = Numeral.text v ↔ outcome = .clean v := by
  rw [reply, Outcome.eq_clean_iff, ← FaultSet.mostSevere?_eq_none_iff]
  cases h : outcome.faults.mostSevere? with
  | none => simpa using ⟨Numeral.text_injective, fun same => by rw [same]⟩
  | some first => simpa using (Notice.of limit first).text_ne_numeral v

/-- **The limit matters to a reply** only if it was broken. -/
theorem reply_congr {outcome : Outcome Int} (h : ¬ .lineTooLong ∈ outcome.faults)
    (limit other : Nat) : reply limit outcome = reply other outcome := by
  rw [reply, reply]
  cases severe : outcome.faults.mostSevere? with
  | none => rfl
  | some fault =>
    cases fault with
    | lineTooLong => exact absurd (FaultSet.mostSevere?_eq_some_iff.1 severe).1 h
    | _ => rfl

end Calculator
