/-
# Notices

What the sender of a faulty line is told.  There is one notice for each kind
of fault, with the limits that the line broke; a notice is one line of ASCII.
-/

import Calculator.Fault
import Calculator.Numeral
import Calculator.Value

namespace Calculator

/-- The answer to a line that has faults. -/
inductive Notice
  /-- The line has more bytes than the limit. -/
  | lineTooLong (limit : Nat)
  /-- The line does not follow the grammar. -/
  | malformed
  /-- A literal is above the largest value. -/
  | literalTooLarge (largest : Int)
  /-- A division has a zero divisor. -/
  | zeroDivisor
  /-- A result is not between the least and the largest value. -/
  | outOfRange (least largest : Int)
deriving DecidableEq

namespace Notice

/-- The notice of a fault, under a limit on the length of lines. -/
def of (limit : Nat) : Fault → Notice
  | .lineTooLong => lineTooLong limit
  | .malformed => malformed
  | .literalTooLarge => literalTooLarge Value.largest
  | .zeroDivisor => zeroDivisor
  | .outOfRange => outOfRange Value.least Value.largest

/-- The fault that a notice tells of. -/
def fault : Notice → Fault
  | lineTooLong _ => .lineTooLong
  | malformed => .malformed
  | literalTooLarge _ => .literalTooLarge
  | zeroDivisor => .zeroDivisor
  | outOfRange _ _ => .outOfRange

@[simp] theorem fault_of (limit : Nat) (fault : Fault) : (of limit fault).fault = fault := by
  cases fault <;> rfl

/-- The wording of a notice. -/
def text : Notice → String
  | lineTooLong limit =>
    "Error: Input is longer than the maximum of " ++ Numeral.text limit ++ " characters."
  | malformed => "Error: Invalid syntax."
  | literalTooLarge largest =>
    "Error: Value too large. Literals may not exceed " ++ Numeral.text largest ++ "."
  | zeroDivisor => "Error: Division by zero."
  | outOfRange least largest =>
    "Error: Arithmetic overflow. Results must lie within [" ++ Numeral.text least ++ ", " ++
      Numeral.text largest ++ "]."

/-- How the notice of a fault begins. -/
def opening : Fault → String
  | .lineTooLong => "Error: Inp"
  | .malformed => "Error: Inv"
  | .literalTooLarge => "Error: Val"
  | .zeroDivisor => "Error: Div"
  | .outOfRange => "Error: Ari"

/-- **A notice begins with its fault.** -/
theorem exists_text_eq : ∀ notice : Notice, ∃ behind, notice.text = opening notice.fault ++ behind
  | lineTooLong limit => by
    refine ⟨"ut is longer than the maximum of " ++ Numeral.text limit ++ " characters.", ?_⟩
    rw [← String.append_assoc, ← String.append_assoc]
    rfl
  | malformed => ⟨"alid syntax.", rfl⟩
  | literalTooLarge largest => by
    refine ⟨"ue too large. Literals may not exceed " ++ Numeral.text largest ++ ".", ?_⟩
    rw [← String.append_assoc, ← String.append_assoc]
    rfl
  | zeroDivisor => ⟨"ision by zero.", rfl⟩
  | outOfRange least largest => by
    refine ⟨"thmetic overflow. Results must lie within [" ++ Numeral.text least ++ ", " ++
      Numeral.text largest ++ "].", ?_⟩
    simp only [← String.append_assoc]
    rfl

theorem length_opening (fault : Fault) : (opening fault).toList.length = 10 := by
  cases fault <;> rfl

/-- **Notices of different faults differ.** -/
theorem text_of_injective {limit : Nat} {a b : Fault} (h : (of limit a).text = (of limit b).text) :
    a = b := by
  obtain ⟨rest, ha⟩ := (of limit a).exists_text_eq
  obtain ⟨rest', hb⟩ := (of limit b).exists_text_eq
  rw [fault_of] at ha hb
  have whole : (opening a).toList ++ rest.toList = (opening b).toList ++ rest'.toList := by
    rw [← String.toList_append, ← String.toList_append, ← ha, h, hb]
  have openings : (opening a).toList = (opening b).toList :=
    (List.append_inj whole (by rw [length_opening, length_opening])).1
  revert openings
  cases a <;> cases b <;> decide

/-- Every notice begins with the same letter. -/
theorem head?_text (notice : Notice) : notice.text.toList.head? = some 'E' := by
  obtain ⟨rest, h⟩ := notice.exists_text_eq
  rw [h, String.toList_append]
  cases notice.fault <;> rfl

/-- **A notice is no numeral.** -/
theorem text_ne_numeral (notice : Notice) (v : Int) : notice.text ≠ Numeral.text v := by
  intro same
  have first : (numeral v).head? = some 'E' := by
    rw [← Numeral.toList_text, ← same, head?_text]
  cases v with
  | ofNat n => exact absurd (Numeral.isDigit_of_mem (List.mem_of_head? first)) (by decide)
  | negSucc n => exact absurd (Option.some.inj first) (by decide)

end Notice
end Calculator
