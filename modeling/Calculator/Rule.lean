/-
# Grammar rules

A rule reads one phrase from the front of a line and calculates it in the same
pass.  The rules are built from each other:

| rule | phrase |
| --- | --- |
| `sum` | products joined by `+` and `-` |
| `product` | factors joined by `*` and `/` |
| `factor` | an atom, with at most one `-` in front |
| `atom` | a literal, or a sum in parentheses |

No rule gives up.  Where an operand is missing it stands for the placeholder
and the line is malformed; where a parenthesis is not closed the value inside
is kept.  Parentheses nest at most `maxNesting` deep, which is what bounds the
recursion through groups; chains are bounded by the lexemes that are left.
-/

import Calculator.Literal
import Calculator.Operation
import Calculator.Rest

namespace Calculator

/-- How deep parentheses may nest. -/
def maxNesting : Nat := 256

/-- What a rule found: the outcome of its phrase and the rest of the line. -/
structure Parsed where
  outcome : Outcome Int
  rest : Rest
deriving DecidableEq

/-- A grammar rule: it takes lexemes from the front of a rest and from nowhere else. -/
structure Rule where
  /-- Reads and calculates a phrase. -/
  run : Rest → Run Parsed
  /-- What is left is a suffix of what there was. -/
  isSuffix : ∀ rest, (run rest).result.rest.IsSuffix rest

namespace Rule

/-- Refuses to open one more group: nothing is taken. -/
def tooDeep (depth : Nat) : Rule where
  run rest := do
    Run.report (.nestingTooDeep rest.column depth)
    pure ⟨.flagged (← Run.hold Value.placeholder) .malformed, rest⟩
  isSuffix := Rest.IsSuffix.refl

/-- **A group:** an opening parenthesis, which the caller has seen, a phrase one level deeper, and
a closing parenthesis. -/
def group (depth : Nat) (inner : Rule) : Rule where
  run rest := do
    let _ ← Run.perform (.deepen depth)
    let ⟨outcome, rest⟩ ← inner.run rest.advance
    if rest.token? = some .closing then
      pure ⟨outcome, rest.advance⟩
    else do
      Run.report (.closingExpected rest.column)
      pure ⟨outcome.record .malformed, rest⟩
  isSuffix rest := by
    have taken := (inner.isSuffix rest.advance).trans (.advance rest)
    simp only [Run.result_bind]
    split
    · exact (Rest.IsSuffix.advance _).trans taken
    · exact taken

/-- **An operand:** a literal, or what `group` makes of an opening parenthesis.  Anything else is
a missing operand: it is left where it is. -/
def operand (group : Rule) : Rule where
  run rest :=
    match rest.token? with
    | some (.number digits) => (⟨·, rest.advance⟩) <$> literal digits rest.column
    | some .opening => group.run rest
    | token => do
      Run.report (.operandExpected rest.column token)
      pure ⟨.flagged (← Run.hold Value.placeholder) .malformed, rest⟩
  isSuffix rest := by
    split
    · exact .advance rest
    · exact group.isSuffix rest
    · exact .refl rest

/-- **A sign:** one `-` in front of an operand negates it. -/
def signed (operand : Rule) : Rule where
  run rest :=
    if rest.token? = some .minus then do
      let ⟨outcome, rest⟩ ← operand.run rest.advance
      (⟨·, rest⟩) <$> outcome.negate
    else
      operand.run rest
  isSuffix rest := by
    split
    · exact (operand.isSuffix rest.advance).trans (.advance rest)
    · exact operand.isSuffix rest

/-- The links of a chain: while an operator of the precedence comes next, it joins what is to the
left of it with one more operand. -/
def links (precedence : Precedence) (operand : Rule) (left : Outcome Int) (rest : Rest) :
    Run Parsed :=
  match h : rest.operator? precedence with
  | none => pure ⟨left, rest⟩
  | some operator =>
    let right := operand.run rest.advance
    have := Rest.remaining_lt_of_operator? h (operand.isSuffix rest.advance)
    do
      let _ ← right
      let joined ← left.combine operator right.result.outcome rest.column
      links precedence operand joined right.result.rest
termination_by rest.remaining

theorem isSuffix_links (precedence : Precedence) (operand : Rule) (left : Outcome Int)
    (rest : Rest) : (links precedence operand left rest).result.rest.IsSuffix rest := by
  fun_induction links with
  | case1 left rest h => exact .refl rest
  | case2 left rest operator h right shorter ih =>
    exact (ih _).trans ((operand.isSuffix rest.advance).trans (.advance rest))

/-- **A chain:** operands joined by operators of one precedence, from the left. -/
def chain (precedence : Precedence) (operand : Rule) : Rule where
  run rest := do
    let ⟨left, rest⟩ ← operand.run rest
    links precedence operand left rest
  isSuffix rest := (isSuffix_links precedence operand _ _).trans (operand.isSuffix rest)

/-- An atom under `depth` open parentheses, of which at most `levels` more may be opened. -/
def atomWithin : (levels depth : Nat) → Rule
  | 0, depth => operand (tooDeep depth)
  | levels + 1, depth =>
    operand (group depth (chain .additive (chain .multiplicative
      (signed (atomWithin levels (depth + 1))))))

/-- **A literal or a group,** under `depth` open parentheses. -/
def atom (depth : Nat) : Rule := atomWithin (maxNesting - depth) depth

/-- **An atom with at most one sign.** -/
def factor (depth : Nat) : Rule := signed (atom depth)

/-- **Factors joined by `*` and `/`.** -/
def product (depth : Nat) : Rule := chain .multiplicative (factor depth)

/-- **Products joined by `+` and `-`.** -/
def sum (depth : Nat) : Rule := chain .additive (product depth)

end Rule
end Calculator
