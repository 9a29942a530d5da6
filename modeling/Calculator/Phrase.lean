/-
# Phrases

The grammar as a type.  A value of `Phrase c` is one way to read a list of
tokens as a phrase of category `c`:

| category | phrases |
| --- | --- |
| `atom` | a literal, or a sum in parentheses |
| `factor` | an atom, or `-` and an atom |
| `chain .multiplicative` | factors joined by `*` and `/` |
| `chain .additive` | products joined by `+` and `-` |

Chains grow to the right, so the last operator is the one at the top.  What a
phrase means is said three times: `tokens` is how it is written, `value` is
its value over the integers if every number on the way is in range and no
divisor is zero, and `outcome` is what remains to be said when some are not.
-/

import Calculator.Outcome
import Calculator.Token
import Calculator.Utf8
import Calculator.Value

namespace Calculator

/-- The kinds of phrases. -/
inductive Category
  | atom
  | factor
  | chain (precedence : Precedence)
deriving DecidableEq

/-- The kind of phrase that operators of a precedence join. -/
def Precedence.operand : Precedence → Category
  | .multiplicative => .factor
  | .additive => .chain .multiplicative

/-- A whole expression: a chain of the looser operators. -/
abbrev Category.sum : Category := .chain .additive

/-- A way to read tokens as a phrase of some category. -/
inductive Phrase : Category → Type
  /-- A run of digits. -/
  | literal (digits : List Char) : Phrase .atom
  /-- A sum in parentheses. -/
  | group (inner : Phrase .sum) : Phrase .atom
  /-- An atom without a sign. -/
  | unsigned (operand : Phrase .atom) : Phrase .factor
  /-- An atom with a sign. -/
  | negated (operand : Phrase .atom) : Phrase .factor
  /-- A chain of one operand. -/
  | single {precedence : Precedence} (operand : Phrase precedence.operand) :
    Phrase (.chain precedence)
  /-- A chain and one more operand. -/
  | joined {precedence : Precedence} (left : Phrase (.chain precedence)) (operator : Operator)
    (fits : operator.precedence = precedence) (right : Phrase precedence.operand) :
    Phrase (.chain precedence)

/-- The token an operator is written with. -/
def Operator.token : Operator → Token
  | plus => .plus
  | minus => .minus
  | times => .star
  | dividedBy => .slash

@[simp] theorem Operator.operator?_token (operator : Operator) :
    operator.token.operator? = some operator := by cases operator <;> rfl

/-- The result of an operator over the integers, if there is one; a quotient is rounded toward
zero. -/
def Operator.result? : Operator → Int → Int → Option Int
  | plus, a, b => some (a + b)
  | minus, a, b => some (a - b)
  | times, a, b => some (a * b)
  | dividedBy, a, b => if b = 0 then none else some (a.tdiv b)

/-- The fault of an operator whose result is missing or out of range. -/
def Operator.fault : Operator → Fault
  | dividedBy => .zeroDivisor
  | _ => .outOfRange

/-- The number that bytes spell, each as a digit counted from the digit zero. -/
def positional (bytes : List UInt8) : Nat :=
  bytes.foldl (fun number byte => 10 * number + (byte.toNat - 48)) 0

namespace Phrase

/-- The tokens of a phrase, from left to right. -/
def tokens {category : Category} : Phrase category → List Token
  | literal digits => [.number digits]
  | group inner => .opening :: (inner.tokens ++ [.closing])
  | unsigned operand => operand.tokens
  | negated operand => .minus :: operand.tokens
  | single operand => operand.tokens
  | joined left operator _ right => left.tokens ++ operator.token :: right.tokens

/-- How deep the parentheses of a phrase nest. -/
def nesting {category : Category} : Phrase category → Nat
  | literal _ => 0
  | group inner => inner.nesting + 1
  | unsigned operand => operand.nesting
  | negated operand => operand.nesting
  | single operand => operand.nesting
  | joined left _ _ right => max left.nesting right.nesting

/-- **The value of a phrase over the integers.**  It has none if a literal is above the largest
value, if a result on the way is out of range, or if a divisor is zero. -/
def value? {category : Category} : Phrase category → Option Int
  | literal digits => Value.ofInt? (positional (Utf8.encode digits))
  | group inner => inner.value?
  | unsigned operand => operand.value?
  | negated operand => operand.value?.map (-·)
  | single operand => operand.value?
  | joined left operator _ right => do
    Value.ofInt? (← operator.result? (← left.value?) (← right.value?))

/-- **The outcome of a phrase.**  Every literal that is too large and every operation without a
result adds its fault and counts as the placeholder from there on. -/
def outcome {category : Category} : Phrase category → Outcome Int
  | literal digits =>
    match Value.ofInt? (positional (Utf8.encode digits)) with
    | some number => .clean number
    | none => .flagged Value.placeholder .literalTooLarge
  | group inner => inner.outcome
  | unsigned operand => operand.outcome
  | negated operand => operand.outcome.map (-·)
  | single operand => operand.outcome
  | joined left operator _ right =>
    let faults := left.outcome.faults ∪ right.outcome.faults
    match (operator.result? left.outcome.value right.outcome.value).bind Value.ofInt? with
    | some value => ⟨value, faults⟩
    | none => ⟨Value.placeholder, insert operator.fault faults⟩

/-- One phrase is part of another, or is that phrase itself. -/
inductive IsPart : {part whole : Category} → Phrase part → Phrase whole → Prop
  | refl {category : Category} (phrase : Phrase category) : IsPart phrase phrase
  | group {category : Category} {part : Phrase category} {inner : Phrase .sum} :
    IsPart part inner → IsPart part (group inner)
  | unsigned {category : Category} {part : Phrase category} {operand : Phrase .atom} :
    IsPart part operand → IsPart part (unsigned operand)
  | negated {category : Category} {part : Phrase category} {operand : Phrase .atom} :
    IsPart part operand → IsPart part (negated operand)
  | single {category : Category} {part : Phrase category} {precedence : Precedence}
    {operand : Phrase precedence.operand} :
    IsPart part operand → IsPart part (single operand)
  | left {category : Category} {part : Phrase category} {precedence : Precedence}
    {left : Phrase (.chain precedence)} {operator : Operator}
    {fits : operator.precedence = precedence} {right : Phrase precedence.operand} :
    IsPart part left → IsPart part (joined left operator fits right)
  | right {category : Category} {part : Phrase category} {precedence : Precedence}
    {left : Phrase (.chain precedence)} {operator : Operator}
    {fits : operator.precedence = precedence} {right : Phrase precedence.operand} :
    IsPart part right → IsPart part (joined left operator fits right)

end Phrase

/-- **Tokens are derivable** as a phrase of a category, with parentheses at most `levels` deep. -/
def Derivable (category : Category) (levels : Nat) (tokens : List Token) : Prop :=
  ∃ phrase : Phrase category, phrase.nesting ≤ levels ∧ phrase.tokens = tokens

end Calculator
