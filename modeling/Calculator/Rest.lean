/-
# What is left of a line

A grammar rule takes lexemes from the front of a line and leaves the rest.
`later.IsSuffix earlier` says that a rest was reached from another by taking
lexemes only: it ends at the same column and its lexemes are the last ones of
the earlier rest.
-/

import Calculator.Token

namespace Calculator

/-- The lexemes not taken yet. -/
structure Rest where
  /-- The lexemes, the next one first. -/
  lexemes : List Lexeme
  /-- The column that stands for the end of the line. -/
  stop : Nat
deriving DecidableEq

namespace Rest

/-- The next token. -/
def token? (rest : Rest) : Option Token := rest.lexemes.head?.map Lexeme.token

/-- The column of the next lexeme, or the end of the line. -/
def column (rest : Rest) : Nat := (rest.lexemes.head?.map Lexeme.column).getD rest.stop

/-- How many lexemes are left. -/
def remaining (rest : Rest) : Nat := rest.lexemes.length

/-- The rest after the next lexeme, or the same rest when there is none. -/
def advance (rest : Rest) : Rest := { rest with lexemes := rest.lexemes.tail }

/-- The operator that comes next, if it has the given precedence. -/
def operator? (precedence : Precedence) (rest : Rest) : Option Operator :=
  (rest.token?.bind Token.operator?).filter (·.precedence = precedence)

/-- A rest is a suffix of another when lexemes were taken from the front and nothing else
changed. -/
def IsSuffix (later earlier : Rest) : Prop :=
  later.lexemes <:+ earlier.lexemes ∧ later.stop = earlier.stop

namespace IsSuffix

theorem refl (rest : Rest) : rest.IsSuffix rest := ⟨List.suffix_refl _, rfl⟩

theorem trans {a b c : Rest} (h : a.IsSuffix b) (h' : b.IsSuffix c) : a.IsSuffix c :=
  ⟨h.1.trans h'.1, h.2.trans h'.2⟩

theorem advance (rest : Rest) : rest.advance.IsSuffix rest := ⟨List.tail_suffix _, rfl⟩

theorem remaining_le {later earlier : Rest} (h : later.IsSuffix earlier) :
    later.remaining ≤ earlier.remaining := h.1.length_le

end IsSuffix

/-- **Taking a token shortens the rest.** -/
theorem remaining_advance_lt {rest : Rest} {token : Token} (h : rest.token? = some token) :
    rest.advance.remaining < rest.remaining := by
  obtain ⟨lexemes, stop⟩ := rest
  cases lexemes with
  | nil => simp [token?] at h
  | cons lexeme later => simp [Rest.advance, remaining]

theorem token?_of_operator? {rest : Rest} {precedence : Precedence} {operator : Operator}
    (h : rest.operator? precedence = some operator) :
    ∃ token, rest.token? = some token ∧ token.operator? = some operator ∧
      operator.precedence = precedence := by
  obtain ⟨h, hp⟩ := Option.filter_eq_some_iff.1 h
  obtain ⟨token, ht, ho⟩ := Option.bind_eq_some_iff.1 h
  exact ⟨token, ht, ho, of_decide_eq_true hp⟩

/-- **Taking an operator and then a phrase shortens the rest,** even if the phrase is empty. -/
theorem remaining_lt_of_operator? {rest later : Rest} {precedence : Precedence}
    {operator : Operator} (h : rest.operator? precedence = some operator)
    (taken : later.IsSuffix rest.advance) : later.remaining < rest.remaining := by
  obtain ⟨token, ht, -⟩ := token?_of_operator? h
  exact Nat.lt_of_le_of_lt taken.remaining_le (remaining_advance_lt ht)

end Rest
end Calculator
