/-
# Cursors

A cursor is a position in the lexemes of a line.  Where a rest keeps what is
left and forgets what was taken, a cursor keeps all lexemes and moves over them:
taking one leaves the lexemes as they are, and the position never passes their
end.  What a cursor has in front of it is its rest (`Cursor.rest`), and each
question a rule may ask has the same answer for both.
-/

import Calculator.Rest

namespace Calculator

/-- A position in the lexemes of a line. -/
structure Cursor where
  /-- The lexemes of the line. -/
  lexemes : List Lexeme
  /-- How many of them have been taken. -/
  position : Nat
  /-- The column that stands for the end of the line. -/
  stop : Nat
  /-- No more lexemes have been taken than there are. -/
  position_le : position ≤ lexemes.length
deriving DecidableEq

namespace Cursor

/-- A cursor in front of the first lexeme. -/
def start (lexemes : List Lexeme) (stop : Nat) : Cursor := ⟨lexemes, 0, stop, Nat.zero_le _⟩

/-- The next token. -/
def token? (cursor : Cursor) : Option Token := cursor.lexemes[cursor.position]?.map Lexeme.token

/-- The column of the next lexeme, or the end of the line. -/
def column (cursor : Cursor) : Nat :=
  (cursor.lexemes[cursor.position]?.map Lexeme.column).getD cursor.stop

/-- How many lexemes are left. -/
def remaining (cursor : Cursor) : Nat := cursor.lexemes.length - cursor.position

/-- The cursor behind the next lexeme, or the same cursor when there is none. -/
def advance (cursor : Cursor) : Cursor :=
  if more : cursor.position < cursor.lexemes.length then
    ⟨cursor.lexemes, cursor.position + 1, cursor.stop, more⟩
  else
    cursor

/-- The operator that comes next, if it has the given precedence. -/
def operator? (precedence : Precedence) (cursor : Cursor) : Option Operator :=
  (cursor.token?.bind Token.operator?).filter (·.precedence = precedence)

/-- What is in front of a cursor. -/
def rest (cursor : Cursor) : Rest := ⟨cursor.lexemes.drop cursor.position, cursor.stop⟩

/-- **A cursor is ahead of another** in the same lexemes when it stands there or farther on. -/
structure IsAhead (later earlier : Cursor) : Prop where
  lexemes_eq : later.lexemes = earlier.lexemes
  stop_eq : later.stop = earlier.stop
  position_le : earlier.position ≤ later.position

/-! ### What is in front -/

section Rest

variable (cursor : Cursor)

@[simp] theorem head?_rest : cursor.rest.lexemes.head? = cursor.lexemes[cursor.position]? :=
  List.head?_drop

@[simp] theorem token?_rest : cursor.rest.token? = cursor.token? := by
  rw [Rest.token?, head?_rest, token?]

@[simp] theorem column_rest : cursor.rest.column = cursor.column := by
  rw [Rest.column, head?_rest]
  rfl

@[simp] theorem remaining_rest : cursor.rest.remaining = cursor.remaining := List.length_drop

@[simp] theorem operator?_rest (precedence : Precedence) :
    cursor.rest.operator? precedence = cursor.operator? precedence := by
  rw [Rest.operator?, token?_rest, operator?]

/-- **A cursor moves as its rest does.** -/
@[simp] theorem rest_advance : cursor.advance.rest = cursor.rest.advance := by
  unfold advance
  split
  · exact congrArg (Rest.mk · cursor.stop) List.tail_drop.symm
  · next more =>
    have nothing : cursor.lexemes.drop cursor.position = [] :=
      List.drop_eq_nil_of_le (Nat.le_of_not_lt more)
    rw [rest, Rest.advance, nothing, List.tail_nil]

end Rest

/-! ### Moving on -/

variable {cursor : Cursor}

/-- **Taking a lexeme leaves one less.** -/
theorem remaining_advance (cursor : Cursor) : cursor.advance.remaining = cursor.remaining - 1 := by
  rw [← remaining_rest, rest_advance, ← remaining_rest]
  exact List.length_tail

theorem remaining_pos {token : Token} (h : cursor.token? = some token) : 0 < cursor.remaining := by
  obtain ⟨lexeme, next, -⟩ := Option.map_eq_some_iff.1 h
  obtain ⟨more, -⟩ := List.getElem?_eq_some_iff.1 next
  exact Nat.sub_pos_of_lt more

theorem remaining_pos_of_operator? {precedence : Precedence} {operator : Operator}
    (h : cursor.operator? precedence = some operator) : 0 < cursor.remaining := by
  rw [← operator?_rest] at h
  obtain ⟨token, next, -⟩ := Rest.token?_of_operator? h
  exact remaining_pos (cursor.token?_rest ▸ next)

namespace IsAhead

theorem refl (cursor : Cursor) : cursor.IsAhead cursor := ⟨rfl, rfl, Nat.le_refl _⟩

theorem trans {a b c : Cursor} (h : a.IsAhead b) (h' : b.IsAhead c) : a.IsAhead c :=
  ⟨h.lexemes_eq.trans h'.lexemes_eq, h.stop_eq.trans h'.stop_eq,
    Nat.le_trans h'.position_le h.position_le⟩

theorem advance (cursor : Cursor) : cursor.advance.IsAhead cursor := by
  unfold Cursor.advance
  split
  · exact ⟨rfl, rfl, Nat.le_succ _⟩
  · exact .refl cursor

end IsAhead

end Cursor
end Calculator
