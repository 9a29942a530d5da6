/-
# Routines carry out rules

A descent that calls a routine does what the rule of that routine does, step for
step: it logs the same events, takes the same machine steps, holds the same
values, gives the same outcome, and leaves the cursor where the rest of the rule
begins (`Cursor.leaving`).  It does so whatever waits for the outcome, and this
is what makes the proof go through: a routine that calls another and has more to
do puts a frame on the stack, and the other does not look at it.

| routine | rule |
| --- | --- |
| `expression`, `chain .additive` | `sum` |
| `chain .multiplicative` | `product` |
| `factor` | `factor` |
| `atom` | `atom` |
| `group` | `group` with a sum inside, or `tooDeep` |

The induction is along the calls (`Routine.induction`).  A routine has what it
calls below it, and a group what is inside it, one level deeper; at the deepest
level a group calls nothing.
-/

import Calculator.Descent
import Calculator.Proofs.Reading

namespace Calculator

/-! ### Routines and rules -/

namespace Routine

/-- The rule that a routine carries out under `depth` open parentheses. -/
def rule (depth : Nat) : Routine → Rule
  | expression | chain .additive => .sum depth
  | chain .multiplicative => .product depth
  | factor => .factor depth
  | atom => .atom depth
  | group => if maxNesting ≤ depth then .tooDeep depth else .group depth (.sum (depth + 1))

variable {depth : Nat}

theorem rule_group_of_le (h : maxNesting ≤ depth) : group.rule depth = .tooDeep depth := if_pos h

theorem rule_group_of_lt (h : depth < maxNesting) :
    group.rule depth = .group depth (expression.rule (depth + 1)) := if_neg (Nat.not_le_of_lt h)

theorem rule_atom (depth : Nat) : atom.rule depth = .operand (group.rule depth) := by
  show Rule.atomWithin (maxNesting - depth) depth = _
  rcases Nat.lt_or_ge depth maxNesting with h | h
  · have levels : maxNesting - depth = maxNesting - (depth + 1) + 1 := by omega
    rw [rule_group_of_lt h, levels]
    rfl
  · rw [rule_group_of_le h, Nat.sub_eq_zero_of_le h]
    rfl

theorem rule_chain (precedence : Precedence) (depth : Nat) :
    (chain precedence).rule depth = .chain precedence (precedence.routine.rule depth) := by
  cases precedence <;> rfl

/-- **Induction along the calls:** from what is called to what calls it. -/
theorem induction {motive : Nat → Routine → Prop}
    (refused : ∀ depth, maxNesting ≤ depth → motive depth group)
    (opened : ∀ depth, depth < maxNesting → motive (depth + 1) expression → motive depth group)
    (atoms : ∀ depth, motive depth group → motive depth atom)
    (factors : ∀ depth, motive depth atom → motive depth factor)
    (chains : ∀ depth precedence, motive depth precedence.routine →
      motive depth (chain precedence))
    (expressions : ∀ depth, motive depth (chain .additive) → motive depth expression)
    (depth : Nat) (routine : Routine) : motive depth routine := by
  have others {depth : Nat} (ofGroup : motive depth group) : ∀ routine, motive depth routine := by
    have ofFactor := factors depth (atoms depth ofGroup)
    have ofProduct := chains depth .multiplicative ofFactor
    have ofSum := chains depth .additive ofProduct
    intro routine
    cases routine with
    | expression => exact expressions depth ofSum
    | chain precedence => cases precedence with
      | additive => exact ofSum
      | multiplicative => exact ofProduct
    | factor => exact ofFactor
    | atom => exact atoms depth ofGroup
    | group => exact ofGroup
  -- the calls come around through a group only, which has one level less to go
  have groups (levels : Nat) : ∀ depth, maxNesting - depth = levels → motive depth group := by
    induction levels with
    | zero => exact fun depth h => refused depth (Nat.le_of_sub_eq_zero h)
    | succ levels ih =>
      intro depth h
      have deeper := ih (depth + 1) (by omega)
      exact opened depth (by omega) (others deeper expression)
  exact others (groups _ depth rfl) routine

end Routine

/-! ### Cursors and rests -/

namespace Cursor

/-- The cursor in the same lexemes that has a rest in front of it. -/
def leaving (cursor : Cursor) (rest : Rest) : Cursor :=
  ⟨cursor.lexemes, cursor.lexemes.length - rest.remaining, cursor.stop, Nat.sub_le ..⟩

/-- **A cursor that is ahead is where its rest says.** -/
theorem IsAhead.eq_leaving {later cursor : Cursor} (h : later.IsAhead cursor) :
    cursor.leaving later.rest = later := by
  obtain ⟨lexemes, position, stop, position_le⟩ := later
  obtain ⟨rfl, rfl, -⟩ := h
  simp only [leaving, remaining_rest, remaining, Cursor.mk.injEq, true_and, and_true]
  exact Nat.sub_sub_self position_le

theorem leaving_rest (cursor : Cursor) : cursor.leaving cursor.rest = cursor :=
  (IsAhead.refl cursor).eq_leaving

theorem leaving_advance (cursor : Cursor) :
    cursor.leaving cursor.rest.advance = cursor.advance := by
  rw [← rest_advance]
  exact (IsAhead.advance cursor).eq_leaving

variable {cursor : Cursor} {rest : Rest}

/-- **Whatever rules leave is in front of a cursor.** -/
theorem rest_leaving (h : rest.IsSuffix cursor.rest) : (cursor.leaving rest).rest = rest := by
  obtain ⟨lexemes, stop⟩ := rest
  obtain ⟨suffix, same⟩ := h
  have behind := List.suffix_iff_eq_drop.1 (suffix.trans (List.drop_suffix ..))
  exact Rest.mk.injEq .. ▸ ⟨behind.symm, same.symm⟩

theorem isAhead_leaving (h : rest.IsSuffix cursor.rest) : (cursor.leaving rest).IsAhead cursor where
  lexemes_eq := rfl
  stop_eq := rfl
  position_le := by
    have left := h.remaining_le
    have := cursor.position_le
    rw [remaining_rest, remaining] at left
    show cursor.position ≤ cursor.lexemes.length - rest.remaining
    omega

theorem token?_leaving (h : rest.IsSuffix cursor.rest) :
    (cursor.leaving rest).token? = rest.token? := by
  rw [← token?_rest, rest_leaving h]

theorem column_leaving (h : rest.IsSuffix cursor.rest) :
    (cursor.leaving rest).column = rest.column := by
  rw [← column_rest, rest_leaving h]

theorem advance_leaving (h : rest.IsSuffix cursor.rest) :
    (cursor.leaving rest).advance = cursor.leaving rest.advance := by
  have ahead := (IsAhead.advance (cursor.leaving rest)).trans (isAhead_leaving h)
  rw [← ahead.eq_leaving, rest_advance, rest_leaving h]

/-- A cursor and one ahead of it differ in the position only. -/
theorem IsAhead.leaving_eq {later : Cursor} (h : later.IsAhead cursor) (rest : Rest) :
    later.leaving rest = cursor.leaving rest := by
  simp only [leaving, h.lexemes_eq, h.stop_eq]

end Cursor

/-! ### Routines carry out rules -/

namespace Descent

/-- The descent that goes on with what a rule has found. -/
def returned (frames : List Frame) (cursor : Cursor) (parsed : Parsed) : Descent :=
  ⟨.give parsed.outcome, frames, cursor.leaving parsed.rest⟩

end Descent

namespace Routine

open Descent (returned)

/-- **A routine carries out a rule:** wherever it is called, and whatever waits for it, it gives
what the rule finds there. -/
def CarriesOut (routine : Routine) (depth : Nat) (rule : Rule) : Prop :=
  ∀ frames cursor, Descent.finish ⟨.call routine depth, frames, cursor⟩ = do
    let parsed ← rule.run cursor.rest
    (returned frames cursor parsed).finish

variable {depth : Nat}

theorem carriesOut_tooDeep (h : maxNesting ≤ depth) : group.CarriesOut depth (.tooDeep depth) := by
  intro frames cursor
  rw [Descent.finish_of_not_isOver id]
  simp only [Descent.step, Descent.enter, if_pos h, Rule.tooDeep, bind_assoc, pure_bind,
    Cursor.column_rest, returned, Cursor.leaving_rest]

theorem carriesOut_group (h : depth < maxNesting) {inner : Rule}
    (carries : expression.CarriesOut (depth + 1) inner) :
    group.CarriesOut depth (.group depth inner) := by
  intro frames cursor
  rw [Descent.finish_of_not_isOver id]
  simp only [Descent.step, Descent.enter, if_neg (Nat.not_le_of_lt h), Rule.group, bind_assoc,
    pure_bind]
  refine Run.bind_congr ?_
  rw [carries, Cursor.rest_advance]
  refine Run.bind_congr ?_
  have taken := (inner.isSuffix cursor.rest.advance).trans (.advance cursor.rest)
  generalize (inner.run cursor.rest.advance).result = parsed at taken ⊢
  rw [Descent.finish_of_not_isOver id]
  simp only [returned, (Cursor.IsAhead.advance cursor).leaving_eq, Descent.step, Descent.resume,
    Cursor.token?_leaving taken, Cursor.column_leaving taken, Cursor.advance_leaving taken]
  split <;> simp only [pure_bind, bind_assoc]

theorem carriesOut_atom {rule : Rule} (carries : group.CarriesOut depth rule) :
    atom.CarriesOut depth (.operand rule) := by
  intro frames cursor
  rw [Descent.finish_of_not_isOver id]
  simp only [Descent.step, Descent.enter, Rule.operand, Cursor.token?_rest, Cursor.column_rest]
  generalize cursor.token? = token
  split
  · simp only [map_eq_pure_bind, bind_assoc, pure_bind, returned, Cursor.leaving_advance]
  · rw [pure_bind, carries]
  · simp only [bind_assoc, pure_bind, returned, Cursor.leaving_rest]

theorem carriesOut_factor {rule : Rule} (carries : atom.CarriesOut depth rule) :
    factor.CarriesOut depth (.signed rule) := by
  intro frames cursor
  rw [Descent.finish_of_not_isOver id]
  simp only [Descent.step, Descent.enter, Rule.signed, Cursor.token?_rest]
  split
  · simp only [pure_bind, bind_assoc]
    rw [carries, Cursor.rest_advance]
    refine Run.bind_congr ?_
    generalize (rule.run cursor.rest.advance).result = parsed
    rw [Descent.finish_of_not_isOver id]
    simp only [returned, (Cursor.IsAhead.advance cursor).leaving_eq, Descent.step, Descent.resume,
      map_eq_pure_bind, bind_assoc, pure_bind]
  · rw [pure_bind, carries]

/-- **The loop of a chain** does what its links do. -/
theorem finish_extend {precedence : Precedence} {rule : Rule}
    (carries : precedence.routine.CarriesOut depth rule) (frames : List Frame)
    (left : Outcome Int) (rest : Rest) :
    ∀ cursor : Cursor, cursor.rest = rest →
      Descent.finish ⟨.extend precedence depth left, frames, cursor⟩ =
        Rule.links precedence rule left rest >>= fun parsed =>
          (returned frames cursor parsed).finish := by
  -- along the links that are left: their rest is in front of another cursor each time
  fun_induction Rule.links precedence rule left rest with
  | case1 left rest ended =>
    rintro cursor rfl
    rw [Cursor.operator?_rest] at ended
    rw [Descent.finish_of_not_isOver id]
    simp only [Descent.step, Descent.prolong, ended, pure_bind, returned, Cursor.leaving_rest]
  | case2 left rest operator found right shorter ih =>
    rintro cursor rfl
    rw [Cursor.operator?_rest] at found
    rw [Descent.finish_of_not_isOver id]
    simp only [Descent.step, Descent.prolong, found, pure_bind]
    rw [carries, Cursor.rest_advance, bind_assoc]
    refine Run.bind_congr ?_
    have taken := (rule.isSuffix cursor.rest.advance).trans (.advance cursor.rest)
    rw [Descent.finish_of_not_isOver id]
    simp only [returned, (Cursor.IsAhead.advance cursor).leaving_eq, Descent.step, Descent.resume,
      Cursor.column_rest, bind_assoc, pure_bind]
    refine Run.bind_congr ?_
    rw [ih _ _ (Cursor.rest_leaving taken)]
    rfl

theorem carriesOut_chain {precedence : Precedence} {rule : Rule}
    (carries : precedence.routine.CarriesOut depth rule) :
    (chain precedence).CarriesOut depth (.chain precedence rule) := by
  intro frames cursor
  rw [Descent.finish_of_not_isOver id]
  simp only [Descent.step, Descent.enter, pure_bind, Rule.chain, bind_assoc]
  rw [carries]
  refine Run.bind_congr ?_
  have taken := rule.isSuffix cursor.rest
  rw [Descent.finish_of_not_isOver id]
  simp only [returned, Descent.step, Descent.resume, pure_bind]
  rw [finish_extend carries _ _ _ _ (Cursor.rest_leaving taken)]
  rfl

theorem carriesOut_expression {rule : Rule} (carries : (chain .additive).CarriesOut depth rule) :
    expression.CarriesOut depth rule := by
  intro frames cursor
  rw [Descent.finish_of_not_isOver id, ← carries]
  rfl

/-- **Each routine carries out its rule.** -/
theorem carriesOut_rule (depth : Nat) (routine : Routine) :
    routine.CarriesOut depth (routine.rule depth) := by
  induction depth, routine using Routine.induction with
  | refused depth deep =>
    rw [rule_group_of_le deep]
    exact carriesOut_tooDeep deep
  | opened depth shallow inside =>
    rw [rule_group_of_lt shallow]
    exact carriesOut_group shallow inside
  | atoms depth ofGroup =>
    rw [rule_atom]
    exact carriesOut_atom ofGroup
  | factors depth ofAtom => exact carriesOut_factor ofAtom
  | chains depth precedence ofOperand =>
    rw [rule_chain]
    exact carriesOut_chain ofOperand
  | expressions depth ofSum => exact carriesOut_expression ofSum

end Routine

end Calculator
