/-
# Descending one step at a time

The rules of `Calculator.Rule` are built from each other, and how one goes on
when another is done is left to the language.  Here it is written out.  A
descent has a task, a cursor and a stack of frames: a frame says how a routine
that has called another goes on with the outcome it is given.

| task | what a step does |
| --- | --- |
| `call` | a routine begins: it calls another or has an outcome at once |
| `extend` | a chain takes one more operator and calls for its operand, or ends |
| `give` | the routine that called last goes on with the outcome |

A descent is over when an outcome is given and nobody waits for it.  It always
comes to that.  A routine may call another and take nothing, so what is left of
the line does not shrink with every step; but each step makes a descent lighter
(`Descent.weight_step_lt`).  An opening parenthesis causes the most steps, six
down to the atom behind it and five back, and so a lexeme weighs eleven; the
routines weigh little and are ranked by who calls whom.
-/

import Calculator.Cursor
import Calculator.Rule

namespace Calculator

/-- The routines that read a line, each of which calls others. -/
inductive Routine
  /-- A whole expression: a chain of the looser operators. -/
  | expression
  /-- Operands joined by operators of one precedence. -/
  | chain (precedence : Precedence)
  /-- An atom with at most one sign. -/
  | factor
  /-- A literal or a group. -/
  | atom
  /-- An expression in parentheses. -/
  | group
deriving DecidableEq

/-- The routine that reads the operands of a chain. -/
def Precedence.routine : Precedence → Routine
  | .multiplicative => .factor
  | .additive => .chain .multiplicative

/-- How a routine goes on when it is given what it has called for. -/
inductive Frame
  /-- The first operand of a chain was called for. -/
  | first (precedence : Precedence) (depth : Nat)
  /-- One more operand was called for, behind an operator. -/
  | joined (precedence : Precedence) (depth : Nat) (left : Outcome Int) (operator : Operator)
    (column : Nat)
  /-- A `-` was taken, and its operand was called for. -/
  | negated
  /-- The expression in a group was called for. -/
  | closing
deriving DecidableEq

/-- What a descent is about to do. -/
inductive Task
  /-- Call a routine under `depth` open parentheses. -/
  | call (routine : Routine) (depth : Nat)
  /-- See whether a chain goes on, which is `left` so far. -/
  | extend (precedence : Precedence) (depth : Nat) (left : Outcome Int)
  /-- Give an outcome to the routine that has called. -/
  | give (outcome : Outcome Int)
deriving DecidableEq

/-- A state on the way through a line. -/
structure Descent where
  /-- What comes next. -/
  task : Task
  /-- The routines that wait, the one that called last first. -/
  frames : List Frame
  /-- Where the lexemes are read. -/
  cursor : Cursor
deriving DecidableEq

namespace Descent

/-- A step in which a routine begins. -/
def enter (routine : Routine) (depth : Nat) (frames : List Frame) (cursor : Cursor) :
    Run Descent :=
  match routine with
  | .expression => pure ⟨.call (.chain .additive) depth, frames, cursor⟩
  | .chain precedence =>
    pure ⟨.call precedence.routine depth, .first precedence depth :: frames, cursor⟩
  | .factor =>
    if cursor.token? = some .minus then
      pure ⟨.call .atom depth, .negated :: frames, cursor.advance⟩
    else
      pure ⟨.call .atom depth, frames, cursor⟩
  | .atom =>
    match cursor.token? with
    | some (.number digits) =>
      (⟨.give ·, frames, cursor.advance⟩) <$> literal digits cursor.column
    | some .opening => pure ⟨.call .group depth, frames, cursor⟩
    | token => do
      Run.report (.operandExpected cursor.column token)
      pure ⟨.give (.flagged (← Run.hold Value.placeholder) .malformed), frames, cursor⟩
  | .group =>
    if maxNesting ≤ depth then do
      Run.report (.nestingTooDeep cursor.column depth)
      pure ⟨.give (.flagged (← Run.hold Value.placeholder) .malformed), frames, cursor⟩
    else do
      let _ ← Run.perform (.deepen depth)
      pure ⟨.call .expression (depth + 1), .closing :: frames, cursor.advance⟩

/-- A step in which a chain goes on or ends. -/
def prolong (precedence : Precedence) (depth : Nat) (left : Outcome Int) (frames : List Frame)
    (cursor : Cursor) : Run Descent :=
  match cursor.operator? precedence with
  | none => pure ⟨.give left, frames, cursor⟩
  | some operator =>
    pure ⟨.call precedence.routine depth,
      .joined precedence depth left operator cursor.column :: frames, cursor.advance⟩

/-- A step in which a routine goes on with what it is given. -/
def resume (outcome : Outcome Int) (frame : Frame) (frames : List Frame) (cursor : Cursor) :
    Run Descent :=
  match frame with
  | .first precedence depth => pure ⟨.extend precedence depth outcome, frames, cursor⟩
  | .joined precedence depth left operator column => do
    let joined ← left.combine operator outcome column
    pure ⟨.extend precedence depth joined, frames, cursor⟩
  | .negated => (⟨.give ·, frames, cursor⟩) <$> outcome.negate
  | .closing =>
    if cursor.token? = some .closing then
      pure ⟨.give outcome, frames, cursor.advance⟩
    else do
      Run.report (.closingExpected cursor.column)
      pure ⟨.give (outcome.record .malformed), frames, cursor⟩

/-- **One step of a descent.**  When it is over there is nothing to do. -/
def step : Descent → Run Descent
  | ⟨.call routine depth, frames, cursor⟩ => enter routine depth frames cursor
  | ⟨.extend precedence depth left, frames, cursor⟩ => prolong precedence depth left frames cursor
  | ⟨.give outcome, frame :: frames, cursor⟩ => resume outcome frame frames cursor
  | ⟨.give outcome, [], cursor⟩ => pure ⟨.give outcome, [], cursor⟩

/-- **A descent is over** when its outcome is given to nobody. -/
def IsOver : Descent → Prop
  | ⟨.give _, [], _⟩ => True
  | _ => False

instance : DecidablePred IsOver
  | ⟨.give _, [], _⟩ => isTrue trivial
  | ⟨.give _, _ :: _, _⟩ | ⟨.call _ _, _, _⟩ | ⟨.extend _ _ _, _, _⟩ => isFalse id

theorem IsOver.step_eq {descent : Descent} (h : descent.IsOver) :
    descent.step = pure descent := by
  obtain ⟨task, frames, cursor⟩ := descent
  cases task with
  | call routine depth => cases h
  | extend precedence depth left => cases h
  | give outcome =>
    cases frames with
    | nil => rfl
    | cons frame frames => cases h

/-- The descent after some steps. -/
def after (descent : Descent) : (count : Nat) → Run Descent
  | 0 => pure descent
  | count + 1 => do
    let next ← descent.step
    next.after count

/-- **What a step does,** from where and to where. -/
inductive Moves : Descent → Descent → Prop
  | expression {depth frames cursor} :
    Moves ⟨.call .expression depth, frames, cursor⟩ ⟨.call (.chain .additive) depth, frames, cursor⟩
  | operand {precedence depth frames cursor} :
    Moves ⟨.call (.chain precedence) depth, frames, cursor⟩
      ⟨.call precedence.routine depth, .first precedence depth :: frames, cursor⟩
  | sign {depth frames cursor} (next : cursor.token? = some .minus) :
    Moves ⟨.call .factor depth, frames, cursor⟩
      ⟨.call .atom depth, .negated :: frames, cursor.advance⟩
  | unsigned {depth frames cursor} (next : cursor.token? ≠ some .minus) :
    Moves ⟨.call .factor depth, frames, cursor⟩ ⟨.call .atom depth, frames, cursor⟩
  | number {depth frames cursor digits} (next : cursor.token? = some (.number digits)) :
    Moves ⟨.call .atom depth, frames, cursor⟩
      ⟨.give (literal digits cursor.column).result, frames, cursor.advance⟩
  | group {depth frames cursor} (next : cursor.token? = some .opening) :
    Moves ⟨.call .atom depth, frames, cursor⟩ ⟨.call .group depth, frames, cursor⟩
  | missing {depth frames cursor} (number : ∀ digits, cursor.token? ≠ some (.number digits))
    (opening : cursor.token? ≠ some .opening) :
    Moves ⟨.call .atom depth, frames, cursor⟩
      ⟨.give (.flagged Value.placeholder .malformed), frames, cursor⟩
  | refused {depth frames cursor} (deep : maxNesting ≤ depth) :
    Moves ⟨.call .group depth, frames, cursor⟩
      ⟨.give (.flagged Value.placeholder .malformed), frames, cursor⟩
  | opened {depth frames cursor} (shallow : depth < maxNesting) :
    Moves ⟨.call .group depth, frames, cursor⟩
      ⟨.call .expression (depth + 1), .closing :: frames, cursor.advance⟩
  | link {precedence depth left operator frames cursor}
    (next : cursor.operator? precedence = some operator) :
    Moves ⟨.extend precedence depth left, frames, cursor⟩
      ⟨.call precedence.routine depth,
        .joined precedence depth left operator cursor.column :: frames, cursor.advance⟩
  | ended {precedence depth left frames cursor} (next : cursor.operator? precedence = none) :
    Moves ⟨.extend precedence depth left, frames, cursor⟩ ⟨.give left, frames, cursor⟩
  | first {outcome precedence depth frames cursor} :
    Moves ⟨.give outcome, .first precedence depth :: frames, cursor⟩
      ⟨.extend precedence depth outcome, frames, cursor⟩
  | joined {outcome precedence depth left operator column frames cursor} :
    Moves ⟨.give outcome, .joined precedence depth left operator column :: frames, cursor⟩
      ⟨.extend precedence depth (left.combine operator outcome column).result, frames, cursor⟩
  | negated {outcome frames cursor} :
    Moves ⟨.give outcome, .negated :: frames, cursor⟩ ⟨.give outcome.negate.result, frames, cursor⟩
  | closed {outcome frames cursor} (next : cursor.token? = some .closing) :
    Moves ⟨.give outcome, .closing :: frames, cursor⟩ ⟨.give outcome, frames, cursor.advance⟩
  | unclosed {outcome frames cursor} (next : cursor.token? ≠ some .closing) :
    Moves ⟨.give outcome, .closing :: frames, cursor⟩
      ⟨.give (outcome.record .malformed), frames, cursor⟩

theorem moves_enter (routine : Routine) (depth : Nat) (frames : List Frame) (cursor : Cursor) :
    Moves ⟨.call routine depth, frames, cursor⟩ (enter routine depth frames cursor).result := by
  cases routine with
  | expression => exact .expression
  | chain precedence => exact .operand
  | factor =>
    rw [enter]
    split
    · next minus => exact .sign minus
    · next unsigned => exact .unsigned unsigned
  | atom =>
    rw [enter]
    split
    · next digits number => exact .number number
    · next opening => exact .group opening
    · next number opening => exact .missing number opening
  | group =>
    rw [enter]
    split
    · next deep => exact .refused deep
    · next shallow => exact .opened (Nat.lt_of_not_le shallow)

theorem moves_prolong (precedence : Precedence) (depth : Nat) (left : Outcome Int)
    (frames : List Frame) (cursor : Cursor) :
    Moves ⟨.extend precedence depth left, frames, cursor⟩
      (prolong precedence depth left frames cursor).result := by
  rw [prolong]
  split
  · next none => exact .ended none
  · next operator some => exact .link some

theorem moves_resume (outcome : Outcome Int) (frame : Frame) (frames : List Frame)
    (cursor : Cursor) :
    Moves ⟨.give outcome, frame :: frames, cursor⟩
      (resume outcome frame frames cursor).result := by
  cases frame with
  | first precedence depth => exact .first
  | joined precedence depth left operator column => exact .joined
  | negated => exact .negated
  | closing =>
    rw [resume]
    split
    · next closing => exact .closed closing
    · next other => exact .unclosed other

/-- **A descent that is not over moves.** -/
theorem moves_step {descent : Descent} (h : ¬ descent.IsOver) :
    descent.Moves descent.step.result := by
  obtain ⟨task, frames, cursor⟩ := descent
  cases task with
  | call routine depth => exact moves_enter routine depth frames cursor
  | extend precedence depth left => exact moves_prolong precedence depth left frames cursor
  | give outcome =>
    cases frames with
    | nil => exact absurd trivial h
    | cons frame frames => exact moves_resume outcome frame frames cursor

end Descent

/-! ### Each step makes a descent lighter -/

/-- What a routine weighs that is called where so many lexemes are left.  It is more than what it
calls before it has taken anything.  A group takes its parenthesis first, and so it may be light;
but a group that is called at the end of the line has none to take. -/
def Routine.weight (remaining : Nat) : Routine → Nat
  | expression => 10
  | chain .additive => 9
  | chain .multiplicative => 6
  | factor => 3
  | atom => 2
  | group => if remaining = 0 then 12 else 1

/-- What a routine weighs that waits. -/
def Frame.weight : Frame → Nat
  | first .. | joined .. => 2
  | negated | closing => 1

/-- What the routines that wait weigh together. -/
def Frame.weights : List Frame → Nat
  | [] => 0
  | frame :: frames => frame.weight + weights frames

/-- What a task weighs where so many lexemes are left. -/
def Task.weight (remaining : Nat) : Task → Nat
  | call routine _ => routine.weight remaining
  | extend .. => 1
  | give _ => 0

namespace Descent

/-- **The weight of a descent:** a bound on the steps it still takes. -/
def weight (descent : Descent) : Nat :=
  11 * descent.cursor.remaining + descent.task.weight descent.cursor.remaining +
    Frame.weights descent.frames

/-- **Each move makes a descent lighter.** -/
theorem Moves.weight_lt {earlier later : Descent} (h : earlier.Moves later) :
    later.weight < earlier.weight := by
  cases h with
  | expression | unsigned | missing | ended | first | joined | negated | unclosed =>
    simp only [weight, Task.weight, Routine.weight, Frame.weights, Frame.weight]
    omega
  | @operand precedence =>
    cases precedence <;>
      simp only [weight, Task.weight, Precedence.routine, Routine.weight, Frame.weights,
        Frame.weight]
    all_goals omega
  | @sign _ _ cursor next | @number _ _ cursor _ next | @closed _ _ cursor next =>
    have left := Cursor.remaining_pos next
    have taken := cursor.remaining_advance
    simp only [weight, Task.weight, Routine.weight, Frame.weights, Frame.weight]
    omega
  | @link precedence _ _ _ _ cursor next =>
    have left := Cursor.remaining_pos_of_operator? next
    have taken := cursor.remaining_advance
    cases precedence <;>
      simp only [weight, Task.weight, Precedence.routine, Routine.weight, Frame.weights,
        Frame.weight]
    all_goals omega
  | group next =>
    have left := Cursor.remaining_pos next
    simp only [weight, Task.weight, Routine.weight]
    rw [if_neg (Nat.ne_of_gt left)]
    omega
  | refused =>
    simp only [weight, Task.weight, Routine.weight]
    split <;> omega
  | @opened _ _ cursor =>
    have taken := cursor.remaining_advance
    simp only [weight, Task.weight, Routine.weight, Frame.weights, Frame.weight]
    split <;> omega

theorem weight_step_lt {descent : Descent} (h : ¬ descent.IsOver) :
    descent.step.result.weight < descent.weight :=
  (moves_step h).weight_lt

/-- **A descent to its end.** -/
def finish (descent : Descent) : Run Descent :=
  if ended : descent.IsOver then
    pure descent
  else
    let next := descent.step
    have := weight_step_lt ended
    do
      let _ ← next
      finish next.result
termination_by descent.weight

theorem finish_of_isOver {descent : Descent} (h : descent.IsOver) :
    descent.finish = pure descent := by
  rw [finish, dif_pos h]

/-- **What remains to be done** is one step and what remains after it. -/
theorem finish_of_not_isOver {descent : Descent} (h : ¬ descent.IsOver) :
    descent.finish = descent.step >>= finish := by
  rw [finish, dif_neg h]
  rfl

end Descent
end Calculator
