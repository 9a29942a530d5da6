/-
# Reading makes progress

Whichever routine is called and wherever its cursor stands, the descent ends.
A step need not take a lexeme: an operand may be missing, and a group may be
refused.  What falls with every step is the weight of a descent
(`Descent.weight_step_lt`), so it is over after as many steps as it weighs
(`Descent.after_eq_finish`), and no move leads back (`Descent.Moves.isAhead`).

The weight also says where lexemes are taken.  Where a descent comes back to the
loop of a chain, or to an expression one group deeper, it has the same tasks and
frames as before, or heavier ones.  Yet it has become lighter, so there are fewer
lexemes (`Descent.Recurs.remaining_lt`).  Only a group without a lexeme to take
weighs more than what is inside it, and no routine calls such a group
(`Descent.opening_after`).

What a routine finds is told by its rule (`Routine.carriesOut_rule`).  A rule
that takes no lexeme has missed an operand at once, or refused a group, and each
way to build a rule from others keeps that apart from what takes a lexeme
(`Rule.TakesOrObjects`).
-/

import Calculator.Proofs.Descent

namespace Calculator

/-! ### A rule takes a lexeme or objects -/

namespace Rule

/-- **A rule takes a lexeme or objects:** where it takes none, it gives the placeholder and calls
the line malformed. -/
def TakesOrObjects (rule : Rule) : Prop :=
  ∀ rest, (rule.run rest).result.rest.remaining = rest.remaining →
    (rule.run rest).result.outcome.value = Value.placeholder ∧
      .malformed ∈ (rule.run rest).result.outcome.faults

variable {rest : Rest}

theorem takesOrObjects_tooDeep (depth : Nat) : (tooDeep depth).TakesOrObjects :=
  fun _ _ => ⟨rfl, FaultSet.mem_singleton.2 rfl⟩

theorem takesOrObjects_group (depth : Nat) {inner : Rule} (h : inner.TakesOrObjects) :
    (group depth inner).TakesOrObjects := by
  intro rest same
  have inside := (inner.isSuffix rest.advance).remaining_le
  have opened := (Rest.IsSuffix.advance rest).remaining_le
  rw [result_group] at same ⊢
  dsimp only at same ⊢
  by_cases closing : (inner.run rest.advance).result.rest.token? = some .closing
  · -- the closing parenthesis is taken
    rw [if_pos closing] at same
    have closed := Rest.remaining_advance_lt closing
    exact absurd same (Nat.ne_of_lt (Nat.lt_of_lt_of_le closed (Nat.le_trans inside opened)))
  · -- there was nothing to take, not even an opening parenthesis
    rw [if_neg closing] at same ⊢
    obtain ⟨value, -⟩ := h rest.advance (Nat.le_antisymm inside (same ▸ opened))
    exact ⟨value, FaultSet.mem_insert.2 (.inl rfl)⟩

theorem takesOrObjects_operand {group : Rule} (h : group.TakesOrObjects) :
    (operand group).TakesOrObjects := by
  intro rest same
  by_cases opening : rest.token? = some .opening
  · rw [run_operand_opening opening] at same ⊢
    exact h rest same
  · by_cases number : ∃ digits, rest.token? = some (.number digits)
    · obtain ⟨digits, number⟩ := number
      rw [run_operand_number number] at same
      exact absurd same (Nat.ne_of_lt (Rest.remaining_advance_lt number))
    · rw [result_operand_missing (not_exists.1 number) opening]
      exact ⟨rfl, FaultSet.mem_singleton.2 rfl⟩

theorem takesOrObjects_signed {operand : Rule} (h : operand.TakesOrObjects) :
    (signed operand).TakesOrObjects := by
  intro rest same
  rw [result_signed] at same ⊢
  by_cases minus : rest.token? = some .minus
  · rw [if_pos minus] at same
    have taken := (operand.isSuffix rest.advance).remaining_le
    exact absurd same (Nat.ne_of_lt (Nat.lt_of_le_of_lt taken (Rest.remaining_advance_lt minus)))
  · rw [if_neg minus] at same ⊢
    exact h rest same

/-- **A link takes its operator.** -/
theorem remaining_links_lt {precedence : Precedence} {operand : Rule} {left : Outcome Int}
    {operator : Operator} (next : rest.operator? precedence = some operator) :
    (links precedence operand left rest).result.rest.remaining < rest.remaining := by
  rw [result_links_of_some next]
  refine Rest.remaining_lt_of_operator? next ?_
  exact (isSuffix_links precedence operand _ _).trans (operand.isSuffix rest.advance)

theorem takesOrObjects_chain {precedence : Precedence} {operand : Rule}
    (h : operand.TakesOrObjects) : (chain precedence operand).TakesOrObjects := by
  intro rest same
  have first := (operand.isSuffix rest).remaining_le
  simp only [chain, Run.result_bind] at same ⊢
  cases next : (operand.run rest).result.rest.operator? precedence with
  | none =>
    rw [links_of_none next] at same ⊢
    exact h rest same
  | some operator =>
    exact absurd same (Nat.ne_of_lt (Nat.lt_of_lt_of_le (remaining_links_lt next) first))

end Rule

theorem Routine.takesOrObjects_rule (depth : Nat) (routine : Routine) :
    (routine.rule depth).TakesOrObjects := by
  induction depth, routine using Routine.induction with
  | refused depth deep =>
    rw [rule_group_of_le deep]
    exact Rule.takesOrObjects_tooDeep depth
  | opened depth shallow inside =>
    rw [rule_group_of_lt shallow]
    exact Rule.takesOrObjects_group depth inside
  | atoms depth ofGroup =>
    rw [rule_atom]
    exact Rule.takesOrObjects_operand ofGroup
  | factors depth ofAtom => exact Rule.takesOrObjects_signed ofAtom
  | chains depth precedence ofOperand =>
    rw [rule_chain]
    exact Rule.takesOrObjects_chain ofOperand
  | expressions depth ofSum => exact ofSum

/-! ### Runs -/

namespace Descent

variable {descent earlier later : Descent} {i j : Nat}

theorem IsOver.after_eq (h : descent.IsOver) (count : Nat) :
    descent.after count = pure descent := by
  induction count with
  | zero => rfl
  | succ count ih => rw [after, h.step_eq, pure_bind, ih]

theorem after_add (descent : Descent) (first more : Nat) :
    descent.after (first + more) = descent.after first >>= (·.after more) := by
  induction first generalizing descent with
  | zero => rw [Nat.zero_add, after, pure_bind]
  | succ first ih =>
    rw [Nat.succ_add, after, after, bind_assoc]
    exact Run.bind_congr (ih _)

theorem result_after_add (descent : Descent) (first more : Nat) :
    (descent.after (first + more)).result = ((descent.after first).result.after more).result := by
  rw [after_add, Run.result_bind]

/-- **A descent comes to its end** in as many steps as it weighs. -/
theorem after_eq_finish {count : Nat} (h : descent.weight ≤ count) :
    descent.after count = descent.finish := by
  induction count generalizing descent with
  | zero =>
    by_cases ended : descent.IsOver
    · rw [finish_of_isOver ended, ended.after_eq]
    · exact absurd (weight_step_lt ended) (by omega)
  | succ count ih =>
    by_cases ended : descent.IsOver
    · rw [finish_of_isOver ended, ended.after_eq]
    · have lighter := weight_step_lt ended
      rw [finish_of_not_isOver ended, after]
      exact Run.bind_congr (ih (by omega))

theorem weight_after_le (descent : Descent) (count : Nat) :
    (descent.after count).result.weight ≤ descent.weight := by
  induction count generalizing descent with
  | zero => exact Nat.le_refl _
  | succ count ih =>
    by_cases ended : descent.IsOver
    · rw [ended.after_eq]
      exact Nat.le_refl _
    · exact Nat.le_trans (ih _) (Nat.le_of_lt (weight_step_lt ended))

theorem weight_after_lt {count : Nat} (h : 0 < count) (ended : ¬ descent.IsOver) :
    (descent.after count).result.weight < descent.weight := by
  cases count with
  | zero => cases h
  | succ count => exact Nat.lt_of_le_of_lt (weight_after_le _ count) (weight_step_lt ended)

/-! ### Cursors on the way -/

/-- **No move leads back.** -/
theorem Moves.isAhead (h : earlier.Moves later) : later.cursor.IsAhead earlier.cursor := by
  cases h with
  | sign | number | opened | link | closed => exact .advance _
  | expression | operand | unsigned | group | missing | refused | ended | first | joined | negated
  | unclosed => exact .refl _

theorem isAhead_step (descent : Descent) : descent.step.result.cursor.IsAhead descent.cursor := by
  by_cases ended : descent.IsOver
  · rw [ended.step_eq]
    exact .refl _
  · exact (moves_step ended).isAhead

theorem isAhead_after (descent : Descent) (count : Nat) :
    (descent.after count).result.cursor.IsAhead descent.cursor := by
  induction count generalizing descent with
  | zero => exact .refl _
  | succ count ih => exact (ih _).trans (isAhead_step descent)

theorem isAhead_after_of_le (h : i ≤ j) :
    (descent.after j).result.cursor.IsAhead (descent.after i).result.cursor := by
  obtain ⟨more, rfl⟩ := Nat.exists_eq_add_of_le h
  rw [result_after_add]
  exact isAhead_after _ more

/-- **A group is called where its parenthesis opens.** -/
theorem Moves.opening {depth : Nat} (h : earlier.Moves later)
    (called : later.task = .call .group depth) : later.cursor.token? = some .opening := by
  cases h with
  | group next => exact next
  | @operand precedence | @link precedence => cases precedence <;> cases called
  | _ => cases called

theorem opening_of_step {depth : Nat} (h : descent.step.result.task = .call .group depth) :
    descent.step.result.cursor.token? = some .opening := by
  by_cases ended : descent.IsOver
  · rw [ended.step_eq] at h
    obtain ⟨task, frames, cursor⟩ := descent
    cases h
    cases ended
  · exact (moves_step ended).opening h

theorem opening_after {depth : Nat}
    (called : (descent.after (i + 1)).result.task = .call .group depth) :
    (descent.after (i + 1)).result.cursor.token? = some .opening := by
  rw [result_after_add] at called ⊢
  exact opening_of_step called

/-! ### Coming back -/

/-- **Where a descent comes back to what it has begun:** to the loop of the same chain, or to an
expression, in a group that was called before it. -/
inductive Recurs : Descent → Descent → Prop
  /-- The loop of a chain begins again, with the same frames below. -/
  | loop (precedence : Precedence) (depth : Nat) (left left' : Outcome Int) (frames : List Frame)
    (cursor cursor' : Cursor) :
    Recurs ⟨.extend precedence depth left, frames, cursor⟩
      ⟨.extend precedence depth left', frames, cursor'⟩
  /-- An atom has called for a group, and the group for what is inside. -/
  | atom (depth : Nat) (frames : List Frame) (cursor cursor' : Cursor) :
    Recurs ⟨.call .atom depth, frames, cursor⟩
      ⟨.call .expression (depth + 1), .closing :: frames, cursor'⟩
  /-- A group has called for what is inside. -/
  | group (depth : Nat) (frames : List Frame) (cursor cursor' : Cursor) :
    Recurs ⟨.call .group depth, frames, cursor⟩
      ⟨.call .expression (depth + 1), .closing :: frames, cursor'⟩

theorem Recurs.not_isOver (h : Recurs earlier later) : ¬ earlier.IsOver := by
  cases h <;> exact id

/-- **Coming back is paid for with a lexeme:** the tasks and frames have not become lighter.  A group
must have one to take. -/
theorem Recurs.remaining_lt (h : Recurs earlier later) (lighter : later.weight < earlier.weight)
    (more : ∀ depth, earlier.task = .call .group depth → earlier.cursor.remaining ≠ 0) :
    later.cursor.remaining < earlier.cursor.remaining := by
  cases h with
  | loop precedence depth left left' frames cursor cursor' =>
    -- task and frames weigh the same
    simp only [weight, Task.weight] at lighter ⊢
    omega
  | atom depth frames cursor cursor' =>
    -- an expression weighs more than an atom, and a frame has been added
    simp only [weight, Task.weight, Routine.weight, Frame.weights] at lighter ⊢
    omega
  | group depth frames cursor cursor' =>
    -- an expression weighs more than a group that has a lexeme to take
    have left : cursor.remaining ≠ 0 := more depth rfl
    simp only [weight, Task.weight, Routine.weight, if_neg left, Frame.weights] at lighter ⊢
    omega

/-- **A group has a lexeme to take,** unless it was called first. -/
theorem remaining_ne_zero_of_group {depth : Nat}
    (first : i = 0 → descent.task = .call .group depth → descent.cursor.remaining ≠ 0)
    (called : (descent.after i).result.task = .call .group depth) :
    (descent.after i).result.cursor.remaining ≠ 0 := by
  cases i with
  | zero => exact first rfl called
  | succ i => exact Nat.ne_of_gt (Cursor.remaining_pos (opening_after called))

/-- **A run comes back with fewer lexemes.** -/
theorem remaining_after_lt (h : i < j)
    (again : Recurs (descent.after i).result (descent.after j).result)
    (first : ∀ depth, i = 0 → descent.task = .call .group depth →
      descent.cursor.remaining ≠ 0) :
    (descent.after j).result.cursor.remaining < (descent.after i).result.cursor.remaining := by
  have more (depth : Nat) := remaining_ne_zero_of_group (first depth)
  obtain ⟨count, rfl⟩ := Nat.exists_eq_add_of_lt h
  rw [Nat.add_assoc, result_after_add] at again ⊢
  exact again.remaining_lt (weight_after_lt (Nat.succ_pos count) again.not_isOver) more

end Descent

/-! ### Progress -/

namespace Routine

open Descent (returned)

theorem weight_le (remaining : Nat) (routine : Routine) : routine.weight remaining ≤ 12 := by
  cases routine with
  | expression | factor | atom => simp [weight]
  | chain precedence => cases precedence <;> simp [weight]
  | group =>
    rw [weight]
    split <;> decide

/-- **A routine that was called is done** after at most eleven steps for each lexeme that was left,
and twelve more: there are the outcome and the cursor that its rule leads to. -/
theorem after_call {cursor : Cursor} {count : Nat} (routine : Routine) (depth : Nat)
    (enough : 11 * cursor.remaining + 12 ≤ count) :
    Descent.after ⟨.call routine depth, [], cursor⟩ count =
      returned [] cursor <$> (routine.rule depth).run cursor.rest := by
  have bound := routine.weight_le cursor.remaining
  have light : Descent.weight ⟨.call routine depth, [], cursor⟩ ≤ count := by
    simp only [Descent.weight, Task.weight, Frame.weights]
    omega
  rw [Descent.after_eq_finish light, routine.carriesOut_rule depth, map_eq_pure_bind]
  exact Run.bind_congr (Descent.finish_of_isOver trivial)

/-- **A routine that takes nothing objects.** -/
theorem objects {cursor : Cursor} (routine : Routine) (depth : Nat)
    (still : (cursor.leaving ((routine.rule depth).run cursor.rest).result.rest).position =
      cursor.position) :
    ((routine.rule depth).run cursor.rest).result.outcome.value = Value.placeholder ∧
      .malformed ∈ ((routine.rule depth).run cursor.rest).result.outcome.faults := by
  refine routine.takesOrObjects_rule depth cursor.rest ?_
  rw [← Cursor.rest_leaving ((routine.rule depth).isSuffix cursor.rest), Cursor.remaining_rest,
    Cursor.remaining_rest]
  exact congrArg (cursor.lexemes.length - ·) still

end Routine

open Descent (Recurs)

/-- **Reading makes progress and comes to an end,** whichever routine is called, at whatever depth,
and wherever its cursor stands.  It ends after at most eleven steps for each lexeme that was left,
and twelve more, and has then found and logged what its rule finds and logs.  The cursor is in the
same lexemes, not behind where it was and not past their end, and no step on the way leads back.
Each time the loop of a chain begins again and each time the inside of a group is called, fewer
lexemes are left.  A group that was called first must have a lexeme to take for this; every other
has one, since routines call a group only where its parenthesis opens.  A routine that takes nothing
gives zero and calls the line malformed, so that what is not malformed has taken a lexeme. -/
theorem routines_make_progress (routine : Routine) (depth : Nat) (cursor : Cursor) :
    let start : Descent := ⟨.call routine depth, [], cursor⟩
    let state (count : Nat) := (start.after count).result
    let found := (routine.rule depth).run cursor.rest
    let outcome := found.result.outcome
    (∃ later : Cursor,
      (∀ count, 11 * cursor.remaining + 12 ≤ count →
        start.after count = (fun parsed => ⟨.give parsed.outcome, [], later⟩) <$> found) ∧
      later.rest = found.result.rest ∧
      later.lexemes = cursor.lexemes ∧ later.stop = cursor.stop ∧
      cursor.position ≤ later.position ∧ later.position ≤ cursor.lexemes.length ∧
      (later.position = cursor.position → outcome.value = 0 ∧ .malformed ∈ outcome.faults) ∧
      (¬ .malformed ∈ outcome.faults → cursor.position < later.position)) ∧
    (∀ i j, i ≤ j → (state j).cursor.IsAhead (state i).cursor) ∧
    (∀ i j, i < j → Recurs (state i) (state j) →
      (i = 0 → routine = .group → cursor.remaining ≠ 0) →
      (state j).cursor.remaining < (state i).cursor.remaining) ∧
    ∀ i inner, (state (i + 1)).task = .call .group inner →
      (state (i + 1)).cursor.token? = some .opening := by
  intro start state found outcome
  have taken := (routine.rule depth).isSuffix cursor.rest
  have ahead := Cursor.isAhead_leaving taken
  refine ⟨⟨cursor.leaving found.result.rest, fun count => routine.after_call depth,
    Cursor.rest_leaving taken, rfl, rfl, ahead.position_le, Nat.sub_le .., routine.objects depth,
    ?_⟩, ?_, ?_, ?_⟩
  · intro clean
    refine Nat.lt_of_le_of_ne ahead.position_le fun still => ?_
    exact clean (routine.objects depth still.symm).2
  · exact fun i j => Descent.isAhead_after_of_le
  · intro i j earlier again first
    refine Descent.remaining_after_lt earlier again fun inner begun called => first begun ?_
    cases called
    rfl
  · exact fun i inner => Descent.opening_after

/-- The call of a factor, with one level left, on (*). -/
def Descent.starred : Descent :=
  ⟨.call .factor 255, [], .start [⟨.opening, 0⟩, ⟨.star, 1⟩, ⟨.closing, 2⟩] 3⟩

/-- In (*) the group is called at its parenthesis, and what is inside has one lexeme less; the loop
of the product begins again behind the operator, and all is over after 45 steps.  The same group
may be called first, as it has a lexeme to take.  A closing parenthesis is no atom and is not taken;
a number is one and is taken. -/
theorem routines_make_progress_starred :
    (Descent.starred.after 45).result.task = .give ⟨0, {.malformed}⟩ ∧
      (Descent.starred.after 2).result.cursor.token? = some .opening ∧
      (Descent.starred.after 3).result.cursor.remaining <
        (Descent.starred.after 1).result.cursor.remaining ∧
      (Descent.starred.after 13).result.cursor.remaining <
        (Descent.starred.after 9).result.cursor.remaining ∧
      (Descent.after ⟨.call .group 255, [], Descent.starred.cursor⟩ 1).result.cursor.remaining <
        Descent.starred.cursor.remaining ∧
      .malformed ∈ ((Routine.atom.rule 0).run ⟨[⟨.closing, 0⟩], 1⟩).result.outcome.faults ∧
      ∃ later : Cursor, later.lexemes = [⟨.number ['7'], 0⟩] ∧ 0 < later.position := by
  refine ⟨?_, ?_, ?_, ?_, ?_, ?_, ?_⟩
  · obtain ⟨⟨later, ends, -⟩, -⟩ := routines_make_progress .factor 255 Descent.starred.cursor
    have found : ((Routine.factor.rule 255).run Descent.starred.cursor.rest).result.outcome =
        ⟨0, {.malformed}⟩ := by
      decide +kernel
    exact (congrArg (·.result.task) (ends 45 (by decide))).trans (congrArg Task.give found)
  · obtain ⟨-, -, -, opens⟩ := routines_make_progress .factor 255 Descent.starred.cursor
    exact opens 1 255 (by decide +kernel)
  · obtain ⟨-, -, falls, -⟩ := routines_make_progress .factor 255 Descent.starred.cursor
    have atom : (Descent.starred.after 1).result =
        ⟨.call .atom 255, [], Descent.starred.cursor⟩ := by
      decide +kernel
    have inside : (Descent.starred.after 3).result =
        ⟨.call .expression 256, [.closing], Descent.starred.cursor.advance⟩ := by
      decide +kernel
    refine falls 1 3 (by decide) ?_ (fun _ => nofun)
    show Recurs (Descent.starred.after 1).result (Descent.starred.after 3).result
    rw [atom, inside]
    exact .atom ..
  · obtain ⟨-, -, falls, -⟩ := routines_make_progress .factor 255 Descent.starred.cursor
    have loop : (Descent.starred.after 9).result =
        ⟨.extend .multiplicative 256 ⟨0, {.malformed}⟩, [.first .additive 256, .closing],
          Descent.starred.cursor.advance⟩ := by
      decide +kernel
    have again : (Descent.starred.after 13).result =
        ⟨.extend .multiplicative 256 ⟨0, {.malformed}⟩, [.first .additive 256, .closing],
          Descent.starred.cursor.advance.advance⟩ := by
      decide +kernel
    refine falls 9 13 (by decide) ?_ (fun _ => nofun)
    show Recurs (Descent.starred.after 9).result (Descent.starred.after 13).result
    rw [loop, again]
    exact .loop ..
  · obtain ⟨-, -, falls, -⟩ := routines_make_progress .group 255 Descent.starred.cursor
    have inside : (Descent.after ⟨.call .group 255, [], Descent.starred.cursor⟩ 1).result =
        ⟨.call .expression 256, [.closing], Descent.starred.cursor.advance⟩ := by
      decide +kernel
    refine falls 0 1 (by decide) ?_ (fun _ _ => by decide +kernel)
    show Recurs _ (Descent.after ⟨.call .group 255, [], Descent.starred.cursor⟩ 1).result
    rw [inside]
    exact .group ..
  · obtain ⟨⟨later, -, rest, lexemes, -, -, -, objects, -⟩, -⟩ :=
      routines_make_progress .atom 0 (.start [⟨.closing, 0⟩] 1)
    have left : later.remaining = 1 := by
      rw [← later.remaining_rest, rest]
      decide +kernel
    rw [Cursor.remaining, lexemes] at left
    change 1 - later.position = 1 at left
    have still : later.position = 0 := by omega
    exact (objects still).2
  · obtain ⟨⟨later, -, -, lexemes, -, -, -, -, taken⟩, -⟩ :=
      routines_make_progress .atom 0 (.start [⟨.number ['7'], 0⟩] 1)
    exact ⟨later, lexemes, taken (by decide +kernel)⟩

end Calculator
