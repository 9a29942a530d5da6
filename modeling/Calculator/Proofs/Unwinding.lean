/-
# Groups that cannot close

A sum goes on as long as an operator follows, so no operator is left behind it
(`Rule.operator?_chain_chain`).  A group whose sum is not followed by a closing
parenthesis therefore leaves a token that nobody takes: the rules around it want
an operator, the groups around it a closing parenthesis.  The same holds where a
group is refused, which leaves the opening parenthesis.

So what happens while a rule reads is settled in the sense of `Moment.Settles`,
with as many open groups as the rule has levels (`Chronicle.Settles`).  Each way
to build a rule keeps this; a group adds one level, and the links of a chain are
only taken while all is closed.
-/

import Calculator.Proofs.Logging
import Calculator.Proofs.Settling

namespace Calculator

/-! ### No operator is left behind a sum -/

namespace Rule

variable {precedence : Precedence} {operand : Rule}

/-- The links of a chain end where no operator of the precedence comes next. -/
theorem operator?_links (left : Outcome Int) (rest : Rest) :
    (links precedence operand left rest).result.rest.operator? precedence = none := by
  fun_induction links precedence operand left rest with
  | case1 left rest none => exact none
  | case2 left rest operator some right shorter ih => exact ih _

/-- **The links of a chain end where an operand ended,** the one before them or one of theirs. -/
theorem links_ends (ends : Rest → Prop) (h : ∀ rest, ends (operand.run rest).result.rest)
    (left : Outcome Int) (rest : Rest) :
    ends rest → ends (links precedence operand left rest).result.rest := by
  fun_induction links precedence operand left rest with
  | case1 left rest none => exact id
  | case2 left rest operator some right shorter ih => exact fun _ => ih _ (h _)

/-- **No operator is left behind a sum,** whatever the sum was. -/
theorem operator?_chain_chain (rest : Rest) :
    ((chain .additive (chain .multiplicative operand)).run rest).result.rest.token?.bind
      Token.operator? = none := by
  have product (rest : Rest) :
      ((chain .multiplicative operand).run rest).result.rest.operator? .multiplicative = none :=
    operator?_links _ _
  refine Rest.bind_operator?_eq_none fun precedence => ?_
  cases precedence with
  | additive => exact operator?_links _ _
  | multiplicative =>
    exact links_ends (·.operator? .multiplicative = none) product _ _ (product rest)

end Rule

/-! ### Rules -/

theorem Rest.isQuiet_of_mem_taking {rest : Rest} {token : Token} (h : rest.token? = some token)
    (opening : token ≠ .opening) (closing : token ≠ .closing) :
    ∀ moment ∈ rest.taking, moment.IsQuiet := by
  rw [Rest.taking_of_token? h]
  refine List.forall_mem_singleton.2 ⟨?_, ?_, rfl⟩
  · exact beq_eq_false_iff_ne.2 opening
  · exact beq_eq_false_iff_ne.2 closing

theorem isQuiet_of_mem_literal (digits : List Char) (column : Nat) :
    ∀ moment ∈ Moment.ofRun (literal digits column), moment.IsQuiet := by
  refine List.forall_mem_map.2 fun event logged => ?_
  obtain rfl := Outcome.eq_of_mem_events_literal logged
  exact ⟨rfl, rfl, rfl⟩

theorem isRejection_of_mem_combine (operator : Operator) (left right : Outcome Int)
    (column : Nat) :
    ∀ moment ∈ Moment.ofRun (left.combine operator right column), moment.isRejection = true := by
  refine List.forall_mem_map.2 fun event logged => ?_
  obtain ⟨fault, rfl, -⟩ := Outcome.exists_of_mem_events_combine logged
  rfl

namespace Chronicle

open Moment (AllClosed Unwinds)

/-- **What happens while a rule reads** is settled, wherever it reads. -/
def Settles {rule : Rule} (chronicle : Chronicle rule) (levels : Nat) : Prop :=
  ∀ rest, Moment.Settles levels (chronicle.moments rest) (rule.run rest).result.rest

variable {levels : Nat}

/-- **A refused group is the first that cannot close,** and its parenthesis stays. -/
theorem settles_tooDeep (depth : Nat) {rest : Rest} (h : rest.token? = some .opening) :
    Moment.Settles 0 ((tooDeep depth).moments rest)
      ((Rule.tooDeep depth).run rest).result.rest := by
  have stuck : rest.IsStuck := by
    constructor
    · rw [h]
      rfl
    · rw [h]
      decide
  have refused : Unwinds 0 [] (.logged (.nestingTooDeep rest.column depth)) [] rest :=
    { earlier := by simp
      unclosed := rfl
      givingUp := by simp
      groups := rfl
      within := Nat.le_refl 0
      tooDeep := fun _ => ⟨rfl, h⟩
      stuck }
  exact .unwinding refused

/-- **A group closes if its parenthesis follows what is inside,** and gives up otherwise. -/
theorem settles_group (depth : Nat) {inner : Rule} {inside : Chronicle inner}
    (h : inside.Settles levels)
    (ends : ∀ rest, (inner.run rest).result.rest.token?.bind Token.operator? = none)
    {rest : Rest} (opening : rest.token? = some .opening) :
    Moment.Settles (levels + 1) ((group depth inside).moments rest)
      ((Rule.group depth inner).run rest).result.rest := by
  have settled := h rest.advance
  have ended := ends rest.advance
  rw [Rule.result_group]
  dsimp only [group]
  rw [Rest.taking_of_token? opening]
  by_cases closing : (inner.run rest.advance).result.rest.token? = some .closing
  · rw [if_pos closing, if_pos closing, Rest.taking_of_token? closing]
    have closed := settled.allClosed_of_closing closing
    refine .closed ⟨?_, ?_⟩
    · simpa [or_imp, forall_and] using closed.unclosed
    · simp [closed.balanced]
  · rw [if_neg closing, if_neg closing]
    exact settled.give_up ⟨ended, closing⟩ _ _

/-- An operand that is no group takes no parenthesis. -/
theorem settles_operand {group : Rule} {inside : Chronicle group}
    (h : ∀ {rest : Rest}, rest.token? = some .opening →
      Moment.Settles levels (inside.moments rest) (group.run rest).result.rest) :
    (operand inside).Settles levels := by
  intro rest
  by_cases opening : rest.token? = some .opening
  · rw [Rule.run_operand_opening opening]
    simp only [operand, opening]
    exact h opening
  · refine .closed (.of_isQuiet ?_)
    unfold operand
    dsimp only
    split
    · next digits number =>
      exact List.forall_mem_append.2
        ⟨Rest.isQuiet_of_mem_taking number (by simp) (by simp), isQuiet_of_mem_literal digits _⟩
    · next found => exact absurd found opening
    · exact List.forall_mem_singleton.2 ⟨rfl, rfl, rfl⟩

theorem settles_signed {operand : Rule} {unsigned : Chronicle operand}
    (h : unsigned.Settles levels) : (signed unsigned).Settles levels := by
  intro rest
  rw [Rule.result_signed]
  dsimp only [signed]
  by_cases minus : rest.token? = some .minus
  · have quiet := Rest.isQuiet_of_mem_taking minus (by decide) (by decide)
    rw [if_pos minus, if_pos minus]
    exact (h rest.advance).prepend (.of_isQuiet quiet)
  · rw [if_neg minus, if_neg minus]
    exact h rest

/-- **A chain goes on only while all is closed:** its links are those of `Rule.links`, one after
another. -/
theorem settles_links {precedence : Precedence} {operand : Rule} {each : Chronicle operand}
    (h : each.Settles levels) (left : Outcome Int) (rest : Rest) :
    ∀ moments : List Moment, Moment.Settles levels moments rest →
      Moment.Settles levels (moments ++ linkMoments precedence each left rest)
        (Rule.links precedence operand left rest).result.rest := by
  fun_induction Rule.links precedence operand left rest with
  | case1 left rest none =>
    intro moments settled
    rw [linkMoments_of_none each none, List.append_nil]
    exact settled
  | case2 left rest operator some right shorter ih =>
    intro moments settled
    obtain ⟨next, -⟩ := Rest.operator?_eq_some_iff.1 some
    have front : AllClosed (moments ++ rest.taking) := by
      refine (settled.allClosed_of_operator? some).append (.of_isQuiet ?_)
      exact Rest.isQuiet_of_mem_taking next (by cases operator <;> decide)
        (by cases operator <;> decide)
    have joined := ((h rest.advance).prepend front).append_rejections
      (isRejection_of_mem_combine operator left right.result.outcome rest.column)
    have links := ih (left.combine operator right.result.outcome rest.column).result _ joined
    rw [linkMoments_of_some each some]
    simp only [List.append_assoc] at links ⊢
    exact links

theorem settles_chain {precedence : Precedence} {operand : Rule} {each : Chronicle operand}
    (h : each.Settles levels) : (chain precedence each).Settles levels :=
  fun rest => settles_links h _ _ _ (h rest)

/-- **An atom is settled** with as many open groups as it may open. -/
theorem settles_atomWithin (levels depth : Nat) : (atomWithin levels depth).Settles levels := by
  induction levels generalizing depth with
  | zero => exact settles_operand (settles_tooDeep depth)
  | succ levels ih =>
    exact settles_operand (settles_group depth
      (settles_chain (settles_chain (settles_signed (ih (depth + 1))))) Rule.operator?_chain_chain)

theorem settles_sum (depth : Nat) : (sum depth).Settles (maxNesting - depth) :=
  settles_chain (settles_chain (settles_signed (settles_atomWithin _ depth)))

end Chronicle

/-! ### Whole lines -/

/-- **What happens while lexemes are parsed is settled:** all groups are closed, or from the first
that is not they give up. -/
theorem settles_parseMoments (lexemes : List Lexeme) (stop : Nat) :
    Moment.AllClosed (parseMoments lexemes stop) ∨
      ∃ before first after,
        Moment.Unwinds maxNesting before first after
            ((Rule.sum 0).run ⟨lexemes, stop⟩).result.rest ∧
          parseMoments lexemes stop = before ++
            first :: (after ++ ((Rule.sum 0).run ⟨lexemes, stop⟩).result.rest.leftOver) := by
  have settled := Chronicle.settles_sum 0 ⟨lexemes, stop⟩
  rw [parseMoments]
  generalize (Chronicle.sum 0).moments ⟨lexemes, stop⟩ = moments at settled ⊢
  cases settled with
  | closed closed => exact .inl (closed.append (.of_isQuiet Moment.isQuiet_of_mem_leftOver))
  | @unwinding before after first later given =>
    exact .inr ⟨before, first, after, given, by simp⟩

theorem countP_events_parse (p : Event → Bool) (lexemes : List Lexeme) (stop : Nat) :
    (parse lexemes stop).events.countP p =
      (parseMoments lexemes stop).countP (·.event?.any p) := by
  rw [← events_parseMoments, Moment.countP_events]

/-- **A group that cannot close ends the parse.**  No operator is left behind a sum, and if a group
in it could not close, no closing parenthesis either.  So, once a closing parenthesis is missing or
a group is refused, nothing is taken any more, and each group that is still open logs that its own
closing parenthesis is missing: as many as were opened and not closed, and not more than may be
nested.  A group is refused once at most; after that the log tells that all levels are unclosed and
that something is left over, and, in between, of rejected operations only. -/
theorem unclosed_group_ends_parse :
    (∀ (depth : Nat) (rest : Rest),
      let left := ((Rule.sum depth).run rest).result.rest
      left.token?.bind Token.operator? = none ∧
        ((∃ moment ∈ (Chronicle.sum depth).moments rest, moment.isUnclosed = true) →
          left.token? ≠ some .closing)) ∧
    ∀ (lexemes : List Lexeme) (stop : Nat),
      let moments := parseMoments lexemes stop
      let left := ((Rule.sum 0).run ⟨lexemes, stop⟩).result.rest
      let taken := (Moment.lexemes moments).map Lexeme.token
      let missing := (parse lexemes stop).events.countP Event.isClosingExpected
      Moment.events moments = (parse lexemes stop).events ∧
      Moment.lexemes moments ++ left.lexemes = lexemes ∧
      (∀ before moment after, moments = before ++ moment :: after → moment.isUnclosed = true →
        Moment.lexemes after = [] ∧
          before.countP Moment.isOpening =
            before.countP Moment.isClosing + before.countP Moment.isClosingExpected +
              (moment :: after).countP Moment.isClosingExpected) ∧
      taken.count .opening = taken.count .closing + missing ∧
      missing ≤ maxNesting ∧
      (parse lexemes stop).events.countP Event.isTooDeep ≤ 1 ∧
      ∀ before column depth after,
        (parse lexemes stop).events = before ++ .nestingTooDeep column depth :: after →
          ∃ middle column remaining, after = middle ++ [.unconsumed column remaining] ∧
            (∀ event ∈ middle, event.isClosingExpected = true ∨ event.isRejection = true) ∧
            middle.countP Event.isClosingExpected = maxNesting := by
  constructor
  · intro depth rest
    refine ⟨Rule.operator?_chain_chain rest, ?_⟩
    rintro ⟨moment, hm, unclosed⟩ closing
    have closed := (Chronicle.settles_sum depth rest).allClosed_of_closing closing
    rw [closed.unclosed moment hm] at unclosed
    cases unclosed
  · intro lexemes stop moments left taken missing
    have missing_eq : missing = moments.countP Moment.isClosingExpected :=
      countP_events_parse Event.isClosingExpected lexemes stop
    have refused_eq : (parse lexemes stop).events.countP Event.isTooDeep =
        moments.countP Moment.isTooDeep := countP_events_parse Event.isTooDeep lexemes stop
    refine ⟨events_parseMoments lexemes stop, lexemes_parseMoments lexemes stop, ?_⟩
    rw [refused_eq, missing_eq, Moment.count_opening_lexemes, Moment.count_closing_lexemes]
    rcases settles_parseMoments lexemes stop with closed | ⟨before, first, after, given, whole⟩
    · change Moment.AllClosed moments at closed
      have none := Moment.countP_isClosingExpected_eq_zero closed.unclosed
      have allowed := Moment.countP_isTooDeep_eq_zero closed.unclosed
      have balanced := closed.balanced
      refine ⟨?_, by omega, by omega, by omega, ?_⟩
      · intro before moment after split unclosed
        rw [split] at closed
        exact absurd unclosed closed.not_isUnclosed
      · intro before column depth after logged
        obtain ⟨before, after, split, -, -⟩ :=
          Moment.exists_of_events_eq_append ((events_parseMoments lexemes stop).trans logged)
        have closed : Moment.AllClosed (parseMoments lexemes stop) := closed
        rw [split] at closed
        exact absurd rfl closed.not_isUnclosed
    · obtain ⟨balanced, within, once⟩ := given.totals whole
      refine ⟨?_, balanced, within, once, ?_⟩
      · intro front moment back split unclosed
        exact given.behind (whole.symm.trans split) unclosed
      · intro front column depth back logged
        obtain ⟨front, back, split, -, rfl⟩ :=
          Moment.exists_of_events_eq_append ((events_parseMoments lexemes stop).trans logged)
        obtain ⟨rfl, all⟩ := given.refused (whole.symm.trans split)
        refine ⟨Moment.events after, left.column, left.remaining, Moment.events_append .., ?_, ?_⟩
        · exact Moment.forall_mem_events given.givingUp
        · rw [Moment.countP_events]
          exact all

/-- Two groups are open where a line ends, and a group is refused inside 256 of them. -/
theorem unclosed_group_ends_parse_refused :
    (parse [⟨.opening, 0⟩, ⟨.opening, 1⟩, ⟨.number ['1'], 2⟩] 3).events.countP
        Event.isClosingExpected = 2 ∧
      ∃ middle column remaining,
        List.replicate 256 (.closingExpected 256) ++ [.unconsumed 256 1] =
          middle ++ [.unconsumed column remaining] ∧
        middle.countP Event.isClosingExpected = maxNesting := by
  obtain ⟨-, parses⟩ := unclosed_group_ends_parse
  constructor
  · obtain ⟨-, taken, -, groups, -⟩ :=
      parses [⟨.opening, 0⟩, ⟨.opening, 1⟩, ⟨.number ['1'], 2⟩] 3
    have all : ((Rule.sum 0).run
        ⟨[⟨.opening, 0⟩, ⟨.opening, 1⟩, ⟨.number ['1'], 2⟩], 3⟩).result.rest.lexemes = [] := by
      decide +kernel
    rw [all, List.append_nil] at taken
    rw [taken] at groups
    exact (Nat.zero_add _).symm.trans groups.symm
  · obtain ⟨-, -, -, -, -, -, refused⟩ := parses ((List.range 257).map (⟨.opening, ·⟩)) 257
    obtain ⟨middle, column, remaining, after, -, all⟩ :=
      refused [] 256 256 (List.replicate 256 (.closingExpected 256) ++ [.unconsumed 256 1])
        (by decide +kernel)
    exact ⟨middle, column, remaining, after, all⟩

end Calculator
