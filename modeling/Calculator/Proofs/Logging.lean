/-
# Faults and the log

Each fault of a line is logged where it is found, and each event that is logged
while a line is read tells of one of its faults.  So the faults of an outcome
are those that came with the operands and those that the log tells of; a run
that keeps this book is in `Run.Accounts`.

The books are closed under everything that rules are built with, and the length
of a line is in none of them: calculating never objects to it
(`lineTooLong_not_mem_faults_calculate`).  So the faults of a line can be read
off its log, and the log off its faults (`faults_calculate_iff_logged`).
-/

import Calculator.Proofs.Calculation

namespace Calculator

/-- The fault that an event tells of, if it tells of one. -/
def Event.fault? : Event → Option Fault
  | unrecognized .. | operandExpected .. | nestingTooDeep .. | closingExpected .. | unconsumed .. =>
    some .malformed
  | literalTooLarge .. => some .literalTooLarge
  | operationRejected _ _ _ _ fault => some fault
  | calculated .. | lineCut .. | serving .. | inputClosed .. => none

/-- Whether an event objects to a part of a line; an operation is rejected with its own fault. -/
def Event.IsObjection : Event → Prop
  | operationRejected _ operator _ _ fault => fault = operator.fault
  | calculated .. | lineCut .. | serving .. | inputClosed .. => False
  | _ => True

namespace Run

variable {α β : Type}

/-- Whether the log of a run tells of a fault. -/
def Logs (run : Run α) (fault : Fault) : Prop := ∃ event ∈ run.events, event.fault? = some fault

@[simp] theorem logs_bind {first : Run α} {next : α → Run β} {fault : Fault} :
    (first >>= next).Logs fault ↔ first.Logs fault ∨ (next first.result).Logs fault := by
  simp only [Logs, events_bind, List.mem_append, or_and_right, exists_or]

@[simp] theorem logs_map {f : α → β} {run : Run α} {fault : Fault} :
    (f <$> run).Logs fault ↔ run.Logs fault := by
  rw [Logs, events_map, Logs]

@[simp] theorem logs_report {event : Event} {fault : Fault} :
    (report event).Logs fault ↔ event.fault? = some fault := by
  simp [Logs]

@[simp] theorem not_logs_pure (a : α) (fault : Fault) : ¬ (pure a : Run α).Logs fault := by
  simp [Logs]

@[simp] theorem not_logs_hold (value : Int) (fault : Fault) : ¬ (hold value).Logs fault := by
  simp [Logs]

@[simp] theorem not_logs_perform (step : MachineStep) (fault : Fault) :
    ¬ (perform step).Logs fault := by
  simp [Logs]

/-- **A run keeps the books** when it only logs objections, and what it finds are the faults from
before and those it logs. -/
structure Accounts (found : α → FaultSet) (before : FaultSet) (run : Run α) : Prop where
  /-- Nothing but objections is logged. -/
  objects : ∀ event ∈ run.events, event.IsObjection
  /-- No fault is found or lost without being logged. -/
  mem_iff : ∀ fault, fault ∈ found run.result ↔ fault ∈ before ∨ run.Logs fault

namespace Accounts

variable {found : α → FaultSet} {found' : β → FaultSet} {before : FaultSet}

theorem pure {a : α} (h : found a = before) : (pure a : Run α).Accounts found before where
  objects := by simp
  mem_iff := by simp [h]

/-- **Books are carried on.** -/
theorem bind {first : Run α} {next : α → Run β} (h : first.Accounts found before)
    (h' : (next first.result).Accounts found' (found first.result)) :
    (first >>= next).Accounts found' before where
  objects := List.forall_mem_append.2 ⟨h.objects, h'.objects⟩
  mem_iff fault := by
    rw [result_bind, h'.mem_iff, h.mem_iff, logs_bind, or_assoc]

theorem map {run : Run α} {f : α → β} (h : run.Accounts found before)
    (h' : found' (f run.result) = found run.result) : (f <$> run).Accounts found' before where
  objects := by
    rw [events_map]
    exact h.objects
  mem_iff fault := by
    rw [result_map, h', h.mem_iff, logs_map]

/-- A run that logs nothing finds nothing. -/
theorem silent {run : Run α} (h : run.events = []) : run.Accounts (fun _ => before) before where
  objects := by simp [h]
  mem_iff := by simp [Logs, h]

theorem holding {value : Int} {f : Int → α} (h : found (f value) = before) :
    (do Pure.pure (f (← Run.hold value)) : Run α).Accounts found before :=
  (silent rfl).bind (.pure h)

/-- An objection is one more fault. -/
theorem logged {event : Event} {fault : Fault} {run : Run α} (objection : event.IsObjection)
    (h : event.fault? = some fault) (h' : run.Accounts found (insert fault before)) :
    (do report event; run).Accounts found before where
  objects := List.forall_mem_append.2 ⟨List.forall_mem_singleton.2 objection, h'.objects⟩
  mem_iff other := by
    rw [result_bind, h'.mem_iff, FaultSet.mem_insert, logs_bind, logs_report, h,
      Option.some.injEq, @eq_comm _ other, or_assoc, or_left_comm]

/-- Faults that were there before may be counted in. -/
theorem absorb {run : Run α} (h : run.Accounts found ∅) (before : FaultSet) :
    run.Accounts (fun a => before ∪ found a) before where
  objects := h.objects
  mem_iff fault := by
    rw [FaultSet.mem_union, h.mem_iff, or_iff_right (FaultSet.not_mem_empty fault)]

end Accounts

end Run

/-! ### Arithmetic -/

/-- **A computation that logs nothing** and is refused for one reason only. -/
structure Run.RefusesWith {α : Type} (fault : Fault) (run : Run (Except Fault α)) : Prop where
  /-- Nothing is logged. -/
  events_eq : run.events = []
  /-- It is refused with this fault or not at all. -/
  fault_eq : ∀ {reason}, run.result = .error reason → reason = fault

namespace Run.RefusesWith

variable {α β : Type} {fault : Fault}

theorem accepted (a : α) : (pure (.ok a) : Run (Except Fault α)).RefusesWith fault where
  events_eq := rfl
  fault_eq := by rintro reason ⟨⟩

theorem refused : (pure (.error fault) : Run (Except Fault α)).RefusesWith fault where
  events_eq := rfl
  fault_eq same := (Except.error.inj same).symm

theorem decided {P : Prop} [Decidable P] (a : α) :
    (pure (if P then .error fault else .ok a) : Run (Except Fault α)).RefusesWith fault := by
  split
  · exact refused
  · exact accepted a

/-- What goes before may take steps, but logs nothing. -/
theorem bind {first : Run α} {next : α → Run (Except Fault β)} (h : first.events = [])
    (h' : (next first.result).RefusesWith fault) : (first >>= next).RefusesWith fault where
  events_eq := by rw [Run.events_bind, h, h'.events_eq]; rfl
  fault_eq := h'.fault_eq

/-- **A guarded operation** is refused as its guard is. -/
theorem guarded {guard : Run (Except Fault Unit)} {operation : Run Int}
    (h : guard.RefusesWith fault) (ho : operation.events = []) :
    (Arithmetic.guarded guard operation).RefusesWith fault := by
  refine bind h.events_eq ?_
  cases result : guard.result with
  | ok done => exact bind ho (accepted _)
  | error reason =>
    obtain rfl := h.fault_eq result
    exact refused

end Run.RefusesWith

namespace Arithmetic

theorem events_halfSum (a b : Int) : (halfSum a b).events = [] := by simp [halfSum]

theorem refusesWith_sumGuard (a b : Int) : (sumGuard a b).RefusesWith .outOfRange := by
  refine .bind (events_halfSum a b) ?_
  split
  · exact .refused
  · exact .bind rfl (.bind rfl (.bind (events_halfSum _ _) (.decided ())))

theorem refusesWith_productGuard (a b : Int) : (productGuard a b).RefusesWith .outOfRange := by
  rw [productGuard]
  split
  · exact .accepted ()
  · exact .bind rfl (.bind rfl (.decided ()))

theorem refusesWith_sum (a b : Int) : (sum a b).RefusesWith .outOfRange :=
  (refusesWith_sumGuard a b).guarded rfl

theorem refusesWith_withDigit (number digit : Int) :
    (withDigit number digit).RefusesWith .literalTooLarge :=
  .guarded (.bind rfl (.bind rfl (.decided ()))) rfl

end Arithmetic

/-- **An operator refuses with its own fault.** -/
theorem Operator.refusesWith_apply :
    ∀ (operator : Operator) (a b : Int), (operator.apply a b).RefusesWith operator.fault
  | plus, a, b => Arithmetic.refusesWith_sum a b
  | minus, a, _ => .bind rfl (Arithmetic.refusesWith_sum a _)
  | times, a, b => (Arithmetic.refusesWith_productGuard a b).guarded rfl
  | dividedBy, _, _ => .guarded (.decided ()) rfl

theorem Literal.refusesWith_accumulate (number : Int) (bytes : List UInt8) :
    (accumulate number bytes).RefusesWith .literalTooLarge := by
  induction bytes generalizing number with
  | nil => exact .accepted number
  | cons byte rest ih =>
    have digit := Arithmetic.refusesWith_withDigit number (Run.perform (.digitValue byte)).result
    refine .bind rfl (.bind digit.events_eq ?_)
    cases result : (Arithmetic.withDigit number (Run.perform (.digitValue byte)).result).result with
    | ok longer => exact .bind rfl (ih longer)
    | error fault =>
      obtain rfl := digit.fault_eq result
      exact .refused

/-! ### Outcomes -/

namespace Outcome

open Run (Accounts)

/-- **A literal keeps the books.** -/
theorem literal_accounts (digits : List Char) (column : Nat) :
    (literal digits column).Accounts faults ∅ := by
  have read := Literal.refusesWith_accumulate 0 (Utf8.encode digits)
  refine (Accounts.silent rfl).bind ((Accounts.silent read.events_eq).bind ?_)
  cases result : (Literal.accumulate 0 (Utf8.encode digits)).result with
  | ok number => exact .pure rfl
  | error fault =>
    obtain rfl := read.fault_eq result
    exact .logged trivial rfl (.holding (FaultSet.insert_empty _).symm)

theorem negate_accounts (operand : Outcome Int) :
    operand.negate.Accounts faults operand.faults :=
  (Accounts.silent rfl).bind (.holding rfl)

/-- **An operator keeps the books** of both its operands. -/
theorem combine_accounts (operator : Operator) (left right : Outcome Int) (column : Nat) :
    (left.combine operator right column).Accounts faults (left.faults ∪ right.faults) := by
  have applied := operator.refusesWith_apply left.value right.value
  refine (Accounts.silent applied.events_eq).bind ?_
  cases result : (operator.apply left.value right.value).result with
  | ok value => exact .holding rfl
  | error fault =>
    obtain rfl := applied.fault_eq result
    exact .logged rfl rfl (.holding rfl)

/-- A literal objects to its size and to nothing else. -/
theorem eq_of_mem_events_literal {digits : List Char} {column : Nat} {event : Event}
    (h : event ∈ (literal digits column).events) : event = .literalTooLarge column digits := by
  have silent := (Literal.refusesWith_accumulate 0 (Utf8.encode digits)).events_eq
  simp only [literal, Run.events_bind, Run.events_hold, Run.result_hold, silent,
    List.nil_append] at h
  split at h
  · cases h
  · exact List.mem_singleton.1 h

/-- **What an operator logs** is that it was rejected, with its operands and the fault. -/
theorem exists_of_mem_events_combine {operator : Operator} {left right : Outcome Int}
    {column : Nat} {event : Event} (h : event ∈ (left.combine operator right column).events) :
    ∃ fault, event = .operationRejected column operator left.value right.value fault ∧
      (operator.apply left.value right.value).result = .error fault := by
  have silent := (operator.refusesWith_apply left.value right.value).events_eq
  simp only [combine, Run.events_bind, silent, List.nil_append] at h
  cases result : (operator.apply left.value right.value).result with
  | ok value =>
    rw [result] at h
    cases h
  | error fault =>
    rw [result] at h
    exact ⟨fault, List.mem_singleton.1 h, rfl⟩

end Outcome

/-! ### Rules -/

/-- The faults of what a rule found. -/
def Parsed.faults (parsed : Parsed) : FaultSet := parsed.outcome.faults

namespace Rule

open Run (Accounts)

/-- **A rule keeps the books,** whatever it reads. -/
def Accounts (rule : Rule) : Prop := ∀ rest, (rule.run rest).Accounts Parsed.faults ∅

theorem accounts_tooDeep (depth : Nat) : (tooDeep depth).Accounts :=
  fun _ => .logged trivial rfl (.holding (FaultSet.insert_empty _).symm)

theorem accounts_group (depth : Nat) {inner : Rule} (h : inner.Accounts) :
    (group depth inner).Accounts := by
  intro rest
  refine (Run.Accounts.silent rfl).bind ((h rest.advance).bind ?_)
  dsimp only
  split
  · exact .pure rfl
  · exact .logged trivial rfl (.pure rfl)

theorem accounts_operand {group : Rule} (h : group.Accounts) : (operand group).Accounts := by
  intro rest
  unfold operand
  dsimp only
  split
  · next digits number => exact (Outcome.literal_accounts digits rest.column).map rfl
  · exact h rest
  · exact .logged trivial rfl (.holding (FaultSet.insert_empty _).symm)

theorem accounts_signed {operand : Rule} (h : operand.Accounts) : (signed operand).Accounts := by
  intro rest
  unfold signed
  dsimp only
  split
  · exact (h rest.advance).bind ((Outcome.negate_accounts _).map rfl)
  · exact h rest

theorem links_accounts {precedence : Precedence} {operand : Rule} (h : operand.Accounts)
    (left : Outcome Int) (rest : Rest) :
    (links precedence operand left rest).Accounts Parsed.faults left.faults := by
  fun_induction links precedence operand left rest with
  | case1 left rest none => exact .pure rfl
  | case2 left rest operator some right shorter ih =>
    refine ((h rest.advance).absorb left.faults).bind ?_
    exact (Outcome.combine_accounts operator left right.result.outcome rest.column).bind (ih _)

theorem accounts_chain {precedence : Precedence} {operand : Rule} (h : operand.Accounts) :
    (chain precedence operand).Accounts :=
  fun rest => (h rest).bind (links_accounts h _ _)

theorem accounts_atomWithin (levels depth : Nat) : (atomWithin levels depth).Accounts := by
  induction levels generalizing depth with
  | zero => exact accounts_operand (accounts_tooDeep depth)
  | succ levels ih =>
    exact accounts_operand (accounts_group depth
      (accounts_chain (accounts_chain (accounts_signed (ih (depth + 1))))))

theorem accounts_sum (depth : Nat) : (sum depth).Accounts :=
  accounts_chain (accounts_chain (accounts_signed (accounts_atomWithin _ depth)))

end Rule

/-! ### Lines -/

open Run (Accounts)

theorem parse_accounts (lexemes : List Lexeme) (stop : Nat) :
    (parse lexemes stop).Accounts Outcome.faults ∅ := by
  refine (Rule.accounts_sum 0 _).bind ?_
  dsimp only
  split
  · exact .pure rfl
  · exact .logged trivial rfl (.pure rfl)

theorem Scan.lexemesFrom_accounts (column : Nat) (line : List Char) :
    (lexemesFrom column line).Accounts Outcome.faults ∅ := by
  induction line generalizing column with
  | nil => exact .pure rfl
  | cons c line ih =>
    rcases Piece.kinds c with blank | digit | ⟨token, mark⟩ | foreign
    · rw [lexemesFrom_blank blank]
      exact ih _
    · rw [lexemesFrom_digit digit]
      exact (ih _).map rfl
    · rw [lexemesFrom_mark mark]
      exact (ih _).map rfl
    · rw [lexemesFrom_foreign foreign]
      refine .logged trivial rfl (((ih _).absorb _).map ?_)
      ext k
      simp

/-- Whatever is found and logged, it is not the length. -/
theorem Run.Accounts.lineTooLong_not_mem {α : Type} {found : α → FaultSet} {run : Run α}
    (h : run.Accounts found ∅) : ¬ .lineTooLong ∈ found run.result := by
  intro long
  obtain absurdity | ⟨event, logged, told⟩ := (h.mem_iff _).1 long
  · exact FaultSet.not_mem_empty _ absurdity
  · have objection := h.objects event logged
    cases event with
    | operationRejected column operator left right fault =>
      obtain rfl : fault = operator.fault := objection
      cases operator <;> cases told
    | _ => cases told

/-- What is found on a line, before it is logged that the line was calculated. -/
def examine (line : String) : Run (Outcome Int) := do
  let lexemes ← scan line.toList
  let parsed ← parse lexemes.value (Utf8.size line.toList)
  pure (parsed.absorb lexemes)

theorem calculate_eq_examine (line : String) :
    calculate line = (do
      let outcome ← examine line
      Run.report (.calculated line outcome.value outcome.faults)
      pure outcome) := by
  simp only [calculate, examine, bind_assoc, pure_bind]

/-- **The books of a line** hold what the scan objects to, and then what the rules do. -/
theorem examine_accounts (line : String) : (examine line).Accounts Outcome.faults ∅ := by
  refine (Scan.lexemesFrom_accounts 0 line.toList).bind ?_
  refine ((parse_accounts _ _).absorb _).bind (.pure ?_)
  ext fault
  rw [Outcome.faults_absorb, FaultSet.mem_union, FaultSet.mem_union, or_comm]

theorem result_calculate_eq_examine (line : String) :
    (calculate line).result = (examine line).result := rfl

theorem events_calculate (line : String) :
    (calculate line).events = (examine line).events ++
      [.calculated line (calculate line).result.value (calculate line).result.faults] := by
  rw [calculate_eq_examine]
  rfl

/-- **Calculating a line never objects to its length.** -/
theorem lineTooLong_not_mem_faults_calculate (line : String) :
    ¬ .lineTooLong ∈ (calculate line).result.faults :=
  (examine_accounts line).lineTooLong_not_mem

/-- **A line has a fault exactly when its log tells of it,** in whatever way one sees this from an
event. -/
theorem mem_faults_calculate_iff {line : String} {fault : Fault} {tells : Event → Prop}
    (objection : ∀ event : Event, event.IsObjection → (event.fault? = some fault ↔ tells event))
    (silent : ∀ value faults, ¬ tells (.calculated line value faults)) :
    fault ∈ (calculate line).result.faults ↔ ∃ event ∈ (calculate line).events, tells event := by
  have books := examine_accounts line
  rw [result_calculate_eq_examine, books.mem_iff, or_iff_right (FaultSet.not_mem_empty fault),
    events_calculate]
  constructor
  · rintro ⟨event, logged, told⟩
    exact ⟨event, List.mem_append_left _ logged,
      (objection event (books.objects event logged)).1 told⟩
  · rintro ⟨event, logged, told⟩
    obtain found | last := List.mem_append.1 logged
    · exact ⟨event, found, (objection event (books.objects event found)).2 told⟩
    · obtain rfl := List.mem_singleton.1 last
      exact absurd told (silent _ _)

namespace Event

/-- What is said of a line that does not follow the grammar. -/
def malformedMessages : List String :=
  ["unrecognized input", "expected operand", "nesting too deep", "expected ')'",
    "unconsumed input"]

variable {event : Event}

theorem fault?_eq_literalTooLarge_iff (h : event.IsObjection) :
    event.fault? = some .literalTooLarge ↔ event.message = "literal out of range" := by
  cases event with
  | operationRejected column operator left right fault =>
    obtain rfl : fault = operator.fault := h
    cases operator <;> simp [fault?, message, Operator.fault]
  | _ => simp [fault?, message]

theorem fault?_eq_malformed_iff (h : event.IsObjection) :
    event.fault? = some .malformed ↔ event.message ∈ malformedMessages := by
  cases event with
  | operationRejected column operator left right fault =>
    obtain rfl : fault = operator.fault := h
    cases operator <;> simp [fault?, message, malformedMessages, Operator.fault]
  | _ => simp [fault?, message, malformedMessages]

theorem fault?_eq_arithmetic_iff {fault : Fault} (formed : fault ≠ .malformed)
    (literals : fault ≠ .literalTooLarge) :
    event.fault? = some fault ↔
      ∃ column operator left right, event = operationRejected column operator left right fault := by
  cases event with
  | operationRejected column operator left right reason =>
    simp only [fault?, Option.some.injEq, operationRejected.injEq]
    constructor
    · rintro rfl
      exact ⟨column, operator, left, right, rfl, rfl, rfl, rfl, rfl⟩
    · rintro ⟨_, _, _, _, -, -, -, -, same⟩
      exact same
  | _ => simp [fault?, formed.symm, literals.symm]

end Event

/-- **The log and the faults of a line never drift apart.**  A line has a literal that is too large
exactly when such a literal is logged, a zero divisor or a result out of range exactly when an
operation is logged as rejected for it, and is malformed exactly when one of the objections to its
form is logged; its length is never objected to.  Last of all, and only then, it is logged that the
line was calculated, with its value and its faults. -/
theorem faults_calculate_iff_logged (line : String) :
    let events := (calculate line).events
    let outcome := (calculate line).result
    (.literalTooLarge ∈ outcome.faults ↔
        ∃ event ∈ events, event.message = "literal out of range") ∧
      (.zeroDivisor ∈ outcome.faults ↔ ∃ column operator left right,
        .operationRejected column operator left right .zeroDivisor ∈ events) ∧
      (.outOfRange ∈ outcome.faults ↔ ∃ column operator left right,
        .operationRejected column operator left right .outOfRange ∈ events) ∧
      (.malformed ∈ outcome.faults ↔
        ∃ event ∈ events, event.message ∈ Event.malformedMessages) ∧
      ¬ .lineTooLong ∈ outcome.faults ∧
      ∃ before, events = before ++ [.calculated line outcome.value outcome.faults] ∧
        ∀ event ∈ before, event.message ≠ "evaluated line" := by
  intro events outcome
  have arithmetic {fault : Fault} (formed : fault ≠ .malformed)
      (literals : fault ≠ .literalTooLarge) :
      fault ∈ outcome.faults ↔ ∃ column operator left right,
        .operationRejected column operator left right fault ∈ events := by
    refine (mem_faults_calculate_iff (fun event _ => Event.fault?_eq_arithmetic_iff formed literals)
      (by simp)).trans ?_
    constructor
    · rintro ⟨_, logged, column, operator, left, right, rfl⟩
      exact ⟨column, operator, left, right, logged⟩
    · rintro ⟨column, operator, left, right, logged⟩
      exact ⟨_, logged, column, operator, left, right, rfl⟩
  refine ⟨?_, arithmetic (by decide) (by decide), arithmetic (by decide) (by decide), ?_,
    lineTooLong_not_mem_faults_calculate line, (examine line).events, events_calculate line, ?_⟩
  · exact mem_faults_calculate_iff (fun _ => Event.fault?_eq_literalTooLarge_iff)
      (by simp [Event.message])
  · exact mem_faults_calculate_iff (fun _ => Event.fault?_eq_malformed_iff)
      (by simp [Event.message, Event.malformedMessages])
  · intro event logged said
    have objection := (examine_accounts line).objects event logged
    cases event with
    | calculated _ _ _ => exact objection
    | _ => simp [Event.message] at said

end Calculator
