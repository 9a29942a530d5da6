/-
# Where events point

Every event that is logged while a line is read names a column, and what is said
there is true of the line: the character that is not recognized stands there, the
operator that was rejected, the digits that are too large, the parenthesis that
opens one group too many; or it is the column of the lexeme that comes next, or
the end of the line if none is left.

This is seen in two steps.  The first is about lexemes.  The moments of a rule
lead from the rest where it starts to the rest that it leaves
(`Moment.Leads`), and each event is compared with the rest of its own moment
(`Event.Concerns`); every way to build a rule keeps that.  The column of an
operator is older than the operand behind it, so it belongs to a lexeme of the
line and not to the rest of the moment.  The second step is about characters:
lexemes stand in the line where their columns say (`Lexeme.StandsIn`).
-/

import Calculator.Boundary
import Calculator.Chronicle
import Calculator.Proofs.Digits
import Calculator.Proofs.Fitting
import Calculator.Proofs.Partition

namespace Calculator

/-! ### Moments that lead from rest to rest -/

namespace Moment

/-- **Moments lead from one rest to another:** each lexeme that is taken comes next, and each event
says something about the rest where it is logged. -/
inductive Leads (about : Rest → Event → Prop) : Rest → List Moment → Rest → Prop
  | nil (rest : Rest) : Leads about rest [] rest
  | taken {rest later : Rest} {lexeme : Lexeme} {moments : List Moment} :
    rest.lexemes = lexeme :: rest.advance.lexemes → Leads about rest.advance moments later →
      Leads about rest (taken lexeme :: moments) later
  | logged {rest later : Rest} {event : Event} {moments : List Moment} :
    about rest event → Leads about rest moments later →
      Leads about rest (logged event :: moments) later

namespace Leads

variable {about : Rest → Event → Prop} {rest middle later : Rest} {earlier moments : List Moment}

theorem append (h : Leads about rest earlier middle) (h' : Leads about middle moments later) :
    Leads about rest (earlier ++ moments) later := by
  induction h with
  | nil rest => exact h'
  | taken next _ ih => exact .taken next (ih h')
  | logged said _ ih => exact .logged said (ih h')

theorem mono {about' : Rest → Event → Prop} (h : Leads about rest moments later)
    (imp : ∀ rest event, about rest event → about' rest event) :
    Leads about' rest moments later := by
  induction h with
  | nil rest => exact .nil rest
  | taken next _ ih => exact .taken next ih
  | logged said _ ih => exact .logged (imp _ _ said) ih

theorem taking (rest : Rest) : Leads about rest rest.taking rest.advance := by
  obtain ⟨lexemes, stop⟩ := rest
  cases lexemes with
  | nil => exact .nil _
  | cons lexeme lexemes => exact .taken rfl (.nil _)

theorem said {event : Event} (h : about rest event) : Leads about rest [.logged event] rest :=
  .logged h (.nil rest)

theorem ofRun {α : Type} {run : Run α} (h : ∀ event ∈ run.events, about rest event) :
    Leads about rest (Moment.ofRun run) rest := by
  unfold Moment.ofRun
  generalize run.events = events at h
  induction events with
  | nil => exact .nil rest
  | cons event events ih =>
    obtain ⟨first, others⟩ := List.forall_mem_cons.1 h
    exact .logged first (ih others)

/-- **An event is about the rest that was left** when the lexemes before it had been taken. -/
theorem exists_left {before after : List Moment} {event : Event}
    (h : Leads about rest (before ++ .logged event :: after) later) :
    ∃ left : Rest, rest.lexemes = lexemes before ++ left.lexemes ∧ left.stop = rest.stop ∧
      about left event := by
  induction before generalizing rest with
  | nil =>
    cases h with
    | logged said _ => exact ⟨rest, rfl, rfl, said⟩
  | cons moment before ih =>
    cases h with
    | @taken _ _ lexeme _ next h =>
      obtain ⟨left, split, stop, said⟩ := ih h
      refine ⟨left, ?_, stop, said⟩
      rw [next, split]
      rfl
    | logged _ h => exact ih h

end Leads

end Moment

/-! ### Events and lexemes -/

/-- **What an event says about lexemes,** those that were there and those that are left. -/
def Event.Concerns (lexemes : List Lexeme) (left : Rest) : Event → Prop
  | operandExpected column token => column = left.column ∧ token = left.token?
  | nestingTooDeep column depth =>
    column = left.column ∧ left.token? = some .opening ∧ depth = maxNesting
  | closingExpected column => column = left.column ∧ left.token? ≠ some .closing
  | unconsumed column remaining =>
    column = left.column ∧ remaining = left.remaining ∧ remaining ≠ 0
  | operationRejected column operator a b fault =>
    ⟨operator.token, column⟩ ∈ lexemes ∧ Value.InRange a ∧ Value.InRange b ∧
      (operator.apply a b).result = .error fault
  | literalTooLarge column digits =>
    ⟨.number digits, column⟩ ∈ lexemes ∧ Value.largest < positional (Utf8.encode digits)
  | unrecognized .. | calculated .. | lineCut .. | serving .. | inputClosed .. => False

/-- Lexemes that are left are among those from before. -/
theorem Rest.IsSuffix.among {earlier later : Rest} (h : later.IsSuffix earlier)
    {lexemes : List Lexeme} (among : earlier.lexemes ⊆ lexemes) : later.lexemes ⊆ lexemes :=
  fun _ hl => among (h.1.subset hl)

theorem Rest.mem_of_token? {rest : Rest} {token : Token} (h : rest.token? = some token) :
    ⟨token, rest.column⟩ ∈ rest.lexemes := by
  rw [Rest.lexemes_of_token? h]
  exact List.mem_cons_self

namespace Chronicle

open Moment (Leads)

/-- **The events of a rule** are about the lexemes where it reads, if these are among some. -/
def Concerns {rule : Rule} (chronicle : Chronicle rule) (lexemes : List Lexeme) : Prop :=
  ∀ rest : Rest, rest.lexemes ⊆ lexemes →
    Leads (Event.Concerns lexemes) rest (chronicle.moments rest) (rule.run rest).result.rest

variable {lexemes : List Lexeme}

/-- **A group is refused at its parenthesis,** under as many as may be open. -/
theorem concerns_tooDeep {rest : Rest} (h : rest.token? = some .opening) :
    Leads (Event.Concerns lexemes) rest ((tooDeep maxNesting).moments rest)
      ((Rule.tooDeep maxNesting).run rest).result.rest :=
  .said ⟨rfl, h, rfl⟩

theorem concerns_group (depth : Nat) {inner : Rule} {inside : Chronicle inner}
    (h : inside.Concerns lexemes) {rest : Rest} (among : rest.lexemes ⊆ lexemes) :
    Leads (Event.Concerns lexemes) rest ((group depth inside).moments rest)
      ((Rule.group depth inner).run rest).result.rest := by
  have within := (Rest.IsSuffix.advance rest).among among
  have opened := (Leads.taking rest).append (h rest.advance within)
  rw [Rule.result_group]
  dsimp only [group]
  by_cases closing : (inner.run rest.advance).result.rest.token? = some .closing
  · rw [if_pos closing, if_pos closing]
    exact opened.append (.taking _)
  · rw [if_neg closing, if_neg closing]
    exact opened.append (.said ⟨rfl, closing⟩)

theorem concerns_operand (readable : ∀ lexeme ∈ lexemes, lexeme.token.IsReadable) {group : Rule}
    {inside : Chronicle group}
    (h : ∀ {rest : Rest}, rest.lexemes ⊆ lexemes → rest.token? = some .opening →
      Leads (Event.Concerns lexemes) rest (inside.moments rest) (group.run rest).result.rest) :
    (operand inside).Concerns lexemes := by
  intro rest among
  by_cases opening : rest.token? = some .opening
  · rw [Rule.run_operand_opening opening]
    simp only [operand, opening]
    exact h among opening
  · unfold operand Rule.operand
    dsimp only
    generalize found : rest.token? = token
    rw [found] at opening
    cases token with
    | none => exact .said ⟨rfl, found.symm⟩
    | some token =>
      cases token with
      | number digits =>
        have here := among (Rest.mem_of_token? found)
        refine (Leads.taking rest).append (.ofRun fun event logged => ?_)
        rw [events_literal (readable _ here)] at logged
        split at logged
        · cases logged
        · next large =>
          obtain rfl := List.mem_singleton.1 logged
          rw [Value.inRange_natCast_iff, Nat.not_le] at large
          exact ⟨here, Int.ofNat_lt.2 large⟩
      | opening => exact absurd rfl opening
      | plus | minus | star | slash | closing | blank => exact .said ⟨rfl, found.symm⟩

theorem concerns_signed {operand : Rule} {unsigned : Chronicle operand}
    (h : unsigned.Concerns lexemes) : (signed unsigned).Concerns lexemes := by
  intro rest among
  rw [Rule.result_signed]
  dsimp only [signed]
  by_cases minus : rest.token? = some .minus
  · rw [if_pos minus, if_pos minus]
    have within := (Rest.IsSuffix.advance rest).among among
    exact (Leads.taking rest).append (h rest.advance within)
  · rw [if_neg minus, if_neg minus]
    exact h rest among

/-- **An operator is rejected at its own column,** which was read before the operand behind it. -/
theorem concerns_links (readable : ∀ lexeme ∈ lexemes, lexeme.token.IsReadable)
    {precedence : Precedence} {operand : Rule} {each : Chronicle operand}
    (h : each.Concerns lexemes) (safe : operand.IsSafe) (left : Outcome Int) (rest : Rest) :
    left.InRange → rest.lexemes ⊆ lexemes →
      Leads (Event.Concerns lexemes) rest (linkMoments precedence each left rest)
        (Rule.links precedence operand left rest).result.rest := by
  fun_induction Rule.links precedence operand left rest with
  | case1 left rest none =>
    intro _ _
    rw [linkMoments_of_none each none]
    exact .nil rest
  | case2 left rest operator some right shorter ih =>
    intro inRange among
    obtain ⟨next, -⟩ := Rest.operator?_eq_some_iff.1 some
    have within := (Rest.IsSuffix.advance rest).among among
    have further := (operand.isSuffix rest.advance).among within
    have tokens : rest.advance.IsReadable := List.forall_mem_map.2 fun lexeme hl =>
      readable lexeme (within hl)
    have rightInRange : right.result.outcome.InRange := (safe rest.advance tokens).result
    have joined := Outcome.combine_safe operator inRange rightInRange rest.column
    have rejected : ∀ event ∈ (left.combine operator right.result.outcome rest.column).events,
        Event.Concerns lexemes right.result.rest event := by
      intro event logged
      obtain ⟨fault, rfl, refused⟩ := Outcome.exists_of_mem_events_combine logged
      exact ⟨among (Rest.mem_of_token? next), inRange, rightInRange, refused⟩
    have links := ih _ joined.result further
    rw [linkMoments_of_some each some]
    exact (((Leads.taking rest).append (h rest.advance within)).append (.ofRun rejected)).append
      links

theorem concerns_chain (readable : ∀ lexeme ∈ lexemes, lexeme.token.IsReadable)
    {precedence : Precedence} {operand : Rule} {each : Chronicle operand}
    (h : each.Concerns lexemes) (safe : operand.IsSafe) :
    (chain precedence each).Concerns lexemes := by
  intro rest among
  have tokens : rest.IsReadable := List.forall_mem_map.2 fun lexeme hl =>
    readable lexeme (among hl)
  have further := (operand.isSuffix rest).among among
  exact (h rest among).append (concerns_links readable h safe _ _ (safe rest tokens).result further)

/-- **The events of a sum** are about lexemes if those of its atoms are. -/
theorem concerns_sum (readable : ∀ lexeme ∈ lexemes, lexeme.token.IsReadable) {atom : Rule}
    {each : Chronicle atom} (h : each.Concerns lexemes) (safe : atom.IsSafe) :
    (chain .additive (chain .multiplicative (signed each))).Concerns lexemes := by
  have factor := Rule.isSafe_signed safe
  have product : (chain .multiplicative (signed each)).Concerns lexemes :=
    concerns_chain readable (concerns_signed h) factor
  exact concerns_chain readable product (Rule.isSafe_chain factor)

/-- **The events of an atom** are about lexemes; those of a refused group tell the largest depth,
which is that of the group and the levels inside it. -/
theorem concerns_atomWithin (readable : ∀ lexeme ∈ lexemes, lexeme.token.IsReadable)
    {levels depth : Nat} (h : levels + depth = maxNesting) :
    (atomWithin levels depth).Concerns lexemes := by
  induction levels generalizing depth with
  | zero =>
    rw [Nat.zero_add] at h
    subst h
    exact concerns_operand readable fun _ opening => concerns_tooDeep opening
  | succ levels ih =>
    have deeper := @ih (depth + 1) (by omega)
    have safe : (Rule.atomWithin levels (depth + 1)).IsSafe :=
      Rule.isSafe_atomWithin (by rw [maxNesting] at h; omega)
    have sum := concerns_sum readable deeper safe
    exact concerns_operand readable fun among _ => concerns_group depth sum among

end Chronicle

/-- **The events of a whole line** are about its lexemes, what is left over included. -/
theorem concerns_parseMoments {lexemes : List Lexeme}
    (readable : ∀ lexeme ∈ lexemes, lexeme.token.IsReadable) (stop : Nat) :
    Moment.Leads (Event.Concerns lexemes) ⟨lexemes, stop⟩ (parseMoments lexemes stop)
      ((Rule.sum 0).run ⟨lexemes, stop⟩).result.rest := by
  have safe : (Rule.atomWithin maxNesting 0).IsSafe := Rule.isSafe_atomWithin (by decide)
  have sum : (Chronicle.sum 0).Concerns lexemes :=
    Chronicle.concerns_sum readable (Chronicle.concerns_atomWithin readable rfl) safe
  refine (sum ⟨lexemes, stop⟩ (List.Subset.refl _)).append ?_
  unfold Rest.leftOver
  split
  · exact .nil _
  · next some => exact .said ⟨rfl, rfl, some⟩

/-! ### Events and characters -/

/-- **A text stands in a line** at a column: the line, cut there, goes on with it. -/
def StandsAt (line : List Char) (column : Nat) (text : List Char) : Prop :=
  ∃ before after, line = before ++ (text ++ after) ∧ Utf8.size before = column

/-- **A column is where the next lexeme stands,** or the end of the line when none is left. -/
def IsNext (line : List Char) (column : Nat) : List Lexeme → Prop
  | [] => column = Utf8.size line
  | lexeme :: _ => column = lexeme.column ∧ lexeme.token.IsProper ∧ lexeme.StandsIn line

namespace Event

/-- The column that an event names. -/
def column? : Event → Option Nat
  | unrecognized column _ | operandExpected column _ | nestingTooDeep column _
  | closingExpected column | unconsumed column _ | operationRejected column ..
  | literalTooLarge column _ => some column
  | calculated .. | lineCut .. | serving .. | inputClosed .. => none

/-- **An event points at its cause** in a line of which some lexemes are left. -/
def PointsAtCause (line : List Char) (left : List Lexeme) : Event → Prop
  | unrecognized column char => StandsAt line column [char] ∧ isForeign char = true
  | operandExpected column token => IsNext line column left ∧ token = left.head?.map Lexeme.token
  | nestingTooDeep column depth => StandsAt line column ['('] ∧ depth = 256
  | closingExpected column =>
    IsNext line column left ∧ left.head?.map Lexeme.token ≠ some .closing
  | unconsumed column remaining =>
    IsNext line column left ∧ left ≠ [] ∧ remaining = left.length
  | operationRejected column operator a b fault =>
    StandsAt line column [operator.symbol] ∧ Value.InRange a ∧ Value.InRange b ∧
      (operator.apply a b).result = .error fault
  | literalTooLarge column digits =>
    (Token.number digits).IsProper ∧ Lexeme.StandsIn ⟨.number digits, column⟩ line ∧
      Value.largest < positional (Utf8.encode digits)
  | calculated .. | lineCut .. | serving .. | inputClosed .. => False

end Event

section Line

variable {line : List Char} {column : Nat}

theorem Lexeme.StandsIn.standsAt {lexeme : Lexeme} (h : lexeme.StandsIn line) :
    StandsAt line lexeme.column lexeme.token.text := by
  obtain ⟨before, after, split, here, -⟩ := h
  exact ⟨before, after, split, here⟩

theorem StandsAt.exists_before {text : List Char} (h : StandsAt line column text) :
    ∃ before, before <+: line ∧ Utf8.size before = column := by
  obtain ⟨before, after, rfl, here⟩ := h
  exact ⟨before, List.prefix_append .., here⟩

theorem IsNext.exists_before {left : List Lexeme} (h : IsNext line column left) :
    ∃ before, before <+: line ∧ Utf8.size before = column := by
  cases left with
  | nil => exact ⟨line, List.prefix_rfl, h.symm⟩
  | cons lexeme left =>
    obtain ⟨rfl, -, stands⟩ := h
    exact stands.standsAt.exists_before

/-- **The column of an event lies between two characters** of the line. -/
theorem Event.PointsAtCause.exists_before {left : List Lexeme} {event : Event}
    (h : event.PointsAtCause line left) :
    ∃ column, event.column? = some column ∧
      ∃ before, before <+: line ∧ Utf8.size before = column := by
  cases event with
  | unrecognized | nestingTooDeep | operationRejected => exact ⟨_, rfl, h.1.exists_before⟩
  | operandExpected | closingExpected | unconsumed => exact ⟨_, rfl, h.1.exists_before⟩
  | literalTooLarge => exact ⟨_, rfl, h.2.1.standsAt.exists_before⟩
  | calculated | lineCut | serving | inputClosed => exact h.elim

/-- Where a part with a character that passes a test is. -/
theorem exists_of_mem_partsWith {test : Char → Bool} {text : List Char} {start : Nat}
    {part : Part} (h : part ∈ partsWith test start text) :
    ∃ before char after, text = before ++ char :: after ∧ test char = true ∧
      part = ⟨start + Utf8.size before, [char]⟩ := by
  induction text generalizing start with
  | nil => cases h
  | cons c text ih =>
    have further (h : part ∈ partsWith test (start + c.utf8Size) text) :
        ∃ before char after, c :: text = before ++ char :: after ∧ test char = true ∧
          part = ⟨start + Utf8.size before, [char]⟩ := by
      obtain ⟨before, char, after, rfl, passes, rfl⟩ := ih h
      exact ⟨c :: before, char, after, rfl, passes, by rw [Utf8.size_cons, Nat.add_assoc]⟩
    rw [partsWith] at h
    split at h
    · next passes =>
      rcases List.mem_cons.1 h with rfl | h
      · exact ⟨[], c, text, rfl, passes, rfl⟩
      · exact further h
    · exact further h

/-- **What the scan does not recognize** stands where the scan says. -/
theorem Event.pointsAtCause_of_mem_scan {event : Event} (h : event ∈ (scan line).events)
    (left : List Lexeme) : event.PointsAtCause line left := by
  have found : event.part? ∈ (partsWith isForeign 0 line).map some := by
    rw [← (isCut_scan line).objections]
    exact List.mem_map_of_mem h
  obtain ⟨part, hp, named⟩ := List.mem_map.1 found
  obtain ⟨before, char, after, split, passes, rfl⟩ := exists_of_mem_partsWith hp
  cases event with
  | unrecognized column other =>
    obtain ⟨rfl, same⟩ := Part.mk.inj (Option.some.inj named)
    obtain ⟨rfl, -⟩ := List.cons.inj same
    exact ⟨⟨before, after, split, (Nat.zero_add _).symm⟩, passes⟩
  | _ => cases named

/-- **What an event says about lexemes** it says about the line in which they stand. -/
theorem Event.Concerns.pointsAtCause {lexemes : List Lexeme} {left : Rest} {event : Event}
    (h : event.Concerns lexemes left) (among : left.lexemes ⊆ lexemes)
    (stop : left.stop = Utf8.size line)
    (stands : ∀ lexeme ∈ lexemes, lexeme.token.IsProper ∧ lexeme.StandsIn line) :
    event.PointsAtCause line left.lexemes := by
  have next : IsNext line left.column left.lexemes := by
    obtain ⟨lexemes, stop⟩ := left
    cases lexemes with
    | nil => exact stop
    | cons lexeme lexemes => exact ⟨rfl, stands lexeme (among List.mem_cons_self)⟩
  cases event with
  | operandExpected column token =>
    obtain ⟨rfl, rfl⟩ := h
    exact ⟨next, rfl⟩
  | nestingTooDeep column depth =>
    obtain ⟨rfl, opening, rfl⟩ := h
    have here := (stands _ (among (Rest.mem_of_token? opening))).2.standsAt
    exact ⟨here, rfl⟩
  | closingExpected column =>
    obtain ⟨rfl, missing⟩ := h
    exact ⟨next, missing⟩
  | unconsumed column remaining =>
    obtain ⟨rfl, rfl, some⟩ := h
    exact ⟨next, List.ne_nil_of_length_pos (Nat.pos_of_ne_zero some), rfl⟩
  | operationRejected column operator a b fault =>
    obtain ⟨read, rejected⟩ := h
    have here := (stands _ read).2.standsAt
    have symbol : operator.token.text = [operator.symbol] := by cases operator <;> rfl
    rw [symbol] at here
    exact ⟨here, rejected⟩
  | literalTooLarge column digits =>
    obtain ⟨read, large⟩ := h
    exact ⟨(stands _ read).1, (stands _ read).2, large⟩
  | unrecognized | calculated | lineCut | serving | inputClosed => exact h.elim

end Line

/-! ### The log of a line -/

/-- **The moments of a line** lead through its lexemes; their events are those of the scan, and
those that are about lexemes. -/
theorem leads_readMoments (line : String) :
    Moment.Leads (fun left event => event ∈ (scan line.toList).events ∨
        event.Concerns (scan line.toList).result.value left)
      ⟨(scan line.toList).result.value, Utf8.size line.toList⟩ (readMoments line)
      ((Rule.sum 0).run
        ⟨(scan line.toList).result.value, Utf8.size line.toList⟩).result.rest := by
  have readable := @isReadable_of_mem_scan line.toList
  have parsed := concerns_parseMoments readable (Utf8.size line.toList)
  refine (Moment.Leads.ofRun ?_).append (parsed.mono ?_)
  · exact fun event => .inl
  · exact fun rest event => .inr

theorem events_calculate_eq_readMoments (line : String) :
    (calculate line).events = Moment.events (readMoments line) ++
      [.calculated line (calculate line).result.value (calculate line).result.faults] := by
  rw [events_calculate, readMoments, Moment.events_append, Moment.events_ofRun,
    events_parseMoments]
  simp [examine]

/-- **Every event points at its cause.**  What is logged while a line is read, up to the event that
tells its value, names a column between two characters of the line.  Let `left` be the lexemes not
taken yet when the event is logged: then there stands in this column the character that is not
recognized, the operator of the operation that was rejected, with operands in range and the fault
that the operator has on them, the whole run of digits that is too large, or the parenthesis that
opens one group too many; or the column is that of the next lexeme, or of the end of the line if
none is left. -/
theorem events_point_at_cause (line : String) :
    let lexemes := (scan line.toList).result.value
    let outcome := (calculate line).result
    (calculate line).events = Moment.events (readMoments line) ++
        [.calculated line outcome.value outcome.faults] ∧
      ∀ before event after, Moment.events (readMoments line) = before ++ event :: after →
        ∃ earlier later left column,
          readMoments line = earlier ++ .logged event :: later ∧ Moment.events earlier = before ∧
          lexemes = Moment.lexemes earlier ++ left ∧
          event.column? = some column ∧
          Utf8.isBoundary (Utf8.encode line.toList) column = true ∧
          column ≤ Utf8.size line.toList ∧
          event.PointsAtCause line.toList left := by
  intro lexemes outcome
  refine ⟨events_calculate_eq_readMoments line, ?_⟩
  intro before event after logged
  obtain ⟨earlier, later, split, rfl, -⟩ := Moment.exists_of_events_eq_append logged
  have leads := leads_readMoments line
  rw [split] at leads
  obtain ⟨left, taken, stop, said⟩ := leads.exists_left
  have points : event.PointsAtCause line.toList left.lexemes := by
    rcases said with scanned | concerns
    · exact Event.pointsAtCause_of_mem_scan scanned left.lexemes
    · have among : left.lexemes ⊆ lexemes := fun lexeme hl => by
        rw [show lexemes = Moment.lexemes earlier ++ left.lexemes from taken]
        exact List.mem_append_right _ hl
      exact concerns.pointsAtCause among stop (isCut_scan line.toList).stands
  obtain ⟨column, named, front, below, rfl⟩ := points.exists_before
  exact ⟨earlier, later, left.lexemes, _, split, rfl, taken, named,
    Utf8.isBoundary_encode_iff.2 ⟨front, below, rfl⟩, Utf8.size_mono below, points⟩

/-- A quotient is rejected at its operator, and the parenthesis is missed at the end of the line,
behind a character that is not recognized. -/
theorem events_point_at_cause_quotient :
    StandsAt "(1/0 € ".toList 2 ['/'] ∧
      Utf8.isBoundary (Utf8.encode "(1/0 € ".toList) 9 = true := by
  obtain ⟨-, points⟩ := events_point_at_cause "(1/0 € "
  constructor
  · obtain ⟨-, -, left, column, -, -, -, -, -, -, cause⟩ :=
      points [.unrecognized 5 '€'] (.operationRejected 2 .dividedBy 1 0 .zeroDivisor)
        [.closingExpected 9] (by decide +kernel)
    exact cause.1
  · obtain ⟨-, -, left, column, -, -, -, named, boundary, -⟩ :=
      points [.unrecognized 5 '€', .operationRejected 2 .dividedBy 1 0 .zeroDivisor]
        (.closingExpected 9) [] (by decide +kernel)
    obtain rfl : 9 = column := Option.some.inj named
    exact boundary

end Calculator
