/-
# What happens while a line is read

A run keeps its log and what it found; which lexemes had been taken when an
event was logged is not kept.  A chronicle says it: the moments of a run, in
order, each of which takes a lexeme or logs an event.

A chronicle belongs to a rule, and is built as the rule is.  It may leave out
nothing and add nothing: the events of its moments are the log of the rule's
run, and the lexemes of its moments are those that the run took.
-/

import Calculator.Calculation

namespace Calculator

/-- Something that happens while lexemes are read. -/
inductive Moment
  /-- The next lexeme is taken. -/
  | taken (lexeme : Lexeme)
  /-- An event is logged. -/
  | logged (event : Event)
deriving DecidableEq

namespace Moment

/-- The lexeme that is taken at a moment. -/
def lexeme? : Moment → Option Lexeme
  | taken lexeme => some lexeme
  | logged _ => none

/-- The event that is logged at a moment. -/
def event? : Moment → Option Event
  | taken _ => none
  | logged event => some event

/-- The lexemes taken in the course of some moments. -/
def lexemes (moments : List Moment) : List Lexeme := moments.filterMap lexeme?

/-- The events logged in the course of some moments. -/
def events (moments : List Moment) : List Event := moments.filterMap event?

/-- The moments of a run that takes no lexeme. -/
def ofRun {α : Type} (run : Run α) : List Moment := run.events.map logged

section Append

variable (earlier later : List Moment)

@[simp] theorem lexemes_append : lexemes (earlier ++ later) = lexemes earlier ++ lexemes later :=
  List.filterMap_append

@[simp] theorem events_append : events (earlier ++ later) = events earlier ++ events later :=
  List.filterMap_append

end Append

@[simp] theorem lexemes_nil : lexemes [] = [] := rfl

@[simp] theorem events_nil : events [] = [] := rfl

@[simp] theorem lexemes_logged (event : Event) : lexemes [logged event] = [] := rfl

@[simp] theorem events_logged (event : Event) : events [logged event] = [event] := rfl

@[simp] theorem lexemes_ofRun {α : Type} (run : Run α) : lexemes (ofRun run) = [] := by
  rw [lexemes, ofRun, List.filterMap_map, List.filterMap_eq_nil_iff]
  exact fun _ _ => rfl

@[simp] theorem events_ofRun {α : Type} (run : Run α) : events (ofRun run) = run.events := by
  rw [events, ofRun, List.filterMap_map]
  exact List.filterMap_some

/-- **An event that is logged is logged at a moment,** with the events around it before and after. -/
theorem exists_of_events_eq_append {moments : List Moment} {before after : List Event}
    {event : Event} (h : events moments = before ++ event :: after) :
    ∃ earlier later, moments = earlier ++ logged event :: later ∧ events earlier = before ∧
      events later = after := by
  obtain ⟨earlier, behind, rfl, rfl, split⟩ := List.filterMap_eq_append_iff.1 h
  obtain ⟨between, moment, later, rfl, silent, found, rfl⟩ := List.filterMap_eq_cons_iff.1 split
  obtain rfl : moment = logged event := by
    cases moment with
    | taken lexeme => cases found
    | logged other => exact congrArg logged (Option.some.inj found)
  refine ⟨earlier ++ between, later, by simp, ?_, rfl⟩
  rw [events_append, events, events, List.filterMap_eq_nil_iff.2 silent, List.append_nil]

/-- What holds of all moments holds of their events. -/
theorem forall_mem_events {moments : List Moment} {P : Moment → Prop}
    (h : ∀ moment ∈ moments, P moment) : ∀ event ∈ events moments, P (logged event) := by
  intro event logged
  obtain ⟨moment, hm, found⟩ := List.mem_filterMap.1 logged
  cases moment with
  | taken lexeme => cases found
  | logged other =>
    obtain rfl := Option.some.inj found
    exact h _ hm

end Moment

/-- The moment of taking the next lexeme, if there is one. -/
def Rest.taking (rest : Rest) : List Moment := rest.lexemes.head?.toList.map .taken

@[simp] theorem Rest.lexemes_taking (rest : Rest) :
    Moment.lexemes rest.taking ++ rest.advance.lexemes = rest.lexemes := by
  obtain ⟨lexemes, stop⟩ := rest
  cases lexemes <;> rfl

@[simp] theorem Rest.events_taking (rest : Rest) : Moment.events rest.taking = [] := by
  obtain ⟨lexemes, stop⟩ := rest
  cases lexemes <;> rfl

/-- A token that comes next is the first lexeme's. -/
theorem Rest.lexemes_of_token? {rest : Rest} {token : Token} (h : rest.token? = some token) :
    rest.lexemes = ⟨token, rest.column⟩ :: rest.advance.lexemes := by
  obtain ⟨lexemes, stop⟩ := rest
  cases lexemes with
  | nil => cases h
  | cons lexeme later =>
    obtain rfl := Option.some.inj h
    rfl

theorem Rest.taking_of_token? {rest : Rest} {token : Token} (h : rest.token? = some token) :
    rest.taking = [.taken ⟨token, rest.column⟩] := by
  rw [taking, lexemes_of_token? h]
  rfl

/-- **The chronicle of a rule:** what happens in each of its runs, one moment after another. -/
structure Chronicle (rule : Rule) where
  /-- The moments of the run on a rest. -/
  moments : Rest → List Moment
  /-- What is logged at these moments is the log of the run. -/
  events_eq : ∀ rest, Moment.events (moments rest) = (rule.run rest).events
  /-- What is taken at these moments is what the run took. -/
  lexemes_eq : ∀ rest,
    Moment.lexemes (moments rest) ++ (rule.run rest).result.rest.lexemes = rest.lexemes

namespace Chronicle

/-- A refused group is logged, and that is all. -/
def tooDeep (depth : Nat) : Chronicle (.tooDeep depth) where
  moments rest := [.logged (.nestingTooDeep rest.column depth)]
  events_eq _ := rfl
  lexemes_eq _ := rfl

/-- **A group** takes the opening parenthesis and what is inside; then it takes the closing one or
logs that it is missing. -/
def group (depth : Nat) {inner : Rule} (inside : Chronicle inner) :
    Chronicle (.group depth inner) where
  moments rest :=
    let later := (inner.run rest.advance).result.rest
    rest.taking ++ inside.moments rest.advance ++
      if later.token? = some .closing then later.taking
      else [.logged (.closingExpected later.column)]
  events_eq rest := by
    simp only [Moment.events_append, Rest.events_taking, inside.events_eq, Rule.group,
      Run.events_bind, Run.events_perform]
    split <;> simp
  lexemes_eq rest := by
    have taken := inside.lexemes_eq rest.advance
    simp only [Moment.lexemes_append, Rule.group, Run.result_bind]
    split
    · simp [taken]
    · simp [taken]

/-- **An operand** is a literal that is taken, a group, or missing. -/
def operand {group : Rule} (inside : Chronicle group) : Chronicle (.operand group) where
  moments rest :=
    match rest.token? with
    | some (.number digits) => rest.taking ++ Moment.ofRun (literal digits rest.column)
    | some .opening => inside.moments rest
    | token => [.logged (.operandExpected rest.column token)]
  events_eq rest := by
    unfold Rule.operand
    dsimp only
    generalize rest.token? = token
    split
    · simp
    · exact inside.events_eq rest
    · simp
  lexemes_eq rest := by
    unfold Rule.operand
    dsimp only
    generalize rest.token? = token
    split
    · simp
    · exact inside.lexemes_eq rest
    · simp

/-- **A sign** is taken before its operand. -/
def signed {operand : Rule} (unsigned : Chronicle operand) : Chronicle (.signed operand) where
  moments rest :=
    if rest.token? = some .minus then rest.taking ++ unsigned.moments rest.advance
    else unsigned.moments rest
  events_eq rest := by
    simp only [Rule.signed]
    split
    · simp [unsigned.events_eq, Outcome.negate]
    · exact unsigned.events_eq rest
  lexemes_eq rest := by
    simp only [Rule.signed]
    split
    · simp [unsigned.lexemes_eq]
    · exact unsigned.lexemes_eq rest

/-- The moments of the links of a chain: each link takes its operator and its operand, and then
both sides are joined. -/
def linkMoments (precedence : Precedence) {operand : Rule} (each : Chronicle operand)
    (left : Outcome Int) (rest : Rest) : List Moment :=
  match h : rest.operator? precedence with
  | none => []
  | some operator =>
    let right := (operand.run rest.advance).result
    let joined := left.combine operator right.outcome rest.column
    have := Rest.remaining_lt_of_operator? h (operand.isSuffix rest.advance)
    rest.taking ++ each.moments rest.advance ++ Moment.ofRun joined ++
      linkMoments precedence each joined.result right.rest
termination_by rest.remaining

section Links

variable {precedence : Precedence} {operand : Rule} (each : Chronicle operand)
  {left : Outcome Int} {rest : Rest}

theorem linkMoments_of_none (h : rest.operator? precedence = none) :
    linkMoments precedence each left rest = [] := by
  rw [linkMoments]
  split
  · rfl
  · next found => rw [h] at found; cases found

theorem linkMoments_of_some {operator : Operator} (h : rest.operator? precedence = some operator) :
    linkMoments precedence each left rest =
      rest.taking ++ each.moments rest.advance ++
        Moment.ofRun
          (left.combine operator (operand.run rest.advance).result.outcome rest.column) ++
        linkMoments precedence each
          (left.combine operator (operand.run rest.advance).result.outcome rest.column).result
          (operand.run rest.advance).result.rest := by
  rw [linkMoments]
  split
  · next found => rw [h] at found; cases found
  · next found =>
    rw [h] at found
    obtain rfl := Option.some.inj found
    rfl

theorem events_linkMoments (left : Outcome Int) (rest : Rest) :
    Moment.events (linkMoments precedence each left rest) =
      (Rule.links precedence operand left rest).events := by
  fun_induction Rule.links precedence operand left rest with
  | case1 left rest none => rw [linkMoments_of_none each none]; rfl
  | case2 left rest operator some right shorter ih =>
    rw [linkMoments_of_some each some]
    simp only [Moment.events_append, Rest.events_taking, each.events_eq, Moment.events_ofRun,
      Run.events_bind, List.nil_append, List.append_assoc]
    rw [ih]

theorem lexemes_linkMoments (left : Outcome Int) (rest : Rest) :
    Moment.lexemes (linkMoments precedence each left rest) ++
      (Rule.links precedence operand left rest).result.rest.lexemes = rest.lexemes := by
  fun_induction Rule.links precedence operand left rest with
  | case1 left rest none => rw [linkMoments_of_none each none]; rfl
  | case2 left rest operator some right shorter ih =>
    rw [linkMoments_of_some each some]
    simp only [Moment.lexemes_append, Moment.lexemes_ofRun, Run.result_bind, List.append_assoc]
    have taken := each.lexemes_eq rest.advance
    rw [ih, List.nil_append, taken, Rest.lexemes_taking]

end Links

/-- **A chain** takes its first operand and then its links. -/
def chain (precedence : Precedence) {operand : Rule} (each : Chronicle operand) :
    Chronicle (.chain precedence operand) where
  moments rest :=
    let first := (operand.run rest).result
    each.moments rest ++ linkMoments precedence each first.outcome first.rest
  events_eq rest := by
    rw [Moment.events_append, each.events_eq, events_linkMoments]
    rfl
  lexemes_eq rest := by
    rw [Moment.lexemes_append, List.append_assoc, ← each.lexemes_eq rest]
    exact congrArg _ (lexemes_linkMoments each _ _)

/-- The chronicle of an atom under `depth` open parentheses, of which at most `levels` more may be
opened. -/
def atomWithin : (levels depth : Nat) → Chronicle (.atomWithin levels depth)
  | 0, depth => operand (tooDeep depth)
  | levels + 1, depth =>
    operand (group depth (chain .additive (chain .multiplicative
      (signed (atomWithin levels (depth + 1))))))

/-- The chronicle of a sum under `depth` open parentheses. -/
def sum (depth : Nat) : Chronicle (.sum depth) :=
  chain .additive (chain .multiplicative (signed (atomWithin (maxNesting - depth) depth)))

end Chronicle

/-- What is logged of lexemes that are left over. -/
def Rest.leftOver (rest : Rest) : List Moment :=
  if rest.remaining = 0 then [] else [.logged (.unconsumed rest.column rest.remaining)]

/-- **What happens while lexemes are parsed:** a sum is read, and it is logged if anything is left
over. -/
def parseMoments (lexemes : List Lexeme) (stop : Nat) : List Moment :=
  (Chronicle.sum 0).moments ⟨lexemes, stop⟩ ++
    ((Rule.sum 0).run ⟨lexemes, stop⟩).result.rest.leftOver

theorem events_parseMoments (lexemes : List Lexeme) (stop : Nat) :
    Moment.events (parseMoments lexemes stop) = (parse lexemes stop).events := by
  simp only [parseMoments, parse, Moment.events_append, (Chronicle.sum 0).events_eq,
    Run.events_bind, Rest.leftOver]
  split <;> simp

theorem lexemes_parseMoments (lexemes : List Lexeme) (stop : Nat) :
    Moment.lexemes (parseMoments lexemes stop) ++
      ((Rule.sum 0).run ⟨lexemes, stop⟩).result.rest.lexemes = lexemes := by
  have taken := (Chronicle.sum 0).lexemes_eq ⟨lexemes, stop⟩
  simp only [parseMoments, Moment.lexemes_append, Rest.leftOver]
  split <;> simpa using taken

/-- **What happens while a line is read:** it is scanned, and then its lexemes are parsed. -/
def readMoments (line : String) : List Moment :=
  Moment.ofRun (scan line.toList) ++
    parseMoments (scan line.toList).result.value (Utf8.size line.toList)

end Calculator
