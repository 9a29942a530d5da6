/-
# Groups that give up

What happens while lexemes are read is of one of two kinds (`Moment.Settles`).
Either every group that was opened is closed.  Or there is a first group that
cannot close, because its closing parenthesis is missing or because it is
refused, and from there on nothing is taken: each group that is still open logs
that it misses its closing parenthesis, and operations that have lost an operand
may log that they are rejected (`Moment.Unwinds`).  What comes next is then a
token that nobody takes.

Moments of the first kind may be followed by anything, those of the second by
nothing but more groups that give up (`Moment.Settles.give_up`).  So all can be
counted: the groups that give up are those that were opened and not closed
(`Moment.Unwinds.totals`), also from any of them to the end
(`Moment.Unwinds.behind`).
-/

import Calculator.Chronicle

namespace Calculator

namespace Rest

/-- **Nobody takes what comes next:** neither an operator nor a closing parenthesis does. -/
structure IsStuck (rest : Rest) : Prop where
  operator : rest.token?.bind Token.operator? = none
  closing : rest.token? ≠ some .closing

theorem operator?_of_bind_eq_none {rest : Rest} (h : rest.token?.bind Token.operator? = none)
    (precedence : Precedence) : rest.operator? precedence = none := by
  rw [operator?, h]
  rfl

theorem bind_operator?_eq_none {rest : Rest}
    (h : ∀ precedence, rest.operator? precedence = none) :
    rest.token?.bind Token.operator? = none := by
  cases found : rest.token?.bind Token.operator? with
  | none => rfl
  | some operator =>
    have absent := h operator.precedence
    rw [operator?, found] at absent
    simp [Option.filter] at absent

end Rest

/-! ### Kinds of moments -/

namespace Event

/-- Whether a closing parenthesis is missing. -/
def isClosingExpected : Event → Bool
  | closingExpected _ => true
  | _ => false

/-- Whether a group is refused. -/
def isTooDeep : Event → Bool
  | nestingTooDeep .. => true
  | _ => false

/-- Whether an operation is rejected. -/
def isRejection : Event → Bool
  | operationRejected .. => true
  | _ => false

end Event

namespace Moment

/-- Whether a parenthesis opens: it is taken. -/
def isOpening (moment : Moment) : Bool := moment.lexeme?.any (·.token == .opening)

/-- Whether a parenthesis closes: it is taken. -/
def isClosing (moment : Moment) : Bool := moment.lexeme?.any (·.token == .closing)

/-- Whether it is logged that a closing parenthesis is missing. -/
def isClosingExpected (moment : Moment) : Bool := moment.event?.any Event.isClosingExpected

/-- Whether it is logged that a group is refused. -/
def isTooDeep (moment : Moment) : Bool := moment.event?.any Event.isTooDeep

/-- Whether it is logged that an operation is rejected. -/
def isRejection (moment : Moment) : Bool := moment.event?.any Event.isRejection

/-- **Whether a group cannot close:** its closing parenthesis is missing, or it is refused. -/
def isUnclosed (moment : Moment) : Bool := moment.isClosingExpected || moment.isTooDeep

section Kinds

variable (lexeme : Lexeme) (event : Event)

@[simp] theorem isOpening_taken : (taken lexeme).isOpening = (lexeme.token == .opening) := rfl

@[simp] theorem isOpening_logged : (logged event).isOpening = false := rfl

@[simp] theorem isClosing_taken : (taken lexeme).isClosing = (lexeme.token == .closing) := rfl

@[simp] theorem isClosing_logged : (logged event).isClosing = false := rfl

@[simp] theorem isClosingExpected_taken : (taken lexeme).isClosingExpected = false := rfl

@[simp] theorem isClosingExpected_logged :
    (logged event).isClosingExpected = event.isClosingExpected := rfl

@[simp] theorem isUnclosed_taken : (taken lexeme).isUnclosed = false := rfl

@[simp] theorem isUnclosed_logged :
    (logged event).isUnclosed = (event.isClosingExpected || event.isTooDeep) := rfl

end Kinds

/-- A moment that neither opens nor closes a group, nor says that one cannot close. -/
structure IsQuiet (moment : Moment) : Prop where
  opening : moment.isOpening = false
  closing : moment.isClosing = false
  unclosed : moment.isUnclosed = false

/-- A moment in which a group gives up, or an operation that has lost an operand. -/
def IsGivingUp (moment : Moment) : Prop :=
  moment.isClosingExpected = true ∨ moment.isRejection = true

theorem isQuiet_of_isRejection :
    ∀ {moment : Moment}, moment.isRejection = true → moment.IsQuiet
  | logged (.operationRejected ..), _ => ⟨rfl, rfl, rfl⟩

/-- **Nothing is taken while groups give up.** -/
theorem IsGivingUp.eq_logged {moment : Moment} (h : moment.IsGivingUp) :
    ∃ event, moment = logged event := by
  obtain lexeme | event := moment
  · rcases h with h | h <;> cases h
  · exact ⟨event, rfl⟩

theorem countP_eq_zero {p : Moment → Bool} {moments : List Moment}
    (h : ∀ moment ∈ moments, p moment = false) : moments.countP p = 0 :=
  List.countP_eq_zero.2 fun moment hm => Bool.eq_false_iff.1 (h moment hm)

theorem countP_isClosingExpected_eq_zero {moments : List Moment}
    (h : ∀ moment ∈ moments, moment.isUnclosed = false) :
    moments.countP isClosingExpected = 0 :=
  countP_eq_zero fun moment hm => (Bool.or_eq_false_iff.1 (h moment hm)).1

theorem countP_isTooDeep_eq_zero {moments : List Moment}
    (h : ∀ moment ∈ moments, moment.isUnclosed = false) : moments.countP isTooDeep = 0 :=
  countP_eq_zero fun moment hm => (Bool.or_eq_false_iff.1 (h moment hm)).2

/-! ### Moments that are settled -/

/-- **Every group that is opened is closed.** -/
structure AllClosed (moments : List Moment) : Prop where
  /-- No group is said to be unclosed. -/
  unclosed : ∀ moment ∈ moments, moment.isUnclosed = false
  /-- As many groups are closed as are opened. -/
  balanced : moments.countP isOpening = moments.countP isClosing

/-- **Groups give up,** from the first one that cannot close to the outermost, where at most
`levels` may be open: nothing is taken any more, and what comes next is left to nobody. -/
structure Unwinds (levels : Nat) (before : List Moment) (first : Moment) (after : List Moment)
    (later : Rest) : Prop where
  /-- No group before the first is unclosed. -/
  earlier : ∀ moment ∈ before, moment.isUnclosed = false
  /-- The first group that cannot close. -/
  unclosed : first.isUnclosed = true
  /-- Behind it groups give up. -/
  givingUp : ∀ moment ∈ after, moment.IsGivingUp
  /-- Each group that is still open gives up once. -/
  groups : before.countP isOpening =
    before.countP isClosing + (first :: after).countP isClosingExpected
  /-- There are not more of them than may be open. -/
  within : (first :: after).countP isClosingExpected ≤ levels
  /-- A group is refused only inside as many as may be open. -/
  tooDeep : first.isTooDeep = true →
    (first :: after).countP isClosingExpected = levels ∧ later.token? = some .opening
  /-- Nobody takes what comes next. -/
  stuck : later.IsStuck

/-- **What happens while a rule reads:** all groups are closed, or from the first that is not they
give up. -/
inductive Settles (levels : Nat) : List Moment → Rest → Prop
  | closed {moments : List Moment} {later : Rest} : AllClosed moments → Settles levels moments later
  | unwinding {before after : List Moment} {first : Moment} {later : Rest} :
    Unwinds levels before first after later → Settles levels (before ++ first :: after) later

namespace AllClosed

theorem append {earlier later : List Moment} (h : AllClosed earlier) (h' : AllClosed later) :
    AllClosed (earlier ++ later) where
  unclosed := List.forall_mem_append.2 ⟨h.unclosed, h'.unclosed⟩
  balanced := by rw [List.countP_append, List.countP_append, h.balanced, h'.balanced]

theorem of_isQuiet {moments : List Moment} (h : ∀ moment ∈ moments, moment.IsQuiet) :
    AllClosed moments where
  unclosed moment hm := (h moment hm).unclosed
  balanced := by
    have opening := countP_eq_zero fun moment hm => (h moment hm).opening
    have closing := countP_eq_zero fun moment hm => (h moment hm).closing
    rw [opening, closing]

theorem not_isUnclosed {before after : List Moment} {moment : Moment}
    (h : AllClosed (before ++ moment :: after)) : moment.isUnclosed ≠ true :=
  Bool.eq_false_iff.1 (h.unclosed moment (List.mem_append_right _ List.mem_cons_self))

end AllClosed

/-- **A group that misses its closing parenthesis** is the first to give up if all is closed inside
it. -/
theorem AllClosed.give_up {moments : List Moment} (h : AllClosed moments) (levels : Nat)
    {later : Rest} (stuck : later.IsStuck) (opened column : Nat) :
    Unwinds (levels + 1) (taken ⟨.opening, opened⟩ :: moments) (logged (.closingExpected column)) []
      later where
  earlier := List.forall_mem_cons.2 ⟨rfl, h.unclosed⟩
  unclosed := rfl
  givingUp := List.forall_mem_nil _
  groups := by
    have balanced := h.balanced
    simp [Event.isClosingExpected, balanced]
  within := by simp [Event.isClosingExpected]
  tooDeep := nofun
  stuck

namespace Unwinds

variable {levels : Nat} {before after : List Moment} {first : Moment} {later : Rest}

/-- **A group that misses its closing parenthesis** gives up after those inside it. -/
theorem give_up (h : Unwinds levels before first after later) (opened column : Nat) :
    Unwinds (levels + 1) (taken ⟨.opening, opened⟩ :: before) first
      (after ++ [logged (.closingExpected column)]) later := by
  have count : (first :: (after ++ [logged (.closingExpected column)])).countP
      isClosingExpected = (first :: after).countP isClosingExpected + 1 := by
    rw [← List.cons_append, List.countP_append]
    rfl
  have opens : (taken ⟨.opening, opened⟩ :: before).countP isOpening =
      before.countP isOpening + 1 := List.countP_cons_of_pos rfl
  have closes : (taken ⟨.opening, opened⟩ :: before).countP isClosing =
      before.countP isClosing := List.countP_cons_of_neg (by simp)
  have groups := h.groups
  have within := h.within
  refine { h with earlier := ?_, givingUp := ?_, groups := ?_, within := ?_, tooDeep := ?_ }
  · exact List.forall_mem_cons.2 ⟨rfl, h.earlier⟩
  · exact List.forall_mem_append.2 ⟨h.givingUp, List.forall_mem_singleton.2 (.inl rfl)⟩
  · rw [opens, closes, count]
    omega
  · rw [count]
    omega
  · intro refused
    obtain ⟨all, next⟩ := h.tooDeep refused
    exact ⟨by rw [count, all], next⟩

theorem prepend {front : List Moment} (closed : AllClosed front)
    (h : Unwinds levels before first after later) :
    Unwinds levels (front ++ before) first after later := by
  refine { h with earlier := ?_, groups := ?_ }
  · exact List.forall_mem_append.2 ⟨closed.unclosed, h.earlier⟩
  · have balanced := closed.balanced
    have groups := h.groups
    rw [List.countP_append, List.countP_append]
    omega

theorem append_rejections {back : List Moment} (h : Unwinds levels before first after later)
    (rejections : ∀ moment ∈ back, moment.isRejection = true) :
    Unwinds levels before first (after ++ back) later := by
  have silent := countP_isClosingExpected_eq_zero fun moment hm =>
    (isQuiet_of_isRejection (rejections moment hm)).unclosed
  have count : (first :: (after ++ back)).countP isClosingExpected =
      (first :: after).countP isClosingExpected := by
    rw [← List.cons_append, List.countP_append, silent, Nat.add_zero]
  refine { h with givingUp := ?_, groups := ?_, within := ?_, tooDeep := ?_ }
  · exact List.forall_mem_append.2 ⟨h.givingUp, fun moment hm => .inr (rejections moment hm)⟩
  · rw [count]
    exact h.groups
  · rw [count]
    exact h.within
  · rw [count]
    exact h.tooDeep

end Unwinds

namespace Settles

variable {levels : Nat} {moments : List Moment} {later : Rest}

/-- Moments in which all groups are closed may come first. -/
theorem prepend {front : List Moment} (closed : AllClosed front)
    (h : Settles levels moments later) : Settles levels (front ++ moments) later := by
  cases h with
  | closed h => exact .closed (closed.append h)
  | unwinding h =>
    rw [← List.append_assoc]
    exact .unwinding (h.prepend closed)

/-- Operations may be rejected afterwards. -/
theorem append_rejections {back : List Moment} (h : Settles levels moments later)
    (rejections : ∀ moment ∈ back, moment.isRejection = true) :
    Settles levels (moments ++ back) later := by
  cases h with
  | closed h =>
    exact .closed (h.append (.of_isQuiet fun moment hm =>
      isQuiet_of_isRejection (rejections moment hm)))
  | unwinding h =>
    rw [List.append_assoc, List.cons_append]
    exact .unwinding (h.append_rejections rejections)

/-- **Where an operator is taken,** all groups before it are closed. -/
theorem allClosed_of_operator? {precedence : Precedence} {operator : Operator}
    (h : Settles levels moments later) (next : later.operator? precedence = some operator) :
    AllClosed moments := by
  cases h with
  | closed h => exact h
  | unwinding h =>
    rw [Rest.operator?_of_bind_eq_none h.stuck.operator] at next
    cases next

/-- **Where a closing parenthesis comes next,** all groups before it are closed. -/
theorem allClosed_of_closing (h : Settles levels moments later)
    (next : later.token? = some .closing) : AllClosed moments := by
  cases h with
  | closed h => exact h
  | unwinding h => exact absurd next h.stuck.closing

/-- **A group that misses its closing parenthesis gives up,** whatever happened inside it. -/
theorem give_up (h : Settles levels moments later) (stuck : later.IsStuck) (opened column : Nat) :
    Settles (levels + 1)
      (taken ⟨.opening, opened⟩ :: moments ++ [logged (.closingExpected column)]) later := by
  cases h with
  | closed h => exact .unwinding (h.give_up levels stuck opened column)
  | unwinding h =>
    rw [List.cons_append, List.append_assoc, List.cons_append, ← List.cons_append]
    exact .unwinding (h.give_up opened column)

end Settles

/-! ### Counting groups -/

variable {levels : Nat} {before after : List Moment} {first : Moment} {later : Rest}

theorem countP_lexemes (p : Lexeme → Bool) (moments : List Moment) :
    (lexemes moments).countP p = moments.countP (·.lexeme?.any p) := by
  rw [lexemes, List.countP_filterMap]
  refine List.countP_congr fun moment _ => ?_
  cases moment <;> rfl

theorem countP_events (p : Event → Bool) (moments : List Moment) :
    (events moments).countP p = moments.countP (·.event?.any p) := by
  rw [events, List.countP_filterMap]
  refine List.countP_congr fun moment _ => ?_
  cases moment <;> rfl

theorem count_opening_lexemes (moments : List Moment) :
    ((lexemes moments).map Lexeme.token).count .opening = moments.countP isOpening := by
  rw [List.count, List.countP_map, countP_lexemes]
  rfl

theorem count_closing_lexemes (moments : List Moment) :
    ((lexemes moments).map Lexeme.token).count .closing = moments.countP isClosing := by
  rw [List.count, List.countP_map, countP_lexemes]
  rfl

theorem lexemes_eq_nil {moments : List Moment}
    (h : ∀ moment ∈ moments, ∃ event, moment = logged event) : lexemes moments = [] := by
  rw [lexemes, List.filterMap_eq_nil_iff]
  intro moment hm
  obtain ⟨event, rfl⟩ := h moment hm
  rfl

/-- **No group before the first is unclosed,** so an unclosed one is the first or comes later. -/
theorem exists_of_append_eq_append {front back : List Moment} {moment : Moment}
    (earlier : ∀ moment ∈ before, moment.isUnclosed = false)
    (h : before ++ first :: after = front ++ moment :: back) (unclosed : moment.isUnclosed = true) :
    ∃ more, front = before ++ more ∧ first :: after = more ++ moment :: back := by
  rcases List.append_eq_append_iff.1 h with ⟨more, rfl, same⟩ | ⟨more, rfl, same⟩
  · exact ⟨more, rfl, same⟩
  · cases more with
    | nil => exact ⟨[], by simp, same.symm⟩
    | cons other more =>
      obtain ⟨rfl, -⟩ := List.cons.inj same
      have closed := earlier moment (by simp)
      rw [closed] at unclosed
      cases unclosed

theorem countP_of_lexemes_eq_nil {moments : List Moment} (h : lexemes moments = []) :
    moments.countP isOpening = 0 ∧ moments.countP isClosing = 0 := by
  rw [← count_opening_lexemes, ← count_closing_lexemes, h]
  exact ⟨rfl, rfl⟩

theorem eq_logged_of_mem_leftOver {rest : Rest} {moment : Moment} (h : moment ∈ rest.leftOver) :
    moment = logged (.unconsumed rest.column rest.remaining) := by
  unfold Rest.leftOver at h
  split at h
  · cases h
  · exact List.mem_singleton.1 h

theorem isQuiet_of_mem_leftOver {rest : Rest} : ∀ moment ∈ rest.leftOver, moment.IsQuiet := by
  intro moment h
  obtain rfl := eq_logged_of_mem_leftOver h
  exact ⟨rfl, rfl, rfl⟩

/-- From the first group that cannot close, everything is logged. -/
theorem Unwinds.logged_from_first (h : Unwinds levels before first after later) :
    ∀ moment ∈ first :: (after ++ later.leftOver), ∃ event, moment = logged event := by
  refine List.forall_mem_cons.2 ⟨?_, List.forall_mem_append.2 ⟨?_, ?_⟩⟩
  · cases first with
    | taken lexeme => cases h.unclosed
    | logged event => exact ⟨event, rfl⟩
  · exact fun moment hm => (h.givingUp moment hm).eq_logged
  · exact fun moment hm => ⟨_, eq_logged_of_mem_leftOver hm⟩

/-- What is left over is counted nowhere. -/
theorem countP_isClosingExpected_leftOver (moments : List Moment) (rest : Rest) :
    (moments ++ rest.leftOver).countP isClosingExpected = moments.countP isClosingExpected := by
  have quiet := countP_isClosingExpected_eq_zero fun moment (hm : moment ∈ rest.leftOver) =>
    (isQuiet_of_mem_leftOver moment hm).unclosed
  rw [List.countP_append, quiet, Nat.add_zero]

/-- No group is refused while groups give up. -/
theorem Unwinds.isTooDeep_behind (h : Unwinds levels before first after later) :
    ∀ moment ∈ after ++ later.leftOver, moment.isTooDeep = false := by
  refine List.forall_mem_append.2 ⟨?_, ?_⟩
  · intro moment hm
    obtain ⟨event, rfl⟩ := (h.givingUp moment hm).eq_logged
    have givingUp := h.givingUp _ hm
    cases event with
    | nestingTooDeep column depth => rcases givingUp with h | h <;> cases h
    | _ => rfl
  · intro moment hm
    obtain rfl := eq_logged_of_mem_leftOver hm
    rfl

/-- **Behind a group that cannot close** nothing is taken, and each group that is open there gives
up once. -/
theorem Unwinds.behind (h : Unwinds levels before first after later) {front back : List Moment}
    {moment : Moment}
    (split : before ++ first :: (after ++ later.leftOver) = front ++ moment :: back)
    (unclosed : moment.isUnclosed = true) :
    lexemes back = [] ∧
      front.countP isOpening = front.countP isClosing + front.countP isClosingExpected +
        (moment :: back).countP isClosingExpected := by
  obtain ⟨more, rfl, same⟩ := exists_of_append_eq_append h.earlier split unclosed
  have logged := h.logged_from_first
  rw [same] at logged
  obtain ⟨between, behind⟩ := List.forall_mem_append.1 logged
  refine ⟨lexemes_eq_nil (List.forall_mem_cons.1 behind).2, ?_⟩
  obtain ⟨opening, closing⟩ := countP_of_lexemes_eq_nil (lexemes_eq_nil between)
  have silent := countP_isClosingExpected_eq_zero h.earlier
  have count := countP_isClosingExpected_leftOver (first :: after) later
  rw [List.cons_append, same, List.countP_append] at count
  have groups := h.groups
  simp only [List.countP_append]
  omega

/-- **The groups of a line that could not close** are those that were opened and not closed. -/
theorem Unwinds.totals (h : Unwinds levels before first after later) {moments : List Moment}
    (whole : moments = before ++ first :: (after ++ later.leftOver)) :
    moments.countP isOpening = moments.countP isClosing + moments.countP isClosingExpected ∧
      moments.countP isClosingExpected ≤ levels ∧ moments.countP isTooDeep ≤ 1 := by
  obtain ⟨opening, closing⟩ := countP_of_lexemes_eq_nil (lexemes_eq_nil h.logged_from_first)
  have silent := countP_isClosingExpected_eq_zero h.earlier
  have count := countP_isClosingExpected_leftOver (first :: after) later
  have allowed := countP_isTooDeep_eq_zero h.earlier
  have refused := countP_eq_zero h.isTooDeep_behind
  have once : (first :: (after ++ later.leftOver)).countP isTooDeep ≤ 1 := by
    rw [List.countP_cons, refused]
    split <;> omega
  have groups := h.groups
  have within := h.within
  rw [List.cons_append] at count
  rw [whole]
  simp only [List.countP_append]
  omega

/-- A token that comes next is left over. -/
theorem leftOver_of_token? {rest : Rest} {token : Token} (h : rest.token? = some token) :
    rest.leftOver = [logged (.unconsumed rest.column rest.remaining)] := by
  have some : rest.remaining ≠ 0 := Nat.ne_of_gt (Nat.zero_lt_of_lt (Rest.remaining_advance_lt h))
  rw [Rest.leftOver, if_neg some]

/-- **After a refused group** the groups that are open give up, all levels of them, and the refused
one is left over. -/
theorem Unwinds.refused (h : Unwinds levels before first after later) {front back : List Moment}
    {column depth : Nat}
    (split : before ++ first :: (after ++ later.leftOver) =
      front ++ logged (.nestingTooDeep column depth) :: back) :
    back = after ++ [logged (.unconsumed later.column later.remaining)] ∧
      after.countP isClosingExpected = levels := by
  obtain ⟨more, rfl, same⟩ := exists_of_append_eq_append h.earlier split rfl
  cases more with
  | nil =>
    obtain ⟨rfl, rfl⟩ := List.cons.inj same
    obtain ⟨all, next⟩ := h.tooDeep rfl
    exact ⟨by rw [leftOver_of_token? next], all⟩
  | cons other more =>
    obtain ⟨rfl, inside⟩ := List.cons.inj same
    have refused := h.isTooDeep_behind (logged (.nestingTooDeep column depth)) (by simp [inside])
    cases refused

end Moment
end Calculator
