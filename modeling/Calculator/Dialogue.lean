/-
# Dialogues

A dialogue is a session between two signals of its input.  Whoever is at the
other end may wait for a reply before going on, so a dialogue asks for no more
of the input than it needs.  It takes one signal, and then it is its turn:

| turn | what the dialogue wants |
| --- | --- |
| `listens` | the next signal |
| `replies` | to send a reply, and then the next signal |
| `ends` | nothing more |

What a dialogue comes to is settled without any stream.  A stream only shows the
signals and takes the replies, as a script and a sink do in `Dialogue.hold`.  A
dialogue that is held over them is the session that reads line by line
(`Dialogue.hold_eq_serveFrom`, `serve_eq_hold`).
-/

import Calculator.Session

namespace Calculator

/-- What a script shows first.  After the last signal the input has ended. -/
def Signal.first : List Signal → Signal
  | [] => .endOfInput
  | signal :: _ => signal

/-! ### One signal of a line -/

namespace Intake

/-- **Takes one signal,** and gives what the reading of the line has come to, if that is over. -/
def hear (intake : Intake) : Signal → Option (Except TransportFailure (Option Line)) × Intake
  | .byte byte =>
    let (line, intake) := intake.take byte
    (line.map fun line => .ok (some line), intake)
  | .endOfInput => (some (.ok intake.close), start intake.limit intake.afterReturn)
  | .failure failure =>
    if failure.isTransient then
      (none, intake)
    else
      (some (.error failure), start intake.limit intake.afterReturn)

/-- **A line is read signal by signal.** -/
theorem read_eq_hear (intake : Intake) (signals : List Signal) :
    intake.read signals =
      match intake.hear (.first signals) with
      | (none, intake) => intake.read signals.tail
      | (some result, intake) => ⟨result, ⟨intake.limit, intake.afterReturn, signals.tail⟩⟩ := by
  cases signals with
  | nil => rfl
  | cons signal signals =>
    cases signal with
    | byte byte =>
      simp only [read, Signal.first, List.tail_cons, hear]
      cases intake.take byte with
      | mk line later => cases line <;> rfl
    | endOfInput => rfl
    | failure failure =>
      simp only [read, Signal.first, List.tail_cons, hear]
      split <;> rfl

theorem start_of_take {intake next : Intake} {byte : UInt8} {line : Line}
    (h : intake.take byte = (some line, next)) : start next.limit next.afterReturn = next := by
  unfold take at h
  split at h
  · cases h
  · split at h
    · cases h; rfl
    · split at h <;> cases h
      rfl

/-- **Behind a line is the start of the next.** -/
theorem start_of_hear {intake next : Intake} {signal : Signal}
    {result : Except TransportFailure (Option Line)}
    (h : intake.hear signal = (some result, next)) : start next.limit next.afterReturn = next := by
  cases signal with
  | byte byte =>
    obtain ⟨found, rfl⟩ := Prod.mk.inj h
    obtain ⟨line, taken, -⟩ := Option.map_eq_some_iff.1 found
    exact start_of_take (Prod.ext taken rfl)
  | endOfInput =>
    cases h
    rfl
  | failure failure =>
    rw [hear] at h
    split at h <;> cases h
    rfl

end Intake

/-! ### One signal of a session -/

/-- A session between two signals. -/
structure Dialogue where
  /-- How the session is held. -/
  settings : Settings
  /-- The line so far. -/
  intake : Intake
  /-- How many lines have been answered. -/
  answered : Nat

/-- What comes next in a dialogue. -/
inductive Turn
  /-- The next signal is wanted. -/
  | listens (next : Dialogue)
  /-- A reply is to be sent, and then the next signal is wanted. -/
  | replies (reply : String) (next : Dialogue)
  /-- The session has ended. -/
  | ends (result : Except SessionError Nat)

namespace Dialogue

/-- A dialogue before its first signal.  A limit of zero is refused. -/
def start (settings : Settings) : Run (Except SessionError Dialogue) :=
  match checkLimit settings.limit with
  | .error error => pure (.error error)
  | .ok () => do
    Run.report (.serving settings.limit settings.newline)
    pure (.ok ⟨settings, .start settings.limit false, 0⟩)

/-- The turn after the reading of a line is over, where `intake` is the start of the next line. -/
def settle (dialogue : Dialogue) (intake : Intake) :
    Except TransportFailure (Option Line) → Run Turn
  | .error failure => pure (.ends (.error (.transport failure)))
  | .ok none => do
    Run.report (.inputClosed dialogue.answered)
    pure (.ends (.ok dialogue.answered))
  | .ok (some line) => do
    let reply ← respond dialogue.settings.limit line
    pure (.replies reply ⟨dialogue.settings, intake, dialogue.answered + 1⟩)

/-- **Takes one signal.** -/
def hear (dialogue : Dialogue) (signal : Signal) : Run Turn :=
  match dialogue.intake.hear signal with
  | (none, intake) => pure (.listens { dialogue with intake })
  | (some result, intake) => dialogue.settle intake result

/-! ### Dialogues over a script -/

/-- A bound on how often a dialogue over a script is still held and a turn still followed.  Where a
line has been begun, the end of the input may end it, and is then heard once more. -/
def outlook (dialogue : Dialogue) (signals : List Signal) : Nat :=
  4 * signals.length + 2 * (!dialogue.intake.draft.isEmpty).toNat + 1

end Dialogue

/-- The same bound after a turn. -/
def Turn.outlook (signals : List Signal) : Turn → Nat
  | listens next | replies _ next => next.outlook signals + 1
  | ends _ => 0

namespace Dialogue

theorem outlook_lt_of_cons (dialogue next : Dialogue) (signal : Signal) (signals : List Signal) :
    next.outlook signals + 1 < dialogue.outlook (signal :: signals) := by
  have := (!next.intake.draft.isEmpty).toNat_le
  simp only [outlook, List.length_cons]
  omega

/-- **The outlook shortens with every signal.** -/
theorem outlook_hear_lt (dialogue : Dialogue) (signals : List Signal) :
    (dialogue.hear (.first signals)).result.outlook signals.tail < dialogue.outlook signals := by
  cases signals with
  | nil =>
    show Turn.outlook [] (dialogue.settle _ (.ok dialogue.intake.close)).result < _
    rw [Intake.close]
    split
    · exact Nat.succ_pos _
    · next begun =>
      simp only [outlook, begun]
      exact Nat.lt_succ_self _
  | cons signal signals =>
    generalize (dialogue.hear (.first (signal :: signals))).result = turn
    cases turn with
    | listens next | replies reply next => exact outlook_lt_of_cons ..
    | ends result => exact Nat.succ_pos _

end Dialogue

mutual

/-- **Holds a dialogue** over a script and an output stream. -/
def Dialogue.hold (dialogue : Dialogue) (signals : List Signal) (sink : Sink) : Run Served :=
  let turn := dialogue.hear (.first signals)
  have := dialogue.outlook_hear_lt signals
  do
    let _ ← turn
    turn.result.follow dialogue.settings.newline signals.tail sink
termination_by dialogue.outlook signals

/-- Follows a turn over the rest of a script. -/
def Turn.follow (turn : Turn) (newline : Newline) (signals : List Signal) (sink : Sink) :
    Run Served :=
  match turn with
  | .listens next => next.hold signals sink
  | .replies reply next =>
    let sent := sink.send newline reply
    match sent.result with
    | .error failure => pure ⟨.error (.transport failure), signals, sent.sink⟩
    | .ok () => next.hold signals sent.sink
  | .ends result => pure ⟨result, signals, sink⟩
termination_by turn.outlook signals
decreasing_by all_goals exact Nat.lt_succ_self _

end

namespace Dialogue

theorem hold_eq_hear (dialogue : Dialogue) (signals : List Signal) (sink : Sink) :
    dialogue.hold signals sink =
      dialogue.hear (.first signals) >>= fun turn =>
        turn.follow dialogue.settings.newline signals.tail sink := by
  rw [hold]
  rfl

/-- **A dialogue takes the signals of a line** as reading the line does. -/
theorem hold_eq_read (dialogue : Dialogue) (signals : List Signal) (sink : Sink) :
    let reading := dialogue.intake.read signals
    let next : Intake := .start reading.receiver.limit reading.receiver.afterReturn
    dialogue.hold signals sink =
      dialogue.settle next reading.result >>= fun turn =>
        turn.follow dialogue.settings.newline reading.receiver.signals sink := by
  induction signals generalizing dialogue with
  | nil => exact hold_eq_hear ..
  | cons signal signals ih =>
    rw [hold_eq_hear, Intake.read_eq_hear, hear, Signal.first, List.tail_cons]
    cases heard : dialogue.intake.hear signal with
    | mk result intake =>
      cases result with
      | none =>
        simp only [pure_bind, Turn.follow]
        exact ih { dialogue with intake }
      | some result =>
        simp only [Intake.start_of_hear heard]

section Lines

variable (settings : Settings) (receiver : Receiver) (sink : Sink) (answered : Nat)

theorem hold_eq_next :
    let dialogue : Dialogue := ⟨settings, .start receiver.limit receiver.afterReturn, answered⟩
    let later := receiver.next.receiver
    dialogue.hold receiver.signals sink =
      dialogue.settle (.start later.limit later.afterReturn) receiver.next.result >>= fun turn =>
        turn.follow settings.newline later.signals sink :=
  hold_eq_read ..

/-- **Signal by signal is line by line.** -/
theorem hold_eq_serveFrom :
    hold ⟨settings, .start receiver.limit receiver.afterReturn, answered⟩ receiver.signals sink =
      serveFrom settings receiver sink answered := by
  fun_induction serveFrom settings receiver sink answered with
  | case1 receiver sink answered reading failure h | case2 receiver sink answered reading h =>
    rw [hold_eq_next, show receiver.next.result = _ from h]
    simp only [settle, bind_assoc, pure_bind, Turn.follow]
    rfl
  | case3 receiver sink answered reading line h shorter ih =>
    rw [hold_eq_next, show receiver.next.result = _ from h]
    simp only [settle, bind_assoc, pure_bind, Turn.follow, ← ih]
    rfl

end Lines

end Dialogue

/-- **A session is a dialogue** over its input. -/
theorem serve_eq_hold (settings : Settings) (signals : List Signal) (sink : Sink) :
    serve settings signals sink =
      Dialogue.start settings >>= fun
        | .error error => pure ⟨.error error, signals, sink⟩
        | .ok dialogue => dialogue.hold signals sink := by
  rw [serve, Receiver.ofSignals, Dialogue.start]
  cases checkLimit settings.limit with
  | error error => rfl
  | ok =>
    show (Run.report _ >>= fun _ => serveFrom settings ⟨settings.limit, false, signals⟩ sink 0) = _
    rw [← Dialogue.hold_eq_serveFrom]
    rfl

end Calculator
