/-
# Receiving lines

Bytes come in one after another and are collected into lines.  A line ends at
a carriage return or at a line feed, and a line feed right after a carriage
return belongs to the same line ending, however much time passes between the
two.  A line keeps as many bytes as the limit allows; the others are dropped,
and the line is cut.

`Intake` is the state between two bytes.  `Receiver` runs it over a script of
signals: bytes, moments at which the input seems to have ended, and failures.
-/

import Calculator.Line
import Calculator.Transport.SessionError

namespace Calculator

/-- The byte of a line feed. -/
def lineFeed : UInt8 := 10

/-- The byte of a carriage return. -/
def carriageReturn : UInt8 := 13

/-- A line of which the end has not come yet. -/
structure Draft where
  /-- The bytes kept so far, the last one first. -/
  kept : List UInt8
  /-- How many more bytes may be kept. -/
  room : Nat
  /-- Whether bytes were dropped. -/
  cut : Bool
deriving DecidableEq

namespace Draft

/-- A line that has no bytes yet. -/
def blank (limit : Nat) : Draft := ⟨[], limit, false⟩

/-- The line with one more byte, which is dropped if there is no room. -/
def push (draft : Draft) (byte : UInt8) : Draft :=
  match draft.room with
  | 0 => { draft with cut := true }
  | room + 1 => { draft with kept := byte :: draft.kept, room := room }

/-- Whether no byte has come yet. -/
def isEmpty (draft : Draft) : Bool := draft.kept.isEmpty && !draft.cut

/-- The finished line. -/
def line (draft : Draft) : Line :=
  ⟨String.ofList (Utf8.decode draft.kept.reverse), draft.cut⟩

end Draft

/-- What is known between two bytes of the input. -/
structure Intake where
  /-- How many bytes a line may keep. -/
  limit : Nat
  /-- The line so far. -/
  draft : Draft
  /-- Whether the last byte was a carriage return. -/
  afterReturn : Bool
deriving DecidableEq

namespace Intake

/-- The state at the start of a line. -/
def start (limit : Nat) (afterReturn : Bool) : Intake := ⟨limit, .blank limit, afterReturn⟩

/-- **Takes one byte,** and gives the line that it ends, if it ends one. -/
def take (intake : Intake) (byte : UInt8) : Option Line × Intake :=
  if intake.afterReturn && byte == lineFeed then
    (none, { intake with afterReturn := false })
  else if byte == carriageReturn then
    (some intake.draft.line, start intake.limit true)
  else if byte == lineFeed then
    (some intake.draft.line, start intake.limit false)
  else
    (none, { intake with draft := intake.draft.push byte, afterReturn := false })

/-- The line that the end of the input ends: none if nothing came since the last one. -/
def close (intake : Intake) : Option Line :=
  if intake.draft.isEmpty then none else some intake.draft.line

end Intake

/-- What an input stream shows next. -/
inductive Signal
  /-- One byte. -/
  | byte (value : UInt8)
  /-- There is no more for now. -/
  | endOfInput
  /-- Reading fails. -/
  | failure (failure : TransportFailure)
deriving DecidableEq

/-- The signals that show some bytes. -/
def Signal.ofBytes (bytes : List UInt8) : List Signal := bytes.map .byte

/-- An input stream that is read line by line.  After its last signal there is no more for ever. -/
structure Receiver where
  /-- How many bytes a line may keep. -/
  limit : Nat
  /-- Whether the last byte read was a carriage return. -/
  afterReturn : Bool
  /-- What the stream has yet to show. -/
  signals : List Signal
deriving DecidableEq

/-- What reading a line gave: the line, the end of the input or a failure, and the stream after
it. -/
structure Reading where
  result : Except TransportFailure (Option Line)
  receiver : Receiver

namespace Intake

/-- Reads up to the end of the line that has been begun.  An interrupted attempt is made again,
any other failure drops what was kept of the line. -/
def read (intake : Intake) : List Signal → Reading
  | [] => ⟨.ok intake.close, ⟨intake.limit, intake.afterReturn, []⟩⟩
  | .endOfInput :: signals =>
    ⟨.ok intake.close, ⟨intake.limit, intake.afterReturn, signals⟩⟩
  | .failure failure :: signals =>
    if failure.isTransient then
      intake.read signals
    else
      ⟨.error failure, ⟨intake.limit, intake.afterReturn, signals⟩⟩
  | .byte byte :: signals =>
    match intake.take byte with
    | (none, intake) => intake.read signals
    | (some line, intake) =>
      ⟨.ok (some line), ⟨intake.limit, intake.afterReturn, signals⟩⟩

theorem length_signals_read (intake : Intake) (signals : List Signal) :
    (intake.read signals).receiver.signals.length ≤ signals.length := by
  fun_induction read <;> simp_all <;> omega

/-- **A line takes at least one signal,** unless part of it was there before. -/
theorem length_signals_read_lt {intake : Intake} {signals : List Signal} {line : Line}
    (start : intake.draft.isEmpty = true)
    (h : (intake.read signals).result = .ok (some line)) :
    (intake.read signals).receiver.signals.length < signals.length := by
  cases signals with
  | nil => simp [read, close, start] at h
  | cons signal signals =>
    have later (intake : Intake) := intake.length_signals_read signals
    cases signal with
    | endOfInput => simp [read]
    | failure failure =>
      simp only [read, List.length_cons]
      split
      · exact Nat.lt_succ_of_le (later _)
      · exact Nat.lt_succ_self _
    | byte byte =>
      simp only [read, List.length_cons]
      split
      · exact Nat.lt_succ_of_le (later _)
      · exact Nat.lt_succ_self _

end Intake

namespace Receiver

/-- A stream from its first signal on.  A limit of zero is refused. -/
def ofSignals (limit : Nat) (signals : List Signal) : Except SessionError Receiver :=
  (checkLimit limit).map fun _ => ⟨limit, false, signals⟩

/-- **Reads the next line.** -/
def next (receiver : Receiver) : Reading :=
  (Intake.start receiver.limit receiver.afterReturn).read receiver.signals

/-- The stream after some readings. -/
def after (receiver : Receiver) : (count : Nat) → Receiver
  | 0 => receiver
  | count + 1 => receiver.next.receiver.after count

theorem length_signals_next_lt {receiver : Receiver} {line : Line}
    (h : receiver.next.result = .ok (some line)) :
    receiver.next.receiver.signals.length < receiver.signals.length :=
  Intake.length_signals_read_lt rfl h

end Receiver
end Calculator
