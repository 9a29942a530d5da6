/-
# Sessions

Lines come in, each is calculated, and its reply goes out before the next line
is read.  A faulty line never ends a session; only the transport does, by
ending or by failing.  A session must allow lines of at least one byte.
-/

import Calculator.Calculation
import Calculator.Reply
import Calculator.Transport.Receiver
import Calculator.Transport.Sink

namespace Calculator

/-- How a session is held. -/
structure Settings where
  /-- How many bytes a line may have. -/
  limit : Nat
  /-- How reply lines end. -/
  newline : Newline
deriving DecidableEq

/-- The settings where nothing else is asked for: room for a line ending in a buffer of 256
bytes. -/
def Settings.standard : Settings := ⟨255, .lf⟩

/-- **The answer to a received line.**  What is left of a cut line is calculated as well, but its
most severe fault is its length. -/
def respond (limit : Nat) (line : Line) : Run String := do
  let outcome ← calculate line.text
  if line.cut then do
    Run.report (.lineCut limit)
    pure (reply limit (outcome.record .lineTooLong))
  else
    pure (reply limit outcome)

/-- How a single answer ended, and the output after it. -/
structure Answered where
  result : Except SessionError Unit
  sink : Sink

/-- **Answers one expression given as a whole.**  It is exactly one line, whatever it contains. -/
def answerSingle (settings : Settings) (expression : String) (sink : Sink) : Run Answered :=
  match checkLimit settings.limit with
  | .error error => pure ⟨.error error, sink⟩
  | .ok () => do
    let reply ← respond settings.limit (.fitted settings.limit expression)
    let sent := sink.send settings.newline reply
    pure ⟨sent.result.mapError .transport, sent.sink⟩

/-- How a session ended: the number of answers or an error, what was not read, and the output. -/
structure Served where
  result : Except SessionError Nat
  unread : List Signal
  sink : Sink

/-- The end of a session without the number of its answers. -/
def Served.toAnswered (served : Served) : Answered := ⟨served.result.map fun _ => (), served.sink⟩

/-- Answers line after line, after `answered` others. -/
def serveFrom (settings : Settings) (receiver : Receiver) (sink : Sink) (answered : Nat) :
    Run Served :=
  let reading := receiver.next
  match h : reading.result with
  | .error failure => pure ⟨.error (.transport failure), reading.receiver.signals, sink⟩
  | .ok none => do
    Run.report (.inputClosed answered)
    pure ⟨.ok answered, reading.receiver.signals, sink⟩
  | .ok (some line) =>
    have := Receiver.length_signals_next_lt h
    do
      let reply ← respond settings.limit line
      let sent := sink.send settings.newline reply
      match sent.result with
      | .error failure => pure ⟨.error (.transport failure), reading.receiver.signals, sent.sink⟩
      | .ok () => serveFrom settings reading.receiver sent.sink (answered + 1)
termination_by receiver.signals.length

/-- **Answers every line of an input** until it ends. -/
def serve (settings : Settings) (signals : List Signal) (sink : Sink) : Run Served :=
  match Receiver.ofSignals settings.limit signals with
  | .error error => pure ⟨.error error, signals, sink⟩
  | .ok receiver => do
    Run.report (.serving settings.limit settings.newline)
    serveFrom settings receiver sink 0

end Calculator
