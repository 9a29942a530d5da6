/-
# Delivery

What becomes of replies that are sent one after another, up to the first that
cannot be sent (`Sink.deliver`) or in spite of those that cannot
(`Sink.sendAll`).  Seen from outside, an output stream is a row of bytes that may
end somewhere:

| refusal | the stream ends | with |
| --- | --- | --- |
| `fails` | after its room | a broken pipe |
| `takesNothing` | after its room | nothing written |
| `interrupts` | nowhere | |

`Sink.stop?` is that end, `Sink.Fits` says that so many bytes lie before it,
and `Sink.within` are the bytes that do.
-/

import Calculator.Transport.Frame
import Calculator.Transport.Sink

namespace Calculator

/-- What a write meets that a stream refuses for good. -/
def Refusal.failure? : Refusal → Option TransportFailure
  | fails => some closed
  | takesNothing => some wroteNothing
  | interrupts => none

namespace Sink

/-- **Where a stream ends:** how many more bytes it takes, and what a write after them meets.  A
stream that only interrupts does not end. -/
def stop? (sink : Sink) : Option (Nat × TransportFailure) :=
  sink.capacity.bind fun capacity => capacity.refusal.failure?.map (capacity.room, ·)

/-- So many bytes lie before the end of a stream. -/
def Fits (sink : Sink) (size : Nat) : Prop := ∀ stop ∈ sink.stop?, size ≤ stop.1

/-- Those of some bytes that lie before the end of a stream. -/
def within (sink : Sink) (bytes : List UInt8) : List UInt8 :=
  match sink.stop? with
  | none => bytes
  | some (room, _) => bytes.take room

/-- **Sends replies one after another** until one cannot be sent.  Gives the number of those that
were, and how it ended. -/
def deliver (newline : Newline) : List String → Sink → Nat × Sent
  | [], sink => (0, ⟨.ok (), sink⟩)
  | reply :: replies, sink =>
    let sent := sink.send newline reply
    match sent.result with
    | .error _ => (0, sent)
    | .ok () =>
      let (count, sent) := deliver newline replies sent.sink
      (count + 1, sent)

/-- **Sends replies one after another,** whatever becomes of each, and gives the stream after
them. -/
def sendAll (newline : Newline) (sink : Sink) (replies : List String) : Sink :=
  replies.foldl (fun sink reply => (sink.send newline reply).sink) sink

/-- The stream takes the whole frame of a reply that is sent. -/
def TakesWhole (newline : Newline) (sink : Sink) (reply : String) : Prop :=
  (sink.send newline reply).sink.output = sink.output ++ frame newline reply

instance (newline : Newline) (sink : Sink) (reply : String) :
    Decidable (sink.TakesWhole newline reply) :=
  inferInstanceAs (Decidable (_ = _))

end Sink
end Calculator
