/-
# Sending replies

An output stream may take fewer bytes than it is given, may be interrupted and
may fail.  `Sink` is a stream that takes bytes up to a limit and then refuses
in one of three ways:

| refusal | what a write at the limit meets |
| --- | --- |
| `fails` | a broken pipe |
| `takesNothing` | success, with no byte taken |
| `interrupts` | an interruption, once; after it there is no limit |

One flush of it may fail too.  A reply goes out as its text, the line ending
and the line ending again, and is then flushed.
-/

import Calculator.Newline
import Calculator.Transport.Failure
import Calculator.Utf8

namespace Calculator

/-- What a stream does with a write when it has taken all it can. -/
inductive Refusal
  | fails
  | takesNothing
  | interrupts
deriving DecidableEq

/-- The end of what a stream takes. -/
structure Capacity where
  /-- How many more bytes are taken. -/
  room : Nat
  /-- What comes after them. -/
  refusal : Refusal
deriving DecidableEq

/-- An output stream. -/
structure Sink where
  /-- The bytes taken so far. -/
  taken : Array UInt8
  /-- How often the stream was flushed. -/
  flushes : Nat
  /-- The end of what it takes, if there is one. -/
  capacity : Option Capacity
  /-- The number of the flush that fails, if there is one; the first is number one. -/
  failingFlush : Option Nat
deriving DecidableEq

/-- How an attempt to send ended, and the stream after it. -/
structure Sent where
  result : Except TransportFailure Unit
  sink : Sink

/-- Goes on with the stream if the attempt succeeded. -/
def Sent.andThen (sent : Sent) (next : Sink → Sent) : Sent :=
  match sent.result with
  | .ok () => next sent.sink
  | .error _ => sent

/-- The stream takes no more. -/
def closed : TransportFailure := ⟨.brokenPipe, "closed"⟩

/-- The stream was interrupted. -/
def interruption : TransportFailure := ⟨.interrupted, "interrupted"⟩

/-- The stream takes nothing of what is left to write. -/
def wroteNothing : TransportFailure := ⟨.writeZero, "failed to write whole buffer"⟩

/-- The stream could not be flushed. -/
def flushFailed : TransportFailure := ⟨.other, "flush failed"⟩

namespace Sink

/-- A stream that takes everything. -/
def unlimited : Sink := ⟨#[], 0, none, none⟩

/-- The bytes taken so far. -/
def output (sink : Sink) : List UInt8 := sink.taken.toList

/-- The stream after it took some bytes, which are not counted against its capacity here. -/
def append (sink : Sink) (bytes : List UInt8) : Sink := { sink with taken := sink.taken ++ bytes }

@[simp] theorem output_append (sink : Sink) (bytes : List UInt8) :
    (sink.append bytes).output = sink.output ++ bytes := by
  simp [append, output]

/-- Whether the stream will interrupt a write. -/
def willInterrupt (sink : Sink) : Bool := sink.capacity.any (·.refusal == .interrupts)

/-- **One write:** how many bytes from the front were taken. -/
def write (sink : Sink) (bytes : List UInt8) : Except TransportFailure Nat × Sink :=
  match sink.capacity with
  | none => (.ok bytes.length, sink.append bytes)
  | some ⟨room, refusal⟩ =>
    if room = 0 ∧ bytes ≠ [] then
      match refusal with
      | .fails => (.error closed, sink)
      | .takesNothing => (.ok 0, sink)
      | .interrupts => (.error interruption, { sink with capacity := none })
    else
      (.ok (min room bytes.length),
        { sink.append (bytes.take room) with
          capacity := some ⟨room - bytes.length, refusal⟩ })

/-- A number that falls with every write that does not fail. -/
def effort (sink : Sink) (bytes : List UInt8) : Nat :=
  2 * bytes.length + sink.willInterrupt.toNat

/-- **A stream interrupts at most one write.** -/
theorem effort_lt_of_interruption {sink after : Sink} {bytes : List UInt8}
    {failure : TransportFailure} (h : sink.write bytes = (.error failure, after))
    (transient : failure.isTransient = true) : after.effort bytes < sink.effort bytes := by
  unfold write at h
  split at h
  · cases h
  · rename_i room refusal capacity
    split at h
    · cases refusal with
      | fails => cases h; exact absurd transient (by decide)
      | takesNothing => cases h
      | interrupts => cases h; simp [effort, willInterrupt, capacity]
    · cases h

theorem effort_drop_lt (sink after : Sink) {bytes : List UInt8} (h : bytes ≠ []) (count : Nat) :
    after.effort (bytes.drop (count + 1)) < sink.effort bytes := by
  have := List.length_pos_iff.2 h
  have := after.willInterrupt.toNat_le
  simp only [effort, List.length_drop]
  omega

/-- **Writes all bytes.**  What was not taken is written again, and so is everything after an
interruption; a stream that takes nothing has failed. -/
def writeAll (sink : Sink) (bytes : List UInt8) : Sent :=
  if more : bytes ≠ [] then
    match h : sink.write bytes with
    | (.ok 0, after) => ⟨.error wroteNothing, after⟩
    | (.ok (count + 1), after) =>
      have := effort_drop_lt sink after more count
      after.writeAll (bytes.drop (count + 1))
    | (.error failure, after) =>
      if transient : failure.isTransient = true then
        have := effort_lt_of_interruption h transient
        after.writeAll bytes
      else
        ⟨.error failure, after⟩
  else
    ⟨.ok (), sink⟩
termination_by sink.effort bytes

/-- Flushes the stream. -/
def flush (sink : Sink) : Sent :=
  let number := sink.flushes + 1
  ⟨if sink.failingFlush = some number then .error flushFailed else .ok (),
    { sink with flushes := number }⟩

/-- **Sends a reply:** its text, an empty line after it, and a flush. -/
def send (newline : Newline) (reply : String) (sink : Sink) : Sent :=
  let ending := Utf8.encode newline.text.toList
  (sink.writeAll (Utf8.encode reply.toList)).andThen fun sink =>
    (sink.writeAll ending).andThen fun sink =>
      (sink.writeAll ending).andThen flush

end Sink
end Calculator
