/-
# Buffered input

A stream hands over its bytes in chunks of any size.  A reader looks at the
bytes at hand, asks for the next chunk when there are none, and takes what it
has read from their front; it reads lines by taking one byte after another.

| a chunk | what it shows, as signals |
| --- | --- |
| `bytes` | each of its bytes, or nothing if it is empty |
| `endOfInput` | that there is no more for now |
| `failure` | that reading fails |

`Buffer.next` takes a byte, and asks again when it was interrupted.  What it
gives depends on the signals alone (`Buffer.next_eq`), so the chunks may be cut
anywhere.
-/

import Calculator.Transport.Receiver

namespace Calculator

/-- What a stream hands over at a time. -/
inductive Chunk
  /-- Some bytes, or none. -/
  | bytes (bytes : List UInt8)
  /-- There is no more for now. -/
  | endOfInput
  /-- Reading fails. -/
  | failure (failure : TransportFailure)
deriving DecidableEq

/-- What a chunk shows, one signal after another. -/
def Chunk.signals : Chunk → List Signal
  | .bytes shown => Signal.ofBytes shown
  | .endOfInput => [.endOfInput]
  | .failure reason => [.failure reason]

/-- **What a stream shows,** whose chunks come one after another. -/
def Signal.ofChunks (chunks : List Chunk) : List Signal := chunks.flatMap Chunk.signals

/-- What is read next from a script: a byte, or nothing for now.  An interrupted attempt is made
again. -/
def Signal.next : List Signal → Except TransportFailure (Option UInt8) × List Signal
  | [] => (.ok none, [])
  | .byte value :: signals => (.ok (some value), signals)
  | .endOfInput :: signals => (.ok none, signals)
  | .failure reason :: signals =>
    if reason.isTransient then next signals else (.error reason, signals)

/-- A stream that is read through a buffer. -/
structure Buffer where
  /-- The bytes at hand. -/
  ready : List UInt8
  /-- What comes after them. -/
  chunks : List Chunk
deriving DecidableEq

namespace Buffer

/-- What the stream has yet to show. -/
def signals (buffer : Buffer) : List Signal :=
  Signal.ofBytes buffer.ready ++ Signal.ofChunks buffer.chunks

/-- Takes chunks up to the first that is not empty. -/
def refill : List Chunk → Except TransportFailure (List UInt8) × Buffer
  | [] => (.ok [], ⟨[], []⟩)
  | .bytes [] :: chunks => refill chunks
  | .bytes (byte :: bytes) :: chunks => (.ok (byte :: bytes), ⟨byte :: bytes, chunks⟩)
  | .endOfInput :: chunks => (.ok [], ⟨[], chunks⟩)
  | .failure failure :: chunks => (.error failure, ⟨[], chunks⟩)

/-- **Looks at the bytes at hand,** after asking for more if there are none.  Still no bytes mean
that there is no more for now. -/
def fill (buffer : Buffer) : Except TransportFailure (List UInt8) × Buffer :=
  match buffer.ready with
  | [] => refill buffer.chunks
  | byte :: bytes => (.ok (byte :: bytes), buffer)

/-- Takes some of the bytes at hand. -/
def consume (count : Nat) (buffer : Buffer) : Buffer :=
  { buffer with ready := buffer.ready.drop count }

theorem length_chunks_refill_lt {chunks : List Chunk} {failure : TransportFailure} {later : Buffer}
    (h : refill chunks = (.error failure, later)) : later.chunks.length < chunks.length := by
  induction chunks with
  | nil => cases h
  | cons chunk chunks ih =>
    match chunk with
    | .bytes [] => exact Nat.lt_succ_of_lt (ih h)
    | .bytes (_ :: _) | .endOfInput => cases h
    | .failure _ => cases h; exact Nat.lt_succ_self _

/-- **Every failure takes a chunk.** -/
theorem length_chunks_fill_lt {buffer later : Buffer} {failure : TransportFailure}
    (h : buffer.fill = (.error failure, later)) :
    later.chunks.length < buffer.chunks.length := by
  unfold fill at h
  split at h
  · exact length_chunks_refill_lt h
  · cases h

/-- **Takes the next byte.**  An interrupted attempt is made again. -/
def next (buffer : Buffer) : Except TransportFailure (Option UInt8) × Buffer :=
  match h : buffer.fill with
  | (.ok [], later) => (.ok none, later)
  | (.ok (byte :: _), later) => (.ok (some byte), later.consume 1)
  | (.error failure, later) =>
    have := length_chunks_fill_lt h
    if failure.isTransient then later.next else (.error failure, later)
termination_by buffer.chunks.length

/-- **What the stream shows next is at the front of the bytes at hand.** -/
theorem next_signals (buffer : Buffer) :
    Signal.next buffer.signals =
      match buffer.fill with
      | (.ok [], later) => (.ok none, later.signals)
      | (.ok (byte :: _), later) => (.ok (some byte), (later.consume 1).signals)
      | (.error failure, later) =>
        if failure.isTransient then Signal.next later.signals else (.error failure, later.signals) := by
  have refilled (chunks : List Chunk) :
      Signal.next (Signal.ofChunks chunks) =
        match refill chunks with
        | (.ok [], later) => (.ok none, later.signals)
        | (.ok (byte :: _), later) => (.ok (some byte), (later.consume 1).signals)
        | (.error failure, later) =>
          if failure.isTransient then Signal.next later.signals
          else (.error failure, later.signals) := by
    induction chunks with
    | nil => rfl
    | cons chunk chunks ih =>
      match chunk with
      | .bytes [] => exact ih
      | .bytes (_ :: _) | .endOfInput | .failure _ => rfl
  obtain ⟨ready, chunks⟩ := buffer
  cases ready with
  | nil => exact refilled chunks
  | cons byte bytes => rfl

/-- **Bytes come as the signals show them,** wherever the chunks were cut. -/
theorem next_eq (buffer : Buffer) :
    (buffer.next.1, buffer.next.2.signals) = Signal.next buffer.signals := by
  fun_induction next buffer with
  | case1 buffer later h => rw [next_signals, h]
  | case2 buffer byte bytes later h => rw [next_signals, h]
  | case3 buffer failure later h shorter transient ih =>
    rw [buffer.next_signals, h]
    exact ih.trans (if_pos transient).symm
  | case4 buffer failure later h shorter lasting =>
    rw [buffer.next_signals, h]
    exact (if_neg lasting).symm

end Buffer

/-- A byte that is read is gone from the script. -/
theorem Signal.length_next_lt {signals later : List Signal} {byte : UInt8}
    (h : next signals = (.ok (some byte), later)) : later.length < signals.length := by
  induction signals with
  | nil => cases h
  | cons signal signals ih =>
    match signal with
    | .byte _ => cases h; exact Nat.lt_succ_self _
    | .endOfInput => cases h
    | .failure reason =>
      rw [next] at h
      split at h
      · exact Nat.lt_succ_of_lt (ih h)
      · cases h

theorem Buffer.length_signals_next_lt {buffer later : Buffer} {byte : UInt8}
    (h : buffer.next = (.ok (some byte), later)) :
    later.signals.length < buffer.signals.length := by
  have shown := buffer.next_eq
  rw [h] at shown
  exact Signal.length_next_lt shown.symm

/-- A buffered stream that is read line by line. -/
structure BufferedReceiver where
  /-- How many bytes a line may keep. -/
  limit : Nat
  /-- Whether the last byte read was a carriage return. -/
  afterReturn : Bool
  /-- What the stream has yet to give. -/
  buffer : Buffer

/-- What reading a line through a buffer gave, and the stream after it. -/
structure BufferedReading where
  result : Except TransportFailure (Option Line)
  receiver : BufferedReceiver

/-- The stream without its buffer. -/
def BufferedReceiver.unbuffered (receiver : BufferedReceiver) : Receiver :=
  ⟨receiver.limit, receiver.afterReturn, receiver.buffer.signals⟩

/-- The same reading without the buffer. -/
def BufferedReading.unbuffered (reading : BufferedReading) : Reading :=
  ⟨reading.result, reading.receiver.unbuffered⟩

namespace Intake

/-- Reads up to the end of the line that has been begun, one byte after another. -/
def readBuffered (intake : Intake) (buffer : Buffer) : BufferedReading :=
  match h : buffer.next with
  | (.error failure, later) => ⟨.error failure, ⟨intake.limit, intake.afterReturn, later⟩⟩
  | (.ok none, later) => ⟨.ok intake.close, ⟨intake.limit, intake.afterReturn, later⟩⟩
  | (.ok (some byte), later) =>
    have := Buffer.length_signals_next_lt h
    match intake.take byte with
    | (none, intake) => intake.readBuffered later
    | (some line, intake) => ⟨.ok (some line), ⟨intake.limit, intake.afterReturn, later⟩⟩
termination_by buffer.signals.length

/-- **A line is read byte by byte.** -/
theorem read_eq (intake : Intake) (signals : List Signal) :
    intake.read signals =
      match Signal.next signals with
      | (.error failure, later) => ⟨.error failure, ⟨intake.limit, intake.afterReturn, later⟩⟩
      | (.ok none, later) => ⟨.ok intake.close, ⟨intake.limit, intake.afterReturn, later⟩⟩
      | (.ok (some byte), later) =>
        match intake.take byte with
        | (none, intake) => intake.read later
        | (some line, intake) => ⟨.ok (some line), ⟨intake.limit, intake.afterReturn, later⟩⟩ := by
  induction signals with
  | nil => rfl
  | cons signal signals ih =>
    match signal with
    | .byte _ | .endOfInput => rfl
    | .failure failure =>
      rw [read, Signal.next]
      by_cases transient : failure.isTransient = true
      · rw [if_pos transient, if_pos transient]
        exact ih
      · rw [if_neg transient, if_neg transient]

/-- **Reading through a buffer is reading what it shows.** -/
theorem unbuffered_readBuffered (intake : Intake) (buffer : Buffer) :
    (intake.readBuffered buffer).unbuffered = intake.read buffer.signals := by
  fun_induction readBuffered intake buffer with
  | case1 intake buffer failure later h | case2 intake buffer later h =>
    rw [read_eq, ← buffer.next_eq, h]
    rfl
  | case3 intake buffer byte later h shorter after taken ih =>
    rw [read_eq, ← buffer.next_eq, h]
    simp only [taken]
    exact ih
  | case4 intake buffer byte later h shorter line after taken =>
    rw [read_eq, ← buffer.next_eq, h]
    simp only [taken]
    rfl

end Intake

namespace BufferedReceiver

/-- A stream from its first chunk on.  A limit of zero is refused. -/
def ofChunks (limit : Nat) (chunks : List Chunk) : Except SessionError BufferedReceiver :=
  (checkLimit limit).map fun _ => ⟨limit, false, ⟨[], chunks⟩⟩

/-- **Reads the next line.** -/
def next (receiver : BufferedReceiver) : BufferedReading :=
  (Intake.start receiver.limit receiver.afterReturn).readBuffered receiver.buffer

/-- The stream after some readings. -/
def after (receiver : BufferedReceiver) : (count : Nat) → BufferedReceiver
  | 0 => receiver
  | count + 1 => receiver.next.receiver.after count

/-- **What is read does not depend on where the chunks were cut.** -/
theorem unbuffered_next (receiver : BufferedReceiver) :
    receiver.next.unbuffered = receiver.unbuffered.next :=
  Intake.unbuffered_readBuffered ..

theorem unbuffered_after (receiver : BufferedReceiver) (count : Nat) :
    (receiver.after count).unbuffered = receiver.unbuffered.after count := by
  induction count generalizing receiver with
  | zero => rfl
  | succ count ih =>
    have first : receiver.next.receiver.unbuffered = receiver.unbuffered.next.receiver :=
      congrArg Reading.receiver receiver.unbuffered_next
    rw [after, ih, first]
    rfl

theorem result_next_after (receiver : BufferedReceiver) (count : Nat) :
    (receiver.after count).next.result = (receiver.unbuffered.after count).next.result := by
  rw [← unbuffered_after, ← unbuffered_next]
  rfl

end BufferedReceiver
end Calculator
