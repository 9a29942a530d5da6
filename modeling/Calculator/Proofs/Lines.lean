/-
# What is read from a script

Reading line after line gives the closings of the segments that the script is
cut into.  The reader never sees a segment as a whole: between two bytes it
knows what it kept of the segment so far, how much room is left and whether
bytes were dropped (`Draft.ofSegment`), and whether the last byte was a
carriage return.  One reading takes the first closing and leaves the others
(`Intake.read_ofSegment`), whatever came before it; so many readings give the
closings in order (`Receiver.result_next_after`).

A reader that gets its bytes in chunks through a buffer reads the same
(`BufferedReceiver.result_next_after`), wherever the chunks are cut.
-/

import Calculator.Transport.Buffer
import Calculator.Transport.Segment

namespace Calculator

/-! ### The draft of a segment -/

namespace Draft

/-- What is known of a line after the bytes of a segment. -/
def ofSegment (limit : Nat) (segment : List UInt8) : Draft :=
  ⟨(segment.take limit).reverse, limit - segment.length, decide (limit < segment.length)⟩

theorem ofSegment_nil (limit : Nat) : ofSegment limit [] = blank limit := by
  simp [ofSegment, blank]

/-- **One more byte is one more byte of the segment,** whether it is kept or dropped. -/
theorem push_ofSegment (limit : Nat) (segment : List UInt8) (byte : UInt8) :
    (ofSegment limit segment).push byte = ofSegment limit (segment ++ [byte]) := by
  have longer : (segment ++ [byte]).length = segment.length + 1 := List.length_append
  by_cases fits : segment.length < limit
  · obtain ⟨room, hroom⟩ : ∃ room, limit - segment.length = room + 1 :=
      ⟨limit - segment.length - 1, by omega⟩
    have whole : segment.take limit = segment := List.take_of_length_le (by omega)
    have longerWhole : (segment ++ [byte]).take limit = segment ++ [byte] :=
      List.take_of_length_le (by omega)
    simp only [push, ofSegment, hroom, whole, longerWhole, Draft.mk.injEq, longer,
      decide_eq_decide]
    exact ⟨by simp, by omega, by omega⟩
  · have noRoom : limit - segment.length = 0 := by omega
    have dropped : (segment ++ [byte]).take limit = segment.take limit :=
      List.take_append_of_le_length (by omega)
    simp only [push, ofSegment, noRoom, dropped, Draft.mk.injEq, longer, true_and]
    exact ⟨by omega, (decide_eq_true (by omega)).symm⟩

/-- **The line of a draft is that of its segment.** -/
theorem line_ofSegment (limit : Nat) (segment : List UInt8) :
    (ofSegment limit segment).line = Segment.line limit segment := by
  rw [line, ofSegment, List.reverse_reverse]
  rfl

theorem isEmpty_ofSegment (limit : Nat) (segment : List UInt8) :
    (ofSegment limit segment).isEmpty = true ↔ segment = [] := by
  cases segment with
  | nil => simp [isEmpty, ofSegment]
  | cons byte segment => cases limit <;> simp [isEmpty, ofSegment]

end Draft

/-- The end of the input gives the line of a segment unless it has no bytes. -/
theorem Intake.close_ofSegment (limit : Nat) (segment : List UInt8) (afterReturn : Bool) :
    (Intake.mk limit (.ofSegment limit segment) afterReturn).close =
      Segment.atEnd limit segment := by
  rw [close, Segment.atEnd, Draft.line_ofSegment]
  simp only [Draft.isEmpty_ofSegment]

/-! ### One reading -/

namespace Intake

/-- **What one byte does,** behind a segment. -/
theorem take_ofSegment (limit : Nat) (segment : List UInt8) (afterReturn : Bool) (byte : UInt8) :
    (Intake.mk limit (.ofSegment limit segment) afterReturn).take byte =
      if afterReturn && byte == lineFeed then (none, ⟨limit, .ofSegment limit segment, false⟩)
      else if byte = carriageReturn ∨ byte = lineFeed then
        (some (Segment.line limit segment), ⟨limit, .ofSegment limit [], byte == carriageReturn⟩)
      else (none, ⟨limit, .ofSegment limit (segment ++ [byte]), false⟩) := by
  rw [take, Draft.push_ofSegment, Draft.line_ofSegment, Draft.ofSegment_nil]
  by_cases swallowed : (afterReturn && byte == lineFeed) = true
  · rw [if_pos swallowed, if_pos swallowed]
  · rw [if_neg swallowed, if_neg swallowed]
    by_cases isReturn : byte = carriageReturn
    · subst isReturn
      rfl
    · by_cases isFeed : byte = lineFeed
      · subst isFeed
        rfl
      · simp [isReturn, isFeed]

/-- **One reading takes one closing.**  Behind the bytes of a segment, a reading gives the next
closing of the script, or no line if there is none, and leaves the closings after it. -/
theorem read_ofSegment (limit : Nat) (segment : List UInt8) (afterReturn : Bool)
    (signals : List Signal) :
    let reading := (Intake.mk limit (.ofSegment limit segment) afterReturn).read signals
    let closings := Segment.closings limit segment (Segment.normalize afterReturn signals)
    reading.result = closings.head?.getD (.ok none) ∧
      reading.receiver.limit = limit ∧
      Segment.closings limit []
          (Segment.normalize reading.receiver.afterReturn reading.receiver.signals) =
        closings.tail := by
  -- The bytes that the script still has for this line move to the segment one by one.
  induction signals generalizing segment afterReturn with
  | nil =>
    refine ⟨?_, rfl, ?_⟩
    · rw [read, close_ofSegment, Segment.atEnd, Segment.normalize, Segment.closings]
      by_cases nothing : segment = [] <;> simp [nothing]
    · simp only [read, Segment.normalize, Segment.closings]
      by_cases nothing : segment = [] <;> simp [nothing]
  | cons signal signals ih =>
    cases signal with
    | endOfInput =>
      rw [read, Segment.normalize, Segment.closings, close_ofSegment]
      exact ⟨rfl, rfl, rfl⟩
    | failure failure =>
      rw [read, Segment.normalize]
      by_cases transient : failure.isTransient = true
      · rw [if_pos transient, if_pos transient]
        exact ih segment afterReturn
      · rw [if_neg transient, if_neg transient, Segment.closings]
        exact ⟨rfl, rfl, rfl⟩
    | byte byte =>
      rw [read, Segment.normalize, take_ofSegment]
      by_cases swallowed : (afterReturn && byte == lineFeed) = true
      · rw [if_pos swallowed, if_pos swallowed]
        exact ih segment false
      · rw [if_neg swallowed, if_neg swallowed, Segment.closings]
        by_cases ends : byte = carriageReturn ∨ byte = lineFeed
        · rw [if_pos ends, if_pos ends]
          exact ⟨rfl, rfl, rfl⟩
        · obtain ⟨notReturn, -⟩ := not_or.1 ends
          rw [if_neg ends, if_neg ends, beq_false_of_ne notReturn]
          exact ih (segment ++ [byte]) false

end Intake

/-! ### Many readings -/

namespace Receiver

/-- What is yet to be read: the closings of what the stream has yet to show. -/
def closings (receiver : Receiver) : List (Except TransportFailure (Option Line)) :=
  Segment.closings receiver.limit [] (Segment.normalize receiver.afterReturn receiver.signals)

theorem next_eq (receiver : Receiver) :
    receiver.next.result = receiver.closings.head?.getD (.ok none) ∧
      receiver.next.receiver.closings = receiver.closings.tail := by
  have start : Intake.start receiver.limit receiver.afterReturn =
      ⟨receiver.limit, .ofSegment receiver.limit [], receiver.afterReturn⟩ := by
    rw [Intake.start, Draft.ofSegment_nil]
  obtain ⟨result, limit, rest⟩ :=
    Intake.read_ofSegment receiver.limit [] receiver.afterReturn receiver.signals
  rw [← start] at result limit rest
  refine ⟨result, ?_⟩
  rw [closings, next, limit]
  exact rest

/-- **So many readings take so many closings.** -/
theorem closings_after (receiver : Receiver) (count : Nat) :
    (receiver.after count).closings = receiver.closings.drop count := by
  induction count generalizing receiver with
  | zero => rfl
  | succ count ih => rw [after, ih, receiver.next_eq.2, List.drop_tail]

/-- **Readings give the closings in order,** and then no line for ever. -/
theorem result_next_after (receiver : Receiver) (count : Nat) :
    (receiver.after count).next.result = receiver.closings[count]?.getD (.ok none) := by
  rw [(receiver.after count).next_eq.1, closings_after, List.head?_drop]

end Receiver

theorem checkLimit_of_ne_zero {limit : Nat} (h : limit ≠ 0) : checkLimit limit = .ok () := if_neg h

/-- **Lines are the segments of what came in.**  However a script is cut into chunks, and whether
it is read through a buffer or not, reading line after line gives the closings of its segments in
order, and then no line for ever. -/
theorem next_after_eq_reading (limit : Nat) (allowed : limit ≠ 0) (chunks : List Chunk) :
    ∃ (receiver : Receiver) (buffered : BufferedReceiver),
      Receiver.ofSignals limit (Signal.ofChunks chunks) = .ok receiver ∧
      BufferedReceiver.ofChunks limit chunks = .ok buffered ∧
      ∀ count,
        (receiver.after count).next.result =
            Segment.reading limit (Signal.ofChunks chunks) count ∧
          (buffered.after count).next.result =
            Segment.reading limit (Signal.ofChunks chunks) count := by
  refine ⟨⟨limit, false, Signal.ofChunks chunks⟩, ⟨limit, false, ⟨[], chunks⟩⟩, ?_, ?_, ?_⟩
  · rw [Receiver.ofSignals, checkLimit_of_ne_zero allowed]
    rfl
  · rw [BufferedReceiver.ofChunks, checkLimit_of_ne_zero allowed]
    rfl
  · intro count
    have plain := Receiver.result_next_after ⟨limit, false, Signal.ofChunks chunks⟩ count
    refine ⟨plain, ?_⟩
    rw [BufferedReceiver.result_next_after]
    exact plain

/-- A line ending that falls apart over chunks and a moment without input, a line that is cut, and
a failure that drops what came before it. -/
theorem next_after_eq_reading_split :
    let chunks : List Chunk := [.bytes [49, 43], .bytes [], .bytes [50, 13], .endOfInput,
      .failure ⟨.interrupted, "again"⟩, .bytes [10, 13, 55], .failure ⟨.timedOut, "late"⟩,
      .bytes [56]]
    2 ≠ 0 ∧ ∃ buffered : BufferedReceiver, BufferedReceiver.ofChunks 2 chunks = .ok buffered ∧
      (buffered.after 0).next.result = .ok (some ⟨"1+", true⟩) ∧
      (buffered.after 1).next.result = .ok none ∧
      (buffered.after 2).next.result = .ok (some ⟨"", false⟩) ∧
      (buffered.after 3).next.result = .error ⟨.timedOut, "late"⟩ ∧
      (buffered.after 4).next.result = .ok (some ⟨"8", false⟩) ∧
      (buffered.after 5).next.result = .ok none := by
  intro chunks
  obtain ⟨receiver, buffered, -, made, readings⟩ :=
    next_after_eq_reading 2 (by decide) chunks
  refine ⟨by decide, buffered, made, ?_⟩
  simp only [(readings _).2]
  exact ⟨rfl, rfl, rfl, rfl, rfl, rfl⟩

end Calculator
