/-
# Sessions with faults on both sides

A session reads and sends by turns, but reading does not depend on what is
sent.  So the session is what delivery makes of the replies to all lines that
come in before the input first gives none (`result_serveFrom`): it ends with
the delivery if that fails, and with the input otherwise.
-/

import Calculator.Proofs.Lines
import Calculator.Proofs.Sending
import Calculator.Session

namespace Calculator

/-! ### What comes in -/

namespace Segment

variable {closings : List (Except TransportFailure (Option Line))}

/-- **The lines are the closings in front** that give one. -/
theorem getElem?_closings {i : Nat} (h : i < (lines closings).length) :
    closings[i]? = some (.ok (some (lines closings)[i])) := by
  fun_induction lines closings generalizing i with
  | case1 line closings ih =>
    cases i with
    | zero => rfl
    | succ i => exact ih (Nat.lt_of_succ_lt_succ h)
  | case2 closings other => exact absurd h (Nat.not_lt_zero i)

/-- **What comes behind them gives none.** -/
theorem getD_closings_length_lines :
    closings[(lines closings).length]?.getD (.ok none) = (ending closings).map fun _ => none := by
  fun_induction lines closings with
  | case1 line closings ih => exact ih
  | case2 closings other =>
    match closings, other with
    | [], _ | .ok none :: _, _ | .error _ :: _, _ => rfl
    | .ok (some line) :: closings, other => exact (other line closings rfl).elim

end Segment

namespace Receiver

/-- The lines that come in before a reading first gives none. -/
def lines (receiver : Receiver) : List Line := Segment.lines receiver.closings

/-- How that reading ends the input. -/
def ending (receiver : Receiver) : Except TransportFailure Unit := Segment.ending receiver.closings

/-- **The lines are read one after another,** and then comes what ends the input. -/
theorem next_after_lines (receiver : Receiver) :
    (∀ (i : Nat) (h : i < receiver.lines.length),
        (receiver.after i).next.result = .ok (some receiver.lines[i])) ∧
      (receiver.after receiver.lines.length).next.result =
        receiver.ending.map fun _ => none := by
  constructor
  · intro i h
    rw [result_next_after, Segment.getElem?_closings h]
    rfl
  · rw [result_next_after, lines, Segment.getD_closings_length_lines]
    rfl

variable {receiver : Receiver}

/-- A reading that gives a line or a failure takes a closing. -/
theorem closings_of_next {result : Except TransportFailure (Option Line)}
    (h : receiver.next.result = result) (other : result ≠ .ok none) :
    receiver.closings = result :: receiver.next.receiver.closings := by
  obtain ⟨first, rest⟩ := receiver.next_eq
  rw [rest]
  cases found : receiver.closings with
  | nil =>
    rw [found] at first
    exact absurd (h.symm.trans first) other
  | cons closing closings =>
    rw [found] at first
    obtain rfl : closing = result := first.symm.trans h
    rfl

theorem lines_of_line {line : Line} (h : receiver.next.result = .ok (some line)) :
    receiver.lines = line :: receiver.next.receiver.lines ∧
      receiver.ending = receiver.next.receiver.ending := by
  rw [lines, ending, closings_of_next h (by simp)]
  exact ⟨rfl, rfl⟩

theorem lines_of_failure {failure : TransportFailure}
    (h : receiver.next.result = .error failure) :
    receiver.lines = [] ∧ receiver.ending = .error failure := by
  rw [lines, ending, closings_of_next h (by simp)]
  exact ⟨rfl, rfl⟩

theorem lines_of_none (h : receiver.next.result = .ok none) :
    receiver.lines = [] ∧ receiver.ending = .ok () := by
  obtain ⟨first, -⟩ := receiver.next_eq
  rw [lines, ending]
  cases found : receiver.closings with
  | nil => exact ⟨rfl, rfl⟩
  | cons closing closings =>
    rw [found] at first
    obtain rfl : closing = .ok none := first.symm.trans h
    exact ⟨rfl, rfl⟩

end Receiver

/-! ### The session -/

/-- **A session is the delivery of the replies to its lines.**  If delivery fails, that ends the
session, and nothing was read after the line that it failed at; otherwise the input does. -/
theorem result_serveFrom (settings : Settings) (receiver : Receiver) (sink : Sink)
    (answered : Nat) :
    (serveFrom settings receiver sink answered).result =
      let replies := receiver.lines.map fun line => (respond settings.limit line).result
      let (count, sent) := sink.deliver settings.newline replies
      ⟨match sent.result with
        | .error failure => .error (.transport failure)
        | .ok () => (receiver.ending.mapError .transport).map fun _ => answered + count,
        (receiver.after (count + 1)).signals, sent.sink⟩ := by
  fun_induction serveFrom with
  | case1 receiver sink answered reading failure h =>
    obtain ⟨lines, ending⟩ := Receiver.lines_of_failure h
    rw [lines, ending]
    rfl
  | case2 receiver sink answered reading h =>
    obtain ⟨lines, ending⟩ := Receiver.lines_of_none h
    rw [lines, ending]
    rfl
  | case3 receiver sink answered reading line h shorter ih =>
    obtain ⟨lines, ending⟩ := Receiver.lines_of_line h
    have later := ih (respond settings.limit line).result
    rw [lines, ending, List.map_cons, Run.result_bind]
    obtain ⟨sent, after, delivered⟩ : ∃ result after,
        sink.send settings.newline (respond settings.limit line).result = ⟨result, after⟩ :=
      ⟨_, _, rfl⟩
    cases sent with
    | error failure =>
      simp only [Sink.deliver_cons_of_error delivered, delivered]
      rfl
    | ok done =>
      simp only [Sink.deliver_cons_of_ok delivered, delivered] at later ⊢
      rw [later]
      simp only [Nat.add_assoc, Nat.add_comm 1]
      rfl

/-- The stream of a session, before anything is read. -/
def Receiver.fresh (settings : Settings) (signals : List Signal) : Receiver :=
  ⟨settings.limit, false, signals⟩

/-- The replies that are due for the lines of a session. -/
def repliesDue (settings : Settings) (signals : List Signal) : List String :=
  (Receiver.fresh settings signals).lines.map fun line => (respond settings.limit line).result

/-- The frames of these replies. -/
def framesDue (settings : Settings) (signals : List Signal) : List (List UInt8) :=
  (repliesDue settings signals).map (frame settings.newline)

section Serve

variable {settings : Settings} {signals : List Signal}

theorem ofSignals_of_ne_zero (allowed : settings.limit ≠ 0) (signals : List Signal) :
    Receiver.ofSignals settings.limit signals = .ok (.fresh settings signals) := by
  rw [Receiver.ofSignals, checkLimit_of_ne_zero allowed]
  rfl

theorem result_serve {sink : Sink} (allowed : settings.limit ≠ 0) :
    (serve settings signals sink).result =
      let (count, sent) := sink.deliver settings.newline (repliesDue settings signals)
      ⟨match sent.result with
        | .error failure => .error (.transport failure)
        | .ok () =>
          ((Receiver.fresh settings signals).ending.mapError .transport).map fun _ => count,
        ((Receiver.fresh settings signals).after (count + 1)).signals, sent.sink⟩ := by
  have held := result_serveFrom settings (.fresh settings signals) sink 0
  simp only [Nat.zero_add] at held
  rw [serve, ofSignals_of_ne_zero allowed]
  exact held

/-- **A session ends with the first frame that does not fit.** -/
theorem serve_of_short (sink : Sink) (allowed : settings.limit ≠ 0) {room : Nat}
    {failure : TransportFailure} (stop : sink.stop? = some (room, failure)) {j : Nat}
    (hj : j < (framesDue settings signals).length)
    (fits : ((framesDue settings signals).take j).flatten.length ≤ room)
    (short : room < ((framesDue settings signals).take (j + 1)).flatten.length)
    (flushed : ∀ k < j, sink.failingFlush ≠ some (sink.flushes + k + 1)) :
    let served := (serve settings signals sink).result
    served.result = .error (.transport failure) ∧
      served.sink.output = sink.output ++ (((framesDue settings signals).take j).flatten ++
        (framesDue settings signals)[j].take
          (room - ((framesDue settings signals).take j).flatten.length)) ∧
      served.sink.flushes = sink.flushes + j ∧
      served.unread = ((Receiver.fresh settings signals).after (j + 1)).signals := by
  have hj' : j < (repliesDue settings signals).length := by simpa [framesDue] using hj
  obtain ⟨after, delivered, output, flushes⟩ :=
    Sink.exists_deliver_of_short stop hj' fits flushed short
  rw [result_serve allowed, delivered]
  refine ⟨rfl, ?_, flushes, rfl⟩
  simp only [framesDue, List.getElem_map]
  exact output

/-- **A session ends with the first flush that fails.** -/
theorem serve_of_unflushed (sink : Sink) (allowed : settings.limit ≠ 0) {j : Nat}
    (hj : j < (framesDue settings signals).length)
    (fits : sink.Fits ((framesDue settings signals).take (j + 1)).flatten.length)
    (unflushed : sink.failingFlush = some (sink.flushes + j + 1)) :
    let served := (serve settings signals sink).result
    served.result = .error (.transport flushFailed) ∧
      served.sink.output = sink.output ++ ((framesDue settings signals).take (j + 1)).flatten ∧
      served.sink.flushes = sink.flushes + (j + 1) ∧
      served.unread = ((Receiver.fresh settings signals).after (j + 1)).signals := by
  have hj' : j < (repliesDue settings signals).length := by simpa [framesDue] using hj
  have flushed : ∀ k < j, sink.failingFlush ≠ some (sink.flushes + k + 1) := by
    intro k hk h
    have same := Option.some.inj (unflushed.symm.trans h)
    omega
  obtain ⟨after, delivered, output, flushes⟩ :=
    Sink.exists_deliver_of_unflushed hj' fits flushed unflushed
  rw [result_serve allowed, delivered]
  exact ⟨rfl, output, flushes, rfl⟩

/-- **A session whose replies all go out ends with its input.** -/
theorem serve_of_fits (sink : Sink) (allowed : settings.limit ≠ 0)
    (fits : sink.Fits (framesDue settings signals).flatten.length)
    (flushed : ∀ k < (framesDue settings signals).length,
      sink.failingFlush ≠ some (sink.flushes + k + 1)) :
    let served := (serve settings signals sink).result
    served.result = ((Receiver.fresh settings signals).ending.mapError .transport).map
        (fun _ => (framesDue settings signals).length) ∧
      served.sink.output = sink.output ++ (framesDue settings signals).flatten ∧
      served.sink.flushes = sink.flushes + (framesDue settings signals).length ∧
      served.unread =
        ((Receiver.fresh settings signals).after ((framesDue settings signals).length + 1)).signals
      := by
  have length : (framesDue settings signals).length = (repliesDue settings signals).length :=
    List.length_map _
  rw [length] at flushed ⊢
  obtain ⟨after, delivered, went⟩ := Sink.exists_deliver_of_fits fits flushed
  rw [result_serve allowed, delivered]
  exact ⟨rfl, went.output, went.flushes, rfl⟩

end Serve

/-! ### Interruptions -/

/-- **Interruptions do not count,** nor does a script without them. -/
theorem Segment.normalize_uninterrupted (afterReturn : Bool) (signals : List Signal) :
    normalize afterReturn (Signal.uninterrupted signals) = normalize afterReturn signals := by
  unfold Signal.uninterrupted
  induction signals generalizing afterReturn with
  | nil => rfl
  | cons signal signals ih =>
    cases signal with
    | byte byte =>
      rw [List.filter_cons_of_pos rfl, normalize, normalize, ih, ih]
    | endOfInput =>
      rw [List.filter_cons_of_pos rfl, normalize, normalize, ih]
    | failure failure =>
      cases h : failure.isTransient with
      | true =>
        rw [List.filter_cons_of_neg (by simp [Signal.isInterruption, h]), normalize, if_pos h, ih]
      | false =>
        rw [List.filter_cons_of_pos (by simp [Signal.isInterruption, h]), normalize, normalize, ih]

/-- **Interrupted readings change nothing** but what there is to read. -/
theorem serve_uninterrupted {settings : Settings} (allowed : settings.limit ≠ 0)
    (signals : List Signal) (sink : Sink) :
    let calm := (serve settings (Signal.uninterrupted signals) sink).result
    calm.result = (serve settings signals sink).result.result ∧
      calm.sink = (serve settings signals sink).result.sink := by
  have closings : (Receiver.fresh settings (Signal.uninterrupted signals)).closings =
      (Receiver.fresh settings signals).closings :=
    congrArg (Segment.closings settings.limit []) (Segment.normalize_uninterrupted false signals)
  simp only [result_serve allowed, repliesDue, Receiver.lines, Receiver.ending, closings]
  exact ⟨trivial, trivial⟩

/-- **Interrupted writes change nothing:** a stream that only interrupts holds the session that one
without an end does. -/
theorem serve_interrupted {settings : Settings} (allowed : settings.limit ≠ 0)
    (signals : List Signal) (room : Nat) (failingFlush : Option Nat) :
    let served := (serve settings signals ⟨#[], 0, some ⟨room, .interrupts⟩, failingFlush⟩).result
    let calm := (serve settings signals ⟨#[], 0, none, failingFlush⟩).result
    served.result = calm.result ∧ served.sink.output = calm.sink.output ∧
      served.sink.flushes = calm.sink.flushes ∧ served.unread = calm.unread := by
  let interrupted : Sink := ⟨#[], 0, some ⟨room, .interrupts⟩, failingFlush⟩
  let endless : Sink := ⟨#[], 0, none, failingFlush⟩
  have fits (size : Nat) : interrupted.Fits size ∧ endless.Fits size := by
    constructor <;> rintro stop ⟨⟩
  by_cases unflushed : ∃ j < (framesDue settings signals).length, failingFlush = some (j + 1)
  · obtain ⟨j, hj, h⟩ := unflushed
    have h' : failingFlush = some (0 + j + 1) := by rw [h, Nat.zero_add]
    obtain ⟨result, output, flushes, unread⟩ :=
      serve_of_unflushed interrupted allowed hj (fits _).1 h'
    obtain ⟨result', output', flushes', unread'⟩ :=
      serve_of_unflushed endless allowed hj (fits _).2 h'
    exact ⟨result.trans result'.symm, output.trans output'.symm, flushes.trans flushes'.symm,
      unread.trans unread'.symm⟩
  · have flushed : ∀ k < (framesDue settings signals).length, failingFlush ≠ some (0 + k + 1) := by
      intro k hk h
      exact unflushed ⟨k, hk, by rw [h, Nat.zero_add]⟩
    obtain ⟨result, output, flushes, unread⟩ :=
      serve_of_fits interrupted allowed (fits _).1 flushed
    obtain ⟨result', output', flushes', unread'⟩ :=
      serve_of_fits endless allowed (fits _).2 flushed
    exact ⟨result.trans result'.symm, output.trans output'.symm, flushes.trans flushes'.symm,
      unread.trans unread'.symm⟩

/-! ### The whole session -/

/-- **A session with faults on both sides.**  The lines are what is read up to the first reading
that gives none.  If a frame is the first that does not fit or that cannot be flushed, that failure
ends the session: what went out are the frames before it and what fits of it, and nothing after its
line was read.  Otherwise every frame goes out, one flush for each, and the session ends as the
input does.  Interruptions change nothing. -/
theorem serve_with_faults (settings : Settings) (allowed : settings.limit ≠ 0)
    (signals : List Signal) (capacity : Option Capacity) (failingFlush : Option Nat) :
    let sink : Sink := ⟨#[], 0, capacity, failingFlush⟩
    let served := (serve settings signals sink).result
    let receiver := Receiver.fresh settings signals
    let lines := receiver.lines
    let frames := lines.map fun line => frame settings.newline (respond settings.limit line).result
    Receiver.ofSignals settings.limit signals = .ok receiver ∧
      (∀ (i : Nat) (h : i < lines.length),
        (receiver.after i).next.result = .ok (some lines[i])) ∧
      (receiver.after lines.length).next.result = receiver.ending.map (fun _ => none) ∧
      -- a frame does not fit
      (∀ (j : Nat) (h : j < frames.length) (room : Nat) (failure : TransportFailure),
        sink.stop? = some (room, failure) →
        (frames.take j).flatten.length ≤ room →
        room < (frames.take (j + 1)).flatten.length →
        (∀ k < j, failingFlush ≠ some (k + 1)) →
          served.result = .error (.transport failure) ∧
          served.sink.output = (frames.take j).flatten ++
            frames[j].take (room - (frames.take j).flatten.length) ∧
          served.sink.flushes = j ∧
          served.unread = (receiver.after (j + 1)).signals) ∧
      -- a flush fails
      (∀ j < frames.length, sink.Fits (frames.take (j + 1)).flatten.length →
        failingFlush = some (j + 1) →
          served.result = .error (.transport flushFailed) ∧
          served.sink.output = (frames.take (j + 1)).flatten ∧
          served.sink.flushes = j + 1 ∧
          served.unread = (receiver.after (j + 1)).signals) ∧
      -- everything goes out
      (sink.Fits frames.flatten.length → (∀ k < frames.length, failingFlush ≠ some (k + 1)) →
          served.result = (receiver.ending.mapError .transport).map (fun _ => frames.length) ∧
          served.sink.output = frames.flatten ∧
          served.sink.flushes = frames.length ∧
          served.unread = (receiver.after (frames.length + 1)).signals) ∧
      -- interruptions
      ((serve settings (Signal.uninterrupted signals) sink).result.result = served.result ∧
        (serve settings (Signal.uninterrupted signals) sink).result.sink = served.sink) ∧
      ∀ room, capacity = some ⟨room, .interrupts⟩ →
        let calm := (serve settings signals ⟨#[], 0, none, failingFlush⟩).result
        served.result = calm.result ∧ served.sink.output = calm.sink.output ∧
          served.sink.flushes = calm.sink.flushes ∧ served.unread = calm.unread := by
  intro sink served receiver lines frames
  have due : framesDue settings signals = frames := List.map_map
  obtain ⟨read, ended⟩ := receiver.next_after_lines
  refine ⟨ofSignals_of_ne_zero allowed signals, read, ended, ?_⟩
  rw [← due]
  refine ⟨?_, ?_, ?_, serve_uninterrupted allowed signals sink, ?_⟩
  · intro j h room failure stop fits short flushed
    have law := serve_of_short sink allowed stop h fits short (by simpa [sink] using flushed)
    simpa [sink, Sink.output] using law
  · intro j h fits unflushed
    have law := serve_of_unflushed sink allowed h fits (by simpa [sink] using unflushed)
    simpa [sink, Sink.output] using law
  · intro fits flushed
    have law := serve_of_fits sink allowed fits (by simpa [sink] using flushed)
    simpa [sink, Sink.output] using law
  · rintro room rfl
    exact serve_interrupted allowed signals room failingFlush

/-- Two lines for a stream that has room for the first frame and part of the second. -/
theorem serve_with_faults_nothing_taken :
    let served := (serve ⟨8, .lf⟩ (Signal.ofBytes (Utf8.encode "1+1\n5/0\n3".toList))
      ⟨#[], 0, some ⟨10, .takesNothing⟩, some 3⟩).result
    8 ≠ 0 ∧ served.result = .error (.transport wroteNothing) ∧
      served.sink.output = Utf8.encode "2\n\nError: ".toList ∧ served.sink.flushes = 1 ∧
      served.unread = Signal.ofBytes (Utf8.encode "3".toList) := by
  intro served
  obtain ⟨-, -, -, short, -⟩ := serve_with_faults ⟨8, .lf⟩ (by decide)
    (Signal.ofBytes (Utf8.encode "1+1\n5/0\n3".toList)) (some ⟨10, .takesNothing⟩) (some 3)
  obtain ⟨result, output, flushes, unread⟩ := short 1 (by decide +kernel) 10 wroteNothing rfl
    (by decide +kernel) (by decide +kernel) (by decide)
  refine ⟨by decide, result, output.trans ?_, flushes, unread.trans ?_⟩
  · decide +kernel
  · decide +kernel

end Calculator
