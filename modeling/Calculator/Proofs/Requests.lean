/-
# One expression, asked in three ways

An expression may be given as an argument, come in on the standard input, or
stand in a file.  As an argument it is a text and is cut between two characters;
as a line of an input it is bytes, cut wherever the limit falls, and then decoded.
The two cuts may leave different texts, but then both lines are cut, and a line
that was cut is answered by its length; a text within the limit is read back from
its bytes as it was (`Line.fitted_of_size_le`).  So the reply is one and the same
(`result_respond_fitted`), and so is what becomes of it on any output.
-/

import Calculator.CommandLine.Program
import Calculator.Proofs.Encoding
import Calculator.Proofs.Terminators

namespace Calculator

/-! ### Cutting a text and cutting its bytes -/

/-- **A text within the limit** is the line that its bytes are. -/
theorem Line.fitted_of_size_le {limit : Nat} {text : String}
    (short : Utf8.size text.toList ≤ limit) :
    fitted limit text = Segment.line limit (Utf8.encode text.toList) := by
  have length : (Utf8.encode text.toList).length ≤ limit := by
    rw [Utf8.length_encode]
    exact short
  rw [fitted, Segment.line, Utf8.take_of_size_le short, List.take_of_length_le length,
    Utf8.decode_encode, Utf8.length_encode]

/-- **Either cut leads to the same reply.** -/
theorem result_respond_fitted (limit : Nat) (text : String) :
    (respond limit (.fitted limit text)).result =
      answerTo limit (Utf8.encode text.toList) := by
  rw [answerTo]
  by_cases short : Utf8.size text.toList ≤ limit
  · rw [Line.fitted_of_size_le short]
  · have long : limit < Utf8.size text.toList := Nat.lt_of_not_le short
    have longBytes : limit < (Utf8.encode text.toList).length := by
      rw [Utf8.length_encode]
      exact long
    rw [result_respond_of_cut (decide_eq_true long),
      result_respond_of_cut (decide_eq_true longBytes)]

/-- **A text without line endings is one raw line,** if it is a line at all. -/
theorem Segment.raw_encode {text : List Char} (nonempty : text ≠ [])
    (oneLine : ∀ c ∈ text, c ≠ '\r' ∧ c ≠ '\n') :
    raw (Utf8.encode text) = [Utf8.encode text] := by
  apply raw_eq_singleton
  · obtain ⟨c, rest, rfl⟩ := List.exists_cons_of_ne_nil nonempty
    intro nothing
    have size := congrArg List.length nothing
    rw [Utf8.length_encode, Utf8.size_cons, List.length_nil] at size
    have := c.utf8Size_pos
    omega
  · have other (ending : Char) (ascii : ending.toNat < 0x80) (no : ∀ c ∈ text, c ≠ ending) :
        ∀ byte ∈ Utf8.encode text, byte ≠ UInt8.ofNat ending.toNat := by
      rintro _ hb rfl
      have number := Utf8.toNat_byte (Nat.lt_trans ascii (by decide))
      obtain ⟨c, hc, same⟩ := Utf8.exists_of_mem_encode hb (number.trans_lt ascii)
      exact no c hc (Char.toNat_inj.1 (same.trans number))
    intro byte hb
    exact ⟨other '\r' (by decide) (fun c hc => (oneLine c hc).1) byte hb,
      other '\n' (by decide) (fun c hc => (oneLine c hc).2) byte hb⟩

/-! ### Sending the reply -/

section Answer

variable {settings : Settings}

theorem answerSingle_of_zero (zero : settings.limit = 0) (expression : String) (sink : Sink) :
    (answerSingle settings expression sink).result = ⟨.error (.badLimit 0), sink⟩ := by
  rw [answerSingle, checkLimit, if_pos zero, zero]
  rfl

theorem serve_of_zero (zero : settings.limit = 0) (signals : List Signal) (sink : Sink) :
    (serve settings signals sink).result.toAnswered = ⟨.error (.badLimit 0), sink⟩ := by
  rw [serve, Receiver.ofSignals, checkLimit, if_pos zero, zero]
  rfl

/-- How sending a reply ends what was asked for. -/
def Sent.toAnswered (sent : Sent) : Answered := ⟨sent.result.mapError .transport, sent.sink⟩

theorem result_answerSingle (allowed : settings.limit ≠ 0) (expression : String) (sink : Sink) :
    (answerSingle settings expression sink).result =
      (sink.send settings.newline
        (answerTo settings.limit (Utf8.encode expression.toList))).toAnswered := by
  rw [answerSingle, checkLimit_of_ne_zero allowed, ← result_respond_fitted]
  rfl

/-- **A session over one raw line** is sending one reply. -/
theorem serve_of_raw_singleton (allowed : settings.limit ≠ 0) {bytes raw : List UInt8}
    (h : Segment.raw bytes = [raw]) (sink : Sink) :
    (serve settings (Signal.ofBytes bytes) sink).result.toAnswered =
      (sink.send settings.newline (answerTo settings.limit raw)).toAnswered := by
  rw [result_serve allowed, repliesDue_ofBytes, h, List.map_singleton,
    (lines_ofBytes settings bytes).2]
  obtain ⟨result, after, sent⟩ : ∃ result after,
      sink.send settings.newline (answerTo settings.limit raw) = ⟨result, after⟩ := ⟨_, _, rfl⟩
  cases result with
  | error failure =>
    rw [Sink.deliver_cons_of_error sent, sent]
    rfl
  | ok done =>
    rw [Sink.deliver_cons_of_ok sent, sent]
    rfl

end Answer

/-! ### Requests -/

namespace CommandLine

variable {open? : String → Except TransportFailure (List Signal)} {path : String}
  {signals : List Signal}

/-- A file that can be opened is answered as an input is. -/
theorem result_answerOn_file (readable : open? path = .ok signals) (input : List Signal)
    (limit : Option Nat) (crlf verbose : Bool) (sink : Sink) :
    let request : Request := ⟨none, some path, limit, crlf, verbose⟩
    (answerOn open? input request sink).result =
      (serve request.settings signals sink).result.toAnswered := by
  simp only [answerOn, readable, Run.result_map]

/-- **It does not matter how an expression is asked for.**  Given as an argument, on the standard
input or in a file, an expression of one line leads to the same output, the same flushes and the
same success or error, on an output that takes everything and on one that fails anywhere.  A limit
of zero is refused; otherwise one reply is sent, and it is the answer to the bytes of the
expression. -/
theorem answerOn_expression (text : String) (nonempty : text ≠ "")
    (oneLine : ∀ c ∈ text.toList, c ≠ '\r' ∧ c ≠ '\n')
    (readable : open? path = .ok (Signal.ofBytes (Utf8.encode text.toList)))
    (input : List Signal) (limit : Option Nat) (crlf verbose : Bool) (sink : Sink) :
    let given : Request := ⟨some text, none, limit, crlf, verbose⟩
    let piped : Request := ⟨none, none, limit, crlf, verbose⟩
    let filed : Request := ⟨none, some path, limit, crlf, verbose⟩
    let bytes := Utf8.encode text.toList
    let answered := (answerOn open? input given sink).result
    (answerOn open? (Signal.ofBytes bytes) piped sink).result = answered ∧
      (answerOn open? input filed sink).result = answered ∧
      (given.settings.limit = 0 → answered = ⟨.error (.badLimit 0), sink⟩) ∧
      (given.settings.limit ≠ 0 → ∃ reply, IsAnswer given.settings.limit bytes reply ∧
        answered.result =
          (sink.send given.settings.newline reply).result.mapError .transport ∧
        answered.sink = (sink.send given.settings.newline reply).sink) := by
  intro given piped filed bytes answered
  have fromFile := result_answerOn_file readable input limit crlf verbose sink
  have nonempty : text.toList ≠ [] := by simpa using nonempty
  by_cases zero : given.settings.limit = 0
  · have single : answered = ⟨.error (.badLimit 0), sink⟩ := answerSingle_of_zero zero text sink
    have session := serve_of_zero zero (Signal.ofBytes bytes) sink
    refine ⟨session.trans single.symm, fromFile.trans (session.trans single.symm), fun _ => single,
      fun allowed => absurd zero allowed⟩
  · have single : answered = (sink.send given.settings.newline
        (answerTo given.settings.limit bytes)).toAnswered := result_answerSingle zero text sink
    have session := serve_of_raw_singleton zero (Segment.raw_encode nonempty oneLine) sink
    refine ⟨session.trans single.symm, fromFile.trans (session.trans single.symm),
      fun refused => absurd refused zero, fun _ => ⟨_, isAnswer_respond _ bytes, ?_, ?_⟩⟩
    · exact congrArg Answered.result single
    · exact congrArg Answered.sink single

/-- A limit inside a character, where the two cuts leave different lines, and an output that breaks
off. -/
theorem answerOn_expression_cut :
    let text := "1+\u00E9"
    let bytes := Utf8.encode text.toList
    let open? (name : String) : Except TransportFailure (List Signal) :=
      if name = "sums" then .ok (Signal.ofBytes bytes) else .error ⟨.notFound, "no such file"⟩
    let sink : Sink := ⟨#[], 0, some ⟨14, .fails⟩, none⟩
    let answered := (answerOn open? [] ⟨some text, none, some 3, false, false⟩ sink).result
    text ≠ "" ∧ (∀ c ∈ text.toList, c ≠ '\r' ∧ c ≠ '\n') ∧
      open? "sums" = .ok (Signal.ofBytes bytes) ∧
      Line.fitted 3 text ≠ Segment.line 3 bytes ∧
      (answerOn open? (Signal.ofBytes bytes) ⟨none, none, some 3, false, false⟩ sink).result =
        answered ∧
      (answerOn open? [] ⟨none, some "sums", some 3, false, false⟩ sink).result = answered ∧
      answered.sink.output = Utf8.encode "Error: Input i".toList := by
  intro text bytes open? sink answered
  have unbroken : ∀ c ∈ text.toList, c ≠ '\r' ∧ c ≠ '\n' := by simp [text]
  have readable : open? "sums" = .ok (Signal.ofBytes bytes) := if_pos rfl
  obtain ⟨piped, filed, -⟩ := answerOn_expression text (by decide) unbroken readable [] (some 3)
    false false sink
  exact ⟨by decide, unbroken, readable, by decide, piped, filed, by decide +kernel⟩

end CommandLine
end Calculator
