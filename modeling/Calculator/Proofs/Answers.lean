/-
# What every raw line is answered

A raw line is any bytes.  It is cut to the limit, decoded with replacement
characters, scanned, parsed and calculated, and the most severe of its faults
is told; no step of this turns a line that is too long or not an expression
into one with a value, and none makes an expression fail.

* A line that is too long is told so, whatever is left of it, and no other line
  is: calculating never objects to the length (`lineTooLong_mem_received_iff`).
* A line that is not too long is decoded whole, and is not malformed exactly
  when its bytes write an expression (`Phrase.IsWritten`); then it has the
  outcome of that expression.
* Different faults have different notices and no notice is a numeral, so the
  reply tells which of these it was (`isAnswer_respond`).

The lines of some bytes are their raw lines, one by one (`lines_ofBytes`), and
the session answers all of them.
-/

import Calculator.Proofs.Decoding
import Calculator.Proofs.Logging
import Calculator.Proofs.Session

namespace Calculator

/-! ### Raw lines -/

namespace Segment

/-- **The closings of some bytes are their raw lines.** -/
theorem closings_ofBytes (limit : Nat) (segment : List UInt8) (afterReturn : Bool)
    (bytes : List UInt8) :
    closings limit segment (normalize afterReturn (Signal.ofBytes bytes)) =
      (rawFrom segment afterReturn bytes).map fun raw => .ok (some (line limit raw)) := by
  induction bytes generalizing segment afterReturn with
  | nil =>
    simp only [Signal.ofBytes, List.map_nil, normalize, closings, rawFrom]
    by_cases nothing : segment = []
    · rw [if_pos nothing, if_pos nothing, List.map_nil]
    · rw [if_neg nothing, if_neg nothing, List.map_singleton]
  | cons byte bytes ih =>
    rw [Signal.ofBytes, List.map_cons, ← Signal.ofBytes, normalize, rawFrom]
    by_cases swallowed : (afterReturn && byte == lineFeed) = true
    · rw [if_pos swallowed, if_pos swallowed]
      exact ih segment false
    · rw [if_neg swallowed, if_neg swallowed, closings]
      by_cases isReturn : byte = carriageReturn
      · subst isReturn
        exact congrArg (.ok (some (line limit segment)) :: ·) (ih [] true)
      · rw [beq_false_of_ne isReturn, if_neg Bool.false_ne_true]
        by_cases isFeed : byte = lineFeed
        · subst isFeed
          exact congrArg (.ok (some (line limit segment)) :: ·) (ih [] false)
        · rw [if_neg (not_or.2 ⟨isReturn, isFeed⟩), beq_false_of_ne isFeed,
            if_neg Bool.false_ne_true]
          exact ih (segment ++ [byte]) false

theorem lines_map_ok (lines : List Line) :
    Segment.lines (lines.map fun line => .ok (some line)) = lines ∧
      ending (lines.map fun line => .ok (some line)) = .ok () := by
  induction lines with
  | nil => exact ⟨rfl, rfl⟩
  | cons line lines ih => exact ⟨congrArg (line :: ·) ih.1, ih.2⟩

end Segment

/-- **The lines of some bytes are their raw lines,** and then the input ends. -/
theorem lines_ofBytes (settings : Settings) (bytes : List UInt8) :
    let receiver := Receiver.fresh settings (Signal.ofBytes bytes)
    receiver.lines = (Segment.raw bytes).map (Segment.line settings.limit) ∧
      receiver.ending = .ok () := by
  intro receiver
  have closings : receiver.closings =
      ((Segment.raw bytes).map (Segment.line settings.limit)).map fun line => .ok (some line) := by
    rw [List.map_map]
    exact Segment.closings_ofBytes settings.limit [] false bytes
  rw [Receiver.lines, Receiver.ending, closings]
  exact Segment.lines_map_ok _

/-! ### Expressions in bytes -/

/-- **Bytes write an expression** when they are an ASCII text that spells it, and its parentheses
do not nest too deep. -/
def Phrase.IsWritten (phrase : Phrase .sum) (bytes : List UInt8) : Prop :=
  phrase.nesting ≤ maxNesting ∧
    ∃ text, (∀ c ∈ text, c.toNat < 0x80) ∧ bytes = Utf8.ascii text ∧ Spells text phrase.tokens

/-- **Bytes write one expression at most.** -/
theorem Phrase.IsWritten.unique {phrase other : Phrase .sum} {bytes : List UInt8}
    (h : phrase.IsWritten bytes) (h' : other.IsWritten bytes) : phrase = other :=
  (spells_decode_iff.2 h.2).unique (spells_decode_iff.2 h'.2)

section Decoded

variable {bytes : List UInt8}

theorem Phrase.IsWritten.result_calculate {phrase : Phrase .sum} (h : phrase.IsWritten bytes) :
    (calculate (String.ofList (Utf8.decode bytes))).result = phrase.outcome := by
  apply result_calculate_of_spells h.1
  rw [String.toList_ofList]
  exact spells_decode_iff.2 h.2

/-- **Bytes are malformed exactly when they write no expression.** -/
theorem malformed_decode_iff :
    .malformed ∈ (calculate (String.ofList (Utf8.decode bytes))).result.faults ↔
      ¬ ∃ phrase : Phrase .sum, phrase.IsWritten bytes := by
  constructor
  · rintro wrong ⟨phrase, written⟩
    rw [written.result_calculate] at wrong
    exact phrase.malformed_not_mem_faults_outcome wrong
  · intro no
    by_contra clean
    obtain ⟨phrase, hn, spells⟩ := exists_spells_of_calculate clean
    rw [String.toList_ofList] at spells
    exact no ⟨phrase, hn, spells_decode_iff.1 spells⟩

end Decoded

/-! ### Answers -/

/-- **What a raw line is answered** under a limit: that it is too long, that it is malformed, the
value of the expression it writes, or why this has none. -/
structure IsAnswer (limit : Nat) (bytes : List UInt8) (reply : String) : Prop where
  /-- Exactly the lines with more bytes than the limit are too long. -/
  tooLong : reply = (Notice.lineTooLong limit).text ↔ limit < bytes.length
  /-- Exactly the others that write no expression are malformed. -/
  malformed : reply = Notice.malformed.text ↔
    bytes.length ≤ limit ∧ ¬ ∃ phrase : Phrase .sum, phrase.IsWritten bytes
  /-- A numeral is the answer to an expression with this value. -/
  numeral : ∀ v : Int, reply = Numeral.text v ↔
    bytes.length ≤ limit ∧
      ∃ phrase : Phrase .sum, phrase.IsWritten bytes ∧ phrase.value? = some v
  /-- The other notices are the answers to expressions that have none. -/
  refused : (∃ fault ∈ [Fault.literalTooLarge, .zeroDivisor, .outOfRange],
      reply = (Notice.of limit fault).text) ↔
    bytes.length ≤ limit ∧ ∃ phrase : Phrase .sum, phrase.IsWritten bytes ∧ phrase.value? = none

/-- The outcome that a received line is answered with. -/
def received (line : Line) : Outcome Int :=
  let outcome := (calculate line.text).result
  if line.cut then outcome.record .lineTooLong else outcome

theorem result_respond (limit : Nat) (line : Line) :
    (respond limit line).result = reply limit (received line) := by
  rw [respond, received, Run.result_bind]
  split <;> rfl

/-- **Only a line that was cut is too long.** -/
theorem lineTooLong_mem_faults_received_iff {line : Line} :
    .lineTooLong ∈ (received line).faults ↔ line.cut = true := by
  rw [received]
  cases line.cut with
  | true => simp
  | false => simpa using lineTooLong_not_mem_faults_calculate line.text

/-- **A line that was cut is told so,** whatever is left of it. -/
theorem result_respond_of_cut {limit : Nat} {line : Line} (h : line.cut = true) :
    (respond limit line).result = (Notice.lineTooLong limit).text := by
  rw [result_respond]
  exact (@reply_eq_notice_iff limit _ .lineTooLong).2
    (FaultSet.mostSevere?_eq_lineTooLong_iff.2 (lineTooLong_mem_faults_received_iff.2 h))

section Received

variable {limit : Nat} {bytes : List UInt8}

/-- **Too long is exactly what was cut.** -/
theorem lineTooLong_mem_received_iff :
    .lineTooLong ∈ (received (Segment.line limit bytes)).faults ↔ limit < bytes.length :=
  lineTooLong_mem_faults_received_iff.trans decide_eq_true_iff

/-- A line that is not too long is decoded and calculated whole. -/
theorem received_of_le (short : bytes.length ≤ limit) :
    received (Segment.line limit bytes) =
      (calculate (String.ofList (Utf8.decode bytes))).result := by
  rw [received, Segment.line, List.take_of_length_le short, decide_eq_false (Nat.not_lt.2 short)]
  rfl

/-- **A line within the limit that writes an expression has its outcome.** -/
theorem received_of_isWritten (short : bytes.length ≤ limit) {phrase : Phrase .sum}
    (written : phrase.IsWritten bytes) :
    received (Segment.line limit bytes) = phrase.outcome :=
  (received_of_le short).trans written.result_calculate

/-- **Most severe is the length** of a line that is too long. -/
theorem mostSevere?_eq_lineTooLong_iff :
    (received (Segment.line limit bytes)).faults.mostSevere? = some .lineTooLong ↔
      limit < bytes.length :=
  FaultSet.mostSevere?_eq_lineTooLong_iff.trans lineTooLong_mem_received_iff

/-- **Most severe is the syntax** of a line within the limit that writes no expression. -/
theorem mostSevere?_eq_malformed_iff :
    (received (Segment.line limit bytes)).faults.mostSevere? = some .malformed ↔
      bytes.length ≤ limit ∧ ¬ ∃ phrase : Phrase .sum, phrase.IsWritten bytes := by
  rw [FaultSet.mostSevere?_eq_malformed_iff, lineTooLong_mem_received_iff, Nat.not_lt, and_comm]
  refine and_congr_right fun short => ?_
  rw [received_of_le short, malformed_decode_iff]

/-- **What is neither too long nor malformed** is an expression within the limit. -/
theorem exists_isWritten_of_received
    (within : ¬ .lineTooLong ∈ (received (Segment.line limit bytes)).faults)
    (formed : ¬ .malformed ∈ (received (Segment.line limit bytes)).faults) :
    bytes.length ≤ limit ∧ ∃ phrase : Phrase .sum, phrase.IsWritten bytes ∧
      received (Segment.line limit bytes) = phrase.outcome := by
  have short : bytes.length ≤ limit := Nat.not_lt.1 (lineTooLong_mem_received_iff.not.1 within)
  rw [received_of_le short, malformed_decode_iff, not_not] at formed
  obtain ⟨phrase, written⟩ := formed
  exact ⟨short, phrase, written, received_of_isWritten short written⟩

/-- **Clean is what writes an expression** that has a value. -/
theorem received_eq_clean_iff {v : Int} :
    received (Segment.line limit bytes) = .clean v ↔
      bytes.length ≤ limit ∧
        ∃ phrase : Phrase .sum, phrase.IsWritten bytes ∧ phrase.value? = some v := by
  constructor
  · intro clean
    have none (fault : Fault) : ¬ fault ∈ (received (Segment.line limit bytes)).faults := by
      rw [clean]
      exact FaultSet.not_mem_empty fault
    obtain ⟨short, phrase, written, outcome⟩ := exists_isWritten_of_received (none _) (none _)
    exact ⟨short, phrase, written, Phrase.value?_eq_some_iff.2 (outcome.symm.trans clean)⟩
  · rintro ⟨short, phrase, written, value⟩
    exact (received_of_isWritten short written).trans (Phrase.value?_eq_some_iff.1 value)

/-- **Every other fault is that of an expression** without a value. -/
theorem exists_mostSevere?_eq_iff :
    (∃ fault ∈ [Fault.literalTooLarge, .zeroDivisor, .outOfRange],
        (received (Segment.line limit bytes)).faults.mostSevere? = some fault) ↔
      bytes.length ≤ limit ∧
        ∃ phrase : Phrase .sum, phrase.IsWritten bytes ∧ phrase.value? = none := by
  constructor
  · rintro ⟨fault, late, severe⟩
    have behind : Fault.lineTooLong.rank < fault.rank ∧ Fault.malformed.rank < fault.rank := by
      revert late
      cases fault <;> decide
    obtain ⟨found, first⟩ := FaultSet.mostSevere?_eq_some_iff.1 severe
    obtain ⟨short, phrase, written, outcome⟩ :=
      exists_isWritten_of_received (first _ behind.1) (first _ behind.2)
    refine ⟨short, phrase, written, Option.eq_none_iff_forall_ne_some.2 fun v value => ?_⟩
    rw [outcome, Phrase.value?_eq_some_iff.1 value] at found
    exact FaultSet.not_mem_empty fault found
  · rintro ⟨short, phrase, written, valueless⟩
    have outcome := received_of_isWritten short written
    cases severe : (received (Segment.line limit bytes)).faults.mostSevere? with
    | none =>
      have clean := Outcome.eq_clean_iff.2 ⟨rfl, FaultSet.mostSevere?_eq_none_iff.1 severe⟩
      rw [outcome, ← Phrase.value?_eq_some_iff, valueless] at clean
      cases clean
    | some fault =>
      refine ⟨fault, ?_, rfl⟩
      cases fault with
      | lineTooLong => exact absurd (mostSevere?_eq_lineTooLong_iff.1 severe) (Nat.not_lt.2 short)
      | malformed => exact absurd ⟨phrase, written⟩ (mostSevere?_eq_malformed_iff.1 severe).2
      | literalTooLarge | zeroDivisor | outOfRange => decide

/-- **Every raw line is answered for what it is.** -/
theorem isAnswer_respond (limit : Nat) (bytes : List UInt8) :
    IsAnswer limit bytes (respond limit (Segment.line limit bytes)).result := by
  rw [result_respond]
  constructor
  · exact (@reply_eq_notice_iff limit _ .lineTooLong).trans mostSevere?_eq_lineTooLong_iff
  · exact (@reply_eq_notice_iff limit _ .malformed).trans mostSevere?_eq_malformed_iff
  · intro v
    exact reply_eq_numeral_iff.trans received_eq_clean_iff
  · simp only [reply_eq_notice_iff]
    exact exists_mostSevere?_eq_iff

end Received

/-- The answer to a raw line. -/
def answerTo (limit : Nat) (raw : List UInt8) : String :=
  (respond limit (Segment.line limit raw)).result

/-- **Raw lines are answered one by one,** each for itself. -/
theorem repliesDue_ofBytes (settings : Settings) (bytes : List UInt8) :
    repliesDue settings (Signal.ofBytes bytes) =
      (Segment.raw bytes).map (answerTo settings.limit) := by
  rw [repliesDue, (lines_ofBytes settings bytes).1, List.map_map]
  rfl

/-- **An output without an end takes the answers to all raw lines.** -/
theorem serve_unlimited {settings : Settings} (allowed : settings.limit ≠ 0)
    (bytes : List UInt8) :
    let served := (serve settings (Signal.ofBytes bytes) .unlimited).result
    served.result = .ok (Segment.raw bytes).length ∧
      served.sink.output =
        ((Segment.raw bytes).map fun raw =>
          frame settings.newline (answerTo settings.limit raw)).flatten := by
  have law := @serve_of_fits settings (Signal.ofBytes bytes) .unlimited allowed
    (by rintro stop ⟨⟩) (by rintro k hk ⟨⟩)
  rw [framesDue, repliesDue_ofBytes, List.map_map, List.length_map,
    (lines_ofBytes settings bytes).2] at law
  exact ⟨law.1, law.2.1⟩

/-- **Every raw line of an input gets one answer, and it is the right one.**  Whatever bytes come
in, invalid text included, each of their raw lines is answered in turn: it is too long exactly if it
has more bytes than the limit; otherwise it is malformed exactly if its bytes write no expression;
otherwise it is answered with the value of the one expression they write if this has one, and with
a fault of its literals or operations if not. -/
theorem serve_ofBytes (settings : Settings) (allowed : settings.limit ≠ 0) (bytes : List UInt8) :
    let served := (serve settings (Signal.ofBytes bytes) .unlimited).result
    ∃ replies : List String,
      served.result = .ok replies.length ∧
      served.sink.output = (replies.map (frame settings.newline)).flatten ∧
      List.Forall₂ (IsAnswer settings.limit) (Segment.raw bytes) replies ∧
      ∀ raw ∈ Segment.raw bytes, ∀ phrase other : Phrase .sum,
        phrase.IsWritten raw → other.IsWritten raw → phrase = other := by
  intro served
  obtain ⟨result, output⟩ := serve_unlimited allowed bytes
  refine ⟨(Segment.raw bytes).map (answerTo settings.limit), ?_, ?_, ?_, ?_⟩
  · rw [List.length_map]
    exact result
  · rw [List.map_map]
    exact output
  · rw [List.forall₂_map_right_iff, List.forall₂_same]
    exact fun raw _ => isAnswer_respond settings.limit raw
  · exact fun raw _ phrase other written written' => written.unique written'

/-- A sum, a line that is too long although what is left of it has a value, and a byte that is no
text. -/
theorem serve_ofBytes_cut :
    let bytes := Utf8.encode "1+1\r\n20*10+5\r1".toList ++ [0xFF]
    let served := (serve ⟨5, .lf⟩ (Signal.ofBytes bytes) .unlimited).result
    5 ≠ 0 ∧ served.result = .ok 3 ∧
      served.sink.output = (["2", (Notice.lineTooLong 5).text, "Error: Invalid syntax."].map
        (frame .lf)).flatten := by
  intro bytes served
  obtain ⟨replies, result, output, answers, -⟩ := serve_ofBytes ⟨5, .lf⟩ (by decide) bytes
  have raw : Segment.raw bytes =
      [Utf8.ascii ['1', '+', '1'], Utf8.ascii "20*10+5".toList, [49, 0xFF]] := by decide
  rw [raw] at answers
  obtain _ | ⟨sum, _ | ⟨long, _ | ⟨wrong, ⟨⟩⟩⟩⟩ := answers
  -- The first line writes a sum, whose value is the reply.
  let one : Phrase .sum := .single (.single (.unsigned (.literal ['1'])))
  let two : Phrase .sum := .joined one .plus rfl (.single (.unsigned (.literal ['1'])))
  have written : two.IsWritten (Utf8.ascii ['1', '+', '1']) :=
    ⟨by decide, ['1', '+', '1'], by simp, rfl, spells_iff.2 (by decide)⟩
  obtain rfl := (sum.numeral 2).2 ⟨by decide, two, written, by decide⟩
  obtain rfl := long.tooLong.2 (by decide)
  -- No ASCII text has the last byte of the third line.
  have unwritten : ¬ ∃ phrase : Phrase .sum, phrase.IsWritten [49, 0xFF] := by
    rintro ⟨phrase, -, text, isAscii, same, -⟩
    have byte : (0xFF : UInt8) ∈ Utf8.ascii text := same ▸ by decide
    obtain ⟨c, hc, h⟩ := List.mem_map.1 byte
    have low := isAscii c hc
    have high := congrArg UInt8.toNat h
    rw [UInt8.toNat_ofNat', show (0xFF : UInt8).toNat = 255 from rfl] at high
    omega
  obtain rfl := wrong.malformed.2 ⟨by decide, unwritten⟩
  exact ⟨by decide, result, output⟩

end Calculator
