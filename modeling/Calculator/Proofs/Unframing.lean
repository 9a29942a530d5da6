/-
# Reading replies back

A reply is a numeral or a notice, so it is a line of printable ASCII and not
empty, whatever the line was that it answers (`isOneLine_respond`).  The first
byte of a line ending is not printable.  Hence the first line ending in a frame
is the one that ends its reply, the second stands right behind it, and what
follows is the next frame (`Frame.take?_frame`).  By induction an output that is
made of frames is read back as the replies that they are the frames of
(`unframe?_flatten`).

A session that ends well has sent all its replies, so its output tells them.
-/

import Calculator.Proofs.Answers
import Calculator.Proofs.Encoding
import Calculator.Proofs.Resending

namespace Calculator

/-! ### Printable text -/

/-- A text of ASCII without control characters. -/
def IsPrintable (text : String) : Prop := ∀ c ∈ text.toList, 0x20 ≤ c.toNat ∧ c.toNat < 0x7F

instance (text : String) : Decidable (IsPrintable text) := List.decidableBAll _ _

theorem IsPrintable.append {s t : String} (hs : IsPrintable s) (ht : IsPrintable t) :
    IsPrintable (s ++ t) := by
  rw [IsPrintable, String.toList_append]
  exact List.forall_mem_append.2 ⟨hs, ht⟩

theorem isPrintable_numeral (v : Int) : IsPrintable (Numeral.text v) := by
  have digits (n : Nat) : ∀ c ∈ Nat.toDigits 10 n, 0x20 ≤ c.toNat ∧ c.toNat < 0x7F := by
    intro c hc
    obtain ⟨low, high⟩ := Char.isDigit_iff_toNat.1 (Numeral.isDigit_of_mem (n := n) hc)
    exact ⟨Nat.le_trans (by decide) low, Nat.lt_of_le_of_lt high (by decide)⟩
  rw [IsPrintable, Numeral.toList_text]
  cases v with
  | ofNat n => exact digits n
  | negSucc n => exact List.forall_mem_cons.2 ⟨by decide, digits (n + 1)⟩

/-- **A notice is printable,** whatever numbers stand in it. -/
theorem isPrintable_notice (notice : Notice) : IsPrintable notice.text := by
  have number := isPrintable_numeral
  cases notice with
  | lineTooLong limit => refine .append (.append ?_ (number limit)) ?_ <;> decide +kernel
  | malformed => decide +kernel
  | literalTooLarge largest => refine .append (.append ?_ (number largest)) ?_ <;> decide +kernel
  | zeroDivisor => decide +kernel
  | outOfRange least largest =>
    refine .append (.append (.append (.append ?_ (number least)) ?_) (number largest)) ?_ <;>
      decide +kernel

/-- A text that is one line: it is not empty and holds printable characters alone. -/
structure IsOneLine (text : String) : Prop where
  ne_nil : text.toList ≠ []
  printable : IsPrintable text

/-- **A reply is one line,** whatever it answers. -/
theorem isOneLine_reply (limit : Nat) (outcome : Outcome Int) :
    IsOneLine (reply limit outcome) := by
  rcases exists_reply_eq limit outcome with ⟨v, numeral⟩ | ⟨fault, notice⟩
  · rw [numeral]
    exact ⟨by rw [Numeral.toList_text]; exact Numeral.ne_nil v, isPrintable_numeral v⟩
  · rw [notice]
    refine ⟨fun empty => ?_, isPrintable_notice _⟩
    have first := (Notice.of limit fault).head?_text
    rw [empty] at first
    cases first

theorem isOneLine_respond (limit : Nat) (line : Line) :
    IsOneLine (respond limit line).result := by
  rw [result_respond]
  exact isOneLine_reply limit (received line)

/-! ### Frames -/

/-- The bytes of printable characters are their numbers. -/
theorem IsPrintable.encode {text : String} (h : IsPrintable text) :
    ∀ byte ∈ Utf8.encode text.toList, 0x20 ≤ byte.toNat ∧ byte.toNat < 0x7F := by
  intro byte hb
  obtain ⟨c, hc, hb⟩ := List.mem_flatMap.1 hb
  obtain ⟨low, high⟩ := h c hc
  rw [Utf8.encodeChar_of_lt (Nat.lt_succ_of_lt high), List.mem_singleton] at hb
  rw [hb, Utf8.toNat_byte (by omega)]
  exact ⟨low, high⟩

/-- **A line ending begins with a control character.** -/
theorem Newline.exists_encode_eq (newline : Newline) :
    ∃ first others, Utf8.encode newline.text.toList = first :: others ∧ first.toNat < 0x20 := by
  cases newline with
  | lf => exact ⟨10, [], by decide, by decide⟩
  | crlf => exact ⟨13, [10], by decide, by decide⟩

theorem Newline.isAscii_encode (newline : Newline) :
    ∀ byte ∈ Utf8.encode newline.text.toList, byte.toNat < 0x80 := by
  have all : (Utf8.encode newline.text.toList).all (·.toNat < 0x80) = true := by
    cases newline <;> decide
  simpa using all

namespace Frame

/-- **Nothing is found before the separator** where its first byte does not occur. -/
theorem splitAt?_append {first : UInt8} {others front : List UInt8} (h : first ∉ front)
    (rest : List UInt8) :
    splitAt? (first :: others) (front ++ ((first :: others) ++ rest)) = some (front, rest) := by
  induction front with
  | nil =>
    have here : (first :: others).isPrefixOf (first :: (others ++ rest)) = true :=
      List.isPrefixOf_iff_prefix.2 (List.prefix_append (first :: others) rest)
    rw [List.nil_append, List.cons_append, splitAt?, if_pos here, List.length_cons,
      List.drop_succ_cons, List.drop_left]
  | cons byte front ih =>
    obtain ⟨other, later⟩ := not_or.1 (mt List.mem_cons.2 h)
    have away : (first :: others).isPrefixOf (byte :: (front ++ ((first :: others) ++ rest))) =
        false := by
      rw [List.isPrefixOf, beq_false_of_ne other, Bool.false_and]
    rw [List.cons_append, splitAt?, if_neg (by rw [away]; decide), ih later]
    rfl

variable {newline : Newline} {reply : String} {replies : List String}

/-- **A frame at the front is taken.** -/
theorem take?_frame (line : IsOneLine reply) (rest : List UInt8) :
    take? newline (frame newline reply ++ rest) = some (Utf8.encode reply.toList, rest) := by
  obtain ⟨first, others, ending, control⟩ := newline.exists_encode_eq
  have absent : first ∉ Utf8.encode reply.toList := by
    intro h
    have low := (line.printable.encode first h).1
    omega
  have blank : (first :: others).isPrefixOf ((first :: others) ++ rest) = true :=
    List.isPrefixOf_iff_prefix.2 (List.prefix_append ..)
  simp only [take?, frame, ending, List.append_assoc]
  rw [splitAt?_append absent, Option.bind_eq_bind, Option.bind_some]
  dsimp only
  rw [if_neg (Utf8.encode_ne_nil line.ne_nil), if_pos blank, List.drop_left]

/-- **Frames are taken one after another,** by induction on them. -/
theorem takeAll?_flatten (lines : ∀ reply ∈ replies, IsOneLine reply) {count : Nat}
    (enough : replies.length ≤ count) :
    takeAll? newline count (replies.map (frame newline)).flatten =
      some (replies.map fun reply => Utf8.encode reply.toList) := by
  induction replies generalizing count with
  | nil => cases count <;> rfl
  | cons reply replies ih =>
    obtain ⟨line, lines⟩ := List.forall_mem_cons.1 lines
    obtain ⟨count, rfl⟩ : ∃ n, count = n + 1 := ⟨count - 1, by simp at enough; omega⟩
    have later := ih lines (Nat.le_of_succ_le_succ enough)
    rw [List.map_cons, List.flatten_cons, takeAll?, take?_frame line]
    · simp [later]
    · exact List.append_ne_nil_of_left_ne_nil (frame_ne_nil newline reply) _

end Frame

/-- There are no more frames than bytes. -/
theorem length_le_length_frames (newline : Newline) (replies : List String) :
    replies.length ≤ (replies.map (frame newline)).flatten.length := by
  induction replies with
  | nil => exact Nat.le_refl _
  | cons reply replies ih =>
    have filled := List.length_pos_iff.2 (frame_ne_nil newline reply)
    simp only [List.map_cons, List.flatten_cons, List.length_append, List.length_cons]
    omega

/-- **The replies are read back from their frames.** -/
theorem unframe?_flatten {newline : Newline} {replies : List String}
    (lines : ∀ reply ∈ replies, IsOneLine reply) :
    unframe? newline (replies.map (frame newline)).flatten =
      some (replies.map fun reply => Utf8.encode reply.toList) :=
  Frame.takeAll?_flatten lines (length_le_length_frames newline replies)

/-! ### Sessions that end well -/

namespace Sink

variable {newline : Newline} {sink : Sink}

theorem went_of_send_ok {reply : String} (ok : (sink.send newline reply).result = .ok ()) :
    sink.Went (frame newline reply) 1 (sink.send newline reply).sink := by
  rcases sink.fits_or_short (frame newline reply).length with fits | ⟨room, failure, stop, short⟩
  · exact (went_send_of_fits fits).1
  · cases ok.symm.trans (went_send_of_short stop short).2

/-- **A delivery that does not fail is complete,** on whatever stream. -/
theorem deliver_of_ok {replies : List String}
    (ok : (sink.deliver newline replies).2.result = .ok ()) :
    (sink.deliver newline replies).1 = replies.length ∧
      sink.Went (replies.map (frame newline)).flatten replies.length
        (sink.deliver newline replies).2.sink := by
  induction replies generalizing sink with
  | nil => exact ⟨rfl, (List.append_nil _).symm, rfl, rfl, by simp [deliver]⟩
  | cons reply replies ih =>
    obtain ⟨result, after, sent⟩ : ∃ result after, sink.send newline reply = ⟨result, after⟩ :=
      ⟨_, _, rfl⟩
    cases result with
    | error failure =>
      rw [deliver_cons_of_error sent] at ok
      cases ok
    | ok done =>
      have went := went_of_send_ok (congrArg Sent.result sent)
      rw [deliver_cons_of_ok sent] at ok ⊢
      rw [sent] at went
      obtain ⟨count, went'⟩ := ih ok
      refine ⟨congrArg (· + 1) count, ?_⟩
      rw [List.map_cons, List.flatten_cons, List.length_cons, Nat.add_comm]
      exact went.trans went'

end Sink

section Serve

variable {settings : Settings} {signals : List Signal} {sink : Sink} {n : Nat}

/-- **What a session has done that ends well:** it allowed lines, the input ended without a failure,
and every reply went out. -/
theorem serve_of_ok (ok : (serve settings signals sink).result.result = .ok n) :
    settings.limit ≠ 0 ∧ (Receiver.fresh settings signals).ending = .ok () ∧
      (repliesDue settings signals).length = n ∧
      (serve settings signals sink).result.sink.output =
        sink.output ++ (framesDue settings signals).flatten := by
  have allowed : settings.limit ≠ 0 := by
    intro zero
    rw [serve, Receiver.ofSignals, checkLimit, if_pos zero] at ok
    cases ok
  rw [result_serve allowed] at ok ⊢
  cases delivered : (sink.deliver settings.newline (repliesDue settings signals)).2.result with
  | error failure =>
    simp only [delivered] at ok
    cases ok
  | ok done =>
    obtain ⟨count, went⟩ := Sink.deliver_of_ok delivered
    simp only [delivered, count] at ok
    cases ended : (Receiver.fresh settings signals).ending with
    | error failure =>
      rw [ended] at ok
      cases ok
    | ok done =>
      rw [ended] at ok
      exact ⟨allowed, rfl, Except.ok.inj ok, went.output⟩

theorem unframe?_framesDue (settings : Settings) (signals : List Signal) :
    unframe? settings.newline (framesDue settings signals).flatten =
      some ((repliesDue settings signals).map fun reply => Utf8.encode reply.toList) := by
  refine unframe?_flatten fun reply h => ?_
  obtain ⟨line, -, rfl⟩ := List.mem_map.1 h
  exact isOneLine_respond settings.limit line

theorem isAscii_framesDue (settings : Settings) (signals : List Signal) :
    ∀ byte ∈ (framesDue settings signals).flatten, byte.toNat < 0x80 := by
  intro byte h
  obtain ⟨bytes, hbytes, h⟩ := List.mem_flatten.1 h
  obtain ⟨reply, hreply, rfl⟩ := List.mem_map.1 hbytes
  obtain ⟨line, -, rfl⟩ := List.mem_map.1 hreply
  rw [frame, List.mem_append, List.mem_append] at h
  rcases h with (inReply | inEnding) | inEnding
  · have high := ((isOneLine_respond settings.limit line).printable.encode byte inReply).2
    exact Nat.lt_succ_of_lt high
  · exact settings.newline.isAscii_encode byte inEnding
  · exact settings.newline.isAscii_encode byte inEnding

end Serve

/-- **An output tells its replies.**  When a session ends well, having answered `n` lines, its output
is ASCII, and it is read back as the replies to the `n` lines that came in, whatever these held.  So
another session with the same line ending and the same output gave the same replies, under whatever
limit and to whatever lines. -/
theorem output_tells_replies (settings : Settings) (signals : List Signal)
    (capacity : Option Capacity) (failingFlush : Option Nat) (n : Nat)
    (ok : (serve settings signals ⟨#[], 0, capacity, failingFlush⟩).result.result = .ok n) :
    let output := (serve settings signals ⟨#[], 0, capacity, failingFlush⟩).result.sink.output
    let receiver := Receiver.fresh settings signals
    let replies := receiver.lines.map fun line => (respond settings.limit line).result
    Receiver.ofSignals settings.limit signals = .ok receiver ∧
      receiver.lines.length = n ∧
      (∀ (i : Nat) (h : i < receiver.lines.length),
        (receiver.after i).next.result = .ok (some receiver.lines[i])) ∧
      (receiver.after n).next.result = .ok none ∧
      (∀ byte ∈ output, byte.toNat < 0x80) ∧
      unframe? settings.newline output =
        some (replies.map fun reply => Utf8.encode reply.toList) ∧
      ∀ (settings' : Settings) (signals' : List Signal) (capacity' : Option Capacity)
        (failingFlush' : Option Nat) (n' : Nat),
        let other := (serve settings' signals' ⟨#[], 0, capacity', failingFlush'⟩).result
        settings'.newline = settings.newline → other.result = .ok n' →
          other.sink.output = output →
            (Receiver.fresh settings' signals').lines.map
              (fun line => (respond settings'.limit line).result) = replies := by
  intro output receiver replies
  obtain ⟨allowed, ended, count, sent⟩ := serve_of_ok ok
  obtain ⟨read, last⟩ := receiver.next_after_lines
  have length : receiver.lines.length = n := (List.length_map _).symm.trans count
  have framed : output = (framesDue settings signals).flatten := sent
  have unframed : unframe? settings.newline output =
      some (replies.map fun reply => Utf8.encode reply.toList) :=
    framed ▸ unframe?_framesDue settings signals
  refine ⟨ofSignals_of_ne_zero allowed signals, length, read, ?_, ?_, unframed, ?_⟩
  · rw [← length, last, show receiver.ending = .ok () from ended]
    rfl
  · rw [framed]
    exact isAscii_framesDue settings signals
  · intro settings' signals' capacity' failingFlush' n' other sameNewline ok' sameOutput
    obtain ⟨-, -, -, sent'⟩ := serve_of_ok ok'
    have framed' : output = (framesDue settings' signals').flatten := sameOutput.symm.trans sent'
    have unframed' := unframe?_framesDue settings' signals'
    rw [← framed', sameNewline, unframed, Option.some.injEq] at unframed'
    have encoded : Function.Injective fun reply : String => Utf8.encode reply.toList :=
      fun s t h => String.toList_injective (Utf8.encode_injective h)
    exact (List.map_injective_iff.2 encoded unframed').symm

/-- A control character and a byte that is no text make a line malformed, and so do brackets around
nothing; the other session has another limit and is interrupted. -/
theorem output_tells_replies_malformed :
    let signals := Signal.ofBytes (Utf8.encode "1+1\r\n".toList ++ [7, 255, 10])
    let signals' := Signal.ofBytes (Utf8.encode "2\n()".toList)
    let served := (serve ⟨8, .crlf⟩ signals ⟨#[], 0, some ⟨90, .fails⟩, none⟩).result
    let other := (serve ⟨255, .crlf⟩ signals' ⟨#[], 0, some ⟨3, .interrupts⟩, some 3⟩).result
    served.result = .ok 2 ∧ other.result = .ok 2 ∧ other.sink.output = served.sink.output ∧
      unframe? .crlf served.sink.output =
        some [Utf8.encode "2".toList, Utf8.encode "Error: Invalid syntax.".toList] ∧
      repliesDue ⟨255, .crlf⟩ signals' = repliesDue ⟨8, .crlf⟩ signals := by
  intro signals signals' served other
  have ok : served.result = .ok 2 := by decide +kernel
  have ok' : other.result = .ok 2 := by decide +kernel
  have same : other.sink.output = served.sink.output := by decide +kernel
  obtain ⟨-, -, -, -, -, told, others⟩ :=
    output_tells_replies ⟨8, .crlf⟩ signals (some ⟨90, .fails⟩) none 2 ok
  refine ⟨ok, ok', same, told.trans (by decide +kernel), ?_⟩
  exact others ⟨255, .crlf⟩ signals' (some ⟨3, .interrupts⟩) (some 3) 2 rfl ok' same

end Calculator
