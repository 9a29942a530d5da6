/-
# Sending on after failures

A stream may be used on after a reply could not be sent.  Whatever is sent to
it, it takes what lies before its end (`Sink.exists_went_send`), and what is
left of the room decides about the next reply.  So by induction on the replies
it takes, of all their frames one after another, what lies before its end
(`Sink.exists_went_sendAll`).

A frame is never empty.  Hence a reply goes out whole exactly if the stream
does not end before its frame does, and once one has not, no byte of a later
one goes out.
-/

import Calculator.Proofs.Sending

namespace Calculator

theorem frame_ne_nil (newline : Newline) (reply : String) : frame newline reply ≠ [] := by
  intro h
  have ending := (List.append_eq_nil_iff.1 h).2
  revert ending
  cases newline <;> decide

section Frames

variable {frames : List (List UInt8)} {i j : Nat}

theorem length_flatten_take_succ (h : i < frames.length) :
    (frames.take (i + 1)).flatten.length = (frames.take i).flatten.length + frames[i].length := by
  rw [List.take_succ_eq_append_getElem h, List.flatten_append, List.length_append]
  simp

theorem length_flatten_take_mono (h : i ≤ j) :
    (frames.take i).flatten.length ≤ (frames.take j).flatten.length := by
  have split := List.take_append_drop i (frames.take j)
  rw [List.take_take, Nat.min_eq_left h] at split
  rw [← split, List.flatten_append, List.length_append]
  exact Nat.le_add_right ..

end Frames

namespace Sink

/-! ### What lies before the end -/

section Within

variable {sink : Sink} {bytes : List UInt8}

theorem within_of_stop {room : Nat} {failure : TransportFailure}
    (stop : sink.stop? = some (room, failure)) : sink.within bytes = bytes.take room := by
  rw [within, stop]

theorem within_of_stop_none (endless : sink.stop? = none) : sink.within bytes = bytes := by
  rw [within, endless]

theorem fits_of_stop_none (endless : sink.stop? = none) (size : Nat) : sink.Fits size := by
  intro stop h
  cases endless.symm.trans h

theorem fits_iff_of_stop {room size : Nat} {failure : TransportFailure}
    (stop : sink.stop? = some (room, failure)) : sink.Fits size ↔ size ≤ room := by
  simp [Fits, stop]

theorem fits_or_short (sink : Sink) (size : Nat) :
    sink.Fits size ∨ ∃ room failure, sink.stop? = some (room, failure) ∧ room < size := by
  cases stop : sink.stop? with
  | none => exact .inl (fits_of_stop_none stop size)
  | some stop' =>
    obtain ⟨room, failure⟩ := stop'
    rw [fits_iff_of_stop stop]
    rcases Nat.lt_or_ge room size with short | fits
    · exact .inr ⟨room, failure, rfl, short⟩
    · exact .inl fits

theorem within_eq_self_iff : sink.within bytes = bytes ↔ sink.Fits bytes.length := by
  cases stop : sink.stop? with
  | none => simp [within_of_stop_none stop, fits_of_stop_none stop]
  | some stop' =>
    obtain ⟨room, failure⟩ := stop'
    rw [within_of_stop stop, fits_iff_of_stop stop]
    refine ⟨fun all => ?_, List.take_of_length_le⟩
    have length := congrArg List.length all
    rw [List.length_take] at length
    omega

/-- **What lies before the end of two pieces,** when the first has been taken. -/
theorem Went.within_append {s t : List UInt8} {flushed : Nat} {after : Sink}
    (went : sink.Went (sink.within s) flushed after) :
    sink.within (s ++ t) = sink.within s ++ after.within t := by
  cases stop : sink.stop? with
  | none =>
    have later : after.stop? = none := by rw [went.stop?, stop, Option.map_none]
    rw [within_of_stop_none stop, within_of_stop_none stop, within_of_stop_none later]
  | some stop' =>
    obtain ⟨room, failure⟩ := stop'
    have later : after.stop? = some (room - (s.take room).length, failure) := by
      rw [went.stop?, stop, within_of_stop stop, Option.map_some]
    have left : room - (s.take room).length = room - s.length := by
      rw [List.length_take]
      omega
    rw [within_of_stop stop, within_of_stop stop, within_of_stop later, left, List.take_append]

end Within

/-! ### One reply -/

section Send

variable {newline : Newline} {sink : Sink} {reply : String}

/-- **A reply that fits is flushed once,** and fails only with the flush. -/
theorem went_send_of_fits (fits : sink.Fits (frame newline reply).length) :
    sink.Went (frame newline reply) 1 (sink.send newline reply).sink ∧
      (sink.send newline reply).result =
        if sink.failingFlush = some (sink.flushes + 1) then .error flushFailed else .ok () := by
  obtain ⟨after, went, sent⟩ := exists_send_of_fits fits
  rw [sent]
  exact ⟨went, rfl⟩

/-- **A reply that does not fit is not flushed,** and fails as the stream ends. -/
theorem went_send_of_short {room : Nat} {failure : TransportFailure}
    (stop : sink.stop? = some (room, failure)) (short : room < (frame newline reply).length) :
    sink.Went ((frame newline reply).take room) 0 (sink.send newline reply).sink ∧
      (sink.send newline reply).result = .error failure := by
  obtain ⟨after, sent, went⟩ := exists_send_of_short stop short
  rw [sent]
  exact ⟨went, rfl⟩

/-- **Of a reply that is sent the stream takes what lies before its end.** -/
theorem exists_went_send (newline : Newline) (sink : Sink) (reply : String) :
    ∃ flushed, sink.Went (sink.within (frame newline reply)) flushed
      (sink.send newline reply).sink := by
  rcases sink.fits_or_short (frame newline reply).length with fits | ⟨room, failure, stop, short⟩
  · rw [within_eq_self_iff.2 fits]
    exact ⟨1, (went_send_of_fits fits).1⟩
  · rw [within_of_stop stop]
    exact ⟨0, (went_send_of_short stop short).1⟩

/-- **A reply goes out whole if its frame fits.** -/
theorem takesWhole_iff : sink.TakesWhole newline reply ↔ sink.Fits (frame newline reply).length := by
  obtain ⟨flushed, went⟩ := exists_went_send newline sink reply
  rw [TakesWhole, went.output, List.append_cancel_left_eq, within_eq_self_iff]

/-- **A reply that goes out whole is flushed once,** and no other is. -/
theorem flushes_send (newline : Newline) (sink : Sink) (reply : String) :
    (sink.send newline reply).sink.flushes =
      sink.flushes + (if sink.TakesWhole newline reply then 1 else 0) := by
  by_cases whole : sink.TakesWhole newline reply
  · rw [if_pos whole]
    exact (went_send_of_fits (takesWhole_iff.1 whole)).1.flushes
  · obtain ⟨room, failure, stop, short⟩ :=
      (fits_or_short ..).resolve_left fun fits => whole (takesWhole_iff.2 fits)
    rw [if_neg whole]
    exact (went_send_of_short stop short).1.flushes

theorem result_send_of_takesWhole (whole : sink.TakesWhole newline reply) :
    (sink.send newline reply).result =
      if sink.failingFlush = some (sink.flushes + 1) then .error flushFailed else .ok () :=
  (went_send_of_fits (takesWhole_iff.1 whole)).2

/-- **A reply that does not go out whole fails as the stream ends.** -/
theorem result_send_of_not_takesWhole {room : Nat} {failure : TransportFailure}
    (stop : sink.stop? = some (room, failure)) (part : ¬sink.TakesWhole newline reply) :
    (sink.send newline reply).result = .error failure := by
  rw [takesWhole_iff, fits_iff_of_stop stop, Nat.not_le] at part
  exact (went_send_of_short stop part).2

end Send

/-! ### A row of replies -/

section SendAll

variable {newline : Newline} {sink : Sink} {replies : List String}

theorem sendAll_nil (newline : Newline) (sink : Sink) : sink.sendAll newline [] = sink := rfl

theorem sendAll_cons (reply : String) (replies : List String) :
    sink.sendAll newline (reply :: replies) =
      (sink.send newline reply).sink.sendAll newline replies := rfl

theorem sendAll_append (replies later : List String) :
    sink.sendAll newline (replies ++ later) =
      (sink.sendAll newline replies).sendAll newline later := List.foldl_append

theorem sendAll_take_succ {i : Nat} (h : i < replies.length) :
    sink.sendAll newline (replies.take (i + 1)) =
      ((sink.sendAll newline (replies.take i)).send newline replies[i]).sink := by
  rw [List.take_succ_eq_append_getElem h, sendAll_append, sendAll_cons, sendAll_nil]

/-- **Of replies that are sent the stream takes what lies before its end.** -/
theorem exists_went_sendAll (newline : Newline) (sink : Sink) (replies : List String) :
    ∃ flushed, sink.Went (sink.within (replies.map (frame newline)).flatten) flushed
      (sink.sendAll newline replies) := by
  induction replies generalizing sink with
  | nil =>
    have nothing : sink.within [] = [] := by simp [within_eq_self_iff, Fits]
    refine ⟨0, ?_, rfl, rfl, ?_⟩
    · simp [nothing, sendAll_nil]
    · simp [nothing, sendAll_nil]
  | cons reply replies ih =>
    obtain ⟨m, first⟩ := exists_went_send newline sink reply
    obtain ⟨n, later⟩ := ih (sink.send newline reply).sink
    refine ⟨m + n, ?_⟩
    rw [List.map_cons, List.flatten_cons, first.within_append, sendAll_cons]
    exact first.trans later

theorem failingFlush_sendAll (newline : Newline) (sink : Sink) (replies : List String) :
    (sink.sendAll newline replies).failingFlush = sink.failingFlush := by
  obtain ⟨flushed, went⟩ := exists_went_sendAll newline sink replies
  exact went.failingFlush

/-- **The room that is left** after a row of replies. -/
theorem stop?_sendAll {room : Nat} {failure : TransportFailure}
    (stop : sink.stop? = some (room, failure)) (replies : List String) :
    (sink.sendAll newline replies).stop? =
      some (room - (replies.map (frame newline)).flatten.length, failure) := by
  obtain ⟨flushed, went⟩ := exists_went_sendAll newline sink replies
  have left (size : Nat) : room - min room size = room - size := by omega
  rw [went.stop?, stop, within_of_stop stop, Option.map_some, List.length_take, left]

theorem stop?_sendAll_of_none (endless : sink.stop? = none) (replies : List String) :
    (sink.sendAll newline replies).stop? = none := by
  obtain ⟨flushed, went⟩ := exists_went_sendAll newline sink replies
  rw [went.stop?, endless, Option.map_none]

/-- **A reply of a row goes out whole** if the stream does not end before its frame does. -/
theorem takesWhole_take_iff {room : Nat} {failure : TransportFailure}
    (stop : sink.stop? = some (room, failure)) {i : Nat} (h : i < replies.length) :
    (sink.sendAll newline (replies.take i)).TakesWhole newline replies[i] ↔
      ((replies.map (frame newline)).take (i + 1)).flatten.length ≤ room := by
  have h' : i < (replies.map (frame newline)).length := by simpa using h
  have filled : 0 < (frame newline replies[i]).length :=
    List.length_pos_iff.2 (frame_ne_nil newline replies[i])
  rw [takesWhole_iff, fits_iff_of_stop (stop?_sendAll stop _), length_flatten_take_succ h',
    List.getElem_map, List.map_take]
  omega

/-- **After a reply that did not go out whole nothing goes out.** -/
theorem send_of_refused {room : Nat} {failure : TransportFailure}
    (stop : sink.stop? = some (room, failure)) {i j : Nat} (hi : i < replies.length)
    (refused : ¬(sink.sendAll newline (replies.take i)).TakesWhole newline replies[i])
    (later : i < j) (reply : String) :
    let before := sink.sendAll newline (replies.take j)
    (before.send newline reply).result = .error failure ∧
      (before.send newline reply).sink.output = before.output ∧
      (before.send newline reply).sink.flushes = before.flushes := by
  intro before
  rw [takesWhole_take_iff stop hi, Nat.not_le] at refused
  have grown : ((replies.map (frame newline)).take (i + 1)).flatten.length ≤
      ((replies.map (frame newline)).take j).flatten.length := length_flatten_take_mono later
  have full : before.stop? = some (0, failure) := by
    rw [stop?_sendAll stop, List.map_take]
    congr 2
    omega
  have filled : 0 < (frame newline reply).length :=
    List.length_pos_iff.2 (frame_ne_nil newline reply)
  obtain ⟨went, result⟩ := went_send_of_short full filled
  refine ⟨result, ?_, went.flushes⟩
  rw [went.output, List.take_zero, List.append_nil]

end SendAll

/-- **A stream that is used on after failures.**  Replies are sent one after another, whatever
becomes of each.  Each of them is flushed exactly once if its whole frame was taken, and then fails
only with the flush that fails; otherwise it is not flushed.

A stream that refuses for good takes as many bytes of all frames as it has room for.  A reply goes
out whole if the frames up to its own have room.  The first that does not fails, and so does every
later one, of which nothing is taken.  A stream that does not end or only interrupts takes all
frames. -/
theorem sendAll_with_faults (newline : Newline) (replies : List String)
    (capacity : Option Capacity) (failingFlush : Option Nat) :
    let sink : Sink := ⟨#[], 0, capacity, failingFlush⟩
    let frames := replies.map (frame newline)
    let before (i : Nat) := sink.sendAll newline (replies.take i)
    (∀ (i : Nat) (h : i < replies.length),
      let sent := (before i).send newline replies[i]
      let whole := (before i).TakesWhole newline replies[i]
      before (i + 1) = sent.sink ∧
        sent.sink.flushes = (before i).flushes + (if whole then 1 else 0) ∧
        (whole → sent.result =
          if failingFlush = some ((before i).flushes + 1) then .error flushFailed else .ok ())) ∧
      -- the stream refuses for good
      (∀ (room : Nat) (refusal : Refusal) (failure : TransportFailure),
        capacity = some ⟨room, refusal⟩ → refusal.failure? = some failure →
          (sink.sendAll newline replies).output = frames.flatten.take room ∧
          ∀ (i : Nat) (h : i < replies.length),
            ((before i).TakesWhole newline replies[i] ↔
              (frames.take (i + 1)).flatten.length ≤ room) ∧
            (¬(before i).TakesWhole newline replies[i] →
              ((before i).send newline replies[i]).result = .error failure ∧
              ∀ (j : Nat) (h' : j < replies.length), i < j →
                let sent := (before j).send newline replies[j]
                sent.result = .error failure ∧ sent.sink.output = (before j).output ∧
                  sent.sink.flushes = (before j).flushes)) ∧
      -- the stream does not end
      (capacity = none ∨ (∃ room, capacity = some ⟨room, .interrupts⟩) →
        (sink.sendAll newline replies).output = frames.flatten ∧
          ∀ (i : Nat) (h : i < replies.length), (before i).TakesWhole newline replies[i]) := by
  intro sink frames before
  obtain ⟨flushed, went⟩ := exists_went_sendAll newline sink replies
  have output : (sink.sendAll newline replies).output = sink.within frames.flatten := went.output
  refine ⟨?_, ?_, ?_⟩
  · intro i h sent whole
    refine ⟨sendAll_take_succ h, flushes_send .., fun taken => ?_⟩
    have result := result_send_of_takesWhole taken
    rw [failingFlush_sendAll] at result
    exact result
  · rintro room refusal failure rfl lasting
    have stop : sink.stop? = some (room, failure) := by simp [stop?, sink, lasting]
    refine ⟨output.trans (within_of_stop stop), ?_⟩
    intro i h
    refine ⟨takesWhole_take_iff stop h, ?_⟩
    intro refused
    refine ⟨result_send_of_not_takesWhole (stop?_sendAll stop _) refused, ?_⟩
    intro j h' later
    exact send_of_refused stop h refused later replies[j]
  · intro endless
    have none : sink.stop? = none := by
      rcases endless with rfl | ⟨room, rfl⟩ <;> rfl
    refine ⟨output.trans (within_of_stop_none none), ?_⟩
    intro i h
    exact takesWhole_iff.2 (fits_of_stop_none (stop?_sendAll_of_none none _) _)

/-- The stream ends in the frame of an empty reply, and one after it is refused; the first reply
goes out, but its flush fails.  A stream that only interrupts takes them all. -/
theorem sendAll_with_faults_closed :
    let replies := ["1", "", "22"]
    let sink : Sink := ⟨#[], 0, some ⟨4, .fails⟩, some 1⟩
    let interrupted : Sink := ⟨#[], 0, some ⟨4, .interrupts⟩, none⟩
    sink.TakesWhole .lf "1" ∧ (sink.send .lf "1").result = .error flushFailed ∧
      Refusal.fails.failure? = some closed ∧
      (sink.sendAll .lf replies).output = Utf8.encode "1\n\n\n".toList ∧
      ¬(sink.sendAll .lf ["1"]).TakesWhole .lf "" ∧
      ((sink.sendAll .lf ["1", ""]).send .lf "22").result = .error closed ∧
      (interrupted.sendAll .lf replies).output = Utf8.encode "1\n\n\n\n22\n\n".toList := by
  intro replies sink interrupted
  obtain ⟨each, refusing, -⟩ := sendAll_with_faults .lf replies (some ⟨4, .fails⟩) (some 1)
  obtain ⟨-, -, endless⟩ := sendAll_with_faults .lf replies (some ⟨4, .interrupts⟩) none
  have first : sink.TakesWhole .lf "1" := by decide +kernel
  have second : ¬(sink.sendAll .lf ["1"]).TakesWhole .lf "" := by decide +kernel
  obtain ⟨output, sends⟩ := refusing 4 .fails closed rfl rfl
  refine ⟨first, (each 0 (by decide)).2.2 first, rfl, output.trans (by decide +kernel), second,
    ?_, ((endless (.inr ⟨4, rfl⟩)).1).trans (by decide +kernel)⟩
  exact (((sends 1 (by decide)).2 second).2 2 (by decide) (by decide)).1

end Sink
end Calculator
