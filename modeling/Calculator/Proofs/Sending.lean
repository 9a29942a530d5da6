/-
# What is sent

Whatever a stream does on the way, of bytes that are written to it it takes
what lies before its end, and writing fails if that is not all
(`Sink.writeAll_of_fits`, `Sink.writeAll_of_short`).  So it does not matter in
how many pieces the bytes are written (`Sink.writeAll_append`), and a reply is
sent by writing its frame and flushing (`Sink.send_eq`).

From what one reply does follows what a row of replies does, by induction on
the row.  There are three ways it can go: every frame fits and every flush
succeeds (`Sink.exists_deliver_of_fits`), a frame does not fit
(`Sink.exists_deliver_of_short`), or a flush fails
(`Sink.exists_deliver_of_unflushed`).
-/

import Calculator.Transport.Delivery

namespace Calculator
namespace Sink

/-! ### Writing -/

section WriteAll

variable {sink after : Sink} {bytes : List UInt8}

theorem writeAll_nil (sink : Sink) : sink.writeAll [] = ⟨.ok (), sink⟩ := by
  rw [writeAll, dif_neg fun more => more rfl]

/-- What was not taken is written again. -/
theorem writeAll_of_taken (more : bytes ≠ []) {count : Nat}
    (h : sink.write bytes = (.ok (count + 1), after)) :
    sink.writeAll bytes = after.writeAll (bytes.drop (count + 1)) := by
  rw [writeAll, dif_pos more]
  split <;> simp_all

theorem writeAll_of_nothing (more : bytes ≠ []) (h : sink.write bytes = (.ok 0, after)) :
    sink.writeAll bytes = ⟨.error wroteNothing, after⟩ := by
  rw [writeAll, dif_pos more]
  split <;> simp_all

theorem writeAll_of_failure (more : bytes ≠ []) {failure : TransportFailure}
    (lasting : failure.isTransient = false) (h : sink.write bytes = (.error failure, after)) :
    sink.writeAll bytes = ⟨.error failure, after⟩ := by
  rw [writeAll, dif_pos more]
  split <;> simp_all

theorem writeAll_of_interruption (more : bytes ≠ []) {failure : TransportFailure}
    (transient : failure.isTransient = true) (h : sink.write bytes = (.error failure, after)) :
    sink.writeAll bytes = after.writeAll bytes := by
  rw [writeAll, dif_pos more]
  split <;> simp_all

end WriteAll

theorem append_append (sink : Sink) (s t : List UInt8) :
    (sink.append s).append t = sink.append (s ++ t) := by
  have taken : sink.taken ++ s ++ t = sink.taken ++ (s ++ t) := Array.ext' (by simp)
  rw [append, append, append, taken]

theorem append_nil (sink : Sink) : sink.append [] = sink := by
  simp [append]

theorem writeAll_of_capacity_none {sink : Sink} (h : sink.capacity = none) (bytes : List UInt8) :
    sink.writeAll bytes = ⟨.ok (), sink.append bytes⟩ := by
  cases bytes with
  | nil => rw [writeAll_nil, append_nil]
  | cons byte bytes =>
    have written : sink.write (byte :: bytes) =
        (.ok (bytes.length + 1), sink.append (byte :: bytes)) := by
      rw [write, h]
      rfl
    rw [writeAll_of_taken (List.cons_ne_nil _ _) written, List.drop_eq_nil_of_le (by simp),
      writeAll_nil]

/-- **At the end of the stream** the first write decides. -/
theorem writeAll_of_room_zero {sink : Sink} {refusal : Refusal}
    (h : sink.capacity = some ⟨0, refusal⟩) {bytes : List UInt8} (more : bytes ≠ []) :
    sink.writeAll bytes =
      match refusal.failure? with
      | none => ⟨.ok (), { sink.append bytes with capacity := none }⟩
      | some failure => ⟨.error failure, sink⟩ := by
  cases refusal with
  | fails => exact writeAll_of_failure more rfl (by simp [write, h, more])
  | takesNothing => exact writeAll_of_nothing more (by simp [write, h, more])
  | interrupts =>
    have written : sink.write bytes = (.error interruption, { sink with capacity := none }) := by
      simp [write, h, more]
    rw [writeAll_of_interruption more rfl written, writeAll_of_capacity_none rfl]
    rfl

/-- One write takes what there is room for. -/
theorem write_of_capacity {sink : Sink} {room : Nat} {refusal : Refusal}
    (h : sink.capacity = some ⟨room + 1, refusal⟩) (bytes : List UInt8) :
    sink.write bytes = (.ok (min (room + 1) bytes.length),
      { sink.append (bytes.take (room + 1)) with
        capacity := some ⟨room + 1 - bytes.length, refusal⟩ }) := by
  simp [write, h]

theorem writeAll_of_fits {sink : Sink} {room : Nat} {refusal : Refusal}
    (h : sink.capacity = some ⟨room, refusal⟩) {bytes : List UInt8} (fits : bytes.length ≤ room) :
    sink.writeAll bytes =
      ⟨.ok (), { sink.append bytes with capacity := some ⟨room - bytes.length, refusal⟩ }⟩ := by
  cases bytes with
  | nil =>
    rw [writeAll_nil, append_nil, List.length_nil, Nat.sub_zero, ← h]
  | cons byte bytes =>
    obtain ⟨room, rfl⟩ : ∃ n, room = n + 1 := ⟨room - 1, by simp at fits; omega⟩
    have all : min (room + 1) (byte :: bytes).length = bytes.length + 1 := Nat.min_eq_right fits
    have written := write_of_capacity h (byte :: bytes)
    rw [all, List.take_of_length_le fits] at written
    rw [writeAll_of_taken (List.cons_ne_nil _ _) written, List.drop_eq_nil_of_le (by simp),
      writeAll_nil]

theorem writeAll_of_short {sink : Sink} {room : Nat} {refusal : Refusal}
    (h : sink.capacity = some ⟨room, refusal⟩) {bytes : List UInt8} (short : room < bytes.length) :
    sink.writeAll bytes =
      match refusal.failure? with
      | none => ⟨.ok (), { sink.append bytes with capacity := none }⟩
      | some failure =>
        ⟨.error failure, { sink.append (bytes.take room) with capacity := some ⟨0, refusal⟩ }⟩ := by
  cases room with
  | zero =>
    rw [writeAll_of_room_zero h (List.length_pos_iff.1 short), List.take_zero, append_nil, ← h]
  | succ room =>
    -- What the first write leaves meets the end of the stream.
    have nothing : bytes ≠ [] := List.length_pos_iff.1 (by omega)
    have more : bytes.drop (room + 1) ≠ [] := by
      intro h
      have := List.drop_eq_nil_iff.1 h
      omega
    have part : min (room + 1) bytes.length = room + 1 := Nat.min_eq_left (by omega)
    have full : room + 1 - bytes.length = 0 := by omega
    have written := write_of_capacity h bytes
    rw [part, full] at written
    rw [writeAll_of_taken nothing written, writeAll_of_room_zero rfl more]
    cases refusal.failure? with
    | none =>
      have whole := sink.append_append (bytes.take (room + 1)) (bytes.drop (room + 1))
      rw [List.take_append_drop] at whole
      rw [← whole]
      rfl
    | some failure => rfl

/-- **It does not matter in how many pieces bytes are written.** -/
theorem writeAll_append (sink : Sink) (s t : List UInt8) :
    sink.writeAll (s ++ t) = (sink.writeAll s).andThen (·.writeAll t) := by
  have length : (s ++ t).length = s.length + t.length := List.length_append
  cases h : sink.capacity with
  | none =>
    have later : (sink.append s).capacity = none := h
    rw [writeAll_of_capacity_none h, writeAll_of_capacity_none h, Sent.andThen,
      writeAll_of_capacity_none later, append_append]
  | some capacity =>
    obtain ⟨room, refusal⟩ := capacity
    by_cases first : s.length ≤ room
    · rw [writeAll_of_fits h first, Sent.andThen]
      by_cases second : t.length ≤ room - s.length
      · rw [writeAll_of_fits h (by omega), writeAll_of_fits rfl second, length, Nat.sub_add_eq,
          ← append_append]
        rfl
      · rw [writeAll_of_short h (by omega), writeAll_of_short rfl (by omega), List.take_append,
          List.take_of_length_le first, ← append_append, ← append_append]
        rfl
    · rw [writeAll_of_short h (by omega), writeAll_of_short h (by omega),
        List.take_append_of_le_length (by omega), ← append_append]
      cases refusal.failure? with
      | none =>
        let endless : Sink := { sink.append s with capacity := none }
        exact (endless.writeAll_of_capacity_none rfl t).symm
      | some failure => rfl

/-! ### Sending -/

/-- **A reply is sent as its frame,** followed by a flush. -/
theorem send_eq (sink : Sink) (newline : Newline) (reply : String) :
    sink.send newline reply = (sink.writeAll (frame newline reply)).andThen flush := by
  have assoc (sent : Sent) (f g : Sink → Sent) :
      (sent.andThen f).andThen g = sent.andThen fun sink => (f sink).andThen g := by
    obtain ⟨result, sink⟩ := sent
    cases result <;> rfl
  rw [frame, writeAll_append, writeAll_append, assoc, assoc]
  rfl

/-- The stream took some bytes, was flushed so many times, and ends where it did before. -/
structure Went (sink : Sink) (bytes : List UInt8) (flushed : Nat) (after : Sink) : Prop where
  output : after.output = sink.output ++ bytes
  flushes : after.flushes = sink.flushes + flushed
  failingFlush : after.failingFlush = sink.failingFlush
  stop? : after.stop? = sink.stop?.map fun stop => (stop.1 - bytes.length, stop.2)

section Send

variable {sink : Sink}

/-- **Bytes before the end of a stream are taken,** and nothing else changes. -/
theorem exists_writeAll_of_fits {bytes : List UInt8} (fits : sink.Fits bytes.length) :
    ∃ after, sink.writeAll bytes = ⟨.ok (), after⟩ ∧ sink.Went bytes 0 after := by
  cases h : sink.capacity with
  | none =>
    refine ⟨_, writeAll_of_capacity_none h bytes, output_append .., rfl, rfl, ?_⟩
    simp [stop?, append, h]
  | some capacity =>
    obtain ⟨room, refusal⟩ := capacity
    by_cases inside : bytes.length ≤ room
    · refine ⟨_, writeAll_of_fits h inside, output_append .., rfl, rfl, ?_⟩
      simp [stop?, h, Option.map_map, Function.comp_def]
    · cases none : refusal.failure? with
      | none =>
        have written := writeAll_of_short h (Nat.lt_of_not_le inside)
        rw [none] at written
        refine ⟨_, written, output_append .., rfl, rfl, ?_⟩
        simp [stop?, h, none]
      | some failure =>
        exact absurd (fits (room, failure) (by simp [stop?, h, none])) inside

/-- **Bytes past the end of a stream are refused,** and those before it are taken. -/
theorem exists_writeAll_of_short {room : Nat} {failure : TransportFailure}
    (stop : sink.stop? = some (room, failure)) {bytes : List UInt8} (short : room < bytes.length) :
    ∃ after, sink.writeAll bytes = ⟨.error failure, after⟩ ∧
      sink.Went (bytes.take room) 0 after := by
  obtain ⟨⟨room', refusal⟩, h, lasting⟩ := Option.bind_eq_some_iff.1 stop
  obtain ⟨failure', refused, same⟩ := Option.map_eq_some_iff.1 lasting
  obtain ⟨rfl, rfl⟩ := Prod.mk.inj same
  have written := writeAll_of_short h short
  rw [refused] at written
  refine ⟨_, written, output_append .., rfl, rfl, ?_⟩
  have taken : min room' bytes.length = room' := Nat.min_eq_left (Nat.le_of_lt short)
  rw [stop, Option.map_some, List.length_take, taken]
  simp [stop?, refused]

variable {newline : Newline} {reply : String}

/-- **A reply that fits goes out,** and only the flush decides whether it was sent. -/
theorem exists_send_of_fits (fits : sink.Fits (frame newline reply).length) :
    ∃ after, sink.Went (frame newline reply) 1 after ∧
      sink.send newline reply =
        ⟨if sink.failingFlush = some (sink.flushes + 1) then .error flushFailed else .ok (),
          after⟩ := by
  obtain ⟨written, h, went⟩ := exists_writeAll_of_fits fits
  refine ⟨{ written with flushes := written.flushes + 1 }, ⟨went.output, ?_, went.failingFlush,
    went.stop?⟩, ?_⟩
  · rw [went.flushes]
  · rw [send_eq, h, Sent.andThen, flush, went.flushes, went.failingFlush]

/-- **A reply is sent** when its frame fits and the flush does not fail. -/
theorem exists_send_of_flushed (fits : sink.Fits (frame newline reply).length)
    (flushed : sink.failingFlush ≠ some (sink.flushes + 1)) :
    ∃ after, sink.send newline reply = ⟨.ok (), after⟩ ∧
      sink.Went (frame newline reply) 1 after := by
  obtain ⟨after, went, sent⟩ := exists_send_of_fits fits
  rw [if_neg flushed] at sent
  exact ⟨after, sent, went⟩

/-- A reply whose flush fails has gone out. -/
theorem exists_send_of_unflushed (fits : sink.Fits (frame newline reply).length)
    (unflushed : sink.failingFlush = some (sink.flushes + 1)) :
    ∃ after, sink.send newline reply = ⟨.error flushFailed, after⟩ ∧
      sink.Went (frame newline reply) 1 after := by
  obtain ⟨after, went, sent⟩ := exists_send_of_fits fits
  rw [if_pos unflushed] at sent
  exact ⟨after, sent, went⟩

/-- **A reply that does not fit is refused** and not flushed; what fits of it has gone out. -/
theorem exists_send_of_short {room : Nat} {failure : TransportFailure}
    (stop : sink.stop? = some (room, failure)) (short : room < (frame newline reply).length) :
    ∃ after, sink.send newline reply = ⟨.error failure, after⟩ ∧
      sink.Went ((frame newline reply).take room) 0 after := by
  obtain ⟨after, h, went⟩ := exists_writeAll_of_short stop short
  refine ⟨after, ?_, went⟩
  rw [send_eq, h]
  rfl

end Send

/-! ### Delivering -/

namespace Went

variable {sink middle after : Sink} {s t : List UInt8} {m n : Nat}

theorem trans (h : sink.Went s m middle) (h' : middle.Went t n after) :
    sink.Went (s ++ t) (m + n) after where
  output := by rw [h'.output, h.output, List.append_assoc]
  flushes := by rw [h'.flushes, h.flushes, Nat.add_assoc]
  failingFlush := h'.failingFlush.trans h.failingFlush
  stop? := by
    simp [h'.stop?, h.stop?, Option.map_map, Function.comp_def, Nat.sub_sub]

/-- **What fitted behind other bytes fits when these are gone.** -/
theorem fits (h : sink.Went s m middle) {size : Nat} (fits : sink.Fits (s.length + size)) :
    middle.Fits size := by
  intro stop hs
  rw [h.stop?] at hs
  obtain ⟨before, hb, rfl⟩ := Option.map_eq_some_iff.1 hs
  have := fits before hb
  exact Nat.le_sub_of_add_le' this

/-- The flushes to come are those after the one that was made. -/
theorem flushed (h : sink.Went s 1 middle) {count : Nat}
    (flushed : ∀ k < count + 1, sink.failingFlush ≠ some (sink.flushes + k + 1)) :
    ∀ k < count, middle.failingFlush ≠ some (middle.flushes + k + 1) := by
  intro k hk
  rw [h.failingFlush, h.flushes, Nat.add_assoc sink.flushes, Nat.add_comm 1]
  exact flushed (k + 1) (Nat.succ_lt_succ hk)

end Went

theorem Fits.mono {sink : Sink} {size smaller : Nat} (h : sink.Fits size) (le : smaller ≤ size) :
    sink.Fits smaller := fun stop hs => Nat.le_trans le (h stop hs)

section Deliver

variable {newline : Newline} {sink after : Sink} {reply : String} {replies : List String}

theorem deliver_cons_of_ok (h : sink.send newline reply = ⟨.ok (), after⟩) :
    sink.deliver newline (reply :: replies) =
      ((after.deliver newline replies).1 + 1, (after.deliver newline replies).2) := by
  rw [deliver, h]

theorem deliver_cons_of_error {failure : TransportFailure}
    (h : sink.send newline reply = ⟨.error failure, after⟩) :
    sink.deliver newline (reply :: replies) = (0, ⟨.error failure, after⟩) := by
  rw [deliver, h]

/-- **Replies are delivered whole** when all frames fit and no flush fails. -/
theorem exists_deliver_of_fits
    (fits : sink.Fits (replies.map (frame newline)).flatten.length)
    (flushed : ∀ k < replies.length, sink.failingFlush ≠ some (sink.flushes + k + 1)) :
    ∃ after, sink.deliver newline replies = (replies.length, ⟨.ok (), after⟩) ∧
      sink.Went (replies.map (frame newline)).flatten replies.length after := by
  induction replies generalizing sink with
  | nil =>
    refine ⟨sink, rfl, (List.append_nil _).symm, rfl, rfl, ?_⟩
    simp
  | cons reply replies ih =>
    rw [List.map_cons, List.flatten_cons, List.length_append] at fits
    obtain ⟨middle, sent, went⟩ := exists_send_of_flushed (fits.mono (Nat.le_add_right ..))
      (flushed 0 (Nat.succ_pos _))
    obtain ⟨after, delivered, went'⟩ := ih (went.fits fits) (went.flushed flushed)
    refine ⟨after, ?_, ?_⟩
    · rw [deliver_cons_of_ok sent, delivered]
      rfl
    · rw [List.map_cons, List.flatten_cons, List.length_cons, Nat.add_comm]
      exact went.trans went'

/-- **Delivery ends with the first frame that does not fit,** and with what fits of it. -/
theorem exists_deliver_of_short {room : Nat} {failure : TransportFailure}
    (stop : sink.stop? = some (room, failure)) {j : Nat} (hj : j < replies.length)
    (fits : ((replies.map (frame newline)).take j).flatten.length ≤ room)
    (flushed : ∀ k < j, sink.failingFlush ≠ some (sink.flushes + k + 1))
    (short : room < ((replies.map (frame newline)).take (j + 1)).flatten.length) :
    ∃ after, sink.deliver newline replies = (j, ⟨.error failure, after⟩) ∧
      after.output = sink.output ++ (((replies.map (frame newline)).take j).flatten ++
        (frame newline replies[j]).take
          (room - ((replies.map (frame newline)).take j).flatten.length)) ∧
      after.flushes = sink.flushes + j := by
  induction replies generalizing sink room j with
  | nil => exact absurd hj (Nat.not_lt_zero j)
  | cons reply replies ih =>
    cases j with
    | zero =>
      have first : room < (frame newline reply).length := by simpa using short
      obtain ⟨after, sent, went⟩ := exists_send_of_short stop first
      refine ⟨after, deliver_cons_of_error sent, ?_, went.flushes⟩
      simpa using went.output
    | succ j =>
      simp only [List.map_cons, List.take_succ_cons, List.flatten_cons, List.length_append] at *
      have front : sink.Fits (frame newline reply).length := by
        intro other hs
        obtain rfl := Option.some.inj (stop.symm.trans hs)
        exact Nat.le_of_add_right_le fits
      obtain ⟨middle, sent, went⟩ := exists_send_of_flushed front (flushed 0 (Nat.succ_pos _))
      have later : middle.stop? = some (room - (frame newline reply).length, failure) := by
        rw [went.stop?, stop]
        rfl
      obtain ⟨after, delivered, output, flushes⟩ :=
        ih later (Nat.lt_of_succ_lt_succ hj) (by omega) (went.flushed flushed) (by omega)
      refine ⟨after, ?_, ?_, ?_⟩
      · rw [deliver_cons_of_ok sent, delivered]
      · rw [output, went.output, List.getElem_cons_succ, Nat.sub_sub]
        simp only [List.append_assoc]
      · rw [flushes, went.flushes, Nat.add_assoc, Nat.add_comm 1]

/-- **Delivery ends with the first flush that fails,** after its frame has gone out. -/
theorem exists_deliver_of_unflushed {j : Nat} (hj : j < replies.length)
    (fits : sink.Fits ((replies.map (frame newline)).take (j + 1)).flatten.length)
    (flushed : ∀ k < j, sink.failingFlush ≠ some (sink.flushes + k + 1))
    (unflushed : sink.failingFlush = some (sink.flushes + j + 1)) :
    ∃ after, sink.deliver newline replies = (j, ⟨.error flushFailed, after⟩) ∧
      after.output = sink.output ++ ((replies.map (frame newline)).take (j + 1)).flatten ∧
      after.flushes = sink.flushes + (j + 1) := by
  induction replies generalizing sink j with
  | nil => exact absurd hj (Nat.not_lt_zero j)
  | cons reply replies ih =>
    rw [List.map_cons, List.take_succ_cons, List.flatten_cons, List.length_append] at fits
    have front : sink.Fits (frame newline reply).length := fits.mono (Nat.le_add_right ..)
    cases j with
    | zero =>
      obtain ⟨after, sent, went⟩ := exists_send_of_unflushed front unflushed
      refine ⟨after, deliver_cons_of_error sent, ?_, went.flushes⟩
      simpa using went.output
    | succ j =>
      obtain ⟨middle, sent, went⟩ := exists_send_of_flushed front (flushed 0 (Nat.succ_pos _))
      have next : middle.failingFlush = some (middle.flushes + j + 1) := by
        rw [went.failingFlush, went.flushes, unflushed]
        congr 1
        omega
      obtain ⟨after, delivered, output, flushes⟩ :=
        ih (Nat.lt_of_succ_lt_succ hj) (went.fits fits) (went.flushed flushed) next
      refine ⟨after, ?_, ?_, ?_⟩
      · rw [deliver_cons_of_ok sent, delivered]
      · rw [output, went.output, List.map_cons, List.take_succ_cons (i := j + 1),
          List.flatten_cons, List.append_assoc]
      · rw [flushes, went.flushes]
        omega

end Deliver

end Sink
end Calculator
