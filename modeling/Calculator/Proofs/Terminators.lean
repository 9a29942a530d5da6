/-
# Where lines end

The raw lines of an input are what stands between its line endings.  What came
before a line ending matters to what comes after it in one way only: a line feed
right after a carriage return still belongs to it.  So an input can be cut in two
behind a line ending (`Segment.raw_append`), and it does not matter which of the
endings stands where

| ending | |
| --- | --- |
| `\n` | a line feed |
| `\r` | a carriage return that no line feed follows |
| `\r\n` | both |

(`Segment.raw_withEnding`).  A session answers the raw lines one by one, so all of
this holds of sessions as well.
-/

import Calculator.Proofs.Answers

namespace Calculator

/-! ### Raw lines -/

namespace Segment

section Steps

variable (segment : List UInt8) (afterReturn : Bool) {byte : UInt8} (bytes : List UInt8)

/-- A carriage return always ends a line. -/
theorem rawFrom_return :
    rawFrom segment afterReturn (carriageReturn :: bytes) = segment :: rawFrom [] true bytes := by
  cases afterReturn <;> rfl

/-- A line feed ends a line unless it belongs to the ending before it. -/
theorem rawFrom_feed :
    rawFrom segment afterReturn (lineFeed :: bytes) =
      if afterReturn then rawFrom segment false bytes else segment :: rawFrom [] false bytes := by
  cases afterReturn <;> rfl

/-- Any other byte is one of the line. -/
theorem rawFrom_other (notReturn : byte ≠ carriageReturn) (notFeed : byte ≠ lineFeed) :
    rawFrom segment afterReturn (byte :: bytes) = rawFrom (segment ++ [byte]) false bytes := by
  rw [rawFrom, beq_false_of_ne notReturn, beq_false_of_ne notFeed, Bool.and_false,
    if_neg Bool.false_ne_true, if_neg Bool.false_ne_true, if_neg Bool.false_ne_true]

end Steps

/-! ### Inputs one after the other -/

/-- Only a line feed in front is read differently after a carriage return. -/
theorem rawFrom_of_head?_ne {bytes : List UInt8} (h : bytes.head? ≠ some lineFeed)
    (segment : List UInt8) (afterReturn : Bool) :
    rawFrom segment afterReturn bytes = rawFrom segment false bytes := by
  cases bytes with
  | nil => rfl
  | cons byte bytes =>
    have notFeed : byte ≠ lineFeed := fun same => h (congrArg some same)
    by_cases isReturn : byte = carriageReturn
    · rw [isReturn, rawFrom_return, rawFrom_return]
    · rw [rawFrom_other _ _ _ isReturn notFeed, rawFrom_other _ _ _ isReturn notFeed]

/-- **What ends a line ends it for good.**  The raw lines up to a line ending are complete, and
those behind it are what they would be without them; after a carriage return there is nothing of
the next line yet. -/
theorem rawFrom_append {ending : UInt8} (ends : ending = carriageReturn ∨ ending = lineFeed)
    {segment : List UInt8} {afterReturn : Bool} (fresh : afterReturn = true → segment = [])
    (front behind : List UInt8) :
    rawFrom segment afterReturn (front ++ ending :: behind) =
      rawFrom segment afterReturn (front ++ [ending]) ++
        rawFrom [] (ending == carriageReturn) behind := by
  induction front generalizing segment afterReturn with
  | nil =>
    obtain rfl | rfl := ends
    · rw [List.nil_append, List.nil_append, rawFrom_return, rawFrom_return]
      rfl
    · cases afterReturn with
      | false => rfl
      | true =>
        obtain rfl := fresh rfl
        rfl
  | cons byte front ih =>
    rw [List.cons_append, List.cons_append]
    by_cases isReturn : byte = carriageReturn
    · rw [isReturn, rawFrom_return, rawFrom_return, ih fun _ => rfl]
      rfl
    by_cases isFeed : byte = lineFeed
    · rw [isFeed, rawFrom_feed, rawFrom_feed]
      cases afterReturn with
      | true => exact ih (by simp)
      | false => exact congrArg (segment :: ·) (ih (by simp))
    · rw [rawFrom_other _ _ _ isReturn isFeed, rawFrom_other _ _ _ isReturn isFeed]
      exact ih (by simp)

/-- **Two inputs have the raw lines of both** when the first ends a line, and the second does not
go on with its line ending. -/
theorem raw_append {a b : List UInt8}
    (complete : a = [] ∨ a.getLast? = some lineFeed ∨
      a.getLast? = some carriageReturn ∧ b.head? ≠ some lineFeed) :
    raw (a ++ b) = raw a ++ raw b := by
  obtain rfl | feed | ⟨isReturn, other⟩ := complete
  · rfl
  · obtain ⟨front, rfl⟩ := List.getLast?_eq_some_iff.1 feed
    rw [List.append_assoc]
    exact rawFrom_append (.inr rfl) (by simp) front b
  · obtain ⟨front, rfl⟩ := List.getLast?_eq_some_iff.1 isReturn
    rw [List.append_assoc, raw, raw, raw, ← rawFrom_of_head?_ne other [] true]
    exact rawFrom_append (.inl rfl) (by simp) front b

/-- **A line feed right after a carriage return** ends no line of its own. -/
theorem raw_append_lineFeed {a : List UInt8} (h : a.getLast? = some carriageReturn)
    (b : List UInt8) : raw (a ++ lineFeed :: b) = raw a ++ raw b := by
  obtain ⟨front, rfl⟩ := List.getLast?_eq_some_iff.1 h
  rw [List.append_assoc]
  exact rawFrom_append (.inl rfl) (by simp) front (lineFeed :: b)

/-! ### Other endings -/

/-- **What contains no line ending** belongs to one raw line. -/
theorem rawFrom_of_forall_ne {bytes : List UInt8}
    (h : ∀ byte ∈ bytes, byte ≠ carriageReturn ∧ byte ≠ lineFeed) (segment : List UInt8)
    (afterReturn : Bool) :
    rawFrom segment afterReturn bytes = if segment ++ bytes = [] then [] else [segment ++ bytes] := by
  induction bytes generalizing segment afterReturn with
  | nil => rw [List.append_nil, rawFrom]
  | cons byte bytes ih =>
    obtain ⟨⟨notReturn, notFeed⟩, later⟩ := List.forall_mem_cons.1 h
    rw [rawFrom_other _ _ _ notReturn notFeed, ih later, List.append_assoc, List.singleton_append]

theorem raw_eq_singleton {bytes : List UInt8} (nonempty : bytes ≠ [])
    (h : ∀ byte ∈ bytes, byte ≠ carriageReturn ∧ byte ≠ lineFeed) : raw bytes = [bytes] := by
  rw [raw, rawFrom_of_forall_ne h, List.nil_append, if_neg nonempty]

/-- An input with another ending in the place of every line feed. -/
def withEnding (ending bytes : List UInt8) : List UInt8 :=
  bytes.flatMap fun byte => if byte = lineFeed then ending else [byte]

section Endings

variable {ending : List UInt8}
  (h : ending = [carriageReturn] ∨ ending = [carriageReturn, lineFeed])
include h

/-- Every line feed has gone into an ending, which starts with a carriage return. -/
theorem head?_withEnding_ne (bytes : List UInt8) :
    (withEnding ending bytes).head? ≠ some lineFeed := by
  cases bytes with
  | nil => simp [withEnding]
  | cons byte bytes =>
    by_cases isFeed : byte = lineFeed
    · obtain rfl | rfl := h <;> simp [withEnding, isFeed, carriageReturn, lineFeed]
    · simp [withEnding, isFeed]

/-- An ending ends one line. -/
theorem rawFrom_ending_append (segment : List UInt8) {rest : List UInt8}
    (other : rest.head? ≠ some lineFeed) :
    rawFrom segment false (ending ++ rest) = segment :: rawFrom [] false rest := by
  obtain rfl | rfl := h
  · rw [List.singleton_append, rawFrom_return, rawFrom_of_head?_ne other]
  · rfl

/-- **Which ending a line has does not matter.** -/
theorem raw_withEnding {bytes : List UInt8} (feeds : carriageReturn ∉ bytes) :
    raw (withEnding ending bytes) = raw bytes := by
  rw [raw, raw]
  generalize [] = segment
  induction bytes generalizing segment with
  | nil => rfl
  | cons byte bytes ih =>
    have notReturn : byte ≠ carriageReturn := fun same => feeds (same ▸ List.mem_cons_self)
    have later : carriageReturn ∉ bytes := fun more => feeds (List.mem_cons_of_mem _ more)
    rw [withEnding, List.flatMap_cons, ← withEnding]
    by_cases isFeed : byte = lineFeed
    · -- What an ending leaves behind does not matter, as no line feed is in front.
      rw [if_pos isFeed, rawFrom_ending_append h _ (head?_withEnding_ne h bytes), ih later, isFeed]
      rfl
    · rw [if_neg isFeed, List.singleton_append, rawFrom_other _ _ _ notReturn isFeed,
        rawFrom_other _ _ _ notReturn isFeed]
      exact ih later (segment ++ [byte])

end Endings

end Segment

/-! ### Sessions -/

/-- One session did what two others do one after the other: it answered as many lines, and its
output is theirs. -/
def Served.Joins (served first second : Served) : Prop :=
  ∃ m n, first.result = .ok m ∧ second.result = .ok n ∧ served.result = .ok (m + n) ∧
    served.sink.output = first.sink.output ++ second.sink.output

section Serve

variable {settings : Settings}

/-- **Inputs whose raw lines are those of two others** are answered as these are. -/
theorem serve_joins (allowed : settings.limit ≠ 0) {a b both : List UInt8}
    (h : Segment.raw both = Segment.raw a ++ Segment.raw b) :
    (serve settings (Signal.ofBytes both) .unlimited).result.Joins
      (serve settings (Signal.ofBytes a) .unlimited).result
      (serve settings (Signal.ofBytes b) .unlimited).result := by
  obtain ⟨count, output⟩ := serve_unlimited allowed both
  obtain ⟨countA, outputA⟩ := serve_unlimited allowed a
  obtain ⟨countB, outputB⟩ := serve_unlimited allowed b
  refine ⟨_, _, countA, countB, ?_, ?_⟩
  · rw [count, h, List.length_append]
  · rw [output, outputA, outputB, h, List.map_append, List.flatten_append]

end Serve

/-- **Sessions compose, and line endings are all alike.**  What comes in after a line ending is
answered as if nothing had come before it, but for a line feed that belongs to the ending; and an
input whose lines end in line feeds is answered the same if they end in carriage returns, or in
both.  For each raw line has its own answer, which depends on nothing else. -/
theorem serve_compose (settings : Settings) (allowed : settings.limit ≠ 0) :
    let served (bytes : List UInt8) := (serve settings (Signal.ofBytes bytes) .unlimited).result
    (∀ a b : List UInt8, (a = [] ∨ a.getLast? = some lineFeed ∨
          a.getLast? = some carriageReturn ∧ b.head? ≠ some lineFeed) →
        (served (a ++ b)).Joins (served a) (served b)) ∧
      (∀ a b : List UInt8, a.getLast? = some carriageReturn →
        (served (a ++ lineFeed :: b)).Joins (served a) (served b)) ∧
      (∀ bytes ending : List UInt8, carriageReturn ∉ bytes →
        (ending = [carriageReturn] ∨ ending = [carriageReturn, lineFeed]) →
          (served (Segment.withEnding ending bytes)).result = (served bytes).result ∧
          (served (Segment.withEnding ending bytes)).sink.output = (served bytes).sink.output) ∧
      ∃ answer : List UInt8 → String, ∀ bytes,
        (served bytes).result = .ok (Segment.raw bytes).length ∧
        (served bytes).sink.output =
          ((Segment.raw bytes).map fun raw => frame settings.newline (answer raw)).flatten := by
  intro served
  refine ⟨?_, ?_, ?_, answerTo settings.limit, serve_unlimited allowed⟩
  · intro a b complete
    exact serve_joins allowed (Segment.raw_append complete)
  · intro a b isReturn
    exact serve_joins allowed (Segment.raw_append_lineFeed isReturn b)
  · intro bytes ending feeds h
    obtain ⟨count, output⟩ := serve_unlimited allowed bytes
    obtain ⟨count', output'⟩ := serve_unlimited allowed (Segment.withEnding ending bytes)
    rw [Segment.raw_withEnding h feeds] at count' output'
    exact ⟨count'.trans count.symm, output'.trans output.symm⟩

/-- Inputs that meet in the middle of a line ending, between two of them, and where an empty line
begins. -/
theorem serve_compose_mixed :
    let served (text : String) :=
      (serve ⟨5, .lf⟩ (Signal.ofBytes (Utf8.encode text.toList)) .unlimited).result
    5 ≠ 0 ∧ (served "1+1\r\n20*10+5").Joins (served "1+1\r") (served "20*10+5") ∧
      (served "1\n\r2").Joins (served "1\n") (served "\r2") ∧
      (served "\r\r4/2").Joins (served "\r") (served "\r4/2") ∧
      (served "1\r\n\r\n2").sink.output = (served "1\n\n2").sink.output := by
  intro served
  obtain ⟨joined, continued, renewed, -⟩ := serve_compose ⟨5, .lf⟩ (by decide)
  refine ⟨by decide, ?_, ?_, ?_, ?_⟩
  · exact continued (Utf8.encode "1+1\r".toList) (Utf8.encode "20*10+5".toList) (by decide)
  · exact joined (Utf8.encode "1\n".toList) (Utf8.encode "\r2".toList) (by decide)
  · exact joined (Utf8.encode "\r".toList) (Utf8.encode "\r4/2".toList) (by decide)
  · exact (renewed (Utf8.encode "1\n\n2".toList) _ (by decide) (.inr rfl)).2

end Calculator
