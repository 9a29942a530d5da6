/-
# What a limit is for

The limit on the length of lines decides nothing but which lines are too long.
Two sessions over the same input have the same raw lines, whatever their limits,
and stay in step: a line within both limits is kept whole under both and so is
answered alike (`answerTo_congr`), and one that is too long is told so, whatever
the part that is kept would be answered (`answerTo_of_lt`).
-/

import Calculator.Proofs.Answers

namespace Calculator

section Answers

variable {limit other : Nat} {raw : List UInt8}

/-- **A line within two limits** has one answer under both. -/
theorem answerTo_congr (short : raw.length ≤ limit) (short' : raw.length ≤ other) :
    answerTo limit raw = answerTo other raw := by
  rw [answerTo, answerTo, result_respond, result_respond, received_of_le short,
    received_of_le short']
  exact reply_congr (lineTooLong_not_mem_faults_calculate _) limit other

/-- **A line past the limit** is answered that it is too long, with the limit. -/
theorem answerTo_of_lt (long : limit < raw.length) :
    answerTo limit raw = (Notice.lineTooLong limit).text :=
  result_respond_of_cut (decide_eq_true long)

end Answers

/-- **The limit matters to the lines that break it, and to no other.**  Over the same bytes, two
sessions answer the same lines, one answer for each raw line.  Where a line is within the smaller
limit, the two answers are the same; where it is not, the answer under this limit is that the line
is too long. -/
theorem serve_with_limits (newline : Newline) {limit wider : Nat} (allowed : 1 ≤ limit)
    (le : limit ≤ wider) (bytes : List UInt8) :
    let served (limit : Nat) := (serve ⟨limit, newline⟩ (Signal.ofBytes bytes) .unlimited).result
    let replies (limit : Nat) := repliesDue ⟨limit, newline⟩ (Signal.ofBytes bytes)
    (∀ m ∈ [limit, wider],
        (replies m).length = (Segment.raw bytes).length ∧
        (served m).result = .ok (replies m).length ∧
        (served m).sink.output = ((replies m).map (frame newline)).flatten) ∧
      ∀ (i : Nat) (raw : List UInt8), (Segment.raw bytes)[i]? = some raw →
        (raw.length ≤ limit → (replies limit)[i]? = (replies wider)[i]?) ∧
        (limit < raw.length → (replies limit)[i]? = some (Notice.lineTooLong limit).text) := by
  intro served replies
  have due (m : Nat) : replies m = (Segment.raw bytes).map (answerTo m) :=
    repliesDue_ofBytes ⟨m, newline⟩ bytes
  constructor
  · intro m hm
    have positive : m ≠ 0 := by
      obtain rfl | rfl := List.mem_pair.1 hm <;> omega
    obtain ⟨count, output⟩ := @serve_unlimited ⟨m, newline⟩ positive bytes
    rw [due, List.length_map, List.map_map]
    exact ⟨rfl, count, output⟩
  · intro i raw h
    rw [due, due, List.getElem?_map, List.getElem?_map, h, Option.map_some, Option.map_some]
    refine ⟨fun short => ?_, fun long => ?_⟩
    · rw [answerTo_congr short (Nat.le_trans short le)]
    · rw [answerTo_of_lt long]

/-- A line of exactly three bytes, and one of which three bytes are a sum by themselves. -/
theorem serve_with_limits_three :
    let bytes := Utf8.encode "1+1\r\n1+2+3\n7".toList
    let replies (limit : Nat) := repliesDue ⟨limit, .lf⟩ (Signal.ofBytes bytes)
    1 ≤ 3 ∧ 3 ≤ 8 ∧ (serve ⟨3, .lf⟩ (Signal.ofBytes bytes) .unlimited).result.result = .ok 3 ∧
      (replies 3)[0]? = (replies 8)[0]? ∧
      (replies 3)[1]? = some "Error: Input is longer than the maximum of 3 characters." := by
  intro bytes replies
  obtain ⟨sessions, answers⟩ := @serve_with_limits .lf 3 8 (by decide) (by decide) bytes
  obtain ⟨count, result, -⟩ := sessions 3 (by decide)
  refine ⟨by decide, by decide, ?_, ?_, ?_⟩
  · rw [result, count]
    decide
  · exact (answers 0 (Utf8.encode "1+1".toList) (by decide)).1 (by decide)
  · exact (answers 1 (Utf8.encode "1+2+3".toList) (by decide)).2 (by decide)

end Calculator
