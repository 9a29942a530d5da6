/-
# What a line is worth

A line is read as an expression over the exact integers.  Between the two
stand the scan, which finds the row of pieces that the line is, and the rule
for sums, which recognizes expressions; here they are put together.

* A line has a value exactly when it spells an expression, not nested too deep,
  whose exact value this is; and a line spells one expression at most.
* A line is malformed exactly when it spells no such expression, whatever else
  is wrong with it.
* A line that spells an expression has that expression's outcome, value and
  faults, however it is laid out.

All three come from what `parse` does with lexemes: it gives the outcome of the
expression that their tokens are (`result_parse_of_tokens`), and where it does
not call them malformed there is one (`exists_phrase_of_parse`).
-/

import Calculator.Calculation
import Calculator.Proofs.Layout
import Calculator.Proofs.Reading

namespace Calculator

/-! ### Lexemes -/

/-- A token that a line can have can be read. -/
theorem Token.isReadable_of_isDigit {token : Token}
    (h : ∀ digits, token = .number digits → ∀ c ∈ digits, c.isDigit = true) :
    token.IsReadable := by
  cases token with
  | number digits => exact Utf8.le_of_mem_encode (h digits rfl)
  | plus | minus | star | slash | opening | closing | blank => trivial

theorem result_parse (lexemes : List Lexeme) (stop : Nat) :
    (parse lexemes stop).result =
      let ⟨outcome, rest⟩ := ((Rule.sum 0).run ⟨lexemes, stop⟩).result
      if rest.remaining = 0 then outcome else outcome.record .malformed := by
  simp only [parse, Run.result_bind]
  split <;> rfl

section Parse

variable {lexemes : List Lexeme} {stop : Nat}

/-- **Lexemes whose tokens are an expression have its outcome.** -/
theorem result_parse_of_tokens (readable : ∀ lexeme ∈ lexemes, lexeme.token.IsReadable)
    {phrase : Phrase .sum} (hn : phrase.nesting ≤ maxNesting)
    (h : lexemes.map Lexeme.token = phrase.tokens) :
    (parse lexemes stop).result = phrase.outcome := by
  have reads : Rest.Reads ⟨lexemes, stop⟩ phrase.tokens ⟨[], stop⟩ :=
    ⟨lexemes, h, by rw [List.append_nil]⟩
  have tokens : Rest.IsReadable ⟨lexemes, stop⟩ := List.forall_mem_map.2 readable
  rw [result_parse, (Rule.recognizes_sum 0).complete phrase hn tokens reads (Category.stops_nil _)]
  rfl

/-- **Lexemes that are not malformed are an expression,** and have its outcome. -/
theorem exists_phrase_of_parse (readable : ∀ lexeme ∈ lexemes, lexeme.token.IsReadable)
    (clean : ¬ .malformed ∈ (parse lexemes stop).result.faults) :
    ∃ phrase : Phrase .sum, phrase.nesting ≤ maxNesting ∧
      phrase.tokens = lexemes.map Lexeme.token ∧ (parse lexemes stop).result = phrase.outcome := by
  have tokens : Rest.IsReadable ⟨lexemes, stop⟩ := List.forall_mem_map.2 readable
  rw [result_parse] at clean ⊢
  dsimp only at clean ⊢
  by_cases complete : ((Rule.sum 0).run ⟨lexemes, stop⟩).result.rest.remaining = 0
  · rw [if_pos complete] at clean ⊢
    obtain ⟨phrase, hn, reads, outcome⟩ := (Rule.recognizes_sum 0).sound tokens clean
    refine ⟨phrase, hn, ?_, outcome⟩
    have nothing : ((Rule.sum 0).run ⟨lexemes, stop⟩).result.rest.tokens = [] := by
      rw [Rest.tokens, List.eq_nil_of_length_eq_zero complete, List.map_nil]
    have whole := reads.tokens_eq
    rw [nothing, List.append_nil] at whole
    exact whole.symm
  · rw [if_neg complete] at clean
    exact absurd (FaultSet.mem_insert.2 (.inl rfl)) clean

/-- **Lexemes are malformed exactly when their tokens are no expression.** -/
theorem malformed_parse_iff (readable : ∀ lexeme ∈ lexemes, lexeme.token.IsReadable) :
    .malformed ∈ (parse lexemes stop).result.faults ↔
      ¬ Derivable .sum maxNesting (lexemes.map Lexeme.token) := by
  constructor
  · rintro wrong ⟨phrase, hn, h⟩
    rw [result_parse_of_tokens readable hn h.symm] at wrong
    exact phrase.malformed_not_mem_faults_outcome wrong
  · intro no
    by_contra clean
    obtain ⟨phrase, hn, h, -⟩ := exists_phrase_of_parse readable clean
    exact no ⟨phrase, hn, h⟩

end Parse

/-! ### Lines -/

/-- The lexemes of a line can be read. -/
theorem isReadable_of_mem_scan {line : List Char} :
    ∀ lexeme ∈ (scan line).result.value, lexeme.token.IsReadable := by
  intro lexeme h
  refine Token.isReadable_of_isDigit fun digits number => ?_
  have found : .number digits ∈ (scan line).result.value.map Lexeme.token :=
    List.mem_map.2 ⟨lexeme, h, number⟩
  rw [map_token_scan] at found
  exact (Piece.isRow_rowOf line).isDigit_of_mem_tokens found

theorem result_calculate (line : String) :
    (calculate line).result =
      (parse (scan line.toList).result.value (Utf8.size line.toList)).result.absorb
        (scan line.toList).result := rfl

theorem toExcept_calculate_iff {line : String} {v : Int} :
    (calculate line).result.toExcept = .ok v ↔
      (scan line.toList).result.faults = ∅ ∧
        (parse (scan line.toList).result.value (Utf8.size line.toList)).result = .clean v := by
  rw [Outcome.toExcept_eq_ok_iff, result_calculate, Outcome.eq_clean_iff, Outcome.eq_clean_iff,
    Outcome.value_absorb, Outcome.faults_absorb, FaultSet.union_eq_empty_iff]
  constructor
  · rintro ⟨value, parsed, scanned⟩
    exact ⟨scanned, value, parsed⟩
  · rintro ⟨scanned, value, parsed⟩
    exact ⟨value, parsed, scanned⟩

/-- **A line that spells an expression has its outcome.** -/
theorem result_calculate_of_spells {line : String} {phrase : Phrase .sum}
    (hn : phrase.nesting ≤ maxNesting) (h : Spells line.toList phrase.tokens) :
    (calculate line).result = phrase.outcome := by
  obtain ⟨clean, tokens⟩ := spells_iff.1 h
  rw [result_calculate, result_parse_of_tokens isReadable_of_mem_scan hn tokens, Outcome.absorb,
    clean, FaultSet.union_empty]

/-- **A line spells one expression at most.** -/
theorem Spells.unique {line : List Char} {phrase other : Phrase .sum}
    (h : Spells line phrase.tokens) (h' : Spells line other.tokens) : phrase = other :=
  Phrase.tokens_injective ((spells_iff.1 h).2.symm.trans (spells_iff.1 h').2)

/-- **A line that is not malformed spells an expression,** not nested too deep. -/
theorem exists_spells_of_calculate {line : String}
    (clean : ¬ .malformed ∈ (calculate line).result.faults) :
    ∃ phrase : Phrase .sum, phrase.nesting ≤ maxNesting ∧ Spells line.toList phrase.tokens := by
  rw [result_calculate, Outcome.faults_absorb, FaultSet.mem_union, not_or] at clean
  obtain ⟨parsed, scanned⟩ := clean
  obtain ⟨phrase, hn, tokens, -⟩ := exists_phrase_of_parse isReadable_of_mem_scan parsed
  rw [scan, Scan.mem_faults_lexemesFrom, eq_self, true_and] at scanned
  exact ⟨phrase, hn, spells_iff.2 ⟨faults_scan_eq_empty_iff.2 scanned, tokens.symm⟩⟩

/-- **The value of a line is that of the expression it spells.**  A line has a value exactly when
it spells an expression that is not nested too deep and has this value over the integers, and no
line spells two expressions. -/
theorem calculate_eq_ok_iff (line : String) (v : Int) :
    ((calculate line).result.toExcept = .ok v ↔
      ∃ phrase : Phrase .sum, phrase.nesting ≤ maxNesting ∧ Spells line.toList phrase.tokens ∧
        phrase.value? = some v) ∧
    ∀ phrase other : Phrase .sum, Spells line.toList phrase.tokens →
      Spells line.toList other.tokens → phrase = other := by
  refine ⟨⟨?_, ?_⟩, ?_⟩
  · intro h
    obtain ⟨scanned, parsed⟩ := toExcept_calculate_iff.1 h
    have clean : ¬ .malformed ∈
        (parse (scan line.toList).result.value (Utf8.size line.toList)).result.faults := by
      rw [parsed]
      exact FaultSet.not_mem_empty _
    obtain ⟨phrase, hn, tokens, outcome⟩ := exists_phrase_of_parse isReadable_of_mem_scan clean
    refine ⟨phrase, hn, spells_iff.2 ⟨scanned, tokens.symm⟩, ?_⟩
    rw [Phrase.value?_eq_some_iff, ← outcome, parsed]
  · rintro ⟨phrase, hn, spells, value⟩
    rw [result_calculate_of_spells hn spells, Outcome.toExcept_eq_ok_iff]
    exact Phrase.value?_eq_some_iff.1 value
  · intro phrase other hp ho
    exact Phrase.tokens_injective ((spells_iff.1 hp).2.symm.trans (spells_iff.1 ho).2)

/-- A line with blanks, a sign, a group and operators of both precedences, and its expression. -/
theorem calculate_eq_ok_seventeen :
    (calculate "8 - -(1+2) *3").result.toExcept = .ok 17 ∧
      ∃ phrase : Phrase .sum, ∀ other : Phrase .sum,
        Spells "8 - -(1+2) *3".toList other.tokens → phrase = other := by
  let one : Phrase .sum := .single (.single (.unsigned (.literal ['1'])))
  let three : Phrase .sum := .joined one .plus rfl (.single (.unsigned (.literal ['2'])))
  let eight : Phrase .sum := .single (.single (.unsigned (.literal ['8'])))
  let whole : Phrase .sum := .joined eight .minus rfl
    (.joined (.single (.negated (.group three))) .times rfl (.unsigned (.literal ['3'])))
  have spells : Spells "8 - -(1+2) *3".toList whole.tokens := spells_iff.2 (by decide)
  obtain ⟨value, unique⟩ := calculate_eq_ok_iff "8 - -(1+2) *3" 17
  refine ⟨value.2 ⟨whole, by decide, spells, by decide⟩, whole, ?_⟩
  intro other
  exact unique whole other spells

/-- **Exactly what is no expression is malformed,** whatever else is wrong with it.  For lexemes
that means that their tokens are no expression, nested as deep as is allowed; for a line, that it
has a character outside the alphabet or that its tokens are no such expression. -/
theorem malformed_iff_not_derivable :
    (∀ (lexemes : List Lexeme) (stop : Nat),
      (∀ lexeme ∈ lexemes, ∀ digits, lexeme.token = .number digits →
        ∀ c ∈ digits, c.isDigit = true) →
      (.malformed ∈ (parse lexemes stop).result.faults ↔
        ¬ Derivable .sum maxNesting (lexemes.map Lexeme.token))) ∧
    ∀ line : String,
      .malformed ∈ (calculate line).result.faults ↔
        (∃ c ∈ line.toList,
          c.isDigit = false ∧ c ∉ ['+', '-', '*', '/', '(', ')', ' ', '\t']) ∨
        ¬ Derivable .sum maxNesting ((scan line.toList).result.value.map Lexeme.token) := by
  constructor
  · intro lexemes stop digits
    exact malformed_parse_iff fun lexeme h => Token.isReadable_of_isDigit (digits lexeme h)
  · intro line
    have scanned : .malformed ∈ (scan line.toList).result.faults ↔
        ∃ c ∈ line.toList, c.isDigit = false ∧ c ∉ ['+', '-', '*', '/', '(', ')', ' ', '\t'] := by
      rw [scan, Scan.mem_faults_lexemesFrom, Piece.hasForeign_rowOf_iff]
      simp only [true_and, Piece.isProper_foreign_iff]
    rw [result_calculate, Outcome.faults_absorb, FaultSet.mem_union,
      malformed_parse_iff isReadable_of_mem_scan, scanned, or_comm]

/-- A zero divisor is not malformed, and a character outside the alphabet is. -/
theorem malformed_iff_not_derivable_quotient :
    ¬ .malformed ∈ (parse [⟨.number ['1'], 0⟩, ⟨.slash, 1⟩, ⟨.number ['0'], 2⟩] 3).result.faults ∧
      .malformed ∈ (calculate "1/€").result.faults := by
  constructor
  · rw [malformed_iff_not_derivable.1 _ _ (by simp), not_not]
    exact ⟨.single (.joined (.single (.unsigned (.literal ['1']))) .dividedBy rfl
      (.unsigned (.literal ['0']))), by decide, rfl⟩
  · rw [malformed_iff_not_derivable.2]
    exact .inl ⟨'€', by decide, by decide⟩

/-- **A line is calculated as its expression is evaluated.**  Whatever blanks an expression is
written with, and whatever is wrong with its literals and operations, its line has the outcome of
the expression: its value or the placeholder, and all its faults. -/
theorem result_calculate_layout (phrase : Phrase .sum)
    (digits : ∀ text, .number text ∈ phrase.tokens → text ≠ [] ∧ ∀ c ∈ text, c.isDigit = true)
    (nested : phrase.nesting ≤ maxNesting) (gap : Nat → List Char)
    (blanks : ∀ i, ∀ c ∈ gap i, isBlank c = true) :
    (calculate (String.ofList (layout gap phrase.tokens))).result = phrase.outcome := by
  have proper : ∀ token ∈ phrase.tokens, token.IsProper := by
    intro token h
    cases token with
    | number text => exact digits text h
    | blank => exact phrase.blank_not_mem_tokens h
    | plus | minus | star | slash | opening | closing => trivial
  apply result_calculate_of_spells nested
  rw [String.toList_ofList]
  exact spells_layout proper blanks (separates_of_isChain phrase.isChain_tokens gap)

/-- The placeholder stands for a quotient by zero, and the sum goes on with it. -/
theorem result_calculate_layout_sum :
    (calculate " -7 / 0 + 3 ").result = ⟨3, {.zeroDivisor}⟩ := by
  let quotient : Phrase .sum := .single (.joined (.single (.negated (.literal ['7']))) .dividedBy
    rfl (.unsigned (.literal ['0'])))
  let sum : Phrase .sum := .joined quotient .plus rfl (.single (.unsigned (.literal ['3'])))
  let gap (i : Nat) : List Char := if i = 1 then [] else [' ']
  have digits : ∀ text, .number text ∈ sum.tokens → text ≠ [] ∧ ∀ c ∈ text, c.isDigit = true := by
    intro text h
    have : text = ['7'] ∨ text = ['0'] ∨ text = ['3'] := by
      simpa [sum, quotient, Phrase.tokens, Operator.token] using h
    rcases this with rfl | rfl | rfl <;>
      exact ⟨List.cons_ne_nil _ _, List.forall_mem_singleton.2 rfl⟩
  have blanks : ∀ i, ∀ c ∈ gap i, isBlank c = true := by
    intro i c hc
    by_cases first : i = 1
    · simp [gap, first] at hc
    · obtain rfl : c = ' ' := by simpa [gap, first] using hc
      rfl
  exact result_calculate_layout sum digits (by decide) gap blanks

end Calculator
