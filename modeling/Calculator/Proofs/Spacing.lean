/-
# Spacing does not matter

What a line is worth depends on its tokens and on nothing else, be the line
well formed or not.  Two facts make this up:

* The rules read tokens.  The columns of the lexemes and the column where the
  line ends go into the log only, so rests with the same tokens lead every rule
  to the same outcome and leave the same tokens (`Rule.ReadsTokens`).  Each way
  to build a rule keeps this, as in `Calculator.Proofs.Reading`, but here it is
  about two runs and about any tokens at all.
* Blanks separate tokens and do nothing else.  Put into a line they leave its
  tokens as they are, unless they part two digits; and a character outside the
  alphabet separates tokens just as a blank does.  The lines grow from the right
  like their rows, and the relation that survives every character in front is
  `Piece.Alike`.
-/

import Calculator.Proofs.Calculation
import Calculator.Proofs.Partition

namespace Calculator

/-! ### Rules read tokens -/

namespace Rest

theorem tokens_advance (rest : Rest) : rest.advance.tokens = rest.tokens.tail := List.map_tail

section Congr

variable {rest other : Rest} (h : rest.tokens = other.tokens)
include h

theorem token?_congr : rest.token? = other.token? := by
  rw [token?_eq_head?, token?_eq_head?, h]

theorem advance_congr : rest.advance.tokens = other.advance.tokens := by
  rw [tokens_advance, tokens_advance, h]

theorem operator?_congr (precedence : Precedence) :
    rest.operator? precedence = other.operator? precedence := by
  rw [operator?, operator?, token?_congr h]

theorem remaining_congr : rest.remaining = other.remaining := by
  have length := congrArg List.length h
  rwa [tokens, tokens, List.length_map, List.length_map] at length

end Congr

end Rest

/-- **Two findings agree** when they have the same outcome and leave the same tokens. -/
structure Parsed.Agrees (found other : Parsed) : Prop where
  outcome : found.outcome = other.outcome
  tokens : found.rest.tokens = other.rest.tokens

/-- The column of a literal is not part of its outcome. -/
theorem result_literal_congr (digits : List Char) (column other : Nat) :
    (literal digits column).result = (literal digits other).result := by
  simp only [literal, Run.result_bind]
  split <;> rfl

/-- The column of an operator is not part of the outcome. -/
theorem Outcome.result_combine_congr (operator : Operator) (left right : Outcome Int)
    (column other : Nat) :
    (left.combine operator right column).result = (left.combine operator right other).result := by
  simp only [combine, Run.result_bind]
  split <;> rfl

namespace Rule

/-- **A rule reads tokens:** from the same tokens it finds the same, wherever they stand. -/
def ReadsTokens (rule : Rule) : Prop :=
  ∀ {rest other : Rest}, rest.tokens = other.tokens →
    (rule.run rest).result.Agrees (rule.run other).result

theorem readsTokens_tooDeep (depth : Nat) : (tooDeep depth).ReadsTokens := fun h => ⟨rfl, h⟩

theorem readsTokens_group (depth : Nat) {inner : Rule} (h : inner.ReadsTokens) :
    (group depth inner).ReadsTokens := by
  intro rest other same
  obtain ⟨outcome, tokens⟩ := h (Rest.advance_congr same)
  rw [result_group, result_group]
  dsimp only
  rw [Rest.token?_congr tokens]
  split
  · exact ⟨outcome, Rest.advance_congr tokens⟩
  · exact ⟨congrArg (Outcome.record · .malformed) outcome, tokens⟩

theorem readsTokens_operand {group : Rule} (h : group.ReadsTokens) :
    (operand group).ReadsTokens := by
  intro rest other same
  have next := Rest.token?_congr same
  unfold operand
  dsimp only
  rw [next]
  split
  · exact ⟨result_literal_congr .., Rest.advance_congr same⟩
  · exact h same
  · exact ⟨rfl, same⟩

theorem readsTokens_signed {operand : Rule} (h : operand.ReadsTokens) :
    (signed operand).ReadsTokens := by
  intro rest other same
  rw [result_signed, result_signed, Rest.token?_congr same]
  split
  · obtain ⟨outcome, tokens⟩ := h (Rest.advance_congr same)
    exact ⟨congrArg (Outcome.map (-·)) outcome, tokens⟩
  · exact h same

/-- The links of a chain are the same operators with the same operands, one after another. -/
theorem links_agrees {precedence : Precedence} {operand : Rule} (h : operand.ReadsTokens)
    (left : Outcome Int) (rest : Rest) :
    ∀ {other : Rest}, rest.tokens = other.tokens →
      (links precedence operand left rest).result.Agrees
        (links precedence operand left other).result := by
  fun_induction links precedence operand left rest
  case case1 left rest none =>
    intro other same
    rw [links_of_none (Rest.operator?_congr same precedence ▸ none)]
    exact ⟨rfl, same⟩
  case case2 left rest operator some right shorter ih =>
    intro other same
    obtain ⟨outcome, tokens⟩ := h (Rest.advance_congr same)
    rw [result_links_of_some (Rest.operator?_congr same precedence ▸ some), ← outcome,
      Outcome.result_combine_congr operator left _ other.column rest.column]
    exact ih _ tokens

theorem readsTokens_chain {precedence : Precedence} {operand : Rule} (h : operand.ReadsTokens) :
    (chain precedence operand).ReadsTokens := by
  intro rest other same
  obtain ⟨outcome, tokens⟩ := h same
  simp only [chain, Run.result_bind, outcome]
  exact links_agrees h _ _ tokens

theorem readsTokens_atomWithin (levels depth : Nat) : (atomWithin levels depth).ReadsTokens := by
  induction levels generalizing depth with
  | zero => exact readsTokens_operand (readsTokens_tooDeep depth)
  | succ levels ih =>
    exact readsTokens_operand (readsTokens_group depth
      (readsTokens_chain (readsTokens_chain (readsTokens_signed (ih (depth + 1))))))

/-- **A sum is read from its tokens.** -/
theorem readsTokens_sum (depth : Nat) : (sum depth).ReadsTokens :=
  readsTokens_chain (readsTokens_chain (readsTokens_signed (readsTokens_atomWithin _ depth)))

end Rule

/-- **Lexemes with the same tokens have the same outcome,** wherever they stand and wherever the
line ends. -/
theorem result_parse_congr {lexemes others : List Lexeme}
    (h : lexemes.map Lexeme.token = others.map Lexeme.token) (stop stop' : Nat) :
    (parse lexemes stop).result = (parse others stop').result := by
  have same : Rest.tokens ⟨lexemes, stop⟩ = Rest.tokens ⟨others, stop'⟩ := h
  obtain ⟨outcome, tokens⟩ := Rule.readsTokens_sum 0 same
  rw [result_parse, result_parse]
  dsimp only
  rw [outcome, Rest.remaining_congr tokens]

/-! ### Blanks separate tokens -/

namespace Piece

/-- Whether a row begins with a run of digits. -/
def beginsNumber (row : List Piece) : Bool := row.head?.any isNumber

/-- **Rows that go on alike:** they have the same tokens, and a digit in front of them joins a run
in both or in neither. -/
structure Alike (row other : List Piece) : Prop where
  tokens : tokens row = tokens other
  begins : beginsNumber row = beginsNumber other

theorem Alike.refl (row : List Piece) : Alike row row := ⟨rfl, rfl⟩

section Cons

variable {c : Char} {row other : List Piece}

/-- A character that is no digit is a piece of its own. -/
theorem cons_of_isDigit_eq_false (h : c.isDigit = false) :
    ∃ piece, piece.isNumber = false ∧ ∀ row, cons c row = piece :: row := by
  rcases kinds c with blank | digit | ⟨token, mark⟩ | foreign
  · exact ⟨.blank c, rfl, fun _ => cons_blank blank⟩
  · exact absurd (digit.symm.trans h) (by decide)
  · exact ⟨.mark c token, rfl, fun _ => cons_mark mark⟩
  · exact ⟨.foreign c, rfl, fun _ => cons_foreign foreign⟩

/-- **Behind a character that is no digit** only the tokens matter. -/
theorem alike_cons_of_isDigit_eq_false (h : c.isDigit = false)
    (same : tokens row = tokens other) : Alike (cons c row) (cons c other) := by
  obtain ⟨piece, number, single⟩ := cons_of_isDigit_eq_false h
  rw [single, single]
  refine ⟨?_, rfl⟩
  rw [tokens, tokens, List.filterMap_cons, List.filterMap_cons, ← tokens, ← tokens, same]

theorem tokens_number (digits : List Char) (row : List Piece) :
    tokens (number digits :: row) = .number digits :: tokens row := rfl

theorem beginsNumber_eq_false (apart : ∀ next ∈ row.head?, next.isNumber = false) :
    beginsNumber row = false := by
  cases row with
  | nil => rfl
  | cons piece row => exact apart piece rfl

/-- Rows that go on alike do so with a digit in front as well: it joins the run in both, or is a
run of its own in both. -/
theorem alike_consDigit (c : Char) (h : Alike row other) :
    Alike (consDigit c row) (consDigit c other) := by
  rcases consDigit_cases c row with ⟨digits, rest, rfl, run⟩ | ⟨apart, run⟩ <;>
    rcases consDigit_cases c other with ⟨digits', rest', rfl, run'⟩ | ⟨apart', run'⟩ <;>
      rw [run, run']
  · have tokens := h.tokens
    rw [tokens_number, tokens_number] at tokens
    obtain ⟨same, rest⟩ := List.cons.inj tokens
    obtain rfl := Token.number.inj same
    exact ⟨by rw [tokens_number, tokens_number, rest], rfl⟩
  · exact absurd (h.begins.trans (beginsNumber_eq_false apart')) (Bool.noConfusion ·)
  · exact absurd (h.begins.symm.trans (beginsNumber_eq_false apart)) (Bool.noConfusion ·)
  · exact ⟨by rw [tokens_number, tokens_number, h.tokens], rfl⟩

/-- **Rows that go on alike** do so with any character in front. -/
theorem Alike.cons (c : Char) (h : Alike row other) : Alike (cons c row) (cons c other) := by
  cases digit : c.isDigit with
  | false => exact alike_cons_of_isDigit_eq_false digit h.tokens
  | true =>
    rw [cons_digit digit, cons_digit digit]
    exact alike_consDigit c h

theorem Alike.append (text : List Char) (h : Alike row other) :
    Alike (text.foldr Piece.cons row) (text.foldr Piece.cons other) := by
  induction text with
  | nil => exact h
  | cons c text ih => exact ih.cons c

end Cons

theorem rowOf_append (s t : List Char) : rowOf (s ++ t) = s.foldr cons (rowOf t) :=
  List.foldr_append

theorem tokens_append_blanks (blanks : List Char) (row : List Piece) :
    tokens (blanks.map blank ++ row) = tokens row := by
  induction blanks with
  | nil => rfl
  | cons c blanks ih => exact ih

/-- **Blanks leave the tokens of a line as they are,** unless they part two digits. -/
theorem tokens_rowOf_spaced {before blanks after : List Char}
    (hb : ∀ c ∈ blanks, isBlank c = true)
    (apart : ¬ ((∃ c ∈ before.getLast?, c.isDigit = true) ∧ ∃ c ∈ after.head?, c.isDigit = true)) :
    tokens (rowOf (before ++ (blanks ++ after))) = tokens (rowOf (before ++ after)) := by
  rw [rowOf_append, rowOf_append before, rowOf_append_blanks hb]
  have same := tokens_append_blanks blanks (rowOf after)
  cases blanks with
  | nil => rfl
  | cons space blanks =>
    obtain rfl | ⟨front, c, rfl⟩ := before.eq_nil_or_concat'
    · exact same
    · rw [List.foldr_append, List.foldr_append]
      refine (Alike.append front ?_).tokens
      cases digit : c.isDigit with
      | false => exact alike_cons_of_isDigit_eq_false digit same
      | true =>
        -- What follows is no digit, so neither row begins with a number.
        refine Alike.cons c ⟨same, ?_⟩
        have last : c ∈ (front ++ [c]).getLast? := List.getLast?_concat
        cases after with
        | nil => rfl
        | cons next after =>
          cases digit' : next.isDigit with
          | true => exact absurd ⟨⟨c, last, digit⟩, next, rfl, digit'⟩ apart
          | false =>
            obtain ⟨piece, number, single⟩ := cons_of_isDigit_eq_false digit'
            have row : rowOf (next :: after) = piece :: rowOf after := single _
            rw [row]
            exact number.symm

end Piece

/-- A character, or a space in the place of one outside the alphabet. -/
def blankForeign (c : Char) : Char := if isForeign c then ' ' else c

namespace Piece

theorem isForeign_blankForeign (c : Char) : isForeign (blankForeign c) = false := by
  rw [blankForeign]
  cases foreign : isForeign c with
  | true => rfl
  | false => exact foreign

/-- **A character outside the alphabet separates tokens as a blank does.** -/
theorem alike_rowOf_blankForeign (line : List Char) :
    Alike (rowOf (line.map blankForeign)) (rowOf line) := by
  induction line with
  | nil => exact .refl []
  | cons c line ih =>
    rw [List.map_cons, rowOf, rowOf, List.foldr_cons, List.foldr_cons, ← rowOf, ← rowOf,
      blankForeign]
    cases foreign : isForeign c with
    | false => exact ih.cons c
    | true =>
      rw [if_pos rfl, cons_foreign (isForeign_iff.1 foreign), cons_blank rfl]
      exact ⟨ih.tokens, rfl⟩

end Piece

/-! ### Lines -/

theorem faults_scan (line : List Char) :
    (scan line).result.faults = if line.any isForeign then {.malformed} else ∅ := by
  ext fault
  rw [scan, Scan.mem_faults_lexemesFrom, Piece.hasForeign_rowOf_iff]
  simp only [← isForeign_iff, ← List.any_eq_true]
  cases line.any isForeign <;> simp

/-- **A line is worth what its lexemes are,** and is malformed if anything else is on it. -/
theorem result_calculate_eq_ite (line : String) :
    (calculate line).result =
      let parsed := (parse (scan line.toList).result.value (Utf8.size line.toList)).result
      if line.toList.any isForeign then parsed.record .malformed else parsed := by
  rw [result_calculate, Outcome.absorb, faults_scan]
  cases line.toList.any isForeign with
  | false => rw [if_neg Bool.false_ne_true, if_neg Bool.false_ne_true, FaultSet.union_empty]
  | true =>
    rw [if_pos rfl, if_pos rfl, Outcome.record]
    congr 1
    ext fault
    rw [FaultSet.mem_union, FaultSet.mem_singleton, FaultSet.mem_insert, or_comm]

/-- Lines with the same tokens have lexemes that are worth the same. -/
theorem result_parse_scan_congr {line other : List Char}
    (h : Piece.tokens (Piece.rowOf line) = Piece.tokens (Piece.rowOf other)) (stop stop' : Nat) :
    (parse (scan line).result.value stop).result =
      (parse (scan other).result.value stop').result := by
  refine result_parse_congr ?_ stop stop'
  rw [map_token_scan, map_token_scan, h]

/-- **Spacing does not matter,** on well formed lines or on others.  Blanks that are put anywhere
into a line, but not between two digits, change neither its value nor its faults.  Spaces in the
place of all characters outside the alphabet change nothing either, except that the line was
malformed if it had such a character.  For lexemes this means that their columns and the end of the
line have no part in the outcome. -/
theorem calculate_ignores_spacing :
    (∀ before blanks after : String, (∀ c ∈ blanks.toList, isBlank c = true) →
      ¬ ((∃ c ∈ before.toList.getLast?, c.isDigit = true) ∧
        ∃ c ∈ after.toList.head?, c.isDigit = true) →
      (calculate (before ++ blanks ++ after)).result = (calculate (before ++ after)).result) ∧
    (∀ line : String,
      let blanked := String.ofList (line.toList.map blankForeign)
      (calculate line).result.value = (calculate blanked).result.value ∧
        ∀ fault, fault ∈ (calculate line).result.faults ↔
          fault ∈ (calculate blanked).result.faults ∨
            fault = .malformed ∧ ∃ c ∈ line.toList, isForeign c = true) ∧
    ∀ (lexemes others : List Lexeme) (stop stop' : Nat),
      lexemes.map Lexeme.token = others.map Lexeme.token →
        (parse lexemes stop).result = (parse others stop').result := by
  refine ⟨?_, ?_, fun lexemes others stop stop' h => result_parse_congr h stop stop'⟩
  · intro before blanks after hb apart
    have tokens := Piece.tokens_rowOf_spaced hb apart
    have familiar : blanks.toList.any isForeign = false := by
      refine List.any_eq_false.2 fun c hc foreign => ?_
      exact absurd ((hb c hc).symm.trans (isForeign_iff.1 foreign).1) (by decide)
    rw [result_calculate_eq_ite, result_calculate_eq_ite]
    simp only [String.toList_append, List.append_assoc, List.any_append, familiar, Bool.false_or]
    rw [result_parse_scan_congr tokens]
  · intro line blanked
    have tokens := (Piece.alike_rowOf_blankForeign line.toList).tokens
    have familiar : (line.toList.map blankForeign).any isForeign = false := by
      simp [Piece.isForeign_blankForeign]
    have parsed := result_parse_scan_congr tokens (Utf8.size (line.toList.map blankForeign))
      (Utf8.size line.toList)
    rw [result_calculate_eq_ite, result_calculate_eq_ite, String.toList_ofList, familiar,
      if_neg Bool.false_ne_true, parsed]
    cases any : line.toList.any isForeign with
    | false =>
      have none := List.any_eq_false.1 any
      refine ⟨rfl, fun fault => (or_iff_left ?_).symm⟩
      rintro ⟨-, c, hc, foreign⟩
      exact none c hc foreign
    | true =>
      refine ⟨rfl, fun fault => ?_⟩
      rw [if_pos rfl, Outcome.faults_record, FaultSet.mem_insert, or_comm,
        and_iff_left (List.any_eq_true.1 any)]

/-- Blanks behind a number where an operand and a parenthesis are missing, a sign of the euro between
two numbers, and a number without an operand behind it at other columns. -/
theorem calculate_ignores_spacing_unclosed :
    (calculate ("(12" ++ " \t" ++ "/")).result = (calculate ("(12" ++ "/")).result ∧
      (calculate "1€2").result.value = (calculate "1 2").result.value ∧
      (parse [⟨.number ['7'], 0⟩, ⟨.slash, 1⟩] 2).result =
        (parse [⟨.number ['7'], 3⟩, ⟨.slash, 3⟩] 0).result := by
  obtain ⟨blanks, foreign, columns⟩ := calculate_ignores_spacing
  refine ⟨blanks "(12" " \t" "/" (List.all_eq_true.1 (by decide)) ?_, (foreign "1€2").1,
    columns _ _ 2 0 rfl⟩
  rintro ⟨-, c, hc, digit⟩
  obtain rfl : '/' = c := Option.some.inj hc
  exact absurd digit (by decide)

end Calculator
