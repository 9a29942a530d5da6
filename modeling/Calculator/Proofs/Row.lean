/-
# Lines as rows of pieces

Every line is one row of pieces.  `Piece.rowOf` builds the row from the right
end of the line, one character after another, just as the scan goes; its pieces
are proper, it spells the line (`Piece.isRow_rowOf`, `Piece.spelling_rowOf`),
and no other row does (`Piece.rowOf_spelling`).

The scan finds the lexemes of that row and objects to its foreign characters
and to nothing else (`Scan.value_lexemesFrom`, `Scan.mem_faults_lexemesFrom`),
so a line spells tokens exactly when the scan finds these tokens and no fault
(`spells_iff`).
-/

import Calculator.Piece
import Calculator.Scan

namespace Calculator

/-! ### Kinds of characters -/

theorem isBlank_of_isDigit {c : Char} (h : c.isDigit = true) : isBlank c = false := by
  cases hb : isBlank c with
  | false => rfl
  | true =>
    rw [isBlank, Bool.or_eq_true, beq_iff_eq, beq_iff_eq] at hb
    rcases hb with rfl | rfl <;> exact absurd h (by decide)

namespace Token

/-- A character that is a token by itself is no blank and no digit, and its token is no number. -/
theorem of_ofChar? {c : Char} {token : Token} (h : ofChar? c = some token) :
    isBlank c = false ∧ c.isDigit = false ∧ ∀ digits, token ≠ number digits := by
  unfold ofChar? at h
  split at h
  case h_7 => cases h
  all_goals
    obtain rfl := Option.some.inj h
    exact ⟨by decide, by decide, by simp⟩

end Token

namespace Piece

/-- A character is a blank, a digit, a token or foreign. -/
theorem kinds (c : Char) :
    isBlank c = true ∨ c.isDigit = true ∨ (∃ token, Token.ofChar? c = some token) ∨
      (foreign c).IsProper := by
  cases hb : isBlank c <;> cases hd : c.isDigit <;> cases ht : Token.ofChar? c <;>
    simp [IsProper, hb, hd, ht]

/-! ### Rows from the right -/

/-- Puts a digit in front of a row: into the run of digits there, or as a new one. -/
def consDigit (digit : Char) : List Piece → List Piece
  | number digits :: row => number (digit :: digits) :: row
  | row => number [digit] :: row

/-- Puts a character in front of a row. -/
def cons (c : Char) (row : List Piece) : List Piece :=
  if isBlank c then blank c :: row
  else if c.isDigit then consDigit c row
  else match Token.ofChar? c with
    | some token => mark c token :: row
    | none => foreign c :: row

/-- **The row of a line.** -/
def rowOf (line : List Char) : List Piece := line.foldr cons []

section Cons

variable {c : Char} {row : List Piece}

theorem cons_blank (h : isBlank c = true) : cons c row = blank c :: row := if_pos h

theorem cons_digit (h : c.isDigit = true) : cons c row = consDigit c row := by
  rw [cons, isBlank_of_isDigit h, if_neg Bool.false_ne_true, if_pos h]

theorem cons_mark {token : Token} (h : Token.ofChar? c = some token) :
    cons c row = mark c token :: row := by
  obtain ⟨hb, hd, -⟩ := Token.of_ofChar? h
  rw [cons, hb, hd, if_neg Bool.false_ne_true, if_neg Bool.false_ne_true, h]

theorem cons_foreign (h : (foreign c).IsProper) : cons c row = foreign c :: row := by
  obtain ⟨hb, hd, ht⟩ := h
  rw [cons, hb, hd, if_neg Bool.false_ne_true, if_neg Bool.false_ne_true, ht]

/-- A digit is a new run in front of a row that does not begin with one. -/
theorem consDigit_of_not_number (h : ∀ next ∈ row.head?, next.isNumber = false) :
    consDigit c row = number [c] :: row := by
  unfold consDigit
  split
  · next digits rest => exact absurd (h (number digits) rfl) (by simp [isNumber])
  · rfl

/-- A row begins with a run of digits, or a digit in front of it is a run of its own. -/
theorem consDigit_cases (c : Char) (row : List Piece) :
    (∃ digits rest, row = number digits :: rest ∧
        consDigit c row = number (c :: digits) :: rest) ∨
      ((∀ next ∈ row.head?, next.isNumber = false) ∧ consDigit c row = number [c] :: row) := by
  unfold consDigit
  split
  · next digits rest => exact .inl ⟨digits, rest, rfl, rfl⟩
  · next h =>
    refine .inr ⟨?_, rfl⟩
    intro next hn
    cases row with
    | nil => cases hn
    | cons piece rest =>
      obtain rfl := Option.some.inj hn
      cases piece with
      | number digits => exact (h digits rest rfl).elim
      | mark | blank | foreign => rfl

end Cons

theorem spelling_piece (piece : Piece) (row : List Piece) :
    spelling (piece :: row) = piece.text ++ spelling row := List.flatMap_cons

theorem isRow_cons_iff {piece : Piece} {row : List Piece} :
    IsRow (piece :: row) ↔ piece.IsProper ∧
      (∀ next ∈ row.head?, (piece.isNumber && next.isNumber) = false) ∧ IsRow row := by
  cases row with
  | nil => simp [IsRow]
  | cons next rest => simp [IsRow]

theorem isRow_cons (c : Char) {row : List Piece} (h : IsRow row) : IsRow (cons c row) := by
  rcases kinds c with blank | digit | ⟨token, mark⟩ | foreign
  · rw [cons_blank blank]
    exact isRow_cons_iff.2 ⟨blank, fun _ _ => rfl, h⟩
  · rw [cons_digit digit]
    rcases consDigit_cases c row with ⟨digits, rest, rfl, run⟩ | ⟨apart, run⟩
    · obtain ⟨⟨-, all⟩, apart, h⟩ := isRow_cons_iff.1 h
      rw [run]
      exact isRow_cons_iff.2
        ⟨⟨List.cons_ne_nil _ _, List.forall_mem_cons.2 ⟨digit, all⟩⟩, apart, h⟩
    · rw [run]
      exact isRow_cons_iff.2
        ⟨⟨List.cons_ne_nil _ _, by simpa using digit⟩, fun next hn => apart next hn, h⟩
  · rw [cons_mark mark]
    exact isRow_cons_iff.2 ⟨mark, fun _ _ => rfl, h⟩
  · rw [cons_foreign foreign]
    exact isRow_cons_iff.2 ⟨foreign, fun _ _ => rfl, h⟩

theorem spelling_cons (c : Char) (row : List Piece) : spelling (cons c row) = c :: spelling row := by
  rcases kinds c with blank | digit | ⟨token, mark⟩ | foreign
  · rw [cons_blank blank]; rfl
  · rw [cons_digit digit]
    rcases consDigit_cases c row with ⟨digits, rest, rfl, run⟩ | ⟨-, run⟩ <;> rw [run] <;> rfl
  · rw [cons_mark mark]; rfl
  · rw [cons_foreign foreign]; rfl

/-- **The row of a line is a row,** -/
theorem isRow_rowOf (line : List Char) : IsRow (rowOf line) := by
  induction line with
  | nil => trivial
  | cons c line ih => exact isRow_cons c ih

/-- **it spells the line,** -/
theorem spelling_rowOf (line : List Char) : spelling (rowOf line) = line := by
  induction line with
  | nil => rfl
  | cons c line ih =>
    rw [rowOf, List.foldr_cons, ← rowOf, spelling_cons, ih]

theorem foldr_cons_digits {digits : List Char} {row : List Piece} (hd : digits ≠ [])
    (all : ∀ c ∈ digits, c.isDigit = true) (apart : ∀ next ∈ row.head?, next.isNumber = false) :
    digits.foldr cons row = number digits :: row := by
  induction digits with
  | nil => exact absurd rfl hd
  | cons c digits ih =>
    obtain ⟨digit, all⟩ := List.forall_mem_cons.1 all
    rw [List.foldr_cons, cons_digit digit]
    cases digits with
    | nil => exact consDigit_of_not_number apart
    | cons c' digits => rw [ih (List.cons_ne_nil _ _) all]; rfl

/-- **and no other row spells the line.** -/
theorem rowOf_spelling {row : List Piece} (h : IsRow row) : rowOf (spelling row) = row := by
  induction row with
  | nil => rfl
  | cons piece row ih =>
    obtain ⟨proper, apart, h⟩ := isRow_cons_iff.1 h
    rw [spelling_piece, rowOf, List.foldr_append, ← rowOf, ih h]
    cases piece with
    | number digits => exact foldr_cons_digits proper.1 proper.2 apart
    | mark char token => exact cons_mark proper
    | blank char => exact cons_blank proper
    | foreign char => exact cons_foreign proper

/-! ### Foreign characters -/

theorem hasForeign_cons {c : Char} {row : List Piece} :
    HasForeign (cons c row) ↔ (foreign c).IsProper ∨ HasForeign row := by
  rcases kinds c with blank | digit | ⟨token, mark⟩ | foreign
  · rw [cons_blank blank]
    simp [HasForeign, IsProper, blank]
  · rw [cons_digit digit]
    rcases consDigit_cases c row with ⟨digits, rest, rfl, run⟩ | ⟨-, run⟩ <;> rw [run] <;>
      simp [HasForeign, IsProper, digit]
  · rw [cons_mark mark]
    simp [HasForeign, IsProper, mark]
  · rw [cons_foreign foreign]
    exact iff_of_true ⟨c, List.mem_cons_self⟩ (.inl foreign)

/-- **The row of a line has a foreign character when the line does.** -/
theorem hasForeign_rowOf_iff {line : List Char} :
    HasForeign (rowOf line) ↔ ∃ c ∈ line, (foreign c).IsProper := by
  induction line with
  | nil => simp [rowOf, HasForeign]
  | cons c line ih =>
    rw [rowOf, List.foldr_cons, ← rowOf, hasForeign_cons, ih]
    simp only [List.mem_cons, exists_eq_or_imp]

/-- The characters of the alphabet are the digits, six signs, space and tab. -/
theorem isProper_foreign_iff {c : Char} :
    (foreign c).IsProper ↔
      c.isDigit = false ∧ c ∉ ['+', '-', '*', '/', '(', ')', ' ', '\t'] := by
  have sign : Token.ofChar? c = none ↔ c ∉ ['+', '-', '*', '/', '(', ')'] := by
    unfold Token.ofChar?
    split <;> simp_all
  rw [IsProper, sign]
  simp only [isBlank, Bool.or_eq_false_iff, beq_eq_false_iff_ne, List.mem_cons, List.not_mem_nil,
    or_false, not_or]
  constructor
  · rintro ⟨⟨space, tab⟩, digit, plus, minus, star, slash, opening, closing⟩
    exact ⟨digit, plus, minus, star, slash, opening, closing, space, tab⟩
  · rintro ⟨digit, plus, minus, star, slash, opening, closing, space, tab⟩
    exact ⟨⟨space, tab⟩, digit, plus, minus, star, slash, opening, closing⟩

/-! ### Tokens and lexemes of a row -/

theorem map_token_lexemes (column : Nat) (row : List Piece) :
    (lexemes column row).map Lexeme.token = tokens row := by
  induction row generalizing column with
  | nil => rfl
  | cons piece row ih =>
    rw [lexemes, tokens]
    cases h : piece.token? with
    | none => rw [List.filterMap_cons_none h]; exact ih _
    | some token => rw [List.filterMap_cons_some h, List.map_cons, ih]; rfl

theorem IsRow.isProper {row : List Piece} (h : IsRow row) : ∀ piece ∈ row, piece.IsProper := by
  induction row with
  | nil => simp
  | cons piece row ih =>
    obtain ⟨proper, -, h⟩ := isRow_cons_iff.1 h
    exact List.forall_mem_cons.2 ⟨proper, ih h⟩

/-- The numbers of a row are runs of digits. -/
theorem IsRow.isDigit_of_mem_tokens {row : List Piece} (h : IsRow row) {digits : List Char}
    (number : .number digits ∈ tokens row) : ∀ c ∈ digits, c.isDigit = true := by
  obtain ⟨piece, hp, ht⟩ := List.mem_filterMap.1 number
  have proper := h.isProper piece hp
  cases piece with
  | number text =>
    obtain rfl := Token.number.inj (Option.some.inj ht)
    exact proper.2
  | mark char token =>
    obtain rfl := Option.some.inj ht
    exact absurd rfl ((Token.of_ofChar? proper).2.2 digits)
  | blank | foreign => cases ht

/-- No lexeme of a row starts before the row does. -/
theorem le_column_of_mem_lexemes {column : Nat} {row : List Piece} {lexeme : Lexeme}
    (h : lexeme ∈ lexemes column row) : column ≤ lexeme.column := by
  induction row generalizing column with
  | nil => cases h
  | cons piece row ih =>
    rw [lexemes] at h
    cases ht : piece.token? with
    | none =>
      rw [ht] at h
      exact Nat.le_trans (Nat.le_add_right ..) (ih h)
    | some token =>
      rw [ht] at h
      rcases List.mem_cons.1 h with rfl | h
      · exact Nat.le_refl _
      · exact Nat.le_trans (Nat.le_add_right ..) (ih h)

/-- A row that does not begin with a run of digits has no number where it starts. -/
theorem not_number_of_head_lexemes {row : List Piece} (h : IsRow row)
    (apart : ∀ next ∈ row.head?, next.isNumber = false) {column : Nat} {digits : List Char}
    {rest : List Lexeme} : lexemes column row ≠ ⟨.number digits, column⟩ :: rest := by
  intro found
  cases row with
  | nil => cases found
  | cons piece row =>
    obtain ⟨proper, -, -⟩ := isRow_cons_iff.1 h
    have skipped (c : Char) (ht : piece.token? = none) (hc : piece.text = [c]) : False := by
      rw [lexemes, ht, hc] at found
      have := le_column_of_mem_lexemes (found ▸ List.mem_cons_self)
      have positive := c.utf8Size_pos
      simp at this
      omega
    cases piece with
    | number digits => exact absurd (apart _ rfl) (by simp [isNumber])
    | mark char token =>
      obtain ⟨head, -⟩ := List.cons.inj found
      exact (Token.of_ofChar? proper).2.2 digits (congrArg Lexeme.token head)
    | blank char => exact skipped char rfl rfl
    | foreign char => exact skipped char rfl rfl

end Piece

namespace Scan

open Piece

section Steps

variable {c : Char} {column : Nat} {line : List Char}

theorem lexemesFrom_blank (h : isBlank c = true) :
    lexemesFrom column (c :: line) = lexemesFrom (column + c.utf8Size) line := if_pos h

theorem lexemesFrom_digit (h : c.isDigit = true) :
    lexemesFrom column (c :: line) =
      Outcome.map (joinDigit c column) <$> lexemesFrom (column + c.utf8Size) line := by
  rw [lexemesFrom]
  simp only [isBlank_of_isDigit h, h, if_true, Bool.false_eq_true, if_false]

theorem lexemesFrom_mark {token : Token} (h : Token.ofChar? c = some token) :
    lexemesFrom column (c :: line) =
      Outcome.map (⟨token, column⟩ :: ·) <$> lexemesFrom (column + c.utf8Size) line := by
  obtain ⟨hb, hd, -⟩ := Token.of_ofChar? h
  rw [lexemesFrom]
  simp only [hb, hd, h, Bool.false_eq_true, if_false]

theorem lexemesFrom_foreign (h : (foreign c).IsProper) :
    lexemesFrom column (c :: line) = (do
      Run.report (.unrecognized column c)
      (·.record .malformed) <$> lexemesFrom (column + c.utf8Size) line) := by
  obtain ⟨hb, hd, ht⟩ := h
  rw [lexemesFrom]
  simp only [hb, hd, ht, Bool.false_eq_true, if_false]

end Steps

/-- A digit joins the lexemes of the row behind it as it joins the row. -/
theorem joinDigit_lexemes (c : Char) {row : List Piece} (h : IsRow row) (column : Nat) :
    joinDigit c column (lexemes (column + c.utf8Size) row) = lexemes column (consDigit c row) := by
  rcases consDigit_cases c row with ⟨digits, rest, rfl, run⟩ | ⟨apart, run⟩
  · rw [run]
    simp [lexemes, token?, text, joinDigit, Nat.add_assoc]
  · have alone : joinDigit c column (lexemes (column + c.utf8Size) row) =
        ⟨.number [c], column⟩ :: lexemes (column + c.utf8Size) row := by
      unfold joinDigit
      split
      · next digits next rest found =>
        rw [found, if_neg]
        rintro rfl
        exact not_number_of_head_lexemes h apart found
      · rfl
    rw [run, alone]
    simp [lexemes, token?, text]

/-- **The scan finds the lexemes of the row of a line.** -/
theorem value_lexemesFrom (column : Nat) (line : List Char) :
    (lexemesFrom column line).result.value = lexemes column (rowOf line) := by
  induction line generalizing column with
  | nil => rfl
  | cons c line ih =>
    rw [rowOf, List.foldr_cons, ← rowOf]
    rcases kinds c with blank | digit | ⟨token, mark⟩ | foreign
    · rw [lexemesFrom_blank blank, cons_blank blank, ih]
      simp [lexemes, token?, text]
    · rw [lexemesFrom_digit digit, cons_digit digit, Run.result_map, Outcome.value_map, ih,
        joinDigit_lexemes c (isRow_rowOf line)]
    · rw [lexemesFrom_mark mark, cons_mark mark, Run.result_map, Outcome.value_map, ih]
      simp [lexemes, token?, text]
    · rw [lexemesFrom_foreign foreign, cons_foreign foreign, Run.result_bind, Run.result_map,
        Outcome.value_record, ih]
      simp [lexemes, token?, text]

/-- **The scan objects to foreign characters and to nothing else.** -/
theorem mem_faults_lexemesFrom {fault : Fault} {column : Nat} {line : List Char} :
    fault ∈ (lexemesFrom column line).result.faults ↔
      fault = .malformed ∧ HasForeign (rowOf line) := by
  induction line generalizing column with
  | nil => simp [lexemesFrom, rowOf, HasForeign]
  | cons c line ih =>
    rw [rowOf, List.foldr_cons, ← rowOf, hasForeign_cons]
    rcases kinds c with blank | digit | ⟨token, mark⟩ | foreign
    · have familiar : ¬ (Piece.foreign c).IsProper := by simp [IsProper, blank]
      rw [lexemesFrom_blank blank, ih, or_iff_right familiar]
    · have familiar : ¬ (Piece.foreign c).IsProper := by simp [IsProper, digit]
      rw [lexemesFrom_digit digit, Run.result_map, Outcome.faults_map, ih, or_iff_right familiar]
    · have familiar : ¬ (Piece.foreign c).IsProper := by simp [IsProper, mark]
      rw [lexemesFrom_mark mark, Run.result_map, Outcome.faults_map, ih, or_iff_right familiar]
    · rw [lexemesFrom_foreign foreign, Run.result_bind, Run.result_map, Outcome.faults_record,
        FaultSet.mem_insert, ih]
      have found : (Piece.foreign c).IsProper ∨ HasForeign (rowOf line) := .inl foreign
      rw [or_iff_left_of_imp And.left, and_iff_left found]

end Scan

theorem faults_scan_eq_empty_iff {line : List Char} :
    (scan line).result.faults = ∅ ↔ ¬ Piece.HasForeign (Piece.rowOf line) := by
  simp [FaultSet.eq_empty_iff, scan, Scan.mem_faults_lexemesFrom]

theorem map_token_scan (line : List Char) :
    (scan line).result.value.map Lexeme.token = Piece.tokens (Piece.rowOf line) := by
  rw [scan, Scan.value_lexemesFrom, Piece.map_token_lexemes]

/-- **A line spells tokens when the scan finds them** and no fault. -/
theorem spells_iff {line : List Char} {tokens : List Token} :
    Spells line tokens ↔
      (scan line).result.faults = ∅ ∧ (scan line).result.value.map Lexeme.token = tokens := by
  rw [faults_scan_eq_empty_iff, map_token_scan]
  constructor
  · rintro ⟨row, isRow, clean, rfl, rfl⟩
    rw [Piece.rowOf_spelling isRow]
    exact ⟨clean, rfl⟩
  · rintro ⟨clean, rfl⟩
    exact ⟨Piece.rowOf line, Piece.isRow_rowOf line, clean, Piece.spelling_rowOf line, rfl⟩

end Calculator
