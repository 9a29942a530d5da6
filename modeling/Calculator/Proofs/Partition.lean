/-
# How the scan cuts a line

The scan loses nothing.  Every byte of a line lies in one lexeme, or in one
character outside the alphabet, or in one blank, and in one of them only.  A
lexeme stands where its column says, between two characters; its token is
spelled there, and a number is not part of a longer run of digits.

The pieces of a row are laid end to end (`Piece.countP_parts`), and each is a
lexeme, a foreign character or a blank (`Piece.parts_perm`).  As no two runs of
digits stand side by side in a row, a digit next to a number would have to be
part of it (`Piece.isDigit_eq_false_beside`).

The other way round, laid out tokens are scanned into the lexemes that begin
where the tokens were written (`Piece.lexemes_laid`).
-/

import Calculator.Proofs.Layout

namespace Calculator

/-! ### Parts of a line -/

/-- A part of a line: some characters, and the column where they begin. -/
structure Part where
  column : Nat
  text : List Char
deriving DecidableEq

/-- Whether a byte of the line is one of a part. -/
def Part.covers (part : Part) (byte : Nat) : Bool :=
  decide (part.column ≤ byte ∧ byte < part.column + Utf8.size part.text)

/-- The part of a line that a lexeme takes up. -/
def Lexeme.part (lexeme : Lexeme) : Part := ⟨lexeme.column, lexeme.token.text⟩

/-- The part of a line that an event objects to, if it objects to a character. -/
def Event.part? : Event → Option Part
  | unrecognized column char => some ⟨column, [char]⟩
  | _ => none

/-- The characters of a text that pass a test, as parts of the line in which the text begins at a
column. -/
def partsWith (test : Char → Bool) (column : Nat) : List Char → List Part
  | [] => []
  | c :: rest =>
    let following := partsWith test (column + c.utf8Size) rest
    if test c then ⟨column, [c]⟩ :: following else following

theorem partsWith_append (test : Char → Bool) (column : Nat) (s t : List Char) :
    partsWith test column (s ++ t) =
      partsWith test column s ++ partsWith test (column + Utf8.size s) t := by
  induction s generalizing column with
  | nil => rfl
  | cons c s ih =>
    simp only [List.cons_append, partsWith, ih, Utf8.size_cons, Nat.add_assoc]
    split <;> rfl

theorem partsWith_of_forall {test : Char → Bool} {text : List Char}
    (h : ∀ c ∈ text, test c = false) (column : Nat) : partsWith test column text = [] := by
  induction text generalizing column with
  | nil => rfl
  | cons c text ih =>
    obtain ⟨hc, h⟩ := List.forall_mem_cons.1 h
    rw [partsWith, hc, if_neg Bool.false_ne_true, ih h]

/-- Whether a character is outside the alphabet. -/
def isForeign (c : Char) : Bool :=
  !(c.isDigit || ['+', '-', '*', '/', '(', ')', ' ', '\t'].contains c)

theorem isForeign_iff {c : Char} : isForeign c = true ↔ (Piece.foreign c).IsProper := by
  rw [Piece.isProper_foreign_iff, isForeign]
  simp

theorem isForeign_eq_false_iff {c : Char} :
    isForeign c = false ↔ ¬ (Piece.foreign c).IsProper := by
  rw [← isForeign_iff, Bool.not_eq_true]

/-- A character that is a token by itself spells that token, which is no number. -/
theorem Token.isProper_of_ofChar? {c : Char} {token : Token} (h : ofChar? c = some token) :
    token.IsProper ∧ token.text = [c] ∧ token.isNumber = false := by
  unfold ofChar? at h
  split at h
  case h_7 => cases h
  all_goals
    obtain rfl := Option.some.inj h
    exact ⟨trivial, rfl, rfl⟩

namespace Piece

/-- The pieces of a row that starts at a column, end to end. -/
def parts (column : Nat) : List Piece → List Part
  | [] => []
  | piece :: row => ⟨column, piece.text⟩ :: parts (column + Utf8.size piece.text) row

/-- **The pieces of a row are laid end to end:** every byte from the start of the row to its end
is covered by one piece, and no other byte by any. -/
theorem countP_parts (row : List Piece) (column byte : Nat) :
    (parts column row).countP (·.covers byte) =
      if column ≤ byte ∧ byte < column + Utf8.size (spelling row) then 1 else 0 := by
  induction row generalizing column with
  | nil =>
    rw [if_neg (by rw [spelling, List.flatMap_nil, Utf8.size_nil]; omega)]
    rfl
  | cons piece row ih =>
    rw [parts, List.countP_cons, ih, spelling_piece, Utf8.size_append]
    simp only [Part.covers, decide_eq_true_eq]
    split <;> split <;> split <;> omega

/-- The characters of a row that pass a test are those of its pieces. -/
theorem partsWith_spelling (test : Char → Bool) (column : Nat) (piece : Piece) (row : List Piece) :
    partsWith test column (spelling (piece :: row)) =
      partsWith test column piece.text ++
        partsWith test (column + Utf8.size piece.text) (spelling row) := by
  rw [spelling_piece, partsWith_append]

section Kinds

variable {piece : Piece} (h : piece.IsProper) (column : Nat)
include h

/-- A piece has a character outside the alphabet if it is one. -/
theorem partsWith_isForeign_text :
    partsWith isForeign column piece.text =
      match piece with
      | foreign char => [⟨column, [char]⟩]
      | _ => [] := by
  cases piece with
  | number digits =>
    refine partsWith_of_forall (fun c hc => ?_) column
    rw [isForeign, h.2 c hc]; rfl
  | mark char token =>
    refine if_neg (Bool.eq_false_iff.1 (isForeign_eq_false_iff.2 fun foreign => ?_))
    exact absurd (h.symm.trans foreign.2.2) (Option.some_ne_none token)
  | blank char =>
    refine if_neg (Bool.eq_false_iff.1 (isForeign_eq_false_iff.2 fun foreign => ?_))
    exact absurd (h.symm.trans foreign.1) (by decide)
  | foreign char => exact if_pos (isForeign_iff.2 h)

/-- A piece has a blank if it is one. -/
theorem partsWith_isBlank_text :
    partsWith isBlank column piece.text =
      match piece with
      | blank char => [⟨column, [char]⟩]
      | _ => [] := by
  cases piece with
  | number digits => exact partsWith_of_forall (fun c hc => isBlank_of_isDigit (h.2 c hc)) column
  | mark char token => exact if_neg (Bool.eq_false_iff.1 (Token.of_ofChar? h).1)
  | blank char => exact if_pos h
  | foreign char => exact if_neg (Bool.eq_false_iff.1 h.1)

end Kinds

/-- **Each piece of a row is a lexeme, a character outside the alphabet or a blank.** -/
theorem parts_perm {row : List Piece} (h : ∀ piece ∈ row, piece.IsProper) (column : Nat) :
    (parts column row).Perm ((lexemes column row).map Lexeme.part ++
      (partsWith isForeign column (spelling row) ++ partsWith isBlank column (spelling row))) := by
  induction row generalizing column with
  | nil => exact .refl []
  | cons piece row ih =>
    obtain ⟨proper, h⟩ := List.forall_mem_cons.1 h
    have rest := ih h (column + Utf8.size piece.text)
    rw [parts, partsWith_spelling, partsWith_spelling, partsWith_isForeign_text proper,
      partsWith_isBlank_text proper, lexemes]
    cases piece with
    | number digits => exact rest.cons _
    | mark char token =>
      have spelled : Lexeme.part ⟨token, column⟩ = ⟨column, [char]⟩ := by
        rw [Lexeme.part, (Token.isProper_of_ofChar? proper).2.1]
      rw [token?, List.map_cons, spelled]
      exact rest.cons _
    | blank char =>
      refine (rest.cons _).trans ?_
      rw [← List.append_assoc, ← List.append_assoc]
      exact List.perm_middle.symm
    | foreign char => exact (rest.cons _).trans List.perm_middle.symm

/-- **What is objected to in a row** are its characters outside the alphabet. -/
theorem map_part?_objections {row : List Piece} (h : ∀ piece ∈ row, piece.IsProper)
    (column : Nat) :
    (objections column row).map Event.part? =
      (partsWith isForeign column (spelling row)).map some := by
  induction row generalizing column with
  | nil => rfl
  | cons piece row ih =>
    obtain ⟨proper, h⟩ := List.forall_mem_cons.1 h
    rw [partsWith_spelling, partsWith_isForeign_text proper, List.map_append, ← ih h]
    cases piece <;> rfl

/-- Nothing is objected to in a row without characters outside the alphabet. -/
theorem objections_eq_nil {row : List Piece} (h : ¬ HasForeign row) (column : Nat) :
    objections column row = [] := by
  induction row generalizing column with
  | nil => rfl
  | cons piece row ih =>
    have rest : ¬ HasForeign row := by
      rintro ⟨c, hc⟩
      exact h ⟨c, List.mem_cons_of_mem _ hc⟩
    cases piece with
    | foreign char => exact absurd ⟨char, List.mem_cons_self⟩ h
    | number | mark | blank => exact ih rest _

/-- **A lexeme of a row is one of its pieces,** at the column where the pieces before it end. -/
theorem exists_of_mem_lexemes {row : List Piece} {column : Nat} {lexeme : Lexeme}
    (h : lexeme ∈ lexemes column row) :
    ∃ before piece after, row = before ++ piece :: after ∧ piece.token? = some lexeme.token ∧
      column + Utf8.size (spelling before) = lexeme.column := by
  induction row generalizing column with
  | nil => cases h
  | cons first row ih =>
    have further (h : lexeme ∈ lexemes (column + Utf8.size first.text) row) :
        ∃ before piece after, first :: row = before ++ piece :: after ∧
          piece.token? = some lexeme.token ∧
          column + Utf8.size (spelling before) = lexeme.column := by
      obtain ⟨before, piece, after, rfl, token, here⟩ := ih h
      refine ⟨first :: before, piece, after, rfl, token, ?_⟩
      rw [← here, spelling_piece, Utf8.size_append, Nat.add_assoc]
    rw [lexemes] at h
    cases found : first.token? with
    | none =>
      rw [found] at h
      exact further h
    | some token =>
      rw [found] at h
      obtain rfl | h := List.mem_cons.1 h
      · exact ⟨[], first, row, rfl, found, rfl⟩
      · exact further h

/-- A piece has at least one character. -/
theorem text_ne_nil {piece : Piece} (h : piece.IsProper) : piece.text ≠ [] := by
  cases piece with
  | number digits => exact h.1
  | mark | blank | foreign => exact List.cons_ne_nil _ _

theorem size_text_pos {piece : Piece} (h : piece.IsProper) : 0 < Utf8.size piece.text := by
  obtain ⟨c, rest, text⟩ := List.exists_cons_of_ne_nil (text_ne_nil h)
  rw [text, Utf8.size_cons]
  exact Nat.add_pos_left c.utf8Size_pos _

/-- **The lexemes of a row come in the order of their columns,** no two at the same. -/
theorem pairwise_lexemes {row : List Piece} (h : ∀ piece ∈ row, piece.IsProper) (column : Nat) :
    (lexemes column row).Pairwise fun earlier later => earlier.column < later.column := by
  induction row generalizing column with
  | nil => exact .nil
  | cons piece row ih =>
    obtain ⟨proper, h⟩ := List.forall_mem_cons.1 h
    have rest := ih h (column + Utf8.size piece.text)
    rw [lexemes]
    cases piece.token? with
    | none => exact rest
    | some token =>
      refine List.pairwise_cons.2 ⟨fun later hl => ?_, rest⟩
      have := le_column_of_mem_lexemes hl
      have := size_text_pos proper
      dsimp only
      omega

/-- No two pieces of a row that follow each other are both numbers. -/
theorem IsRow.isChain {row : List Piece} (h : IsRow row) :
    row.IsChain fun piece next => (piece.isNumber && next.isNumber) = false := by
  induction row with
  | nil => exact .nil
  | cons piece row ih =>
    obtain ⟨-, apart, h⟩ := isRow_cons_iff.1 h
    exact List.isChain_cons.2 ⟨apart, ih h⟩

/-- Only a number has digits. -/
theorem isDigit_eq_false_of_mem_text {piece : Piece} (h : piece.IsProper) (other : piece.isNumber = false) :
    ∀ c ∈ piece.text, c.isDigit = false := by
  cases piece with
  | number digits => cases other
  | mark char token =>
    exact List.forall_mem_singleton.2 (Token.of_ofChar? h).2.1
  | blank char =>
    refine List.forall_mem_singleton.2 ?_
    cases digit : char.isDigit with
    | false => rfl
    | true => exact absurd (h.symm.trans (isBlank_of_isDigit digit)) (by decide)
  | foreign char => exact List.forall_mem_singleton.2 h.2.1

/-- The character before a piece is one of the piece before it. -/
theorem exists_of_getLast?_spelling {row : List Piece} (h : ∀ piece ∈ row, piece.IsProper)
    {c : Char} (last : c ∈ (spelling row).getLast?) : ∃ piece ∈ row.getLast?, c ∈ piece.text := by
  obtain rfl | ⟨earlier, piece, rfl⟩ := row.eq_nil_or_concat'
  · cases last
  · have nonempty := text_ne_nil (h piece List.mem_concat_self)
    have split : spelling (earlier ++ [piece]) = spelling earlier ++ piece.text := by
      rw [spelling, List.flatMap_append, List.flatMap_singleton]; rfl
    rw [split, List.getLast?_append_of_ne_nil _ nonempty] at last
    exact ⟨piece, List.getLast?_concat, List.mem_of_mem_getLast? last⟩

/-- The character after a piece is one of the piece after it. -/
theorem exists_of_head?_spelling {row : List Piece} (h : ∀ piece ∈ row, piece.IsProper)
    {c : Char} (first : c ∈ (spelling row).head?) : ∃ piece ∈ row.head?, c ∈ piece.text := by
  cases row with
  | nil => cases first
  | cons piece row =>
    have nonempty := text_ne_nil (h piece List.mem_cons_self)
    rw [spelling_piece, List.head?_append_of_ne_nil _ nonempty] at first
    exact ⟨piece, rfl, List.mem_of_mem_head? first⟩

/-- **No digit stands beside a number of a row:** it would be part of the number. -/
theorem isDigit_eq_false_beside {before after : List Piece} {piece : Piece}
    (h : IsRow (before ++ piece :: after)) (number : piece.isNumber = true) :
    (∀ c ∈ (spelling before).getLast?, c.isDigit = false) ∧
      ∀ c ∈ (spelling after).head?, c.isDigit = false := by
  obtain ⟨properBefore, properAfter⟩ := List.forall_mem_append.1 h.isProper
  obtain ⟨-, properAfter⟩ := List.forall_mem_cons.1 properAfter
  obtain ⟨-, chain, last⟩ := List.isChain_append.1 h.isChain
  obtain ⟨first, -⟩ := List.isChain_cons.1 chain
  constructor
  · intro c hc
    obtain ⟨neighbour, hn, mem⟩ := exists_of_getLast?_spelling properBefore hc
    have other := last neighbour hn piece rfl
    rw [number, Bool.and_true] at other
    exact isDigit_eq_false_of_mem_text (properBefore neighbour (List.mem_of_mem_getLast? hn)) other c mem
  · intro c hc
    obtain ⟨neighbour, hn, mem⟩ := exists_of_head?_spelling properAfter hc
    have other := first neighbour hn
    rw [number, Bool.true_and] at other
    exact isDigit_eq_false_of_mem_text (properAfter neighbour (List.mem_of_mem_head? hn)) other c mem

/-- The token of a piece is proper, is spelled like the piece and is a number if the piece is. -/
theorem token?_eq_some {piece : Piece} (h : piece.IsProper) {token : Token}
    (found : piece.token? = some token) :
    token.IsProper ∧ token.text = piece.text ∧ token.isNumber = piece.isNumber := by
  cases piece with
  | number digits =>
    obtain rfl := Option.some.inj found
    exact ⟨h, rfl, rfl⟩
  | mark char token =>
    obtain rfl := Option.some.inj found
    exact Token.isProper_of_ofChar? h
  | blank | foreign => cases found

end Piece

namespace Scan

open Piece

/-- A digit in front of a row adds nothing that is objected to. -/
theorem objections_consDigit (c : Char) (row : List Piece) (column : Nat) :
    objections column (consDigit c row) = objections (column + c.utf8Size) row := by
  rcases consDigit_cases c row with ⟨digits, rest, rfl, run⟩ | ⟨-, run⟩ <;> rw [run]
  · simp only [objections, text, Utf8.size_cons, Nat.add_assoc]
  · simp only [objections, text, Utf8.size_cons, Utf8.size_nil, Nat.add_zero]

/-- **The scan logs what is objected to in the row of a line.** -/
theorem events_lexemesFrom (column : Nat) (line : List Char) :
    (lexemesFrom column line).events = objections column (rowOf line) := by
  induction line generalizing column with
  | nil => rfl
  | cons c line ih =>
    rw [rowOf, List.foldr_cons, ← rowOf]
    rcases kinds c with blank | digit | ⟨token, mark⟩ | foreign
    · rw [lexemesFrom_blank blank, cons_blank blank, ih]; rfl
    · rw [lexemesFrom_digit digit, cons_digit digit, Run.events_map, ih, objections_consDigit]
    · rw [lexemesFrom_mark mark, cons_mark mark, Run.events_map, ih]; rfl
    · rw [lexemesFrom_foreign foreign, cons_foreign foreign, Run.events_bind, Run.events_map, ih]
      rfl

end Scan

/-! ### Laid out tokens -/

/-- The lexemes of tokens laid out from a column on: each token at the column it is written at. -/
def layoutLexemes (gap : Nat → List Char) (column : Nat) : List Token → List Lexeme
  | [] => []
  | token :: tokens =>
    let start := column + Utf8.size (gap 0)
    ⟨token, start⟩ :: layoutLexemes (fun i => gap (i + 1)) (start + Utf8.size token.text) tokens

namespace Piece

theorem lexemes_append_blanks (blanks : List Char) (column : Nat) (row : List Piece) :
    lexemes column (blanks.map blank ++ row) = lexemes (column + Utf8.size blanks) row := by
  induction blanks generalizing column with
  | nil => rfl
  | cons c blanks ih =>
    rw [List.map_cons, List.cons_append, lexemes, token?, ih, text, Utf8.size_cons, Utf8.size_cons,
      Utf8.size_nil, Nat.add_zero, Nat.add_assoc]

/-- **The row of laid out tokens has the tokens as lexemes,** where they are written. -/
theorem lexemes_laid {tokens : List Token} (proper : ∀ token ∈ tokens, token.IsProper)
    (gap : Nat → List Char) (column : Nat) :
    lexemes column (laid gap tokens) = layoutLexemes gap column tokens := by
  induction tokens generalizing gap column with
  | nil =>
    rw [laid, ← List.append_nil (List.map blank (gap 0)), lexemes_append_blanks]
    rfl
  | cons token tokens ih =>
    obtain ⟨hp, hps⟩ := List.forall_mem_cons.1 proper
    rw [laid, lexemes_append_blanks, lexemes, token?_ofToken hp, text_ofToken, ih hps]
    rfl

end Piece

/-! ### The scan -/

/-- **A lexeme stands in a line** when the line, cut at the lexeme's column and where its token
ends, has the token's text in between; and a number has no digit on either side. -/
def Lexeme.StandsIn (lexeme : Lexeme) (line : List Char) : Prop :=
  ∃ before after, line = before ++ (lexeme.token.text ++ after) ∧
    Utf8.size before = lexeme.column ∧
    (lexeme.token.isNumber = true →
      (∀ c ∈ before.getLast?, c.isDigit = false) ∧ ∀ c ∈ after.head?, c.isDigit = false)

/-- **Lexemes and events that a line is cut into.** -/
structure IsCut (line : List Char) (lexemes : List Lexeme) (events : List Event) : Prop where
  /-- Every byte of the line, and no other, is one of a lexeme, of a character objected to or of a
  blank; of one of them only, and once. -/
  once : ∀ byte, (lexemes.map Lexeme.part ++
      (events.filterMap Event.part? ++ partsWith isBlank 0 line)).countP (·.covers byte) =
    if byte < Utf8.size line then 1 else 0
  /-- What is objected to is each character outside the alphabet, at its column. -/
  objections : events.map Event.part? = (partsWith isForeign 0 line).map some
  /-- The lexemes come in the order of their columns, no two at the same. -/
  ordered : lexemes.Pairwise fun earlier later => earlier.column < later.column
  /-- No lexeme is blank, a number is made of digits and has one, and each stands in the line. -/
  stands : ∀ lexeme ∈ lexemes, lexeme.token.IsProper ∧ lexeme.StandsIn line

/-- A row cuts the line it spells. -/
theorem Piece.IsRow.isCut {row : List Piece} (h : IsRow row) :
    IsCut (spelling row) (lexemes 0 row) (objections 0 row) where
  once byte := by
    have objected : (objections 0 row).filterMap Event.part? =
        partsWith isForeign 0 (spelling row) := by
      have all := congrArg (List.filterMap id) (map_part?_objections h.isProper 0)
      rwa [List.filterMap_map, List.filterMap_map, Function.id_comp, Function.id_comp,
        List.filterMap_some] at all
    have parts := (parts_perm h.isProper 0).countP_eq (·.covers byte)
    rw [objected, ← parts, countP_parts]
    simp only [Nat.zero_le, true_and, Nat.zero_add]
  objections := map_part?_objections h.isProper 0
  ordered := pairwise_lexemes h.isProper 0
  stands lexeme hl := by
    obtain ⟨before, piece, after, rfl, found, column⟩ := exists_of_mem_lexemes hl
    have pieceProper := h.isProper piece (List.mem_append_right _ List.mem_cons_self)
    obtain ⟨proper, text, number⟩ := token?_eq_some pieceProper found
    refine ⟨proper, spelling before, spelling after, ?_, ?_, fun digits => ?_⟩
    · rw [text, ← spelling_piece, spelling, List.flatMap_append]; rfl
    · rw [← column, Nat.zero_add]
    · exact isDigit_eq_false_beside h (number ▸ digits)

/-- The row of a line cuts it, and the scan gives what this row does. -/
theorem isCut_scan (line : List Char) :
    IsCut line (scan line).result.value (scan line).events := by
  have cut := (Piece.isRow_rowOf line).isCut
  rwa [Piece.spelling_rowOf, ← Scan.value_lexemesFrom, ← Scan.events_lexemesFrom] at cut

/-- **The scan cuts every line without loss** into lexemes, characters outside the alphabet and
blanks, and finds a line malformed exactly when it has a character outside the alphabet.  Tokens
that are laid out are scanned back, each at the column where it was written. -/
theorem scan_lossless :
    (∀ line, IsCut line (scan line).result.value (scan line).events ∧
      ∀ fault, fault ∈ (scan line).result.faults ↔
        fault = .malformed ∧ ∃ c ∈ line, isForeign c = true) ∧
    ∀ tokens gap, (∀ token ∈ tokens, token.IsProper) → (∀ i, ∀ c ∈ gap i, isBlank c = true) →
      Separates gap tokens →
      (scan (layout gap tokens)).result = .clean (layoutLexemes gap 0 tokens) ∧
        (scan (layout gap tokens)).events = [] := by
  constructor
  · intro line
    refine ⟨isCut_scan line, fun fault => ?_⟩
    rw [scan, Scan.mem_faults_lexemesFrom, Piece.hasForeign_rowOf_iff]
    simp only [isForeign_iff]
  · intro tokens gap proper blanks separates
    have row := Piece.rowOf_layout proper blanks separates
    have clean := Piece.not_hasForeign_laid gap tokens
    constructor
    · rw [Outcome.eq_clean_iff, faults_scan_eq_empty_iff, row, scan, Scan.value_lexemesFrom, row]
      exact ⟨Piece.lexemes_laid proper gap 0, clean⟩
    · rw [scan, Scan.events_lexemesFrom, row, Piece.objections_eq_nil clean]

/-- Two numbers with blanks between them, and one that touches a parenthesis. -/
theorem scan_lossless_layout :
    (scan ['\t', '0', '0', '7', '\t', ' ', '5', '-', '(', '4', '2']).result =
        .clean [⟨.number ['0', '0', '7'], 1⟩, ⟨.number ['5'], 6⟩, ⟨.minus, 7⟩, ⟨.opening, 8⟩,
          ⟨.number ['4', '2'], 9⟩] ∧
      (scan ['\t', '0', '0', '7', '\t', ' ', '5', '-', '(', '4', '2']).events = [] := by
  let tokens : List Token :=
    [.number ['0', '0', '7'], .number ['5'], .minus, .opening, .number ['4', '2']]
  let gap : Nat → List Char
    | 0 => ['\t']
    | 1 => ['\t', ' ']
    | _ + 2 => []
  have proper : ∀ token ∈ tokens, token.IsProper := by
    simp [tokens, Token.IsProper, Char.isDigit]
  have blanks : ∀ i, ∀ c ∈ gap i, isBlank c = true
    | 0 => List.forall_mem_singleton.2 rfl
    | 1 => List.forall_mem_cons.2 ⟨rfl, List.forall_mem_singleton.2 rfl⟩
    | _ + 2 => List.forall_mem_nil _
  have separates : Separates gap tokens := by
    simp [Separates, tokens, gap, Token.Apart, Token.isNumber]
  exact scan_lossless.2 tokens gap proper blanks separates

/-- Columns count bytes, so the sign of the euro makes a gap of three. -/
example : (scan ['1', '€', '2']).result = ⟨[⟨.number ['1'], 0⟩, ⟨.number ['2'], 4⟩], {.malformed}⟩ ∧
    (scan ['1', '€', '2']).events = [.unrecognized 1 '€'] := by decide

end Calculator
