/-
# Laid out tokens

Tokens can be written as a line in many ways: any blanks may stand before,
between and after them.  `layout gap tokens` writes them with the blanks
`gap i` in front of token `i` and the last of the gaps at the end.  Such a line
spells its tokens as long as two numbers never touch (`spells_layout`).

In a phrase no number is followed by another, so a phrase may be written
without any blanks at all (`Phrase.isChain_tokens`).
-/

import Calculator.Phrase
import Calculator.Proofs.Row
import Mathlib.Data.List.Chain

namespace Calculator

namespace Token

/-- The characters of a token. -/
def text : Token → List Char
  | number digits => digits
  | plus => ['+']
  | minus => ['-']
  | star => ['*']
  | slash => ['/']
  | opening => ['(']
  | closing => [')']
  | blank => [' ']

/-- A token that a line can have: a number has digits and nothing else, and space is no token. -/
def IsProper : Token → Prop
  | number digits => digits ≠ [] ∧ ∀ c ∈ digits, c.isDigit = true
  | blank => False
  | _ => True

/-- Whether a token is a number. -/
def isNumber : Token → Bool
  | number _ => true
  | _ => false

/-- Tokens that can touch: they are not both numbers. -/
def Apart (token next : Token) : Prop := (token.isNumber && next.isNumber) = false

end Token

/-- **Tokens written with blanks around them.** -/
def layout (gap : Nat → List Char) : List Token → List Char
  | [] => gap 0
  | token :: tokens => gap 0 ++ (token.text ++ layout (fun i => gap (i + 1)) tokens)

/-- Two numbers that follow each other have a blank between them. -/
def Separates (gap : Nat → List Char) : List Token → Prop
  | [] => True
  | token :: tokens =>
    (∀ next ∈ tokens.head?, token.Apart next ∨ gap 1 ≠ []) ∧
      Separates (fun i => gap (i + 1)) tokens

theorem separates_of_isChain {tokens : List Token} (h : tokens.IsChain Token.Apart)
    (gap : Nat → List Char) : Separates gap tokens := by
  induction tokens generalizing gap with
  | nil => trivial
  | cons token tokens ih =>
    obtain ⟨apart, h⟩ := List.isChain_cons.1 h
    exact ⟨fun next hn => .inl (apart next hn), ih h _⟩

namespace Piece

/-- The piece that a proper token is written as. -/
def ofToken : Token → Piece
  | .number digits => number digits
  | .plus => mark '+' .plus
  | .minus => mark '-' .minus
  | .star => mark '*' .star
  | .slash => mark '/' .slash
  | .opening => mark '(' .opening
  | .closing => mark ')' .closing
  | .blank => blank ' '

theorem rowOf_append_blanks {blanks : List Char} (h : ∀ c ∈ blanks, isBlank c = true)
    (line : List Char) : rowOf (blanks ++ line) = blanks.map blank ++ rowOf line := by
  induction blanks with
  | nil => rfl
  | cons c blanks ih =>
    obtain ⟨hc, h⟩ := List.forall_mem_cons.1 h
    rw [List.cons_append, rowOf, List.foldr_cons, ← rowOf, ih h, cons_blank hc]
    rfl

theorem rowOf_append_text {token : Token} (h : token.IsProper) {line : List Char}
    (apart : ∀ next ∈ (rowOf line).head?, (token.isNumber && next.isNumber) = false) :
    rowOf (token.text ++ line) = ofToken token :: rowOf line := by
  rw [rowOf, List.foldr_append, ← rowOf]
  cases token with
  | number digits => exact foldr_cons_digits h.1 h.2 apart
  | blank => exact h.elim
  | plus | minus | star | slash | opening | closing => exact cons_mark rfl

/-- **The row of laid out tokens** is blanks, a token, blanks and so on. -/
def laid (gap : Nat → List Char) : List Token → List Piece
  | [] => (gap 0).map blank
  | token :: tokens => (gap 0).map blank ++ ofToken token :: laid (fun i => gap (i + 1)) tokens

theorem isNumber_ofToken (token : Token) : (ofToken token).isNumber = token.isNumber := by
  cases token <;> rfl

/-- Laid out tokens begin with a run of digits only if their first token is one and there is no
blank before it. -/
theorem eq_nil_of_head?_laid {gap : Nat → List Char} {tokens : List Token} {piece : Piece}
    (h : piece ∈ (laid gap tokens).head?) (number : piece.isNumber = true) :
    gap 0 = [] ∧ ∃ next ∈ tokens.head?, next.isNumber = true := by
  cases blanks : gap 0 with
  | cons c rest =>
    have first : piece = blank c := by
      cases tokens <;> simpa [laid, blanks, eq_comm] using h
    rw [first] at number
    cases number
  | nil =>
    cases tokens with
    | nil => simp [laid, blanks] at h
    | cons token tokens =>
      have first : piece = ofToken token := by simpa [laid, blanks, eq_comm] using h
      rw [first, isNumber_ofToken] at number
      exact ⟨rfl, token, rfl, number⟩

theorem rowOf_layout {tokens : List Token} (proper : ∀ token ∈ tokens, token.IsProper)
    {gap : Nat → List Char} (blanks : ∀ i, ∀ c ∈ gap i, isBlank c = true)
    (separates : Separates gap tokens) : rowOf (layout gap tokens) = laid gap tokens := by
  induction tokens generalizing gap with
  | nil =>
    rw [layout, ← List.append_nil (gap 0), rowOf_append_blanks (blanks 0)]
    exact List.append_nil _
  | cons token tokens ih =>
    obtain ⟨hp, hps⟩ := List.forall_mem_cons.1 proper
    obtain ⟨first, separates⟩ := separates
    have rest := ih hps (fun i => blanks (i + 1)) separates
    have apart : ∀ next ∈ (rowOf (layout (fun i => gap (i + 1)) tokens)).head?,
        (token.isNumber && next.isNumber) = false := by
      intro piece hpiece
      rw [rest] at hpiece
      cases number : piece.isNumber with
      | false => exact Bool.and_false _
      | true =>
        obtain ⟨touching, next, hn, digits⟩ := eq_nil_of_head?_laid hpiece number
        rcases first next hn with apart | blank
        · rwa [Token.Apart, digits] at apart
        · exact absurd touching blank
    rw [layout, rowOf_append_blanks (blanks 0), rowOf_append_text hp apart, rest]
    rfl

theorem token?_ofToken {token : Token} (h : token.IsProper) :
    (ofToken token).token? = some token := by
  cases token with
  | blank => exact h.elim
  | number | plus | minus | star | slash | opening | closing => rfl

theorem text_ofToken (token : Token) : (ofToken token).text = token.text := by
  cases token <;> rfl

theorem tokens_laid {gap : Nat → List Char} {tokens : List Token}
    (proper : ∀ token ∈ tokens, token.IsProper) : Piece.tokens (laid gap tokens) = tokens := by
  have blanks (cs : List Char) : (cs.map blank).filterMap token? = [] := by
    simp [List.filterMap_map, token?]
  induction tokens generalizing gap with
  | nil => exact blanks _
  | cons token tokens ih =>
    obtain ⟨hp, hps⟩ := List.forall_mem_cons.1 proper
    rw [Piece.tokens, laid, List.filterMap_append, blanks, List.nil_append,
      List.filterMap_cons_some (token?_ofToken hp), ← Piece.tokens, ih hps]

theorem not_hasForeign_laid (gap : Nat → List Char) (tokens : List Token) :
    ¬ HasForeign (laid gap tokens) := by
  have blanks (c : Char) (cs : List Char) : ¬ foreign c ∈ cs.map blank := by simp
  rintro ⟨c, h⟩
  induction tokens generalizing gap with
  | nil => exact blanks c _ h
  | cons token tokens ih =>
    rcases List.mem_append.1 h with h | h
    · exact blanks c _ h
    · rcases List.mem_cons.1 h with h | h
      · cases token <;> cases h
      · exact ih _ h

end Piece

/-- **Laid out tokens spell these tokens.** -/
theorem spells_layout {tokens : List Token} (proper : ∀ token ∈ tokens, token.IsProper)
    {gap : Nat → List Char} (blanks : ∀ i, ∀ c ∈ gap i, isBlank c = true)
    (separates : Separates gap tokens) : Spells (layout gap tokens) tokens := by
  have row := Piece.rowOf_layout proper blanks separates
  refine ⟨Piece.laid gap tokens, ?_, Piece.not_hasForeign_laid gap tokens, ?_,
    Piece.tokens_laid proper⟩
  · rw [← row]
    exact Piece.isRow_rowOf _
  · rw [← row]
    exact Piece.spelling_rowOf _

namespace Phrase

/-- **In a phrase no number touches another.** -/
theorem isChain_tokens {category : Category} (phrase : Phrase category) :
    phrase.tokens.IsChain Token.Apart := by
  have left {token next : Token} (h : token.isNumber = false) : token.Apart next := by
    rw [Token.Apart, h, Bool.false_and]
  have right {token next : Token} (h : next.isNumber = false) : token.Apart next := by
    rw [Token.Apart, h, Bool.and_false]
  induction phrase with
  | literal digits => exact List.isChain_singleton _
  | group inner ih =>
    refine List.isChain_cons.2 ⟨fun _ _ => left rfl, ih.append (List.isChain_singleton _) ?_⟩
    rintro token - next hn
    obtain rfl := Option.some.inj hn
    exact right rfl
  | unsigned operand ih => exact ih
  | negated operand ih => exact List.isChain_cons.2 ⟨fun _ _ => left rfl, ih⟩
  | single operand ih => exact ih
  | joined first operator fits last ihl ihr =>
    have between : operator.token.isNumber = false := by cases operator <;> rfl
    refine ihl.append (List.isChain_cons.2 ⟨fun _ _ => left between, ihr⟩) ?_
    rintro token - next hn
    obtain rfl := Option.some.inj hn
    exact right between

/-- A phrase has no space among its tokens. -/
theorem blank_not_mem_tokens {category : Category} (phrase : Phrase category) :
    ¬ .blank ∈ phrase.tokens := by
  induction phrase with
  | literal digits => simp [tokens]
  | group inner ih => simp [tokens, ih]
  | unsigned operand ih => exact ih
  | negated operand ih => simp [tokens, ih]
  | single operand ih => exact ih
  | joined left operator fits right ihl ihr =>
    have between : operator.token ≠ .blank := by cases operator <;> simp [Operator.token]
    simp [tokens, ihl, ihr, between.symm]

end Phrase
end Calculator
