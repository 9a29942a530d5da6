/-
# What bytes are text

Decoding never fails, but it does not hide what was wrong: bytes below `0x80`
are read as they are, and any other byte leaves a character beyond ASCII in the
text, be it one that it is part of or a replacement.  So a text of ASCII
characters alone was read from the bytes of these characters
(`Utf8.decode_eq_iff`), and bytes write the text of a line of the calculator
only if they are that text (`spells_decode_iff`).

Between two bytes the decoder may have a pending character.  The invariant is
that whichever bytes it accepts lead to a character beyond ASCII
(`Utf8.LeadsBeyond`); the bounds of the second byte make it hold after the
first one.
-/

import Calculator.Proofs.Row
import Mathlib.Tactic.ByContra
import Calculator.Utf8

namespace Calculator
namespace Utf8

/-! ### Bytes beyond ASCII -/

/-- Whether a text has a character beyond ASCII. -/
def HasBeyond (text : List Char) : Prop := ∃ c ∈ text, 0x80 ≤ c.toNat

theorem hasBeyond_append {s t : List Char} : HasBeyond (s ++ t) ↔ HasBeyond s ∨ HasBeyond t := by
  simp only [HasBeyond, List.mem_append, or_and_right, exists_or]

theorem hasBeyond_singleton {c : Char} : HasBeyond [c] ↔ 0x80 ≤ c.toNat := by
  simp only [HasBeyond, List.mem_singleton, exists_eq_left]

theorem hasBeyond_replacement (text : List Char) : HasBeyond (replacement :: text) :=
  ⟨replacement, List.mem_cons_self, by decide⟩

/-- The bits that are known of a character, followed by as many bytes as are missing, always give a
character beyond ASCII.  The next byte lies between two bounds, and those behind it may be any
continuation. -/
def LeadsBeyond : (missing value low high : Nat) → Prop
  | 0, value, _, _ => 0x80 ≤ value ∧ value.isValidChar
  | missing + 1, value, low, high =>
    ∀ byte, low ≤ byte → byte ≤ high →
      LeadsBeyond missing (value * 64 + (byte - 0x80)) 0x80 0xBF

/-- A pending character misses bytes, and becomes one beyond ASCII with any that it accepts. -/
def Pending.IsProper (pending : Pending) : Prop :=
  0 < pending.missing ∧ LeadsBeyond pending.missing pending.value pending.low pending.high

/-- A step of the decoder that has given a character beyond ASCII, or is about to. -/
def Tells (step : List Char × Option Pending) : Prop :=
  HasBeyond step.1 ∨ ∃ pending, step.2 = some pending ∧ pending.IsProper

/-- **A first byte beyond ASCII tells:** it is ill-formed or begins a character beyond ASCII. -/
theorem tells_first {byte : Nat} (h : 0x80 ≤ byte) : Tells (first byte) := by
  have notAscii : ¬ byte < 0x80 := by omega
  rw [first, if_neg notAscii]
  by_cases continuation : byte < 0xC2
  · rw [if_pos continuation]
    exact .inl (hasBeyond_replacement [])
  rw [if_neg continuation]
  by_cases two : byte < 0xE0
  · rw [if_pos two]
    refine .inr ⟨_, rfl, Nat.one_pos, ?_⟩
    intro second low high
    simp only [LeadsBeyond, Nat.isValidChar]
    dsimp only at low high ⊢
    omega
  rw [if_neg two]
  by_cases three : byte < 0xF0
  · rw [if_pos three]
    refine .inr ⟨_, rfl, Nat.two_pos, ?_⟩
    intro second low high third low' high'
    simp only [LeadsBeyond, Nat.isValidChar]
    dsimp only at low high ⊢
    split at low <;> split at high <;> omega
  rw [if_neg three]
  by_cases four : byte < 0xF5
  · rw [if_pos four]
    refine .inr ⟨_, rfl, Nat.succ_pos 2, ?_⟩
    intro second low high third low' high' fourth low'' high''
    simp only [LeadsBeyond, Nat.isValidChar]
    dsimp only at low high ⊢
    split at low <;> split at high <;> omega
  · rw [if_neg four]
    exact .inl (hasBeyond_replacement [])

theorem toNat_charOfNat {value : Nat} (h : value.isValidChar) :
    (Char.ofNat value).toNat = value := by
  rw [Char.ofNat, dif_pos h]
  rfl

/-- **Behind a pending character every byte tells:** it is accepted or breaks the character off. -/
theorem tells_next {pending : Pending} (h : pending.IsProper) (byte : Nat) :
    Tells (pending.next byte) := by
  obtain ⟨value, missing, low, high⟩ := pending
  obtain ⟨misses, leads⟩ := h
  obtain ⟨missing, rfl⟩ : ∃ fewer, missing = fewer + 1 := Nat.exists_eq_add_one.2 misses
  rw [Pending.next]
  by_cases accepted : low ≤ byte ∧ byte ≤ high
  · have leads := leads byte accepted.1 accepted.2
    rw [if_pos accepted]
    cases missing with
    | zero =>
      refine .inl (hasBeyond_singleton.2 ?_)
      rw [toNat_charOfNat leads.2]
      exact leads.1
    | succ missing => exact .inr ⟨_, rfl, Nat.succ_pos missing, leads⟩
  · rw [if_neg accepted]
    exact .inl (hasBeyond_replacement _)

/-- **What has been told is in the text,** whatever follows. -/
theorem Tells.hasBeyond {step : List Char × Option Pending} (h : Tells step)
    (bytes : List UInt8) : HasBeyond (step.1 ++ decodeFrom step.2 bytes) := by
  induction bytes generalizing step with
  | nil =>
    obtain now | ⟨pending, found, -⟩ := h
    · exact hasBeyond_append.2 (.inl now)
    · rw [found]
      exact hasBeyond_append.2 (.inr (hasBeyond_replacement []))
  | cons byte bytes ih =>
    obtain now | ⟨pending, found, proper⟩ := h
    · exact hasBeyond_append.2 (.inl now)
    · rw [found]
      exact hasBeyond_append.2 (.inr (ih (tells_next proper byte.toNat)))

/-- **A byte beyond ASCII leaves a character beyond ASCII.** -/
theorem hasBeyond_decode {bytes : List UInt8} {byte : UInt8} (h : byte ∈ bytes)
    (beyond : 0x80 ≤ byte.toNat) : HasBeyond (decode bytes) := by
  rw [decode]
  induction bytes with
  | nil => exact absurd h List.not_mem_nil
  | cons next bytes ih =>
    rw [decodeFrom]
    by_cases low : next.toNat < 0x80
    · obtain rfl | later := List.mem_cons.1 h
      · exact absurd low (Nat.not_lt.2 beyond)
      · rw [first, if_pos low]
        exact hasBeyond_append.2 (.inr (ih later))
    · exact (tells_first (Nat.le_of_not_lt low)).hasBeyond bytes

/-! ### ASCII -/

/-- The bytes of an ASCII text, one for each character. -/
def ascii (text : List Char) : List UInt8 := text.map fun c => UInt8.ofNat c.toNat

/-- **ASCII is read as it is.** -/
theorem decode_ascii {text : List Char} (h : ∀ c ∈ text, c.toNat < 0x80) :
    decode (ascii text) = text := by
  rw [decode, ascii]
  induction text with
  | nil => rfl
  | cons c text ih =>
    obtain ⟨hc, later⟩ := List.forall_mem_cons.1 h
    have byte : (UInt8.ofNat c.toNat).toNat = c.toNat := by
      rw [UInt8.toNat_ofNat']
      omega
    rw [List.map_cons, decodeFrom, byte, first, if_pos hc, Char.ofNat_toNat]
    exact congrArg (c :: ·) (ih later)

/-- **Bytes below `0x80` are those of their text.** -/
theorem ascii_decode {bytes : List UInt8} (h : ∀ byte ∈ bytes, byte.toNat < 0x80) :
    ascii (decode bytes) = bytes := by
  rw [decode]
  induction bytes with
  | nil => rfl
  | cons byte bytes ih =>
    obtain ⟨low, later⟩ := List.forall_mem_cons.1 h
    have char : (Char.ofNat byte.toNat).toNat = byte.toNat :=
      toNat_charOfNat (.inl (Nat.lt_trans low (by decide)))
    have head : UInt8.ofNat (Char.ofNat byte.toNat).toNat = byte := by
      rw [char, UInt8.ofNat_toNat]
    rw [decodeFrom, first, if_pos low]
    exact congrArg₂ List.cons head (ih later)

/-- **A text of ASCII alone was read from its own bytes.** -/
theorem decode_eq_iff {bytes : List UInt8} {text : List Char} (h : ∀ c ∈ text, c.toNat < 0x80) :
    decode bytes = text ↔ bytes = ascii text := by
  constructor
  · rintro rfl
    refine (ascii_decode fun byte hb => ?_).symm
    by_contra beyond
    obtain ⟨c, hc, high⟩ := hasBeyond_decode hb (Nat.le_of_not_lt beyond)
    exact absurd (h c hc) (Nat.not_lt.2 high)
  · rintro rfl
    exact decode_ascii h

end Utf8

/-! ### Lines -/

/-- **A line that spells tokens is ASCII,** as the whole alphabet is. -/
theorem Spells.isAscii {line : List Char} {tokens : List Token} (h : Spells line tokens) :
    ∀ c ∈ line, c.toNat < 0x80 := by
  intro c hc
  have known : ¬ (Piece.foreign c).IsProper := by
    intro foreign
    exact faults_scan_eq_empty_iff.1 (spells_iff.1 h).1
      (Piece.hasForeign_rowOf_iff.2 ⟨c, hc, foreign⟩)
  by_contra beyond
  refine known (Piece.isProper_foreign_iff.2 ⟨?_, ?_⟩)
  · rw [Bool.eq_false_iff]
    intro digit
    have high : c.toNat ≤ 57 := (Char.isDigit_iff_toNat.1 digit).2
    omega
  · intro mark
    have low : ∀ c ∈ ['+', '-', '*', '/', '(', ')', ' ', '\t'], c.toNat < 0x80 := by simp
    exact beyond (low c mark)

/-- **Bytes are read as a line that spells tokens exactly when they are such a line,** written in
ASCII. -/
theorem spells_decode_iff {bytes : List UInt8} {tokens : List Token} :
    Spells (Utf8.decode bytes) tokens ↔
      ∃ text, (∀ c ∈ text, c.toNat < 0x80) ∧ bytes = Utf8.ascii text ∧ Spells text tokens := by
  constructor
  · intro spells
    exact ⟨Utf8.decode bytes, spells.isAscii, (Utf8.decode_eq_iff spells.isAscii).1 rfl, spells⟩
  · rintro ⟨text, isAscii, rfl, spells⟩
    rw [Utf8.decode_ascii isAscii]
    exact spells

end Calculator
