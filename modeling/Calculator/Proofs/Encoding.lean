/-
# Encoded text

A text that is encoded is read back as it was (`Utf8.decode_encode`).  The
first byte of a character tells how many follow; each of them adds six bits,
and what the first byte and the bounds of the second shut out is no character:

| bytes | bits of the first | bounds of the second |
| ---: | --- | --- |
| 2 | at least `2` | |
| 3 | `0` | `A0` at least, for a number above `7FF` |
| 3 | `13` | `9F` at most, for a number below the surrogates |
| 4 | `0` | `90` at least, for a number above `FFFF` |
| 4 | `4` | `8F` at most, for a number below `110000` |

A byte below `80` is a character by itself, so bytes that no character of a text
is do not come up in its encoding (`Utf8.exists_of_mem_encode`).
-/

import Calculator.Proofs.Decoding

namespace Calculator
namespace Utf8

theorem toNat_byte {n : Nat} (h : n < 256) : (UInt8.ofNat n).toNat = n :=
  UInt8.toNat_ofNat_of_lt' h

/-! ### First bytes -/

section First

variable {v : Nat}

theorem first_of_two (above : 0x7F < v) (below : v ≤ 0x7FF) :
    first (v / 64 % 32 + 192) = ([], some ⟨v / 64, 1, 0x80, 0xBF⟩) := by
  rw [first, if_neg (by omega), if_neg (by omega), if_pos (by omega), Nat.add_sub_cancel,
    Nat.mod_eq_of_lt (by omega)]

theorem first_of_three (below : v ≤ 0xFFFF) :
    first (v / 4096 % 16 + 224) =
      ([], some ⟨v / 4096, 2, if v / 4096 = 0 then 0xA0 else 0x80,
        if v / 4096 = 13 then 0x9F else 0xBF⟩) := by
  rw [first, if_neg (by omega), if_neg (by omega), if_neg (by omega), if_pos (by omega),
    Nat.add_sub_cancel, Nat.mod_eq_of_lt (by omega)]
  simp

theorem first_of_four (below : v < 0x110000) :
    first (v / 262144 % 8 + 240) =
      ([], some ⟨v / 262144, 3, if v / 262144 = 0 then 0x90 else 0x80,
        if v / 262144 = 4 then 0x8F else 0xBF⟩) := by
  rw [first, if_neg (by omega), if_neg (by omega), if_neg (by omega), if_neg (by omega),
    if_pos (by omega), Nat.add_sub_cancel, Nat.mod_eq_of_lt (by omega)]
  simp

end First

/-! ### Bytes that follow -/

section Continuation

variable {value low high bits : Nat}

/-- **The last byte completes a character.** -/
theorem decodeFrom_last (six : bits < 64) (above : low ≤ bits + 128) (below : bits + 128 ≤ high)
    (bytes : List UInt8) :
    decodeFrom (some ⟨value, 1, low, high⟩) (UInt8.ofNat (bits + 128) :: bytes) =
      Char.ofNat (value * 64 + bits) :: decodeFrom none bytes := by
  rw [decodeFrom, toNat_byte (by omega), Pending.next, if_pos ⟨above, below⟩, Nat.add_sub_cancel]
  rfl

/-- A byte before the last adds its bits to those that are known. -/
theorem decodeFrom_more {missing : Nat} (six : bits < 64) (above : low ≤ bits + 128)
    (below : bits + 128 ≤ high) (bytes : List UInt8) :
    decodeFrom (some ⟨value, missing + 2, low, high⟩) (UInt8.ofNat (bits + 128) :: bytes) =
      decodeFrom (some ⟨value * 64 + bits, missing + 1, 0x80, 0xBF⟩) bytes := by
  rw [decodeFrom, toNat_byte (by omega), Pending.next, if_pos ⟨above, below⟩, Nat.add_sub_cancel]
  rfl

end Continuation

/-! ### Characters and texts -/

/-- **A character is read back from its bytes,** whatever follows them. -/
theorem decodeFrom_encodeChar (c : Char) (bytes : List UInt8) :
    decodeFrom none (String.utf8EncodeChar c ++ bytes) = c :: decodeFrom none bytes := by
  have valid : c.toNat < 0xD800 ∨ 0xDFFF < c.toNat ∧ c.toNat < 0x110000 := c.valid
  have char : Char.ofNat c.toNat = c := Char.ofNat_toNat c
  have word : c.val.toNat = c.toNat := rfl
  simp only [String.utf8EncodeChar, word]
  generalize c.toNat = v at valid char
  by_cases one : v ≤ 0x7F
  · rw [if_pos one, List.singleton_append, decodeFrom, toNat_byte (by omega), first,
      if_pos (by omega), char]
    rfl
  rw [if_neg one]
  by_cases two : v ≤ 0x7FF
  · rw [if_pos two, List.cons_append, List.cons_append, decodeFrom, toNat_byte (by omega),
      first_of_two (by omega) two]
    dsimp only
    rw [List.nil_append, decodeFrom_last (by omega) (by omega) (by omega), List.nil_append,
      Nat.div_add_mod', char]
  rw [if_neg two]
  by_cases three : v ≤ 0xFFFF
  · have bits : (v / 4096 * 64 + v / 64 % 64) * 64 + v % 64 = v := by omega
    rw [if_pos three, List.cons_append, decodeFrom, toNat_byte (by omega), first_of_three three]
    dsimp only
    rw [List.nil_append, List.cons_append,
      decodeFrom_more (by omega) (by split <;> omega) (by split <;> omega),
      List.cons_append, decodeFrom_last (by omega) (by omega) (by omega), List.nil_append, bits,
      char]
  · have bits : ((v / 262144 * 64 + v / 4096 % 64) * 64 + v / 64 % 64) * 64 + v % 64 = v := by
      omega
    rw [if_neg three, List.cons_append, decodeFrom, toNat_byte (by omega),
      first_of_four (by omega)]
    dsimp only
    rw [List.nil_append, List.cons_append,
      decodeFrom_more (by omega) (by split <;> omega) (by split <;> omega),
      List.cons_append, decodeFrom_more (by omega) (by omega) (by omega),
      List.cons_append, decodeFrom_last (by omega) (by omega) (by omega), List.nil_append, bits,
      char]

/-- **Decoding gives back the text that was encoded.** -/
theorem decode_encode (text : List Char) : decode (encode text) = text := by
  rw [decode]
  induction text with
  | nil => rfl
  | cons c text ih => rw [encode_cons, decodeFrom_encodeChar, ih]

/-- **Different texts have different bytes.** -/
theorem encode_injective {s t : List Char} (h : encode s = encode t) : s = t := by
  rw [← decode_encode s, h, decode_encode]

theorem encode_ne_nil {text : List Char} (h : text ≠ []) : encode text ≠ [] :=
  fun empty => h (encode_injective empty)

/-- A character beyond ASCII has only bytes beyond ASCII. -/
theorem le_of_mem_encodeChar {c : Char} (beyond : 0x80 ≤ c.toNat) :
    ∀ byte ∈ String.utf8EncodeChar c, 0x80 ≤ byte.toNat := by
  have word : c.val.toNat = c.toNat := rfl
  have high {n : Nat} (h : 0x80 ≤ n) (small : n < 256) : 0x80 ≤ (UInt8.ofNat n).toNat := by
    rw [toNat_byte small]
    exact h
  simp only [String.utf8EncodeChar, word]
  rw [if_neg (by omega)]
  split
  · rw [List.forall_mem_cons, List.forall_mem_singleton]
    exact ⟨high (by omega) (by omega), high (by omega) (by omega)⟩
  split
  · rw [List.forall_mem_cons, List.forall_mem_cons, List.forall_mem_singleton]
    exact ⟨high (by omega) (by omega), high (by omega) (by omega), high (by omega) (by omega)⟩
  · rw [List.forall_mem_cons, List.forall_mem_cons, List.forall_mem_cons,
      List.forall_mem_singleton]
    exact ⟨high (by omega) (by omega), high (by omega) (by omega), high (by omega) (by omega),
      high (by omega) (by omega)⟩

/-- **A byte below `80` is a character of the text.** -/
theorem exists_of_mem_encode {text : List Char} {byte : UInt8} (h : byte ∈ encode text)
    (low : byte.toNat < 0x80) : ∃ c ∈ text, c.toNat = byte.toNat := by
  obtain ⟨c, hc, h⟩ := List.mem_flatMap.1 h
  refine ⟨c, hc, ?_⟩
  have ascii : c.toNat < 0x80 := by
    by_contra beyond
    exact absurd (le_of_mem_encodeChar (Nat.le_of_not_lt beyond) byte h) (Nat.not_le.2 low)
  rw [encodeChar_of_lt ascii, List.mem_singleton] at h
  rw [h, toNat_byte (by omega)]

end Utf8
end Calculator
