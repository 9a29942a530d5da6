/-
# Cutting a text between two characters

Stepping back from a limit finds the place where the longest beginning of the
text ends that fits.  A boundary is where some first characters of the text
end, and nowhere else (`Utf8.isBoundary_encode_iff`): within a character no
byte is a first byte, and behind it comes the first byte of the next one or
nothing.  The start is a boundary, so the steps never pass it, and the last
boundary within the limit ends the longest beginning within it.  As a character
has four bytes at most, three bytes at most are given away.
-/

import Calculator.Boundary
import Calculator.Proofs.Encoding

namespace Calculator
namespace Utf8

/-! ### Boundaries -/

section Character

variable (c : Char) (text : List Char)

theorem getElem?_encode_cons_of_lt {index : Nat} (h : index < c.utf8Size) :
    ∃ byte, (encode (c :: text))[index]? = some byte ∧ (byte.IsUTF8FirstByte ↔ index = 0) := by
  have inside : index < (String.utf8EncodeChar c).length := by
    rwa [String.length_utf8EncodeChar]
  refine ⟨(String.utf8EncodeChar c)[index], ?_, UInt8.isUTF8FirstByte_getElem_utf8EncodeChar⟩
  rw [encode_cons, List.getElem?_append_left inside, List.getElem?_eq_getElem inside]

theorem getElem?_encode_cons_add (index : Nat) :
    (encode (c :: text))[c.utf8Size + index]? = (encode text)[index]? := by
  have behind : (String.utf8EncodeChar c).length ≤ c.utf8Size + index := by
    rw [String.length_utf8EncodeChar]
    exact Nat.le_add_right _ _
  rw [encode_cons, List.getElem?_append_right behind, String.length_utf8EncodeChar,
    Nat.add_sub_cancel_left]

/-- **There is no boundary inside a character.** -/
theorem isBoundary_encode_cons_of_lt {index : Nat} (positive : 0 < index)
    (h : index < c.utf8Size) : isBoundary (encode (c :: text)) index = false := by
  obtain ⟨byte, found, first⟩ := getElem?_encode_cons_of_lt c text h
  have later : index ≠ 0 := Nat.ne_of_gt positive
  rw [isBoundary, found]
  simp [first, later]

/-- **Behind a character** the boundaries are those of the text that follows it. -/
theorem isBoundary_encode_cons_add (index : Nat) :
    isBoundary (encode (c :: text)) (c.utf8Size + index) = isBoundary (encode text) index := by
  have positive := c.utf8Size_pos
  have later : c.utf8Size + index ≠ 0 := by omega
  have length : (encode (c :: text)).length = c.utf8Size + (encode text).length := by
    rw [length_encode, length_encode, size_cons]
  rw [isBoundary, getElem?_encode_cons_add, length, beq_eq_false_iff_ne.2 later, isBoundary]
  cases index with
  | succ index =>
    have same : (c.utf8Size + (index + 1) == c.utf8Size + (encode text).length) =
        (index + 1 == (encode text).length) := by
      rw [Bool.eq_iff_iff, beq_iff_eq, beq_iff_eq, Nat.add_left_cancel_iff]
    rw [same]
    rfl
  | zero =>
    -- The text that follows is empty or begins with a first byte.
    cases text with
    | nil => simp
    | cons next rest =>
      obtain ⟨byte, found, first⟩ := getElem?_encode_cons_of_lt next rest next.utf8Size_pos
      rw [found]
      simp [first]

end Character

/-- **A boundary is where some first characters of the text end.** -/
theorem isBoundary_encode_iff {text : List Char} {index : Nat} :
    isBoundary (encode text) index = true ↔ ∃ before, before <+: text ∧ size before = index := by
  induction text generalizing index with
  | nil =>
    simp only [List.prefix_nil, exists_eq_left, size_nil]
    cases index <;> simp [isBoundary]
  | cons c text ih =>
    rcases Nat.eq_zero_or_pos index with rfl | positive
    · exact iff_of_true rfl ⟨[], List.nil_prefix, rfl⟩
    have shape (before : List Char) (h : before <+: c :: text) (hs : size before = index) :
        ∃ rest, rest <+: text ∧ before = c :: rest := by
      rcases List.prefix_cons_iff.1 h with rfl | ⟨rest, rfl, below⟩
      · rw [size_nil] at hs
        omega
      · exact ⟨rest, below, rfl⟩
    rcases Nat.lt_or_ge index c.utf8Size with inside | behind
    · rw [isBoundary_encode_cons_of_lt c text positive inside]
      refine iff_of_false Bool.false_ne_true ?_
      rintro ⟨before, h, hs⟩
      obtain ⟨rest, -, rfl⟩ := shape before h hs
      rw [size_cons] at hs
      omega
    · obtain ⟨index, rfl⟩ := Nat.exists_eq_add_of_le behind
      rw [isBoundary_encode_cons_add, ih]
      constructor
      · rintro ⟨rest, h, rfl⟩
        exact ⟨c :: rest, List.cons_prefix_cons.2 ⟨rfl, h⟩, size_cons c rest⟩
      · rintro ⟨before, h, hs⟩
        obtain ⟨rest, below, rfl⟩ := shape before h hs
        rw [size_cons] at hs
        exact ⟨rest, below, Nat.add_left_cancel hs⟩

/-! ### Stepping back -/

/-- **Stepping back ends at the last boundary,** if there is one that is not behind the index. -/
theorem boundaryBefore?_eq_some {bytes : List UInt8} {index stop : Nat}
    (boundary : isBoundary bytes stop = true) (before : stop ≤ index)
    (last : ∀ other, isBoundary bytes other = true → other ≤ index → other ≤ stop) :
    boundaryBefore? bytes index = some stop := by
  induction index with
  | zero =>
    obtain rfl : stop = 0 := Nat.le_zero.1 before
    exact if_pos boundary
  | succ index ih =>
    rw [boundaryBefore?]
    rcases Nat.eq_or_lt_of_le before with rfl | earlier
    · exact if_pos boundary
    · have passed : ¬ isBoundary bytes (index + 1) = true := by
        intro here
        have := last (index + 1) here (Nat.le_refl _)
        omega
      rw [if_neg passed]
      exact ih (by omega) fun other h ho => last other h (by omega)

/-! ### The longest beginning that fits -/

theorem take_prefix (room : Nat) (text : List Char) : take room text <+: text := by
  induction text generalizing room with
  | nil => exact List.nil_prefix
  | cons c text ih =>
    rw [take]
    split
    · exact List.cons_prefix_cons.2 ⟨rfl, ih _⟩
    · exact List.nil_prefix

theorem size_take_le (room : Nat) (text : List Char) : size (take room text) ≤ room := by
  induction text generalizing room with
  | nil => exact Nat.zero_le _
  | cons c text ih =>
    rw [take]
    split
    · have := ih (room - c.utf8Size)
      rw [size_cons]
      omega
    · exact Nat.zero_le _

/-- **No longer beginning of the text fits.** -/
theorem prefix_take {room : Nat} {text before : List Char} (h : before <+: text)
    (fits : size before ≤ room) : before <+: take room text := by
  induction text generalizing room before with
  | nil => exact h
  | cons c text ih =>
    rcases List.prefix_cons_iff.1 h with rfl | ⟨rest, rfl, below⟩
    · exact List.nil_prefix
    · rw [size_cons] at fits
      rw [take, if_pos (by omega)]
      exact List.cons_prefix_cons.2 ⟨rfl, ih below (by omega)⟩

theorem size_mono {s t : List Char} (h : s <+: t) : size s ≤ size t := by
  obtain ⟨rest, rfl⟩ := h
  rw [size_append]
  exact Nat.le_add_right _ _

/-- **Less than a character is given away:** the next one, of four bytes at most, does not fit. -/
theorem lt_size_take_add {room : Nat} {text : List Char} (long : room < size text) :
    room < size (take room text) + 4 := by
  induction text generalizing room with
  | nil => cases long
  | cons c text ih =>
    have atMost := c.utf8Size_le_four
    rw [size_cons] at long
    rw [take]
    split
    · have := @ih (room - c.utf8Size) (by omega)
      rw [size_cons]
      omega
    · rw [size_nil]
      omega

/-! ### Lines -/

/-- **The bytes of a beginning are its text.** -/
theorem textBefore?_of_prefix {text before : List Char} (h : before <+: text) :
    textBefore? (encode text) (size before) = some before := by
  have boundary : isBoundary (encode text) (size before) = true :=
    isBoundary_encode_iff.2 ⟨before, h, rfl⟩
  obtain ⟨rest, rfl⟩ := h
  have bytes : (encode (before ++ rest)).take (size before) = encode before := by
    rw [encode_append, ← length_encode, List.take_left]
  rw [textBefore?, if_pos boundary, bytes, decode_encode]

/-- **Stepping back from a limit** ends where the longest beginning within it does. -/
theorem boundaryBefore?_encode (limit : Nat) (text : List Char) :
    boundaryBefore? (encode text) limit = some (size (take limit text)) := by
  refine boundaryBefore?_eq_some ?_ (size_take_le limit text) ?_
  · exact isBoundary_encode_iff.2 ⟨take limit text, take_prefix limit text, rfl⟩
  · intro other boundary fits
    obtain ⟨before, h, rfl⟩ := isBoundary_encode_iff.1 boundary
    exact size_mono (prefix_take h fits)

end Utf8

namespace Line

/-- **Stepping back gives the line that is cut between two characters.** -/
theorem steppedBack?_eq_fitted (limit : Nat) (text : String) :
    steppedBack? limit text = some (fitted limit text) := by
  simp only [steppedBack?, fitted, Utf8.length_encode]
  by_cases short : Utf8.size text.toList ≤ limit
  · have whole : decide (limit < Utf8.size text.toList) = false :=
      decide_eq_false (Nat.not_lt.2 short)
    rw [if_pos short, whole, Utf8.take_of_size_le short, String.ofList_toList]
    rfl
  · have cut : decide (limit < Utf8.size text.toList) = true :=
      decide_eq_true (Nat.lt_of_not_le short)
    rw [if_neg short, Utf8.boundaryBefore?_encode, cut]
    simp only [Option.bind_eq_bind, Option.bind_some,
      Utf8.textBefore?_of_prefix (Utf8.take_prefix limit text.toList)]
    rfl

/-- **A text that is too long is cut behind its longest beginning that fits.**  Whatever the text
and the limit, stepping back finds a boundary before it passes the start, and what is in front of
it is a text: the longest beginning of the whole within the limit, at most three bytes short of it
if anything was cut.  The line is marked as cut exactly when the text is longer than the limit, and
is the text itself otherwise. -/
theorem steppedBack?_keeps_longest (limit : Nat) (text : String) :
    ∃ line, steppedBack? limit text = some line ∧ line = fitted limit text ∧
      line.text.toList <+: text.toList ∧ Utf8.size line.text.toList ≤ limit ∧
      (∀ before, before <+: text.toList → Utf8.size before ≤ limit →
        before <+: line.text.toList) ∧
      (line.cut = true ↔ limit < Utf8.size text.toList) ∧
      (line.cut = false → line.text = text) ∧
      (line.cut = true → limit ≤ Utf8.size line.text.toList + 3) := by
  have kept : (fitted limit text).text.toList = Utf8.take limit text.toList := String.toList_ofList
  refine ⟨fitted limit text, steppedBack?_eq_fitted limit text, rfl, ?_⟩
  rw [kept]
  refine ⟨Utf8.take_prefix limit _, Utf8.size_take_le limit _, ?_, decide_eq_true_iff, ?_, ?_⟩
  · intro before h fits
    exact Utf8.prefix_take h fits
  · intro whole
    have short : Utf8.size text.toList ≤ limit := Nat.not_lt.1 (of_decide_eq_false whole)
    rw [fitted, Utf8.take_of_size_le short, String.ofList_toList]
  · intro cut
    have := Utf8.lt_size_take_add (of_decide_eq_true cut)
    omega

/-- A character of four bytes with the limit in front of its last, and one that fits. -/
theorem steppedBack?_keeps_longest_emoji :
    (∃ line, steppedBack? 4 "a😀1" = some line ∧ ['a'] <+: line.text.toList ∧
        4 ≤ Utf8.size line.text.toList + 3) ∧
      ∃ line, steppedBack? 5 "a😀" = some line ∧ line.text = "a😀" := by
  constructor
  · obtain ⟨line, stepped, -, -, -, longest, cut, -, near⟩ := steppedBack?_keeps_longest 4 "a😀1"
    exact ⟨line, stepped, longest ['a'] (by decide) (by decide), near (cut.2 (by decide))⟩
  · obtain ⟨line, stepped, -, -, -, -, cut, whole, -⟩ := steppedBack?_keeps_longest 5 "a😀"
    exact ⟨line, stepped, whole (Bool.eq_false_iff.2 (mt cut.1 (by decide)))⟩

/-- With no room at all nothing is kept, and the start is a boundary. -/
example : steppedBack? 0 "é" = some ⟨"", true⟩ := by decide

end Line
end Calculator
