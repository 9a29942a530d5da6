/-
# UTF-8

Texts are lists of characters and travel as bytes.  `encode` writes each
character in one to four bytes.  `decode` reads any bytes at all: well-formed
sequences give their characters, and every maximal ill-formed piece, that is,
the longest beginning of a well-formed sequence that its next byte breaks off,
or else a single byte, gives one replacement character.

The decoder takes one byte after another.  Between two bytes it knows the
value of the bits so far, how many bytes are missing and which range the next
byte must lie in; that range shuts out overlong forms, surrogates and numbers
above `0x10FFFF` at the first byte that shows them.

| first byte | bytes missing | second byte |
| --- | ---: | --- |
| `00`–`7F` | 0 | |
| `C2`–`DF` | 1 | `80`–`BF` |
| `E0` | 2 | `A0`–`BF` |
| `E1`–`EC`, `EE`, `EF` | 2 | `80`–`BF` |
| `ED` | 2 | `80`–`9F` |
| `F0` | 3 | `90`–`BF` |
| `F1`–`F3` | 3 | `80`–`BF` |
| `F4` | 3 | `80`–`8F` |
-/

namespace Calculator
namespace Utf8

/-- The bytes of a text. -/
def encode (text : List Char) : List UInt8 := text.flatMap String.utf8EncodeChar

/-- The number of bytes of a text. -/
def size : List Char → Nat
  | [] => 0
  | c :: text => c.utf8Size + size text

@[simp] theorem encode_nil : encode [] = [] := rfl

@[simp] theorem encode_cons (c : Char) (text : List Char) :
    encode (c :: text) = String.utf8EncodeChar c ++ encode text := rfl

@[simp] theorem encode_append (s t : List Char) : encode (s ++ t) = encode s ++ encode t :=
  List.flatMap_append

/-- **An ASCII character is one byte,** its number. -/
theorem encodeChar_of_lt {c : Char} (h : c.toNat < 0x80) :
    String.utf8EncodeChar c = [UInt8.ofNat c.toNat] :=
  if_pos (Nat.le_of_lt_succ h)

@[simp] theorem size_nil : size [] = 0 := rfl

@[simp] theorem size_cons (c : Char) (text : List Char) :
    size (c :: text) = c.utf8Size + size text := rfl

@[simp] theorem size_append (s t : List Char) : size (s ++ t) = size s + size t := by
  induction s with
  | nil => rw [List.nil_append, size_nil, Nat.zero_add]
  | cons c s ih => rw [List.cons_append, size_cons, size_cons, ih, Nat.add_assoc]

/-- **The size of a text is the length of its encoding.** -/
@[simp] theorem length_encode (text : List Char) : (encode text).length = size text := by
  induction text with
  | nil => rfl
  | cons c text ih => simp [ih]

/-- The longest beginning of a text that has at most `room` bytes. -/
def take (room : Nat) : List Char → List Char
  | [] => []
  | c :: text => if c.utf8Size ≤ room then c :: take (room - c.utf8Size) text else []

/-- **A text is taken whole** where there is room for it. -/
theorem take_of_size_le {room : Nat} {text : List Char} (h : size text ≤ room) :
    take room text = text := by
  induction text generalizing room with
  | nil => rfl
  | cons c text ih =>
    rw [size_cons] at h
    rw [take, if_pos (Nat.le_of_add_right_le h), ih (Nat.le_sub_of_add_le' h)]

/-- The character that stands for ill-formed bytes. -/
def replacement : Char := '\uFFFD'

/-- A character of which some bytes are still missing. -/
structure Pending where
  /-- The value of the bits read so far. -/
  value : Nat
  /-- How many bytes are missing. -/
  missing : Nat
  /-- The least byte that may come next. -/
  low : Nat
  /-- The largest byte that may come next. -/
  high : Nat

/-- What the first byte of a character gives: a character, or one that is pending. -/
def first (byte : Nat) : List Char × Option Pending :=
  if byte < 0x80 then ([Char.ofNat byte], none)
  else if byte < 0xC2 then ([replacement], none)
  else if byte < 0xE0 then ([], some ⟨byte - 0xC0, 1, 0x80, 0xBF⟩)
  else if byte < 0xF0 then
    ([], some ⟨byte - 0xE0, 2, if byte = 0xE0 then 0xA0 else 0x80,
      if byte = 0xED then 0x9F else 0xBF⟩)
  else if byte < 0xF5 then
    ([], some ⟨byte - 0xF0, 3, if byte = 0xF0 then 0x90 else 0x80,
      if byte = 0xF4 then 0x8F else 0xBF⟩)
  else ([replacement], none)

/-- What the next byte gives to a pending character.  A byte that does not belong to it ends it
and is the first byte of another. -/
def Pending.next (pending : Pending) (byte : Nat) : List Char × Option Pending :=
  if pending.low ≤ byte ∧ byte ≤ pending.high then
    let value := pending.value * 64 + (byte - 0x80)
    if pending.missing ≤ 1 then ([Char.ofNat value], none)
    else ([], some ⟨value, pending.missing - 1, 0x80, 0xBF⟩)
  else
    let (chars, pending) := first byte
    (replacement :: chars, pending)

/-- The characters of bytes that follow those of a pending character, if there is one. -/
def decodeFrom : Option Pending → List UInt8 → List Char
  | none, [] => []
  | some _, [] => [replacement]
  | none, byte :: bytes =>
    let (chars, pending) := first byte.toNat
    chars ++ decodeFrom pending bytes
  | some pending, byte :: bytes =>
    let (chars, pending) := pending.next byte.toNat
    chars ++ decodeFrom pending bytes

/-- **The text of any bytes,** with replacement characters for what is ill-formed. -/
def decode (bytes : List UInt8) : List Char := decodeFrom none bytes

end Utf8
end Calculator
