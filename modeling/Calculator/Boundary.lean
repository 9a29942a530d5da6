/-
# Boundaries between characters

A text is cut as bytes, and a cut inside a character would leave bytes that are
no text.  An index into the bytes is a boundary when it is the start or the end
of the text, or when the byte there is the first of a character.

A text that is too long is cut by stepping back: from the limit, one byte at a
time, to the nearest boundary.  Two things could go wrong on the way, and both
give nothing: the steps could pass the start of the text, and what is cut off
could begin inside a character.  That neither happens is proved in
`Calculator.Proofs.Fitting`, and so is that `Line.fitted` gives the same line.
-/

import Calculator.Line

namespace Calculator
namespace Utf8

/-- **Whether an index into the bytes of a text lies between two characters:** at the start, at the
end, or in front of the first byte of a character. -/
def isBoundary (bytes : List UInt8) (index : Nat) : Bool :=
  index == 0 ||
    match bytes[index]? with
    | some byte => decide byte.IsUTF8FirstByte
    | none => index == bytes.length

/-- The nearest boundary at an index or before it, if there is one before the steps back pass the
start. -/
def boundaryBefore? (bytes : List UInt8) : Nat → Option Nat
  | 0 => if isBoundary bytes 0 then some 0 else none
  | index + 1 =>
    if isBoundary bytes (index + 1) then some (index + 1) else boundaryBefore? bytes index

/-- The text of the bytes in front of an index, if the index is a boundary. -/
def textBefore? (bytes : List UInt8) (index : Nat) : Option (List Char) :=
  if isBoundary bytes index then some (decode (bytes.take index)) else none

end Utf8

/-- **A text cut to a limit by stepping back** from it to a boundary, if there is one. -/
def Line.steppedBack? (limit : Nat) (text : String) : Option Line :=
  let bytes := Utf8.encode text.toList
  if bytes.length ≤ limit then
    some (.whole text)
  else do
    let stop ← Utf8.boundaryBefore? bytes limit
    let kept ← Utf8.textBefore? bytes stop
    pure ⟨String.ofList kept, true⟩

end Calculator
