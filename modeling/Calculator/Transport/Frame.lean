/-
# Frames

The bytes of one reply on the wire: its text, a line ending, and the line
ending again.  `unframe?` reads a row of frames back, whatever they hold, as
long as no reply is empty or contains a line ending.
-/

import Calculator.Newline
import Calculator.Utf8

namespace Calculator

/-- **The frame of a reply.** -/
def frame (newline : Newline) (reply : String) : List UInt8 :=
  Utf8.encode reply.toList ++ Utf8.encode newline.text.toList ++ Utf8.encode newline.text.toList

namespace Frame

/-- What stands before the first occurrence of a text, and what stands after it. -/
def splitAt? (separator : List UInt8) : List UInt8 → Option (List UInt8 × List UInt8)
  | [] => if separator.isPrefixOf [] then some ([], []) else none
  | byte :: bytes =>
    if separator.isPrefixOf (byte :: bytes) then
      some ([], (byte :: bytes).drop separator.length)
    else
      (splitAt? separator bytes).map fun (before, after) => (byte :: before, after)

/-- A frame at the front: a line that is not empty and then an empty line. -/
def take? (newline : Newline) (bytes : List UInt8) : Option (List UInt8 × List UInt8) := do
  let ending := Utf8.encode newline.text.toList
  let (reply, rest) ← splitAt? ending bytes
  if reply = [] then none
  else if ending.isPrefixOf rest then some (reply, rest.drop ending.length)
  else none

/-- At most `count` frames that make up all of the bytes. -/
def takeAll? (newline : Newline) : (count : Nat) → List UInt8 → Option (List (List UInt8))
  | _, [] => some []
  | 0, _ :: _ => none
  | count + 1, bytes => do
    let (reply, rest) ← take? newline bytes
    return reply :: (← takeAll? newline count rest)

end Frame

/-- **The replies that make up an output.**  There are no more of them than bytes. -/
def unframe? (newline : Newline) (bytes : List UInt8) : Option (List (List UInt8)) :=
  Frame.takeAll? newline bytes.length bytes

end Calculator
