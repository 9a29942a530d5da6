/-
# Segments of an input

What the lines of an input are, said without a reader: take the whole script of
signals, remove what does not count, and cut it at what ends a line.  Nothing
counts of an interrupted attempt, nor of a line feed right after a carriage
return.  What is left is cut after every line ending, every end of the input
and every failure; the bytes between two cuts are a segment.
-/

import Calculator.Transport.Receiver

namespace Calculator

/-- Whether a signal is an attempt that was interrupted. -/
def Signal.isInterruption : Signal → Bool
  | .failure reason => reason.isTransient
  | _ => false

/-- A script without interruptions. -/
def Signal.uninterrupted (signals : List Signal) : List Signal :=
  signals.filter fun signal => !signal.isInterruption

namespace Segment

/-- Removes interruptions and every line feed whose last byte before it was a carriage return. -/
def normalize (afterReturn : Bool) : List Signal → List Signal
  | [] => []
  | .byte byte :: signals =>
    if afterReturn && byte == lineFeed then normalize false signals
    else .byte byte :: normalize (byte == carriageReturn) signals
  | .endOfInput :: signals => .endOfInput :: normalize afterReturn signals
  | .failure failure :: signals =>
    if failure.isTransient then normalize afterReturn signals
    else .failure failure :: normalize afterReturn signals

/-- The line of a segment: its first bytes within the limit. -/
def line (limit : Nat) (segment : List UInt8) : Line :=
  ⟨String.ofList (Utf8.decode (segment.take limit)), decide (limit < segment.length)⟩

/-- What the end of the input gives for a segment. -/
def atEnd (limit : Nat) (segment : List UInt8) : Option Line :=
  if segment = [] then none else some (line limit segment)

/-- What the cuts give, one after another, where `segment` are the bytes since the last cut. -/
def closings (limit : Nat) (segment : List UInt8) :
    List Signal → List (Except TransportFailure (Option Line))
  | [] => if segment = [] then [] else [.ok (some (line limit segment))]
  | .byte byte :: signals =>
    if byte = carriageReturn ∨ byte = lineFeed then
      .ok (some (line limit segment)) :: closings limit [] signals
    else
      closings limit (segment ++ [byte]) signals
  | .endOfInput :: signals => .ok (atEnd limit segment) :: closings limit [] signals
  | .failure failure :: signals => .error failure :: closings limit [] signals

/-- **What reading a script line by line gives:** its closings, and then no line for ever. -/
def reading (limit : Nat) (signals : List Signal) (index : Nat) :
    Except TransportFailure (Option Line) :=
  ((closings limit [] (normalize false signals))[index]?).getD (.ok none)

/-- The lines before the first closing that gives none. -/
def lines : List (Except TransportFailure (Option Line)) → List Line
  | .ok (some line) :: closings => line :: lines closings
  | _ => []

/-- How the first closing that gives no line ends the input. -/
def ending : List (Except TransportFailure (Option Line)) → Except TransportFailure Unit
  | .ok (some _) :: closings => ending closings
  | .error failure :: _ => .error failure
  | _ => .ok ()

/-- The raw lines of some bytes, without their line endings. -/
def rawFrom (segment : List UInt8) (afterReturn : Bool) : List UInt8 → List (List UInt8)
  | [] => if segment = [] then [] else [segment]
  | byte :: bytes =>
    if afterReturn && byte == lineFeed then rawFrom segment false bytes
    else if byte == carriageReturn then segment :: rawFrom [] true bytes
    else if byte == lineFeed then segment :: rawFrom [] false bytes
    else rawFrom (segment ++ [byte]) false bytes

/-- **The raw lines of an input** of some bytes. -/
def raw (bytes : List UInt8) : List (List UInt8) := rawFrom [] false bytes

end Segment
end Calculator
