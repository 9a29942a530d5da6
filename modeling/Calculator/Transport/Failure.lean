/-
# Transport failures

How reading from a stream or writing to one fails.  A failure has a kind and a
wording of its own.  One kind is harmless: an interrupted attempt is made
again.
-/

namespace Calculator

/-- The kinds of transport failures. -/
inductive FailureKind
  /-- The attempt was interrupted and may be made again. -/
  | interrupted
  | brokenPipe
  | unexpectedEnd
  | timedOut
  | wouldBlock
  /-- Nothing of what was written was accepted. -/
  | writeZero
  | notFound
  | isDirectory
  | other
deriving DecidableEq

/-- A failure of a stream. -/
structure TransportFailure where
  kind : FailureKind
  /-- What the stream tells of it. -/
  text : String
deriving DecidableEq

namespace TransportFailure

/-- Whether the attempt should be made again. -/
def isTransient (failure : TransportFailure) : Bool := failure.kind == .interrupted

end TransportFailure
end Calculator
