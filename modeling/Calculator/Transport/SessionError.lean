/-
# Session errors

What stops a session before its input ends: settings that allow no line, or a
failure of the transport.  A faulty line is not an error of the session.
-/

import Calculator.Numeral
import Calculator.Transport.Failure

namespace Calculator

/-- What stops a session before its input ends. -/
inductive SessionError
  /-- The limit allows no line at all. -/
  | badLimit (limit : Nat)
  /-- Reading or writing failed. -/
  | transport (failure : TransportFailure)
deriving DecidableEq

namespace SessionError

/-- What is said of an error. -/
def message : SessionError → String
  | badLimit limit =>
    "Invalid maximum line length " ++ Numeral.text limit ++ ": must be at least 1."
  | transport failure => "Transport error: " ++ failure.text ++ "."

end SessionError

/-- Refuses a limit that allows no line. -/
def checkLimit (limit : Nat) : Except SessionError Unit :=
  if limit = 0 then .error (.badLimit limit) else .ok ()

end Calculator
