import Calculator.Main
import Calculator.Phrase
import Calculator.Piece
import Calculator.Boundary
import Calculator.Proofs.Safety
import Calculator.Transport.Frame
import Calculator.Transport.Segment
import Calculator.Transport.Buffer
import Calculator.Proofs.Lines
import Calculator.Proofs.Sending
import Calculator.Proofs.Session
import Calculator.Proofs.Decoding
import Calculator.Proofs.Logging
import Calculator.Proofs.Answers
import Calculator.Proofs.Cause
import Calculator.Proofs.Encoding
import Calculator.Proofs.Terminators
import Calculator.Proofs.Limits
import Calculator.Proofs.Requests
import Calculator.Proofs.Guards
import Calculator.Proofs.Digits
import Calculator.Proofs.Partition
import Calculator.Proofs.Spacing
import Calculator.Proofs.Echo
import Calculator.Proofs.Resending
import Calculator.Proofs.Unframing
import Calculator.Chronicle
import Calculator.Cursor
import Calculator.Descent
import Calculator.Proofs.Fitting
import Calculator.Proofs.Unwinding
import Calculator.Proofs.Settling
import Calculator.Proofs.Columns
import Calculator.Proofs.Progress
