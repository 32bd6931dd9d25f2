import CertChain.Fault.Trace
import CertChain.Timestamp

/-!
# Failures

A failure is an expected answer: this buffer is no certificate, this key cannot be
used, this signature does not hold. It has a code from a closed list, a message, and
the fault it comes from if there is one.

`Failure.detail` is the message together with the text of the fault, and
`Failure.trace` the message together with the fault's whole story. Both are the bare
message when there is no fault. A fault that has no text, or no trace, leaves its failure
without one too; a failure can always be made, since it does not look at its fault.
-/

namespace CertChain

/-- What sort of failure it is. -/
inductive ErrorCode where
  /-- A format is asked for that is none. -/
  | unknownFormat
  /-- Octets are no certificate in the encoding they were taken for. -/
  | decodeError
  /-- The key in a certificate cannot be decoded. -/
  | keyExtractionError
  /-- A signature does not hold or cannot be checked. -/
  | verificationFailed
  /-- There are too few octets to tell their encoding. -/
  | inputTooShort
  /-- Octets are in neither encoding. -/
  | unrecognizedEncoding
  /-- A file cannot be read or written. -/
  | ioError
  deriving DecidableEq, Repr, Inhabited

namespace ErrorCode

/-- All codes. -/
def all : List ErrorCode :=
  [.unknownFormat, .decodeError, .keyExtractionError, .verificationFailed, .inputTooShort,
    .unrecognizedEncoding, .ioError]

/-- The name of a code. -/
def name : ErrorCode → String
  | .unknownFormat => "UNKNOWN_FORMAT"
  | .decodeError => "DECODE_ERROR"
  | .keyExtractionError => "KEY_EXTRACTION_ERROR"
  | .verificationFailed => "VERIFICATION_FAILED"
  | .inputTooShort => "INPUT_TOO_SHORT"
  | .unrecognizedEncoding => "UNRECOGNIZED_ENCODING"
  | .ioError => "IO_ERROR"

/-- The code with a name. -/
def ofName (name : String) : Except Fault ErrorCode :=
  match all.find? fun code => code.name = name with
  | some code => .ok code
  | none => .error (.ofText Fault.Kind.value (quoted name ++ " is not a valid ErrorCode"))

/-- A code, shown with its name and its value. -/
def shown (code : ErrorCode) : String :=
  "<ErrorCode." ++ code.name ++ ": '" ++ code.name ++ "'>"

end ErrorCode

/-- **A failure.** The time at which it was noticed is kept only when somebody sets
it. -/
structure Failure where
  code : ErrorCode
  message : String
  cause : Option Fault
  time : Option Timestamp
  deriving DecidableEq, Repr, Inhabited

namespace Failure

/-- A failure that comes from no fault. -/
def plain (code : ErrorCode) (message : String) : Failure :=
  ⟨code, message, none, none⟩

/-- A failure that comes from a fault. -/
def because (code : ErrorCode) (message : String) (fault : Fault) : Failure :=
  ⟨code, message, some fault, none⟩

/-- **The message, and the text of the fault.** -/
def detail (f : Failure) : Except Fault String :=
  match f.cause with
  | none => .ok f.message
  | some fault => do return f.message ++ ": " ++ (← fault.text)

theorem detail_because (code : ErrorCode) (message : String) (fault : Fault) :
    (because code message fault).detail = do return message ++ ": " ++ (← fault.text) :=
  rfl

/-- **The message, and the story of the fault.** -/
def trace (f : Failure) : Except Fault String :=
  match f.cause with
  | none => .ok f.message
  | some fault => do return f.message ++ "\n" ++ (← fault.trace)

/-- The same failure, with the time at which it was noticed. -/
def notedAt (f : Failure) (time : Timestamp) : Failure :=
  ⟨f.code, f.message, f.cause, some time⟩

/-- A failure as the call that would build it. The fault is not part of it. -/
def shown (f : Failure) : String :=
  let time :=
    match f.time with
    | none => ""
    | some time => ", timestamp=" ++ time.shown
  "FailureDescription(code=" ++ f.code.shown ++ ", message=" ++ quoted f.message ++ time ++ ")"

/-- Whether two failures are the same to whoever handles them: fault and time do not
count. -/
def agrees (f g : Failure) : Bool :=
  f.code == g.code && f.message == g.message

end Failure
end CertChain
