import CertChain.Outcome

/-!
# Formats

A certificate travels in one of two encodings, each with a name of its own: `der`, the
octets themselves, and `pem`, the octets in a text.
-/

namespace CertChain

/-- The two encodings of a certificate. -/
inductive Format where
  | pem
  | der
  deriving DecidableEq, Repr, Inhabited

namespace Format

/-- Both encodings. -/
def all : List Format := [.pem, .der]

/-- The name of an encoding. -/
def name : Format → String
  | .pem => "pem"
  | .der => "der"

/-- The name in capitals. -/
def title : Format → String
  | .pem => "PEM"
  | .der => "DER"

/-- The encoding with a name. Nothing but the exact name counts. -/
def ofName? (text : String) : Option Format :=
  all.find? fun format => format.name = text

@[simp] theorem ofName?_name (format : Format) : ofName? format.name = some format := by
  cases format <;> decide

/-- **The encoding with a name**, or a failure that quotes what was given instead. -/
def parse (text : String) : Outcome Format :=
  match ofName? text with
  | some format => .ok format
  | none =>
    .error (.plain .unknownFormat
      ("Unknown certificate format " ++ quoted text ++ ", expected one of: pem, der"))

@[simp] theorem parse_name (format : Format) : parse format.name = .ok format := by
  rw [parse, ofName?_name]

end Format
end CertChain
