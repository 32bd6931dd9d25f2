import CertChain.Text.Blank
import CertChain.Failure

/-!
# The log

What happens to a certificate is put on record, besides the answer that the caller
gets. An `Event` is one entry; each has a `Level`, and a reader of the log says from
which level on entries are of interest (`Level.admits`). Entries below it are computed
all the same, so nothing else depends on it.

A monad in which entries can be made is a `MonadLog`; `Logged` is the plain one, which
keeps them in order.
-/

namespace CertChain

/-! ### Levels -/

/-- How much an entry matters, from the least to the most. -/
inductive Level where
  | debug
  | info
  | warning
  | error
  | critical
  deriving DecidableEq, Repr, Inhabited

namespace Level

/-- The weight of a level. -/
def severity : Level → Nat
  | .debug => 10
  | .info => 20
  | .warning => 30
  | .error => 40
  | .critical => 50

/-- The name of a level. -/
def name : Level → String
  | .debug => "debug"
  | .info => "info"
  | .warning => "warning"
  | .error => "error"
  | .critical => "critical"

/-- All levels. -/
def all : List Level := [.debug, .info, .warning, .error, .critical]

end Level

/-- The names by which a threshold is set, with the least severity that passes. Two
levels have a second name, and one name lets everything pass. -/
def thresholds : List (String × Nat) :=
  [("CRITICAL", 50), ("FATAL", 50), ("ERROR", 40), ("WARNING", 30), ("WARN", 30), ("INFO", 20),
    ("DEBUG", 10), ("NOTSET", 0)]

/-- The threshold that is in force when none is set. -/
def usualThreshold : Nat := 20

/-- Two names that mean something else to the log: the first is the text of a form for
entries, the second a table. -/
def reservedNames : List (String × Fault) :=
  [("BASIC_FORMAT", .ofText .key "%(levelname)s:%(name)s:%(message)s"),
    ("_STYLES", .ofText Fault.Kind.type "unhashable type: 'dict'")]

/-- **The threshold that a text sets**, in any letter case. A text that names none sets
the usual one, but for the reserved names, which are a fault. -/
def thresholdOf (text : String) : Except Fault Nat :=
  let name := capitals text
  match reservedNames.lookup name with
  | some fault => .error fault
  | none => .ok ((thresholds.lookup name).getD usualThreshold)

/-! ### Entries -/

/-- An entry of the log. -/
inductive Event where
  /-- A command begins. -/
  | starting (command : String) (strict : Bool)
  /-- A certificate has been read. -/
  | loaded (subject issuer fingerprint : String)
  /-- Octets, so many of them, are no certificate. -/
  | decodeFailed (failure : Failure) (size : Nat)
  /-- A signature holds. -/
  | verified (signer signee : String)
  /-- A signature does not hold or cannot be checked. -/
  | verifyFailed (failure : Failure) (signer signee : String)
  deriving Repr, Inhabited

namespace Event

/-- The name of an entry. -/
def name : Event → String
  | .starting .. => "cli.starting"
  | .loaded .. => "certificate.loaded"
  | .decodeFailed .. => "certificate.decode_failed"
  | .verified .. => "verify.passed"
  | .verifyFailed .. => "verify.failed"

/-- The level of an entry. -/
def level : Event → Level
  | .starting .. | .loaded .. => .debug
  | .verified .. => .info
  | .decodeFailed .. | .verifyFailed .. => .warning

end Event

/-- The entries that pass a threshold, in order. -/
def passing (threshold : Nat) (events : List Event) : List Event :=
  events.filter fun e => threshold ≤ e.level.severity

/-! ### Making entries -/

/-- A monad in which entries can be made. -/
class MonadLog (m : Type → Type) where
  record : Event → m Unit

/-- A computation that keeps its entries, in order. -/
abbrev Logged := StateM (List Event)

instance : MonadLog Logged where
  record e := modify fun events => events ++ [e]

/-- What a computation gives, and its entries. -/
def Logged.collect (computation : Logged α) : α × List Event :=
  StateT.run computation []

end CertChain
