import CertChain.Certificate.Loader
import CertChain.Host
import CertChain.Pair
import CertChain.Settings

/-!
# Commands

What a caller can ask for: the format of a file, a report on the certificate in it, the
certificate in another format, and whether one certificate signs another.

`Command.run` carries a command out on a host. Its outcome is a success or a failure, and
what it has to tell is printed, or written to a file, as the last thing it does: a command
that fails at reading, decoding or checking has neither printed nor written anything.
-/

namespace CertChain

/-- **A command.** A conversion without a format uses the one in the settings, and without
an output it prints. The second path of a check may be lost; such a check cannot be carried
out. -/
inductive Command where
  | identify (path : Path)
  | info (path : Path)
  | convert (path : Path) (format : Option Format) (output : Option Path)
  | verify (signer : Path) (signee : Option Path)
  deriving DecidableEq, Repr

namespace Command

/-- The name of a command. -/
def name : Command → String
  | .identify _ => "identify"
  | .info _ => "info"
  | .convert .. => "convert"
  | .verify .. => "verify"

/-- The names of all commands. -/
def names : List String := ["identify", "info", "convert", "verify"]

variable {m : Type → Type} [Monad m] [MonadHost m]

/-! ### Files and output -/

/-- Steps of a command, each of which may fail. -/
abbrev Steps (m : Type → Type) := ExceptT Failure m

/-- An outcome as a step. -/
def settle {α : Type} (outcome : Outcome α) : Steps m α :=
  ExceptT.mk (pure outcome)

/-- What comes of steps, as an outcome. -/
def outcomeOf {α : Type} (steps : Steps m α) : Steps m (Outcome α) :=
  ExceptT.lift steps.run

/-- The failure of a file that cannot be read. -/
def unreadable (path : Path) (fault : Fault) : Failure :=
  .because .ioError ("Cannot read certificate file " ++ quoted path.text) fault

/-- The failure of a file that cannot be written. -/
def unwritable (path : Path) (fault : Fault) : Failure :=
  .because .ioError ("Cannot write " ++ quoted path.text) fault

/-- The failure of an output that cannot be printed to. -/
def unprintable (fault : Fault) : Failure :=
  .because .ioError "Cannot write to stdout" fault

/-- The content of a file. -/
def readFile (path : Path) : Steps m Bytes := do
  match ← MonadHost.readFile path with
  | .ok content => return content
  | .error fault => throw (unreadable path fault)

/-- Writes a file, or prints if there is no path. -/
def put (content : Bytes) : Option Path → Steps m Unit
  | none => do
    match ← MonadHost.print content with
    | .ok () => return
    | .error fault => throw (unprintable fault)
  | some path => do
    match ← MonadHost.writeFile path content with
    | .ok () => return
    | .error fault => throw (unwritable path fault)

/-- Prints lines. -/
def printLines (lines : List String) : Steps m Unit :=
  put (Bytes.ofText ("".intercalate (lines.map fun line => line ++ "\n"))) none

/-- The certificate in a file. -/
def loadFile (loader : Loader) (path : Path) : Steps m Certificate := do
  let outcome : Outcome Certificate ← loader.load (← readFile path)
  settle outcome

/-! ### Commands -/

/-- The format of a file. -/
def identifyFile (strict : Bool) (path : Path) : Steps m Unit := do
  let format ← settle (CertChain.identify strict (← readFile path))
  printLines [format.name]

/-- The lines of a report. -/
def report (format : Format) (c : Certificate) : List String :=
  ["subject: " ++ c.subject, "issuer: " ++ c.issuer, "format: " ++ format.name,
    "sha256: " ++ c.fingerprint]

/-- A report on a file. Format and certificate are both looked for, whatever comes of the
first. -/
def describeFile (strict : Bool) (path : Path) : Steps m Unit := do
  let content ← readFile path
  let format := CertChain.identify strict content
  let certificate : Outcome Certificate ← (Loader.mk strict).load content
  printLines (report (← settle format) (← settle certificate))

/-- The certificate of a file, in a format. -/
def convertFile (strict : Bool) (path : Path) (format : Format) (output : Option Path) :
    Steps m Unit := do
  let certificate ← loadFile (Loader.mk strict) path
  put (certificate.encode format) output

/-- The certificate of a file, in the format with a name. The name comes first: unless there is
such a format nobody looks at the file. -/
def convertNamed (strict : Bool) (path : Path) (name : String) (output : Option Path) :
    Steps m Unit := do
  let format ← settle (Format.parse name)
  convertFile strict path format output

/-- Whether the certificate of one file signs that of another. Both files are read,
whatever comes of the first. -/
def verifyFiles (strict : Bool) (signer signee : Path) : Steps m Unit := do
  let first ← outcomeOf (loadFile (Loader.mk strict) signer)
  let second ← outcomeOf (loadFile (Loader.mk strict) signee)
  let checked : Outcome Pair ← (Pair.mk (← settle first) (← settle second)).verifyLogged
  let pair ← settle checked
  printLines ["OK: " ++ pair.signer.subject ++ " signs " ++ pair.signee.subject]

/-- The fault of a path that is none. -/
def noPath : Fault :=
  .ofText Fault.Kind.member "'list' object has no attribute 'read_bytes'"

/-- **Carries a command out.** Nothing but a check without a second path ends with a
fault. -/
def run (settings : Settings) : Command → m (Except Fault (Outcome Unit))
  | .identify path => .ok <$> (identifyFile settings.strictDer path).run
  | .info path => .ok <$> (describeFile settings.strictDer path).run
  | .convert path format output =>
    let name := (format.getD settings.outputFormat).name
    .ok <$> (convertNamed settings.strictDer path name output).run
  | .verify signer (some signee) => .ok <$> (verifyFiles settings.strictDer signer signee).run
  | .verify signer none => do
    let _ ← (loadFile (Loader.mk settings.strictDer) signer).run
    return .error noPath

end Command
end CertChain
