import CertChain.FileTree
import CertChain.Log

/-!
# Hosts

A command reads and writes files, prints octets, looks at its environment and makes
entries in the log. A monad in which all of that can be done is a `MonadHost`. Files may be
refused, and so may what is printed.

`Machine` is a host that is a plain value, with a file tree, an environment, an output, what
has been printed and the log; `OnMachine` computes on it. `Filtered` lets only those entries
of the log through that reach a threshold, on any host.
-/

namespace CertChain

/-- A monad in which a command can run. -/
class MonadHost (m : Type → Type) extends MonadLog m where
  readFile : Path → m (Except Fault Bytes)
  writeFile : Path → Bytes → m (Except Fault Unit)
  print : Bytes → m (Except Fault Unit)
  environment : m (List (String × String))

instance {ε : Type} {m : Type → Type} [Monad m] [MonadHost m] : MonadHost (ExceptT ε m) where
  record event := ExceptT.lift (MonadLog.record event)
  readFile path := ExceptT.lift (MonadHost.readFile path)
  writeFile path content := ExceptT.lift (MonadHost.writeFile path content)
  print octets := ExceptT.lift (MonadHost.print octets)
  environment := ExceptT.lift MonadHost.environment

/-! ### Machines -/

/-- Why nothing can be printed. -/
inductive OutputRefusal where
  /-- There is no output. -/
  | noOutput
  /-- Whoever read the output is gone. -/
  | unread
  /-- There is no room where the output goes. -/
  | noRoom
  deriving DecidableEq, Repr

/-- A refusal to print, as a fault. -/
def OutputRefusal.fault : OutputRefusal → Fault
  | .noOutput => .ofText Fault.Kind.member "'NoneType' object has no attribute 'buffer'"
  | .unread => .alone ⟨.system "BrokenPipeError", [.int 32, .text "Broken pipe"], []⟩
  | .noRoom => .alone ⟨.system "OSError", [.int 28, .text "No space left on device"], []⟩

/-- **A host as a value.** Its output is in order, unless there is a refusal. -/
structure Machine where
  tree : FileTree
  environment : List (String × String)
  output : Option OutputRefusal
  printed : Bytes
  events : List Event
  deriving Repr, Inhabited

/-- Computations on a machine. -/
abbrev OnMachine := StateM Machine

namespace Machine

/-- A machine on which nothing has happened yet, with its output in order. -/
def fresh (tree : FileTree) (environment : List (String × String)) : Machine :=
  ⟨tree, environment, none, [], []⟩

/-- Makes an entry in the log. -/
def record (event : Event) (machine : Machine) : Machine :=
  { machine with events := machine.events ++ [event] }

/-- Prints octets, all of them or none. -/
def print (octets : Bytes) (machine : Machine) : Except Fault Unit × Machine :=
  match machine.output with
  | none => (.ok (), { machine with printed := machine.printed ++ octets })
  | some refusal => (.error refusal.fault, machine)

/-- Writes a file, or does nothing. -/
def writeFile (path : Path) (content : Bytes) (machine : Machine) :
    Except Fault Unit × Machine :=
  match machine.tree.write path content with
  | .ok tree => (.ok (), { machine with tree := tree })
  | .error refusal => (.error (refusal.fault path), machine)

/-- Reads a file. -/
def readFile (path : Path) (machine : Machine) : Except Fault Bytes :=
  (machine.tree.read path).mapError fun refusal => refusal.fault path

end Machine

instance : MonadHost OnMachine where
  record event := modify (Machine.record event)
  readFile path := return (← get).readFile path
  writeFile path content := modifyGet (Machine.writeFile path content)
  print octets := modifyGet (Machine.print octets)
  environment := return (← get).environment

/-! ### Thresholds -/

/-- Computations on a host where only entries that reach a threshold are made. -/
abbrev Filtered (m : Type → Type) := ReaderT Nat m

variable {m : Type → Type} [Monad m] [MonadHost m]

instance : MonadHost (Filtered m) where
  record event threshold :=
    if threshold ≤ event.level.severity then MonadLog.record event else pure ()
  readFile path _ := MonadHost.readFile path
  writeFile path content _ := MonadHost.writeFile path content
  print octets _ := MonadHost.print octets
  environment _ := MonadHost.environment

end CertChain
