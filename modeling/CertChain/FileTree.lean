import CertChain.Bytes
import CertChain.Fault
import CertChain.Path

/-!
# File trees

A file tree says what the places around a working directory hold. It answers to reading
and writing as a file system does, with the same refusals: a name that is not there, a
file where a directory should be, a directory where a file should be, and names and paths
that are too long.

* `FileTree.locate` follows a path to a place.
* `FileTree.read` and `FileTree.write` act on the file at the end of it.

Directories need not be listed when something in them is; the working directory, the
directories above it and the root are always there.
-/

namespace CertChain

/-! ### Refusals -/

/-- Why a file system does not do what it is asked for. -/
inductive FileRefusal where
  /-- There is a zero octet in the path. -/
  | zeroOctet
  /-- There is no such file or directory. -/
  | noEntry
  /-- On the way there is something that is no directory. -/
  | notDirectory
  /-- At the end there is a directory. -/
  | isDirectory
  /-- A name, or the whole path, is too long. -/
  | nameTooLong
  deriving DecidableEq, Repr

/-- A refusal, as the fault that names the path. -/
def FileRefusal.fault (refusal : FileRefusal) (path : Path) : Fault :=
  let system (name : String) (number : Int) (text : String) : Fault :=
    .alone ⟨.system name, [.int number, .text text, .text path.text], []⟩
  match refusal with
  | .zeroOctet => .ofText Fault.Kind.value "embedded null byte"
  | .noEntry => system "FileNotFoundError" 2 "No such file or directory"
  | .notDirectory => system "NotADirectoryError" 20 "Not a directory"
  | .isDirectory => system "IsADirectoryError" 21 "Is a directory"
  | .nameTooLong => system "OSError" 36 "File name too long"

/-! ### Places -/

/-- Where the way to a place begins: so many steps above the working directory, or at the
root. -/
inductive Base where
  | above (steps : Nat)
  | root
  deriving DecidableEq, Repr, Inhabited

/-- A place: a way down from its base. -/
structure Place where
  base : Base
  names : List String
  deriving DecidableEq, Repr, Inhabited

namespace Place

/-- The place where a path starts. -/
def start : Origin → Place
  | .here => ⟨.above 0, []⟩
  | .root | .doubleRoot => ⟨.root, []⟩

/-- The place one name further down. -/
def child (p : Place) (name : String) : Place :=
  ⟨p.base, p.names ++ [name]⟩

/-- The place one step up. Nothing is above the root. -/
def parent (p : Place) : Place :=
  match p.names, p.base with
  | [], .above steps => ⟨.above (steps + 1), []⟩
  | [], .root => p
  | names, base => ⟨base, names.dropLast⟩

/-- Whether `q` is reached from `p` by going down. -/
def isAbove (p q : Place) : Bool :=
  p.base == q.base && p.names.isPrefixOf q.names && p.names.length < q.names.length

end Place

/-! ### Trees -/

/-- What a place holds. -/
inductive Node where
  | file (content : Bytes)
  | directory
  deriving DecidableEq, Repr, Inhabited

/-- **A file tree**: what is listed, each place once. -/
structure FileTree where
  nodes : List (Place × Node)
  deriving Repr, Inhabited

namespace FileTree

variable (tree : FileTree)

/-- What a place holds, if there is anything. -/
def node? (p : Place) : Option Node :=
  if p.names.isEmpty then some .directory
  else
    match tree.nodes.lookup p with
    | some node => some node
    | none => if tree.nodes.any fun entry => p.isAbove entry.1 then some .directory else none

/-- How many octets a name may have. -/
def nameLimit : Nat := 255

/-- How many octets a path may have. -/
def pathLimit : Nat := 4095

/-- One name further along a path. -/
def follow (p : Place) (name : String) : Except FileRefusal Place :=
  match tree.node? p with
  | none => .error .noEntry
  | some (.file _) => .error .notDirectory
  | some .directory =>
    if name = Path.upward then .ok p.parent
    else if nameLimit < name.utf8ByteSize then .error .nameTooLong
    else .ok (p.child name)

/-- **The place at the end of a path.** It may hold nothing, but everything on the way is
a directory. -/
def locate (path : Path) : Except FileRefusal Place :=
  if path.text.toList.contains '\x00' then .error .zeroOctet
  else if pathLimit < path.text.utf8ByteSize then .error .nameTooLong
  else path.names.foldlM tree.follow (Place.start path.origin)

/-- The same tree, but for what one place holds. -/
def put (p : Place) (node : Node) : FileTree :=
  if (tree.nodes.lookup p).isSome then
    ⟨tree.nodes.map fun entry => if entry.1 = p then (p, node) else entry⟩
  else ⟨tree.nodes ++ [(p, node)]⟩

/-- **The content of a file.** -/
def read (path : Path) : Except FileRefusal Bytes := do
  match tree.node? (← tree.locate path) with
  | some (.file content) => return content
  | some .directory => throw .isDirectory
  | none => throw .noEntry

/-- **The tree with a file written.** What the file held before is gone. -/
def write (path : Path) (content : Bytes) : Except FileRefusal FileTree := do
  let place ← tree.locate path
  match tree.node? place with
  | some .directory => throw .isDirectory
  | _ => return tree.put place (.file content)

end FileTree
end CertChain
