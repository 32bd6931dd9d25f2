/-!
# Paths

A path says where to start and which names to follow. Two texts that differ only in
names that lead nowhere (nothing at all between two strokes, or a single dot) are the
same path, and `Path.text` writes the shortest of them. Two dots lead up, but only the
files themselves say where to, so they stay.
-/

namespace CertChain

/-- Where a path starts. -/
inductive Origin where
  /-- In the directory the program runs in. -/
  | here
  /-- At the root. -/
  | root
  /-- At the root, which is written with two strokes. -/
  | doubleRoot
  deriving DecidableEq, Repr, Inhabited

/-- How an origin is written. -/
def Origin.text : Origin → String
  | .here => ""
  | .root => "/"
  | .doubleRoot => "//"

/-- **A path.** -/
structure Path where
  origin : Origin
  names : List String
  deriving DecidableEq, Repr, Inhabited

namespace Path

/-- The name that leads up. -/
def upward : String := ".."

/-- Where a text begins: three strokes are as good as one. -/
def originOf : List Char → Origin
  | '/' :: '/' :: '/' :: _ => .root
  | '/' :: '/' :: _ => .doubleRoot
  | '/' :: _ => .root
  | _ => .here

/-- The path that a text spells. -/
def ofText (text : String) : Path :=
  ⟨originOf text.toList, (text.splitOn "/").filter fun name => name ≠ "" ∧ name ≠ "."⟩

/-- **A path as text.** The path that follows no names has a dot. -/
def text (p : Path) : String :=
  if p = ⟨.here, []⟩ then "." else p.origin.text ++ "/".intercalate p.names

end Path
end CertChain
