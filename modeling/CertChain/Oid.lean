import CertChain.Der.Element

/-!
# Object identifiers

An object identifier names an algorithm, a kind of attribute or a curve by a path of
numbers, its arcs. In DER the arcs stand one after the other in base 128; the first
two share one number. Each arc has one shortest spelling, so an identifier is held
as its contents octets: writing gives back what was read, and two identifiers are
the same exactly when their octets are. `Oid.arcs` is the path that the octets
spell, `Oid.dotted` its usual text, and `Oid.ofArcs` builds an identifier from the
path.
-/

namespace CertChain

/-- An object identifier, as the contents octets of its DER form. -/
structure Oid where
  contents : Bytes
  deriving DecidableEq, Repr

namespace Oid

/-- The most contents octets an identifier may have. -/
def maxLength : Nat := 63

/-- The bound on an arc. -/
def arcLimit : Nat := 1 <<< 128

/-- The numbers that contents octets spell. `fresh` says whether a number begins
here, and `current` is what has been read of it otherwise. A number does not begin
with an empty digit and does not break off. -/
def numbers? (fresh : Bool) (current : Nat) : Bytes → Option (List Nat)
  | [] => if fresh then some [] else none
  | b :: rest =>
    if fresh ∧ b = 0x80 then none
    else
      let n := 128 * current + b.toNat % 128
      if arcLimit ≤ n then none
      else if b < 0x80 then (numbers? true 0 rest).map (n :: ·)
      else numbers? false n rest

/-- Reads contents octets. -/
def ofContents (contents : Bytes) : Except Der.Error Oid :=
  if contents.isEmpty ∨ maxLength < contents.length then .error .badValue
  else if (numbers? true 0 contents).isSome then .ok ⟨contents⟩
  else .error .badValue

/-- The path of the first two arcs: the first is 0, 1 or 2, and below 2 the second is
less than 40. -/
def splitFirst (n : Nat) : List Nat :=
  if n < 40 then [0, n] else if n < 80 then [1, n - 40] else [2, n - 80]

/-- **The path.** -/
def arcs (oid : Oid) : List Nat :=
  match numbers? true 0 oid.contents with
  | some (first :: rest) => splitFirst first ++ rest
  | _ => []

/-- The arcs with dots between them. -/
def dotted (oid : Oid) : String :=
  ".".intercalate (oid.arcs.map toString)

/-- A number in base 128, all digits but the last with their top bit set. -/
def writeNumber (n : Nat) : Bytes :=
  let count := n.log2 / 7 + 1
  (List.range count).reverse.map fun i =>
    UInt8.ofNat (n >>> (7 * i) % 128 + if i = 0 then 0 else 128)

/-- The identifier with the given path. -/
def ofArcs : List Nat → Oid
  | a :: b :: rest => ⟨writeNumber (40 * a + b) ++ rest.flatMap writeNumber⟩
  | _ => ⟨[]⟩

/-- The identifier as an element. -/
def toElement (oid : Oid) : Der.Element :=
  .make Der.oidTag oid.contents

/-- The identifier at the front of the input. -/
def reader : Der.Reader Oid := do
  ofContents (← Der.expect Der.oidTag)

end Oid
end CertChain
