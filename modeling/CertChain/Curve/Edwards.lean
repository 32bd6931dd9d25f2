import CertChain.Bytes
import CertChain.Modular

/-!
# Edwards curves

A curve `a x² + y² = 1 + d x² y²` over the numbers modulo a prime. With `a` a square
and `d` none, one formula adds any two points, so that there are no cases. A point is
written as its second coordinate, least significant octet first, and the parity of
the first one in the last bit.

Sums are computed with a third coordinate: `⟨x, y, z⟩` stands for `(x / z, y / z)`.
-/

namespace CertChain

/-- A curve with its base point and the order of that. `width` is the number of octets
of a written point, the parity included. -/
structure Edwards where
  prime : Nat
  a : Nat
  d : Nat
  baseX : Nat
  baseY : Nat
  order : Nat
  width : Nat

namespace Edwards

/-- A point in projective coordinates. -/
structure Point where
  x : Nat
  y : Nat
  z : Nat

variable (curve : Edwards)

def base : Point := ⟨curve.baseX, curve.baseY, 1⟩

/-- The neutral point. -/
def zero : Point := ⟨0, 1, 1⟩

/-- **The sum of two points.** -/
def add (s t : Point) : Point :=
  let p := curve.prime
  let a := s.z * t.z % p
  let b := a * a % p
  let c := s.x * t.x % p
  let d := s.y * t.y % p
  let e := curve.d * c % p * d % p
  let f := Modular.sub p b e
  let g := b + e
  let cross := Modular.sub p ((s.x + s.y) * (t.x + t.y)) (c + d)
  ⟨a * f % p * cross % p, a * g % p * Modular.sub p d (curve.a * c) % p, f * g % p⟩

/-- The opposite of a point. -/
def negate (s : Point) : Point :=
  ⟨Modular.sub curve.prime 0 s.x, s.y, s.z⟩

/-- `k` times a point, one doubling for each binary digit of `k`. -/
def multiply (k : Nat) (s : Point) : Point :=
  if _h : k = 0 then zero
  else
    let half := multiply (k / 2) s
    let twice := curve.add half half
    if k % 2 = 1 then curve.add twice s else twice
termination_by k

/-- Whether two points are the same. -/
def same (s t : Point) : Bool :=
  s.x * t.z % curve.prime == t.x * s.z % curve.prime
    && s.y * t.z % curve.prime == t.y * s.z % curve.prime

/-- The written form of a point. -/
def encode (s : Point) : Bytes :=
  let i := (Modular.inverse? curve.prime s.z).getD 0
  let x := s.x * i % curve.prime
  let y := s.y * i % curve.prime
  Bytes.ofNatLE curve.width (y + (x % 2) <<< (8 * curve.width - 1))

/-- The second coordinate and the parity that octets spell. -/
def parts (octets : Bytes) : Nat × Nat :=
  let n := Bytes.toNatLE octets
  (n % (1 <<< (8 * curve.width - 1)), n >>> (8 * curve.width - 1))

/-- A point with the second coordinate `y`, if there is one; its first coordinate has
the given parity unless it is zero. -/
def lift? (y parity : Nat) : Option Point := do
  let p := curve.prime
  let yy := y * y % p
  let denominator ← Modular.inverse? p (Modular.sub p curve.a (curve.d * yy))
  let x ← Modular.sqrt? p (Modular.sub p 1 yy * denominator)
  return if x % 2 = parity then ⟨x, y, 1⟩ else ⟨Modular.sub p 0 x, y, 1⟩

/-! ### The two curves -/

/-- The curve of Ed25519. -/
def curve25519 : Edwards where
  prime := (1 <<< 255) - 19
  a := (1 <<< 255) - 20
  d := 0x52036CEE2B6FFE738CC740797779E89800700A4D4141D8AB75EB4DCA135978A3
  baseX := 0x216936D3CD6E53FEC0A4E231FDD6DC5C692CC7609525A7B2C9562D608F25D51A
  baseY := 0x6666666666666666666666666666666666666666666666666666666666666658
  order := (1 <<< 252) + 27742317777372353535851937790883648493
  width := 32

/-- The curve of Ed448. -/
def curve448 : Edwards where
  prime := (1 <<< 448) - (1 <<< 224) - 1
  a := 1
  d := (1 <<< 448) - (1 <<< 224) - 1 - 39081
  baseX := 0x4F1970C66BED0DED221D15A622BF36DA9E146570470F1767EA6DE324A3D3A46412AE1AF72AB66511433B80E18B00938E2626A82BC70CC05E
  baseY := 0x693F46716EB6BC248876203756C9C7624BEA73736CA3984087789C1E05A0C2D73AD3FF1CE67C39C4FDBD132C4ED7C8AD9808795BF230FA14
  order := (1 <<< 446) - 13818066809895115352007386748515426880336692474882178609894547503885
  width := 57

end Edwards
end CertChain
