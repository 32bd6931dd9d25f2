import CertChain.Bytes
import CertChain.Modular

/-!
# Curves over a prime field

A curve `y² = x³ + a x + b` over the numbers modulo a prime, with a base point of
prime order. The points, and one point at infinity, form a group; signatures are
checked by computing in it.

A `Point` is what is read and shown. Sums are computed with a third coordinate, which
saves a division at every step (`Projective`: it stands for the point
`(x / z², y / z³)`, and for infinity when `z` is zero).
-/

namespace CertChain

/-- A curve with its base point and the order of that. -/
structure Weierstrass where
  prime : Nat
  a : Nat
  b : Nat
  baseX : Nat
  baseY : Nat
  order : Nat
  deriving DecidableEq, Repr

namespace Weierstrass

/-- A point that is not at infinity. -/
structure Point where
  x : Nat
  y : Nat
  deriving DecidableEq, Repr

/-- A point in projective coordinates. -/
structure Projective where
  x : Nat
  y : Nat
  z : Nat

variable (curve : Weierstrass)

/-- The number of octets in a coordinate. -/
def width : Nat :=
  Bytes.widthOf (curve.prime - 1)

/-- The right-hand side of the equation. -/
def rightSide (x : Nat) : Nat :=
  (x * x % curve.prime * x + curve.a * x + curve.b) % curve.prime

/-- Whether a point is on the curve. -/
def contains (point : Point) : Bool :=
  point.x < curve.prime && point.y < curve.prime
    && point.y * point.y % curve.prime == curve.rightSide point.x

/-- The base point. -/
def base : Point :=
  ⟨curve.baseX, curve.baseY⟩

/-! ### Reading points -/

/-- The point at `x` whose `y` has the given parity. -/
def lift? (x : Nat) (parity : Nat) : Option Point :=
  match Modular.sqrt? curve.prime (curve.rightSide x) with
  | none => none
  | some y =>
    if y % 2 = parity then some ⟨x, y⟩
    else if y = 0 then none
    else some ⟨x, curve.prime - y⟩

/-- **Reads a point.** The first octet says how it is written: 4, both coordinates;
2 or 3, the first coordinate and the parity of the second; 6 or 7, both coordinates
and the parity again. Nothing else is a point, infinity included. -/
def decode? (octets : Bytes) : Option Point :=
  match octets with
  | [] => none
  | form :: rest =>
    let width := curve.width
    let x := Bytes.toNat (rest.take width)
    let parity := form.toNat % 2
    if form = 2 ∨ form = 3 then
      if rest.length = width ∧ x < curve.prime then curve.lift? x parity else none
    else if form = 4 ∨ form = 6 ∨ form = 7 then
      let point : Point := ⟨x, Bytes.toNat (rest.drop width)⟩
      if rest.length = 2 * width ∧ curve.contains point ∧ (form = 4 ∨ point.y % 2 = parity) then
        some point
      else none
    else none

/-! ### The group -/

/-- The point at infinity. -/
def infinity : Projective := ⟨1, 1, 0⟩

/-- A point in projective coordinates. -/
def Point.toProjective (point : Point) : Projective :=
  ⟨point.x, point.y, 1⟩

/-- Twice a point. -/
def double (s : Projective) : Projective :=
  let p := curve.prime
  let yy := s.y * s.y % p
  let zz := s.z * s.z % p
  let r := 4 * s.x * yy % p
  let m := (3 * s.x * s.x + curve.a * (zz * zz % p)) % p
  let x := Modular.sub p (m * m) (2 * r)
  ⟨x, Modular.sub p (m * Modular.sub p r x) (8 * yy * yy), 2 * s.y * s.z % p⟩

/-- The sum of two points. -/
def add (s t : Projective) : Projective :=
  let p := curve.prime
  if s.z = 0 then t
  else if t.z = 0 then s
  else
    let ss := s.z * s.z % p
    let tt := t.z * t.z % p
    let u := s.x * tt % p
    let v := s.y * tt % p * t.z % p
    let h := Modular.sub p (t.x * ss) u
    let r := Modular.sub p (t.y * ss % p * s.z) v
    if h = 0 then if r = 0 then curve.double s else infinity
    else
      let hh := h * h % p
      let hhh := h * hh % p
      let w := u * hh % p
      let x := Modular.sub p (r * r) (hhh + 2 * w)
      ⟨x, Modular.sub p (r * Modular.sub p w x) (v * hhh), s.z * t.z % p * h % p⟩

/-- `k` times a point, one doubling for each binary digit of `k`. -/
def multiply (k : Nat) (s : Projective) : Projective :=
  if _h : k = 0 then infinity
  else
    let half := multiply (k / 2) s
    let twice := curve.double half
    if k % 2 = 1 then curve.add twice s else twice
termination_by k

/-- The first coordinate of a point that is not at infinity. -/
def firstCoordinate? (s : Projective) : Option Nat :=
  match Modular.inverse? curve.prime s.z with
  | none => none
  | some i => some (s.x * (i * i % curve.prime) % curve.prime)

end Weierstrass
end CertChain
