/-!
# Modular arithmetic

Keys and signatures are checked by computing with remainders. `Modular.pow` raises to a
power, `Modular.inverse?` divides, `Modular.sqrt?` extracts square roots modulo a
prime. Exponents have hundreds of binary digits, so powers go digit by digit.
-/

namespace CertChain
namespace Modular

/-- The difference of two remainders. -/
def sub (m a b : Nat) : Nat :=
  (a + (m - b % m)) % m

/-- **Powers**: `b ^ e` modulo `m`, one squaring for each binary digit of `e`. -/
def pow (m b e : Nat) : Nat :=
  if _h : e = 0 then 1 % m
  else
    let half := pow m (b * b % m) (e / 2)
    if e % 2 = 1 then half * b % m else half
termination_by e

/-- Euclid's algorithm on `r₀` and `r₁`. Beside each remainder stands a factor whose
product with one fixed number differs from the remainder by a multiple of the modulus.
The answer is the greatest common divisor with its factor. -/
def euclid (r₀ r₁ : Nat) (s₀ s₁ : Int) : Nat × Int :=
  if _h : r₁ = 0 then (r₀, s₀)
  else euclid r₁ (r₀ % r₁) s₁ (s₀ - (r₀ / r₁ : Nat) * s₁)
termination_by r₁
decreasing_by exact Nat.mod_lt _ (Nat.pos_of_ne_zero _h)

/-- **Inverses**: the number whose product with `a` is one modulo `m`, if there is
one. -/
def inverse? (m a : Nat) : Option Nat :=
  let (divisor, factor) := euclid m (a % m) 0 1
  if divisor = 1 then some (factor % m).toNat else none

/-- The exponent of two in `n`, and the odd part. -/
def splitTwos (n : Nat) : Nat × Nat :=
  if _h : n = 0 ∨ n % 2 = 1 then (0, n)
  else
    let (twos, odd) := splitTwos (n / 2)
    (twos + 1, odd)
termination_by n
decreasing_by
  have : n ≠ 0 := fun h => _h (.inl h)
  omega

/-- Corrects a square root. On entry `root ^ 2` is the wanted square times `excess`,
and the order of `excess` divides `2 ^ left`; `unit` has the order `2 ^ (left + 1)`.
Multiplying the root by `unit` halves the order when that is needed. -/
def correct (p : Nat) : Nat → Nat → Nat → Nat → Nat
  | 0, _, _, root => root
  | left + 1, unit, excess, root =>
    let square := unit * unit % p
    if pow p excess (2 ^ left) = 1 then correct p left square excess root
    else correct p left square (excess * square % p) (root * unit % p)

/-- **Square roots** modulo an odd prime `p`: one of the two, if there is one. -/
def sqrt? (p a : Nat) : Option Nat :=
  let (twos, odd) := splitTwos (p - 1)
  let nonResidue := (List.range 64).find? fun z => pow p z ((p - 1) / 2) == p - 1
  let unit := pow p (nonResidue.getD 1) odd
  let root := correct p (twos - 1) unit (pow p a odd) (pow p a ((odd + 1) / 2))
  if root * root % p = a % p then some root else none

end Modular
end CertChain
