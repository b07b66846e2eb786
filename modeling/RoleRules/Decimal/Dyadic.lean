import RoleRules.Decimal.Shortest
/-!
# Rounded binary arithmetic

A `Dyadic` is a non-negative value `m * 2^e`. Its operations compute the exact result and
round it to a given number of significant bits, to nearest with ties to even: 53 bits give
the arithmetic of doubles, 64 bits that of the x87 extended format. Exponents are not
bounded, which is right as long as the values stay inside the format's normal range, as
they do wherever these operations are used.
-/
namespace RoleRules.Decimal

/-- A non-negative value `m * 2^e`. -/
structure Dyadic where
  m : Nat
  e : Int
deriving Inhabited

/-- The natural nearest to `n / d`, ties to even. -/
def roundHalfEven (n d : Nat) : Nat :=
  let q := n / d
  let r := n % d
  if d < 2 * r ∨ (2 * r = d ∧ q % 2 = 1) then q + 1 else q

namespace Dyadic

/-- The value `(n / d) * 2^e` rounded to `bits` significant bits (`0 < bits`). The quotient
is first scaled by `2^s` into `[2^(bits-1), 2^bits)`: an estimate of `s` from the binary
lengths is off by at most one, which one comparison corrects. -/
def round (bits : Nat) (n d : Nat) (e : Int) : Dyadic :=
  if n = 0 ∨ d = 0 then ⟨0, 0⟩
  else
    let scaled (s : Int) : Nat × Nat :=
      (n * Nat.pow 2 s.toNat, d * Nat.pow 2 (-s).toNat)
    let s0 : Int := (bits : Int) - 1 + (Nat.log2 d : Int) - (Nat.log2 n : Int)
    let s := if (scaled s0).1 < Nat.pow 2 (bits - 1) * (scaled s0).2 then s0 + 1 else s0
    let q := roundHalfEven (scaled s).1 (scaled s).2
    if q = Nat.pow 2 bits then ⟨Nat.pow 2 (bits - 1), e - s + 1⟩ else ⟨q, e - s⟩

/-- The decimal `n * 10^k` rounded to `bits` significant bits. -/
def ofDecimal (bits n : Nat) (k : Int) : Dyadic :=
  round bits (n * Nat.pow 10 k.toNat) (Nat.pow 10 (-k).toNat) 0

/-- The magnitude of a finite double, exactly. -/
def ofFloat (x : Float) : Dyadic :=
  let b := Binary.ofBits x.toBits
  ⟨b.m, b.q⟩

/-- The two values over a common exponent: `(a', b', k)` with `a = a' * 2^k` and
`b = b' * 2^k`. -/
def align (a b : Dyadic) : Nat × Nat × Int :=
  let k := min a.e b.e
  (a.m * Nat.pow 2 (a.e - k).toNat, b.m * Nat.pow 2 (b.e - k).toNat, k)

/-- The product, rounded. -/
def mul (bits : Nat) (a b : Dyadic) : Dyadic := round bits (a.m * b.m) 1 (a.e + b.e)

/-- The quotient, rounded; a zero divisor gives zero. -/
def div (bits : Nat) (a b : Dyadic) : Dyadic := round bits a.m b.m (a.e - b.e)

/-- The sum, rounded. -/
def add (bits : Nat) (a b : Dyadic) : Dyadic :=
  let (x, y, k) := align a b
  round bits (x + y) 1 k

/-- The difference `a - n` for a natural `n` not above `a`, rounded. -/
def subNat (bits : Nat) (a : Dyadic) (n : Nat) : Dyadic :=
  let (x, y, k) := align a ⟨n, 0⟩
  round bits (x - y) 1 k

/-- `a` lies below `b`. -/
def lt (a b : Dyadic) : Bool :=
  let (x, y, _) := align a b
  x < y

/-- The whole part. -/
def floor (a : Dyadic) : Nat := a.m * Nat.pow 2 a.e.toNat / Nat.pow 2 (-a.e).toNat

end Dyadic

example : (Dyadic.ofDecimal 53 1 (-1)).m = 7205759403792794 := by decide
example : (Dyadic.round 64 1 3 0).m = 12297829382473034411 := by decide

end RoleRules.Decimal
