import RoleRules.Decimal.Dyadic
/-!
# Decimal text with a bounded number of significant digits

`significant n x` writes a double the way a text column keeps it: with at most `n`
significant digits, trailing zeros dropped but at least one digit after the point,
positionally for decimal exponents from `-4` up to `n - 1`, else as one digit, a point, the
other digits and a signed exponent of at least two digits (`1.0e+15`, `1.5e-07`). The
infinities are `Inf` and `-Inf`, and a zero has no sign.

The digits come from arithmetic in the extended format (`Dyadic` with 64 bits), step by
step: the magnitude is divided by a power of ten built up by repeated multiplication until
it lies in `[1, 10)`, half a unit of the last digit (a double) is added, and the digits are
read off one at a time, each time multiplying what is left by ten. Every step rounds, so
the result is not always the decimal nearest to the double: an exact half, as in
`632267864258892.5`, usually ends up just below the half and is cut off
(`632267864258892.0`).
-/
namespace RoleRules.Decimal

/-- The extended format's significant bits. -/
def extendedBits : Nat := 64

/-- The double's significant bits. -/
def doubleBits : Nat := 53

/-- Half a unit of the `p`-th digit after the point, as the double `5 * 10^-(p % 10 + 1)`
multiplied `p / 10` times by the double `1e-10`. -/
def halfUnit (p : Nat) : Dyadic :=
  (List.replicate (p / 10) ()).foldl
    (fun r _ => r.mul doubleBits (Dyadic.ofDecimal doubleBits 1 (-10)))
    (Dyadic.ofDecimal doubleBits 5 (-((p % 10 : Nat) : Int) - 1))

/-- Multiply `scale` by `step` (worth `k` decimal places) while `real` is at least
`step * scale` and the exponent has not passed `350`. -/
def growScale (real step : Dyadic) (k : Int) : Nat → Dyadic × Int → Dyadic × Int
  | 0, acc => acc
  | fuel + 1, (scale, exp) =>
    let next := step.mul extendedBits scale
    if exp ≤ 350 ∧ !real.lt next then growScale real step k fuel (next, exp + k)
    else (scale, exp)

/-- Multiply `real` by `step` (worth `k` decimal places) while it is below `bound`. -/
def raise (bound step : Dyadic) (k : Int) : Nat → Dyadic × Int → Dyadic × Int
  | 0, acc => acc
  | fuel + 1, (real, exp) =>
    if real.lt bound then raise bound step k fuel (real.mul extendedBits step, exp - k)
    else (real, exp)

/-- A positive magnitude brought into `[1, 10)`, with its decimal exponent. -/
def normalize (real : Dyadic) : Dyadic × Int :=
  let ten (k : Nat) := Dyadic.ofDecimal doubleBits 1 k
  let one : Dyadic := ⟨1, 0⟩
  let s := growScale real (ten 100) 100 400 (one, 0)
  let s := growScale real (ten 10) 10 400 s
  let (scale, exp) := growScale real (ten 1) 1 400 s
  let r := raise (Dyadic.ofDecimal doubleBits 1 (-8)) (ten 8) 8 64 (real.div extendedBits scale, exp)
  raise one (ten 1) 1 16 r

/-- Read `n` digits off a value in `[0, 10)`: each is the whole part, and what is left is
multiplied by ten. -/
def readDigits (ten : Dyadic) : Nat → Dyadic → List Char
  | 0, _ => []
  | n + 1, real =>
    let d := real.floor
    Char.ofNat (48 + d) :: readDigits ten n ((real.subNat extendedBits d).mul extendedBits ten)

/-- Trailing zeros dropped; a point left last gets a `0` back. -/
def trimZeros (cs : List Char) : List Char :=
  match (cs.reverse.dropWhile (· = '0')).reverse with
  | [] => ['0']
  | kept => if kept.getLast? = some '.' then kept ++ ['0'] else kept

/-- The text of a double with at most `n` significant digits (see the module note),
`0 < n`. -/
def significant (n : Nat) (x : Float) : String :=
  let negative := x < 0
  let sign := if negative then "-" else ""
  if x.isNaN then "NaN"
  else if x.isInf then sign ++ "Inf"
  else
    let p := n - 1
    let ten := Dyadic.ofDecimal doubleBits 1 1
    let mag := Dyadic.ofFloat x
    let (real, exp) := if mag.m = 0 then (mag, (0 : Int)) else normalize mag
    let real := real.add extendedBits (halfUnit p)
    let (real, exp) := if real.lt ten then (real, exp)
      else (real.mul extendedBits (Dyadic.ofDecimal doubleBits 1 (-1)), exp + 1)
    let scientific := decide (exp < -4 ∨ (p : Int) < exp)
    if scientific then
      let ds := readDigits ten (p + 1) real
      let body := trimZeros (ds.take 1 ++ '.' :: ds.drop 1)
      let expDigits := Nat.toDigits 10 exp.natAbs
      sign ++ String.ofList body ++ "e" ++ (if exp < 0 then "-" else "+") ++
        String.ofList (List.replicate (2 - expDigits.length) '0' ++ expDigits)
    else if exp < 0 then
      let zeros := (-exp).toNat - 1
      let ds := readDigits ten (p + 1) real
      sign ++ String.ofList (trimZeros ('0' :: '.' :: List.replicate zeros '0' ++ ds))
    else
      let ds := readDigits ten (p + 1) real
      let whole := exp.toNat + 1
      sign ++ String.ofList (trimZeros (ds.take whole ++ '.' :: ds.drop whole))

end RoleRules.Decimal
