/-!
# Shortest decimal text of a binary64 value

A finite double stands for the interval of reals that round to it. Its text is the decimal
with the fewest significant digits inside that interval; of two such decimals the nearer
to the value is taken, and an exact tie goes to the even one.

`Binary.shortest` searches the decimal grids 10^(k-1), 10^(k-2), … below the value's
scale 10^k: on each grid only the value's two neighbours can lie in the interval, and the
first grid with a neighbour inside wins. Everything is exact arithmetic on naturals.

`Layout` holds the decisions of a printed form: where positional notation ends, how the
exponent is written, the words for the infinities and for a NaN.
-/
namespace RoleRules.Decimal

/-- A finite non-negative binary64 magnitude, `m * 2^q`. -/
structure Binary where
  m : Nat
  q : Int
  /-- the gap to the value below is half the gap to the value above -/
  narrowBelow : Bool

/-- The magnitude held by the bits of a finite value (the sign bit is ignored). -/
def Binary.ofBits (b : UInt64) : Binary :=
  let e := ((b >>> 52) &&& 0x7FF).toNat
  let f := (b &&& 0xFFFFFFFFFFFFF).toNat
  if e == 0 then ⟨f, -1074, false⟩ else ⟨Nat.pow 2 52 + f, (e : Int) - 1075, f == 0 && e > 1⟩

/-- `digits * 10^exp` -/
structure Dec where
  digits : Nat
  exp : Int
deriving DecidableEq

/-- Compare `a * 10^i` with `n * 2^j`, exactly. -/
def cmpScaled (a : Nat) (i : Int) (n : Nat) (j : Int) : Ordering :=
  compare (a * Nat.pow 10 i.toNat * Nat.pow 2 (-j).toNat) (n * Nat.pow 2 j.toNat * Nat.pow 10 (-i).toNat)

/-- `d` lies among the reals that round to `x` (to nearest, ties to even). -/
def Binary.readsBack (x : Binary) (d : Dec) : Bool :=
  let lo := if x.narrowBelow then 4 * x.m - 1 else 4 * x.m - 2
  let hi := 4 * x.m + 2
  let incl := x.m % 2 == 0
  let cl := cmpScaled d.digits d.exp lo (x.q - 2)
  let ch := cmpScaled d.digits d.exp hi (x.q - 2)
  (cl == .gt || (incl && cl == .eq)) && (ch == .lt || (incl && ch == .eq))

/-- The value lies below `10^k`. -/
def Binary.below (x : Binary) (k : Int) : Bool :=
  x.m * Nat.pow 2 x.q.toNat * Nat.pow 10 (-k).toNat < Nat.pow 10 k.toNat * Nat.pow 2 (-x.q).toNat

/-- `⌊x / 10^g⌋` -/
def Binary.floorAt (x : Binary) (g : Int) : Nat :=
  (x.m * Nat.pow 2 x.q.toNat * Nat.pow 10 (-g).toNat) / (Nat.pow 2 (-x.q).toNat * Nat.pow 10 g.toNat)

/-- The least `k` with `x < 10^k`, for a positive `x`: an estimate from the binary
length, corrected by exact comparisons. -/
def Binary.scale (x : Binary) : Int :=
  let b : Int := (Nat.log2 x.m : Int) + x.q
  let est : Int := (b + 1) * 30103 / 100000
  let up := (List.range 4).foldl (fun k _ => if x.below k then k else k + 1) est
  (List.range 4).foldl (fun k _ => if x.below (k - 1) then k - 1 else k) up

/-- The decimal on the grid `10^g` that stands for `x`, if one of its two neighbours there
reads back: of two, the nearer, and on a tie the even one. -/
def Binary.onGrid (x : Binary) (g : Int) : Option Dec :=
  let lo := x.floorAt g
  let a : Dec := ⟨lo, g⟩
  let b : Dec := ⟨lo + 1, g⟩
  match x.readsBack a, x.readsBack b with
  | true, true =>
    match cmpScaled (2 * lo + 1) g (2 * x.m) x.q with
    | .gt => some a
    | .lt => some b
    | .eq => if lo % 2 == 0 then some a else some b
  | true, false => some a
  | false, true => some b
  | false, false => none

/-- Trailing zeros of the digits move into the exponent. -/
def Dec.trim (d : Dec) : Dec :=
  if h : d.digits ≠ 0 ∧ d.digits % 10 = 0 then Dec.trim ⟨d.digits / 10, d.exp + 1⟩ else d
termination_by d.digits
decreasing_by exact Nat.div_lt_self (Nat.pos_of_ne_zero h.1) (by decide)

/-- The exact decimal value of `x`. -/
def Binary.exact (x : Binary) : Dec :=
  if x.q < 0 then ⟨x.m * Nat.pow 5 (-x.q).toNat, x.q⟩ else ⟨x.m * Nat.pow 2 x.q.toNat, 0⟩

/-- The shortest decimal that reads back as `x`, for a positive `x`. -/
def Binary.shortest (x : Binary) : Dec :=
  let k := x.scale
  match (List.range 17).findSome? (fun i => x.onGrid (k - ((i + 1 : Nat) : Int))) with
  | some d => d.trim
  | none => x.exact.trim

/-- The decisions of a printed form of doubles. -/
structure Layout where
  /-- the least decimal exponent written positionally -/
  lowestPositional : Int
  /-- the least decimal exponent written with an exponent again -/
  firstScientific : Int
  /-- the least number of exponent digits -/
  exponentWidth : Nat
  /-- the word for an infinity, after its sign -/
  infinity : String
  /-- the word for a NaN -/
  notANumber : String

/-- Digits `ds` with the leading digit at decimal exponent `e`, written positionally; an
integral value keeps a `.0`. -/
def positional (ds : List Char) (e : Int) : String :=
  if e < 0 then
    "0." ++ String.ofList (List.replicate ((-e).toNat - 1) '0' ++ ds)
  else
    let whole := e.toNat + 1
    if ds.length ≤ whole then String.ofList (ds ++ List.replicate (whole - ds.length) '0') ++ ".0"
    else String.ofList (ds.take whole) ++ "." ++ String.ofList (ds.drop whole)

/-- Digits `ds` with the leading digit at decimal exponent `e`, written as one digit, the
rest after a point, and a signed exponent of at least `width` digits. -/
def scientific (width : Nat) (ds : List Char) (e : Int) : String :=
  let mant := match ds with
    | [] => "0"
    | [d] => String.singleton d
    | d :: rest => String.singleton d ++ "." ++ String.ofList rest
  let expDigits := Nat.toDigits 10 e.natAbs
  mant ++ "e" ++ (if e < 0 then "-" else "+") ++
    String.ofList (List.replicate (width - expDigits.length) '0' ++ expDigits)

/-- The text of a double in the layout `L`. -/
def Layout.render (L : Layout) (x : Float) : String :=
  if x.isNaN then L.notANumber
  else
    let bits := x.toBits
    let sign := if bits >>> 63 == 1 then "-" else ""
    if x.isInf then sign ++ L.infinity
    else
      let b := Binary.ofBits bits
      if b.m == 0 then sign ++ "0.0"
      else
        let d := b.shortest
        let ds := Nat.toDigits 10 d.digits
        let e := d.exp + (ds.length : Int) - 1
        if L.lowestPositional ≤ e ∧ e < L.firstScientific then sign ++ positional ds e
        else sign ++ scientific L.exponentWidth ds e

end RoleRules.Decimal
