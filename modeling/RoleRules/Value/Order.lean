import RoleRules.Value.Equality
import RoleRules.Fault
/-!
# Ordering values

Numbers are ordered by magnitude (truth values as `0` and `1`, an integer against a double
exactly), and texts by their code points. Any other pair has no order, and comparing it is
refused with the kinds of both sides (`Fault.unordered`).

`Value.sortAll` sorts a list with these comparisons, so that the comparison it makes
first with a pair of no order decides the fault: it takes the leading run of the list
(ascending, or strictly descending and then reversed) and inserts every later item by
binary search into what is sorted so far.
-/
namespace RoleRules.Value

/-- The order of an integer and a finite double, exactly. -/
def compareIntFloat (n : Int) (x : Float) : Ordering :=
  let bits := x.toBits
  let b := Decimal.Binary.ofBits bits
  let mag : Int := if bits >>> 63 == 1 then -(b.m : Int) else b.m
  if b.q < 0 then compare (n * Nat.pow 2 (-b.q).toNat) mag
  else compare n (mag * Nat.pow 2 b.q.toNat)

/-- The first number is below the second; a NaN is below nothing and nothing is below it. -/
def Number.lt : Number → Number → Bool
  | .exact a, .exact b => decide (a < b)
  | .binary x, .binary y => x < y
  | .exact a, .binary x =>
    if x.isNaN then false else if x.isInf then x > 0 else compareIntFloat a x == .lt
  | .binary x, .exact a =>
    if x.isNaN then false else if x.isInf then x < 0 else compareIntFloat a x == .gt

/-- Whether `a` is below `b`, if the two can be ordered. -/
def lessThan (a b : Value) : Except Fault Bool :=
  match a, b with
  | str s, str t => .ok (decide (s < t))
  | _, _ =>
    match a.number?, b.number? with
    | some x, some y => .ok (x.lt y)
    | _, _ => .error (.unordered a.kindName b.kindName)

/-- How many items of `ys` continue a run after `prev`: ascending runs go on while an item
is not below the one before it, descending ones while it is. -/
def runLength (descending : Bool) : List Value → Value → Except Fault Nat
  | [], _ => .ok 0
  | y :: ys, prev => do
    let below ← lessThan y prev
    if below == descending then pure ((← runLength descending ys y) + 1) else pure 0

/-- The leading run of a list in ascending order, and the items after it. -/
def leadingRun : List Value → Except Fault (List Value × List Value)
  | x :: y :: rest => do
    let descending ← lessThan y x
    let k ← runLength descending rest y
    let run := (x :: y :: rest).take (k + 2)
    pure (if descending then run.reverse else run, rest.drop k)
  | xs => .ok (xs, [])

/-- Where `pivot` goes among `sorted[l:r]`: after every item it is not below. -/
def insertionPoint (pivot : Value) (sorted : Array Value) (l r : Nat) : Except Fault Nat :=
  if h : l < r then do
    let p := l + (r - l) / 2
    if ← lessThan pivot (sorted[p]?.getD null) then insertionPoint pivot sorted l p
    else insertionPoint pivot sorted (p + 1) r
  else .ok l
termination_by r - l
decreasing_by all_goals omega

/-- The items in ascending order, or the fault of the first pair without an order that the
sort compares. -/
def sortAll (xs : List Value) : Except Fault (List Value) := do
  let (run, rest) ← leadingRun xs
  rest.foldlM (fun sorted x => do
    let i ← insertionPoint x sorted.toArray 0 sorted.length
    pure (sorted.take i ++ x :: sorted.drop i)) run

example : (sortAll [int 3, float 1.5, bool true]).toOption.map (·.map display) =
    some [Text.ofString "True", Text.ofString "1.5", Text.ofString "3"] := by decide +kernel
example : (sortAll [int 10, str (Text.ofString "9")]).toOption.isNone = true := by decide +kernel

end RoleRules.Value
