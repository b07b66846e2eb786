import RoleRules.Value.Basic
import RoleRules.Decimal.Shortest
/-!
# Equality of loose values

Conditions compare an instance's value with the value a rule asks for. Two values are
equal as data when

* both are numbers of the same magnitude: truth values count as `0` and `1`, and an
  integer equals a double only when the double is finite and exactly that integer
  (`10^30` is not `1e30`, but `1000000000000000019884624838656` is);
* both are texts, both are nothing, or both are lists (both tuples) with equal items in
  the same places; a list never equals a tuple;
* both are mappings (both objects) with the same keys and equal values under each key,
  in whatever order.

`Value.eqv` is that equality and `Value.memberOf` the membership it gives. Two values
compared directly, not as items of something, follow the arithmetic of doubles instead:
there a NaN differs even from itself (`Value.eqDirect`).
-/
namespace RoleRules.Value

/-- A number as conditions compare it: an exact integer or a double. -/
inductive Number where
  | exact (n : Int)
  | binary (x : Float)

/-- The number a value stands for, if it is one. -/
def number? : Value → Option Number
  | bool b => some (.exact (if b then 1 else 0))
  | int n => some (.exact n)
  | float x => some (.binary x)
  | _ => none

/-- An integer equals a double when the double is finite and exactly that integer. -/
def intEqFloat (n : Int) (x : Float) : Bool :=
  if x.isNaN || x.isInf then false
  else
    let bits := x.toBits
    let b := Decimal.Binary.ofBits bits
    let whole : Nat :=
      if b.q < 0 then
        if b.m % Nat.pow 2 (-b.q).toNat == 0 then b.m / Nat.pow 2 (-b.q).toNat else 0
      else b.m * Nat.pow 2 b.q.toNat
    let integral := !(b.q < 0) || b.m % Nat.pow 2 (-b.q).toNat == 0
    integral && n == (if bits >>> 63 == 1 then -(whole : Int) else whole)

/-- Numbers of the same magnitude. -/
def Number.eq : Number → Number → Bool
  | .exact a, .exact b => a == b
  | .exact a, .binary x => intEqFloat a x
  | .binary x, .exact a => intEqFloat a x
  | .binary x, .binary y => x == y || (x.isNaN && y.isNaN)

mutual
/-- Equality as data (see the module note). -/
def eqv : Value → Value → Bool
  | null, null => true
  | str a, str b => a == b
  | list xs, list ys => eqvItems xs ys
  | tuple xs, tuple ys => eqvItems xs ys
  | dict es, dict fs => es.length == fs.length && eqvEntries es fs
  | object es, object fs => es.length == fs.length && eqvEntries es fs
  | a, b => match a.number?, b.number? with
    | some x, some y => x.eq y
    | _, _ => false

/-- Equal items in the same places. -/
def eqvItems : List Value → List Value → Bool
  | [], [] => true
  | x :: xs, y :: ys => eqv x y && eqvItems xs ys
  | _, _ => false

/-- Every entry of the first list has an equal value under its key in the second. -/
def eqvEntries : List (Text × Value) → List (Text × Value) → Bool
  | [], _ => true
  | (k, x) :: rest, fs =>
    (match lookup k fs with
      | some y => eqv x y
      | none => false) && eqvEntries rest fs
end

/-- Membership by equality as data. -/
def memberOf (x : Value) (xs : List Value) : Bool :=
  xs.any fun y => eqv y x

/-- Two values compared directly: two doubles by the arithmetic of doubles, so that a NaN
differs from itself; anything else as data. -/
def eqDirect : Value → Value → Bool
  | float x, float y => x == y
  | a, b => eqv a b

example : eqv (int 1) (bool true) = true := by decide +kernel
example : eqv (list [int 1]) (tuple [int 1]) = false := by decide +kernel
example : eqv (list [float (0 / 0)]) (list [float (0 / 0)]) = true := by decide +kernel
example : eqDirect (float (0 / 0)) (float (0 / 0)) = false := by decide +kernel

end RoleRules.Value
