import RoleRules.Value.Equality
/-!
# Hashes

Rules are looked up by hash, and `Rule.sameHash` compares the hashes of two rules. A hash
is a word of 64 bits, read as a signed number where that matters:

* a number hashes to its value modulo the prime `2^61 - 1`, keeping its sign, with `-1`
  replaced by `-2`: for a double `±M * 2^E` that is `±(M * 2^E mod (2^61 - 1))`, where a
  negative power of two is read as its inverse modulo the prime (`2^61 = 1` there), and the
  infinities hash to `±314159`. So numbers that are equal share a hash, and so do some
  that are not: `-1` and `-2`, `0.5` and `2^60`;
* a text hashes by SipHash-1-3 under the zero key, over its code points stored in the
  narrowest of one, two or four bytes each, least significant byte first; the empty text
  hashes to `0`, and `-1` becomes `-2` here too;
* a tuple mixes the hashes of its items in order, xxHash-style, then its length;
* a mapping hashes as the set of its key and value pairs: the shuffled hashes of the pairs
  are combined by exclusive or, so their order does not matter, and then mixed with their
  number.

Nothing and the NaN hash by their identity, which is fixed for a run but not known in
advance; `noneHash` and `nanHash` stand for those identities.
-/
namespace RoleRules

/-- The prime of the residues, `2^61 - 1`. -/
def hashModulus : Nat := Nat.pow 2 61 - 1

/-- A word of 64 bits from a signed number, by two's complement. -/
def word (v : Int) : UInt64 := UInt64.ofNat (v % (Nat.pow 2 64 : Int)).toNat

/-- The word with every bit set: `-1`. -/
def allOnes : UInt64 := 18446744073709551615

/-- The hash that stands for the identity of nothing. -/
def noneHash : UInt64 := 8783771404879

/-- The hash that stands for the identity of the NaN read from JSON. -/
def nanHash : UInt64 := 8754017143311

/-- Rotate a word left by `b` bits, `0 < b < 64`. -/
def rotl (x b : UInt64) : UInt64 := (x <<< b) ||| (x >>> (64 - b))

/-! ## Texts -/

/-- The four words of SipHash. -/
structure SipState where
  v0 : UInt64
  v1 : UInt64
  v2 : UInt64
  v3 : UInt64

namespace SipState

/-- The state under the zero key. -/
def initial : SipState :=
  ⟨0x736f6d6570736575, 0x646f72616e646f6d, 0x6c7967656e657261, 0x7465646279746573⟩

/-- One SipHash round. -/
def round (s : SipState) : SipState :=
  let v0 := s.v0 + s.v1
  let v2 := s.v2 + s.v3
  let v1 := rotl s.v1 13 ^^^ v0
  let v3 := rotl s.v3 16 ^^^ v2
  let v0 := rotl v0 32
  let v2 := v2 + v1
  let v0 := v0 + v3
  let v1 := rotl v1 17 ^^^ v2
  let v3 := rotl v3 21 ^^^ v0
  ⟨v0, v1, rotl v2 32, v3⟩

/-- Take in one word of the message, with one round. -/
def absorb (s : SipState) (m : UInt64) : SipState :=
  let t := { s with v3 := s.v3 ^^^ m }.round
  { t with v0 := t.v0 ^^^ m }

/-- The digest: three more rounds after marking the end, then all words combined. -/
def finish (s : SipState) : UInt64 :=
  let s := { s with v2 := s.v2 ^^^ 0xff }.round.round.round
  s.v0 ^^^ s.v1 ^^^ s.v2 ^^^ s.v3

end SipState

/-- Bytes read as a word, the first byte least significant. -/
def littleEndian (bs : List Nat) : UInt64 :=
  bs.foldr (fun b acc => (acc <<< 8) ||| UInt64.ofNat (b % 256)) 0

/-- Take in every whole word of the message, leaving the last bytes. -/
def absorbWords : SipState → List Nat → SipState × List Nat
  | s, b0 :: b1 :: b2 :: b3 :: b4 :: b5 :: b6 :: b7 :: rest =>
    absorbWords (s.absorb (littleEndian [b0, b1, b2, b3, b4, b5, b6, b7])) rest
  | s, rest => (s, rest)

/-- SipHash-1-3 under the zero key: the last word holds the remaining bytes and the
message's length in its top byte. -/
def sipHash13 (bs : List Nat) : UInt64 :=
  let (s, rest) := absorbWords SipState.initial bs
  let last := (UInt64.ofNat bs.length <<< 56) ||| littleEndian rest
  (s.absorb last).finish

/-- How many bytes each code point of a text is stored in: one, two or four, the fewest
that hold them all. -/
def Text.storageWidth (t : Text) : Nat :=
  let top := t.points.foldl max 0
  if top < 256 then 1 else if top < 65536 then 2 else 4

/-- The bytes of a text as stored, least significant first within each code point. -/
def Text.storageBytes (t : Text) : List Nat :=
  let w := t.storageWidth
  t.points.flatMap fun p => (List.range w).map fun i => p / Nat.pow 256 i % 256

/-- The hash of a text. -/
def Text.hash (t : Text) : UInt64 :=
  if t.points.isEmpty then 0
  else
    let h := sipHash13 t.storageBytes
    if h == allOnes then word (-2) else h

/-! ## Numbers, tuples and sets -/

/-- A residue with its sign; `-1` becomes `-2`. -/
def signedResidue (negative : Bool) (r : Nat) : Int :=
  let v : Int := if negative then -(r : Int) else r
  if v = -1 then -2 else v

/-- The hash of a number as a signed number; `none` for a NaN, whose hash is its
identity. -/
def Value.Number.residue : Value.Number → Option Int
  | .exact n => some (signedResidue (n < 0) (n.natAbs % hashModulus))
  | .binary x =>
    if x.isNaN then none
    else
      let negative := x.toBits >>> 63 == 1
      if x.isInf then some (if negative then -314159 else 314159)
      else
        let b := Decimal.Binary.ofBits x.toBits
        let shift := (b.q % 61).toNat
        some (signedResidue negative (b.m % hashModulus * Nat.pow 2 shift % hashModulus))

/-- The hash of a number. -/
def Value.Number.hash (x : Value.Number) : UInt64 :=
  match x.residue with
  | some r => word r
  | none => nanHash

/-- The first prime of the tuple mix. -/
def xxPrime1 : UInt64 := 11400714785074694791

/-- The second prime of the tuple mix. -/
def xxPrime2 : UInt64 := 14029467366897019727

/-- The fifth prime of the tuple mix, its starting value. -/
def xxPrime5 : UInt64 := 2870177450012600261

/-- The hash of a tuple from the hashes of its items. -/
def tupleHash (hs : List UInt64) : UInt64 :=
  let acc := hs.foldl (fun acc h => rotl (acc + h * xxPrime2) 31 * xxPrime1) xxPrime5
  let acc := acc + (UInt64.ofNat hs.length ^^^ (xxPrime5 ^^^ 3527539))
  if acc == allOnes then 1546275796 else acc

/-- The bits of one element's hash spread out before they are combined. -/
def shuffleBits (h : UInt64) : UInt64 := ((h ^^^ (89869747 : UInt64)) ^^^ (h <<< (16 : UInt64))) * 3644798167

/-- The hash of a set from the hashes of its elements, in any order. -/
def setHash (hs : List UInt64) : UInt64 :=
  let h := hs.foldl (fun acc x => acc ^^^ shuffleBits x) 0
  let h := h ^^^ UInt64.ofNat (hs.length + 1) * 1927868237
  let h := h ^^^ ((h >>> 11) ^^^ (h >>> 25))
  let h := h * 69069 + 907133923
  if h == allOnes then 590923713 else h

/-! ## Values -/

namespace Value

mutual
/-- The hash of a value (see the module note). Lists hash as the tuples they freeze to,
and objects, which have no hash, as nothing. -/
def hash : Value → UInt64
  | null => noneHash
  | bool b => if b then 1 else 0
  | int n => (Number.exact n).hash
  | float x => (Number.binary x).hash
  | str s => s.hash
  | list xs => tupleHash (hashItems xs)
  | tuple xs => tupleHash (hashItems xs)
  | dict es => setHash (hashEntries es)
  | object _ => noneHash

/-- The hashes of items, in order. -/
def hashItems : List Value → List UInt64
  | [] => []
  | x :: xs => hash x :: hashItems xs

/-- The hashes of the key and value pairs of a mapping. -/
def hashEntries : List (Text × Value) → List UInt64
  | [] => []
  | (k, x) :: rest => tupleHash [k.hash, hash x] :: hashEntries rest
end

end Value

example : (Text.ofString "").hash = 0 := rfl
example : Value.hash (.int (-1)) = Value.hash (.int (-2)) := by decide
example : Value.hash (.float 0.5) = Value.hash (.int 1152921504606846976) := by decide +kernel

end RoleRules
